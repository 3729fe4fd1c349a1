import Mathlib.Algebra.BigOperators.Group.List.Basic
import Mathlib.Algebra.Order.Ring.Nat
import Mathlib.Data.List.Forall2
import UnifiMcp.Api.Collection
/-! # When activity counters add up (unifi-api/src/collection/totals.rs)

`activity_totals` checks and adds in one pass and stops at the first fault. What it accepts is a
property of the report alone, and what it returns are the plain sums.

* `validMac_iff` — the address check, without its loop.
* `activityTotals_exact` — **a report is accepted exactly when it is sound, the totals are the sums,
  and no order of rows or counters matters.** -/
namespace UnifiMcp
open Text

/-! ## Addresses -/

/-- Six two-digit hexadecimal octets with colons between them, an even first octet, not all zero. -/
def UnicastMac (value : Text) : Prop :=
  ∃ octets : List Text, value = [':'].intercalate octets ∧ octets.length = 6 ∧
    (∀ octet ∈ octets, octet.length = 2 ∧ ∀ c ∈ octet, isHexDigit c = true) ∧
    (∀ first ∈ octets.head?, hexOctet first % 2 = 0) ∧ ∃ octet ∈ octets, hexOctet octet ≠ 0

theorem macOctet_iff {octet : Text} {byte : Nat} : macOctet octet = some byte ↔
    (octet.length = 2 ∧ ∀ c ∈ octet, isHexDigit c = true) ∧ byte = hexOctet octet := by
  unfold macOctet
  by_cases hall : ∀ c ∈ octet, isHexDigit c = true
  · have hlength : byteLen octet = octet.length := byteLen_ascii fun c hc => utf8Size_of_isHexDigit (hall c hc)
    have hdigits : ¬(!octet.all isHexDigit) = true := by simpa using hall
    by_cases htwo : octet.length = 2
    · rw [if_neg (not_or.2 ⟨not_not.2 (hlength.trans htwo), hdigits⟩)]
      exact ⟨fun h => ⟨⟨htwo, hall⟩, (Option.some.inj h).symm⟩, fun h => by rw [h.2]⟩
    · rw [if_pos (Or.inl (hlength ▸ htwo))]
      simp [htwo]
  · rw [if_pos (Or.inr (by simpa using hall))]
    exact ⟨fun h => (by cases h), fun h => absurd h.1.2 hall⟩

theorem macOctets_iff {n : Nat} {octets : List Text} {bytes : List Nat} : macOctets n octets = some bytes ↔
    octets.length = n ∧ (∀ octet ∈ octets, octet.length = 2 ∧ ∀ c ∈ octet, isHexDigit c = true) ∧
      bytes = octets.map hexOctet := by
  induction n generalizing octets bytes with
  | zero =>
    cases octets with
    | nil => exact ⟨fun h => ⟨rfl, fun _ hm => (by cases hm), (Option.some.inj h).symm⟩, fun h => by rw [h.2.2]; rfl⟩
    | cons octet octets => simp [macOctets]
  | succ n ih =>
    cases octets with
    | nil => simp [macOctets]
    | cons octet octets =>
      rw [macOctets]
      constructor
      · intro h
        obtain ⟨byte, hbyte, h⟩ := Option.bind_eq_some_iff.1 h
        obtain ⟨rest, hrest, rfl⟩ := Option.map_eq_some_iff.1 h
        obtain ⟨hoctet, rfl⟩ := macOctet_iff.1 hbyte
        obtain ⟨hlength, hall, rfl⟩ := ih.1 hrest
        exact ⟨by rw [List.length_cons, hlength], List.forall_mem_cons.2 ⟨hoctet, hall⟩, rfl⟩
      · rintro ⟨hlength, hall, rfl⟩
        obtain ⟨hoctet, hall⟩ := List.forall_mem_cons.1 hall
        rw [macOctet_iff.2 ⟨hoctet, rfl⟩, Option.bind_some, ih.2 ⟨Nat.succ.inj hlength, hall, rfl⟩]
        rfl

theorem colon_not_mem_octet {octet : Text} (h : ∀ c ∈ octet, isHexDigit c = true) : ':' ∉ octet := fun hc =>
  absurd (h ':' hc) (by decide)

/-- Six octets and five colons are 17 bytes. -/
theorem byteLen_intercalate_octets {octets : List Text} (hlength : octets.length = 6)
    (h : ∀ octet ∈ octets, octet.length = 2 ∧ ∀ c ∈ octet, isHexDigit c = true) :
    byteLen ([':'].intercalate octets) = 17 := by
  have htwo (octet : Text) (hm : octet ∈ octets) : byteLen octet = 2 := by
    rw [byteLen_ascii fun c hc => utf8Size_of_isHexDigit ((h octet hm).2 c hc), (h octet hm).1]
  have hcolon : ':'.utf8Size = 1 := rfl
  match octets, hlength with
  | [a, b, c, d, e, f], _ =>
    have ha := htwo a (by simp)
    have hb := htwo b (by simp)
    have hc := htwo c (by simp)
    have hd := htwo d (by simp)
    have he := htwo e (by simp)
    have hf := htwo f (by simp)
    simp [List.intercalate, List.intersperse, ha, hb, hc, hd, he, hf, hcolon]

/-- **The address check, without its loop.** -/
theorem validMac_iff {value : Text} : validMac value = true ↔ UnicastMac value := by
  have hends (octets : List Text) :
      (((octets.map hexOctet).head?.any fun byte => byte % 2 == 0) && !((octets.map hexOctet).all (· == 0))) = true ↔
        octets ≠ [] ∧ (∀ first ∈ octets.head?, hexOctet first % 2 = 0) ∧ ∃ octet ∈ octets, hexOctet octet ≠ 0 := by
    rw [Bool.and_eq_true, Bool.not_eq_true', List.all_eq_false, List.head?_map]
    cases octets with
    | nil => simp
    | cons first octets => simp
  unfold validMac
  constructor
  · intro h
    split at h
    · cases h
    · split at h
      · cases h
      · rename_i bytes hbytes
        obtain ⟨hlength, hall, rfl⟩ := macOctets_iff.1 hbytes
        obtain ⟨-, heven, hnonzero⟩ := (hends _).1 h
        exact ⟨value.splitOn ':', (List.intercalate_splitOn ':').symm, hlength, hall, heven, hnonzero⟩
  · rintro ⟨octets, rfl, hlength, hall, heven, hnonzero⟩
    have hne : octets ≠ [] := by
      rintro rfl
      cases hlength
    have hsplit : ([':'].intercalate octets).splitOn ':' = octets :=
      List.splitOn_intercalate ':' (fun octet hm => colon_not_mem_octet (hall octet hm).2) hne
    rw [if_neg (by rw [byteLen_intercalate_octets hlength hall]; decide), hsplit, macOctets_iff.2 ⟨hlength, hall, rfl⟩]
    exact (hends octets).2 ⟨hne, heven, hnonzero⟩

/-! ## Sums -/

/-- What a counter counts. -/
def counterKey (row : ApplicationActivity) : Nat × Nat := (row.category, row.application)

/-- The exact sums of counters. -/
def exactSum (rows : List ApplicationActivity) : ByteTotals :=
  ⟨(rows.map ApplicationActivity.bytesReceived).sum, (rows.map ApplicationActivity.bytesTransmitted).sum⟩

def ByteTotals.plus (a b : ByteTotals) : ByteTotals := ⟨a.rxBytes + b.rxBytes, a.txBytes + b.txBytes⟩

theorem exactSum_cons (row : ApplicationActivity) (rows : List ApplicationActivity) :
    exactSum (row :: rows) = ByteTotals.plus ⟨row.bytesReceived, row.bytesTransmitted⟩ (exactSum rows) := rfl

theorem plus_assoc (a b c : ByteTotals) : (a.plus b).plus c = a.plus (b.plus c) := by
  simp [ByteTotals.plus, Nat.add_assoc]

/-- What keeps within a `u64` did so before a part was added. -/
theorem ByteTotals.Bounded.left {a b : ByteTotals} (h : (a.plus b).Bounded) : a.Bounded :=
  ⟨Nat.le_trans (Nat.le_add_right ..) h.1, Nat.le_trans (Nat.le_add_right ..) h.2⟩

theorem addTotals_iff {total value sum : ByteTotals} :
    addTotals total value = .ok sum ↔ (total.plus value).Bounded ∧ sum = total.plus value := by
  unfold addTotals checkedAdd
  by_cases hrx : total.rxBytes + value.rxBytes ≤ MAXIMUM_U64
  · by_cases htx : total.txBytes + value.txBytes ≤ MAXIMUM_U64
    · rw [if_pos hrx, if_pos htx]
      exact ⟨fun h => ⟨⟨hrx, htx⟩, (Except.ok.inj h).symm⟩, fun h => by rw [h.2]; rfl⟩
    · rw [if_pos hrx, if_neg htx]
      exact ⟨fun h => (by cases h), fun h => absurd h.1.2 htx⟩
  · rw [if_neg hrx]
    exact ⟨fun h => (by cases h), fun h => absurd h.1.1 hrx⟩

theorem sumFrom_iff {rows : List ApplicationActivity} : ∀ {total sum : ByteTotals} {seen : List (Nat × Nat)},
    total.Bounded → (sumFrom total seen rows = .ok sum ↔
      ((rows.map counterKey).Nodup ∧ ∀ row ∈ rows, counterKey row ∉ seen) ∧ (total.plus (exactSum rows)).Bounded ∧
        sum = total.plus (exactSum rows)) := by
  induction rows with
  | nil =>
    intro total sum seen htotal
    exact ⟨fun h => ⟨⟨List.nodup_nil, fun _ hm => (by cases hm)⟩, htotal, (Except.ok.inj h).symm⟩,
      fun h => by rw [h.2.2]; rfl⟩
  | cons row rows ih =>
    intro total sum seen htotal
    have hkey : (row.category, row.application) = counterKey row := rfl
    rw [sumFrom, hkey, List.map_cons, List.nodup_cons, List.forall_mem_cons, exactSum_cons, ← plus_assoc]
    by_cases hseen : counterKey row ∈ seen
    · rw [if_pos hseen]
      exact ⟨fun h => (by cases h), fun h => absurd hseen h.1.2.1⟩
    · rw [if_neg hseen]
      have hkeys : ((∀ other ∈ rows, counterKey other ∉ counterKey row :: seen) ∧
          (rows.map counterKey).Nodup) ↔
          (counterKey row ∉ rows.map counterKey ∧ (rows.map counterKey).Nodup) ∧ ∀ other ∈ rows, counterKey other ∉ seen := by
        simp only [List.mem_cons, not_or, List.mem_map, not_exists, not_and]
        constructor
        · rintro ⟨hall, hnodup⟩
          exact ⟨⟨fun other hm heq => (hall other hm).1 heq, hnodup⟩, fun other hm => (hall other hm).2⟩
        · rintro ⟨⟨hfirst, hnodup⟩, hall⟩
          exact ⟨fun other hm => ⟨fun heq => hfirst other hm heq, hall other hm⟩, hnodup⟩
      cases hadd : addTotals total ⟨row.bytesReceived, row.bytesTransmitted⟩ with
      | error error =>
        refine ⟨fun h => (by cases h), fun h => ?_⟩
        rw [addTotals_iff.2 ⟨h.2.1.left, rfl⟩] at hadd
        cases hadd
      | ok next =>
        obtain ⟨hbounded, rfl⟩ := addTotals_iff.1 hadd
        dsimp only
        rw [ih hbounded, and_comm (a := (rows.map counterKey).Nodup), hkeys]
        constructor
        · rintro ⟨⟨hnodup, hall⟩, hsum⟩
          exact ⟨⟨hnodup, hseen, hall⟩, hsum⟩
        · rintro ⟨⟨hnodup, -, hall⟩, hsum⟩
          exact ⟨⟨hnodup, hall⟩, hsum⟩

/-- **A list of counters adds up exactly when no counter repeats and the sums fit.** -/
theorem sumActivity_iff {rows : List ApplicationActivity} {sum : ByteTotals} : sumActivity rows = .ok sum ↔
    (rows.map counterKey).Nodup ∧ (exactSum rows).Bounded ∧ sum = exactSum rows := by
  have hzero : ByteTotals.plus ⟨0, 0⟩ (exactSum rows) = exactSum rows := by simp [ByteTotals.plus]
  rw [sumActivity, sumFrom_iff ⟨Nat.zero_le _, Nat.zero_le _⟩, hzero]
  exact and_congr_left fun _ => ⟨And.left, fun h => ⟨h, fun _ _ hm => (by cases hm)⟩⟩

/-! ## Clients -/

/-- The address a client is known by. -/
def normalizedMac (row : ClientActivity) : Text := toAsciiLowercase (trim row.mac)

/-- The row of a client, with its exact sums. -/
def exactRow (row : ClientActivity) : ClientRow := ⟨normalizedMac row, row.name, exactSum row.usageByApp⟩

/-- The exact sums over all clients. -/
def exactTotal (rows : List ClientActivity) : ByteTotals :=
  ⟨(rows.map fun row => (exactSum row.usageByApp).rxBytes).sum, (rows.map fun row => (exactSum row.usageByApp).txBytes).sum⟩

theorem exactTotal_cons (row : ClientActivity) (rows : List ClientActivity) :
    exactTotal (row :: rows) = (exactSum row.usageByApp).plus (exactTotal rows) := rfl

/-- One client is sound: it has counters, an address, no counter twice, and its sums fit. -/
structure SoundRow (row : ClientActivity) : Prop where
  counters : row.usageByApp ≠ []
  mac : UnicastMac (normalizedMac row)
  distinct : (row.usageByApp.map counterKey).Nodup
  fits : (exactSum row.usageByApp).Bounded

/-- One turn of the loop. -/
theorem clientRows_cons {seen : List Text} {total sum : ByteTotals} {row : ClientActivity} {rows : List ClientActivity}
    {clients : List ClientRow} : clientRows seen total (row :: rows) = .ok (clients, sum) ↔
      (SoundRow row ∧ normalizedMac row ∉ seen) ∧ (total.plus (exactSum row.usageByApp)).Bounded ∧
        ∃ rest, clientRows (normalizedMac row :: seen) (total.plus (exactSum row.usageByApp)) rows = .ok (rest, sum) ∧
          clients = exactRow row :: rest := by
  rw [clientRows]
  cases hcounters : row.usageByApp with
  | nil => exact ⟨fun h => (by cases h), fun h => absurd hcounters h.1.1.counters⟩
  | cons counter counters =>
    rw [← hcounters, if_neg (by simp [hcounters])]
    have hmac : (!validMac (toAsciiLowercase (trim row.mac)) || seen.contains (toAsciiLowercase (trim row.mac))) = true ↔
        ¬(UnicastMac (normalizedMac row) ∧ normalizedMac row ∉ seen) := by
      rw [Bool.or_eq_true, Bool.not_eq_true', ← Bool.not_eq_true, validMac_iff, List.contains_iff_mem, not_and_or, not_not]
      exact Iff.rfl
    dsimp only
    by_cases hvalid : UnicastMac (normalizedMac row) ∧ normalizedMac row ∉ seen
    · rw [if_neg (hmac.not.2 (not_not.2 hvalid))]
      cases hsum : sumActivity row.usageByApp with
      | error error =>
        refine ⟨fun h => (by cases h), fun h => ?_⟩
        rw [sumActivity_iff.2 ⟨h.1.1.distinct, h.1.1.fits, rfl⟩] at hsum
        cases hsum
      | ok bytes =>
        obtain ⟨hdistinct, hfits, rfl⟩ := sumActivity_iff.1 hsum
        have hsound : SoundRow row := ⟨by simp [hcounters], hvalid.1, hdistinct, hfits⟩
        dsimp only
        cases hadd : addTotals total (exactSum row.usageByApp) with
        | error error =>
          refine ⟨fun h => (by cases h), fun h => ?_⟩
          rw [addTotals_iff.2 ⟨h.2.1, rfl⟩] at hadd
          cases hadd
        | ok next =>
          obtain ⟨hbounded, rfl⟩ := addTotals_iff.1 hadd
          dsimp only
          constructor
          · intro h
            split at h
            · cases h
            · rename_i rest hrest
              cases h
              exact ⟨⟨hsound, hvalid.2⟩, hbounded, _, hrest, rfl⟩
          · rintro ⟨-, -, rest, hrest, rfl⟩
            have hrest : clientRows (toAsciiLowercase (trim row.mac) :: seen) (total.plus (exactSum row.usageByApp)) rows =
              .ok (rest, sum) := hrest
            rw [hrest]
            rfl
    · rw [if_pos (hmac.2 hvalid)]
      exact ⟨fun h => (by cases h), fun h => absurd ⟨h.1.1.mac, h.1.2⟩ hvalid⟩

theorem clientRows_iff {rows : List ClientActivity} : ∀ {seen : List Text} {total sum : ByteTotals} {clients : List ClientRow},
    total.Bounded → (clientRows seen total rows = .ok (clients, sum) ↔
      ((∀ row ∈ rows, SoundRow row) ∧ (rows.map normalizedMac).Nodup ∧ ∀ row ∈ rows, normalizedMac row ∉ seen) ∧
        (total.plus (exactTotal rows)).Bounded ∧ clients = rows.map exactRow ∧ sum = total.plus (exactTotal rows)) := by
  induction rows with
  | nil =>
    intro seen total sum clients htotal
    constructor
    · intro h
      cases h
      exact ⟨⟨fun _ hm => (by cases hm), List.nodup_nil, fun _ hm => (by cases hm)⟩, htotal, rfl, rfl⟩
    · rintro ⟨-, -, rfl, rfl⟩
      rfl
  | cons row rows ih =>
    intro seen total sum clients htotal
    rw [clientRows_cons, exactTotal_cons, ← plus_assoc, List.map_cons, List.map_cons, List.nodup_cons]
    constructor
    · rintro ⟨⟨hsound, hseen⟩, hbounded, rest, hrest, rfl⟩
      obtain ⟨⟨hrows, hnodup, hnew⟩, hfits, rfl, rfl⟩ := (ih hbounded).1 hrest
      refine ⟨⟨List.forall_mem_cons.2 ⟨hsound, hrows⟩, ⟨fun hm => ?_, hnodup⟩, ?_⟩, hfits, rfl, rfl⟩
      · obtain ⟨other, hother, heq⟩ := List.mem_map.1 hm
        exact hnew other hother (heq ▸ List.mem_cons_self)
      · exact List.forall_mem_cons.2 ⟨hseen, fun other hother hm => hnew other hother (List.mem_cons_of_mem _ hm)⟩
    · rintro ⟨⟨hrows, ⟨hfirst, hnodup⟩, hnew⟩, hfits, rfl, rfl⟩
      obtain ⟨hsound, hrows⟩ := List.forall_mem_cons.1 hrows
      obtain ⟨hseen, hnew⟩ := List.forall_mem_cons.1 hnew
      have hbounded : (total.plus (exactSum row.usageByApp)).Bounded := hfits.left
      refine ⟨⟨hsound, hseen⟩, hbounded, _, (ih hbounded).2 ⟨⟨hrows, hnodup, fun other hother hm => ?_⟩, hfits, rfl, rfl⟩, rfl⟩
      rcases List.mem_cons.1 hm with heq | hm
      · exact hfirst (heq ▸ List.mem_map_of_mem hother)
      · exact hnew other hother hm

/-! ## Reports -/

/-- Every client is sound, no address and no application counter comes twice, and all sums fit. -/
structure SoundReport (report : ActivityReport) : Prop where
  rows : ∀ row ∈ report.clientUsageByApp, SoundRow row
  macs : (report.clientUsageByApp.map normalizedMac).Nodup
  total : (exactTotal report.clientUsageByApp).Bounded
  applications : (report.totalUsageByApp.map counterKey).Nodup
  fits : (exactSum report.totalUsageByApp).Bounded

theorem activityTotals_iff {report : ActivityReport} {result : List ClientRow × ByteTotals × ByteTotals} :
    activityTotals report = .ok result ↔ SoundReport report ∧
      result = (report.clientUsageByApp.map exactRow, exactTotal report.clientUsageByApp, exactSum report.totalUsageByApp) := by
  have hzero : ByteTotals.plus ⟨0, 0⟩ (exactTotal report.clientUsageByApp) = exactTotal report.clientUsageByApp := by
    simp [ByteTotals.plus]
  have hrows (clients : List ClientRow) (total : ByteTotals) :=
    @clientRows_iff report.clientUsageByApp [] ⟨0, 0⟩ total clients ⟨Nat.zero_le _, Nat.zero_le _⟩
  rw [hzero] at hrows
  unfold activityTotals
  constructor
  · intro h
    split at h
    · cases h
    · rename_i clients total hclients
      obtain ⟨⟨hsound, hnodup, -⟩, hfits, rfl, rfl⟩ := (hrows _ _).1 hclients
      split at h
      · cases h
      · rename_i applications hsum
        obtain ⟨hdistinct, hbounded, rfl⟩ := sumActivity_iff.1 hsum
        cases h
        exact ⟨⟨hsound, hnodup, hfits, hdistinct, hbounded⟩, rfl⟩
  · rintro ⟨h, rfl⟩
    rw [(hrows _ _).2 ⟨⟨h.rows, h.macs, fun _ _ hm => (by cases hm)⟩, h.total, rfl, rfl⟩]
    dsimp only
    rw [sumActivity_iff.2 ⟨h.applications, h.fits, rfl⟩]

/-! ## Order -/

/-- The same client, its counters in another order. -/
structure SameRow (a b : ClientActivity) : Prop where
  mac : a.mac = b.mac
  name : a.name = b.name
  counters : a.usageByApp.Perm b.usageByApp

/-- The same clients and counters in another order. -/
def Reordered (a b : ActivityReport) : Prop :=
  ∃ rows, a.clientUsageByApp.Perm rows ∧ List.Forall₂ SameRow rows b.clientUsageByApp ∧
    a.totalUsageByApp.Perm b.totalUsageByApp

theorem exactSum_perm {a b : List ApplicationActivity} (h : a.Perm b) : exactSum a = exactSum b := by
  rw [exactSum, exactSum, (h.map _).sum_eq, (h.map _).sum_eq]

theorem exactTotal_perm {a b : List ClientActivity} (h : a.Perm b) : exactTotal a = exactTotal b := by
  rw [exactTotal, exactTotal, (h.map _).sum_eq, (h.map _).sum_eq]

theorem SameRow.mac_eq {a b : ClientActivity} (h : SameRow a b) : normalizedMac a = normalizedMac b := by
  rw [normalizedMac, normalizedMac, h.mac]

theorem SameRow.row_eq {a b : ClientActivity} (h : SameRow a b) : exactRow a = exactRow b := by
  rw [exactRow, exactRow, h.mac_eq, h.name, exactSum_perm h.counters]

theorem SameRow.sound_iff {a b : ClientActivity} (h : SameRow a b) : SoundRow a ↔ SoundRow b := by
  have hsum := exactSum_perm h.counters
  have hnil : a.usageByApp = [] ↔ b.usageByApp = [] := by
    constructor
    · intro ha
      exact (ha ▸ h.counters).nil_eq.symm
    · intro hb
      exact (hb ▸ h.counters).eq_nil
  have hdistinct := (h.counters.map counterKey).nodup_iff
  constructor
  · rintro ⟨hcounters, hmac, hnodup, hfits⟩
    exact ⟨hnil.not.1 hcounters, h.mac_eq ▸ hmac, hdistinct.1 hnodup, hsum ▸ hfits⟩
  · rintro ⟨hcounters, hmac, hnodup, hfits⟩
    exact ⟨hnil.not.2 hcounters, h.mac_eq ▸ hmac, hdistinct.2 hnodup, hsum ▸ hfits⟩

/-- What counts of the rows stays when only counters change places. -/
theorem sameRows {a b : List ClientActivity} (h : List.Forall₂ SameRow a b) :
    a.map exactRow = b.map exactRow ∧ a.map normalizedMac = b.map normalizedMac ∧ exactTotal a = exactTotal b ∧
      ((∀ row ∈ a, SoundRow row) ↔ ∀ row ∈ b, SoundRow row) := by
  induction h with
  | nil => exact ⟨rfl, rfl, rfl, Iff.rfl⟩
  | @cons x y a b hxy h ih =>
    obtain ⟨hrows, hmacs, htotal, hsound⟩ := ih
    refine ⟨by rw [List.map_cons, List.map_cons, hxy.row_eq, hrows],
      by rw [List.map_cons, List.map_cons, hxy.mac_eq, hmacs], ?_, ?_⟩
    · rw [exactTotal_cons, exactTotal_cons, htotal, exactSum_perm hxy.counters]
    · rw [List.forall_mem_cons, List.forall_mem_cons, hxy.sound_iff, hsound]

theorem Reordered.sound_iff {a b : ActivityReport} (h : Reordered a b) : SoundReport a ↔ SoundReport b := by
  obtain ⟨rows, hperm, hsame, htotals⟩ := h
  obtain ⟨-, hmacs, htotal, hsound⟩ := sameRows hsame
  have hrows : (∀ row ∈ a.clientUsageByApp, SoundRow row) ↔ ∀ row ∈ b.clientUsageByApp, SoundRow row :=
    Iff.trans (forall_congr' fun row => by rw [hperm.mem_iff]) hsound
  have hnodup : (a.clientUsageByApp.map normalizedMac).Nodup ↔ (b.clientUsageByApp.map normalizedMac).Nodup := by
    rw [(hperm.map normalizedMac).nodup_iff, hmacs]
  have hsums : exactTotal a.clientUsageByApp = exactTotal b.clientUsageByApp := (exactTotal_perm hperm).trans htotal
  have hkeys := (htotals.map counterKey).nodup_iff
  have happlications := exactSum_perm htotals
  constructor
  · rintro ⟨h1, h2, h3, h4, h5⟩
    exact ⟨hrows.1 h1, hnodup.1 h2, hsums ▸ h3, hkeys.1 h4, happlications ▸ h5⟩
  · rintro ⟨h1, h2, h3, h4, h5⟩
    exact ⟨hrows.2 h1, hnodup.2 h2, hsums ▸ h3, hkeys.2 h4, happlications ▸ h5⟩

/-- **A report is accepted exactly when it is sound.** The rows keep their order, the totals are the sums, and
reordering the rows or the counters changes neither the verdict nor the totals. -/
theorem activityTotals_exact (report : ActivityReport) :
    ((∃ result, activityTotals report = .ok result) ↔ SoundReport report) ∧
      (∀ result, activityTotals report = .ok result → result =
        (report.clientUsageByApp.map exactRow, exactTotal report.clientUsageByApp, exactSum report.totalUsageByApp)) ∧
      ∀ other, Reordered report other →
        ((∃ result, activityTotals report = .ok result) ↔ ∃ result, activityTotals other = .ok result) ∧
        ∀ clients total applications, activityTotals report = .ok (clients, total, applications) →
          ∃ reordered, activityTotals other = .ok (reordered, total, applications) ∧ reordered.Perm clients := by
  have hverdict (report : ActivityReport) : (∃ result, activityTotals report = .ok result) ↔ SoundReport report :=
    ⟨fun ⟨_, h⟩ => (activityTotals_iff.1 h).1, fun h => ⟨_, activityTotals_iff.2 ⟨h, rfl⟩⟩⟩
  refine ⟨hverdict report, fun result h => (activityTotals_iff.1 h).2, fun other hother => ⟨?_, ?_⟩⟩
  · rw [hverdict, hverdict, hother.sound_iff]
  · intro clients total applications h
    obtain ⟨hsound, heq⟩ := activityTotals_iff.1 h
    have hok := activityTotals_iff.2 ⟨hother.sound_iff.1 hsound, rfl⟩
    obtain ⟨rows, hperm, hsame, htotals⟩ := hother
    obtain ⟨hrows, -, htotal, -⟩ := sameRows hsame
    cases heq
    rw [← (exactTotal_perm hperm).trans htotal, ← exactSum_perm htotals] at hok
    exact ⟨_, hok, hrows ▸ (hperm.map exactRow).symm⟩

end UnifiMcp

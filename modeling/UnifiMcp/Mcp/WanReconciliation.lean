import Mathlib.Algebra.BigOperators.Group.Finset.Basic
import Mathlib.Algebra.Order.Ring.Rat
import Mathlib.Data.Finset.Card
import Mathlib.Order.Interval.Finset.Nat
import UnifiMcp.Api.Collection
import UnifiMcp.Mcp.Tools
/-! # WAN reconciliation (unifi-mcp/src/tools/activity.rs)

`reconcile_activity` adds up the hourly WAN rows inside a window and sets them against the client totals. A
counter is the exact rational it stands for, or a float that is not finite.

* `reportWindow_aligned` — the window of an activity report covers whole hours.
* `tally_eq` — what the loop over the rows leaves.
* `reconcile_activity_covers` — **a comparison covers every hour of the window, each once.** -/
namespace UnifiMcp.Activity
open Text

def HOUR_MS : Nat := 3600000

/-! ## The window -/

/-- `ActivityWindow` (traffic.rs:11), over whole hours. -/
structure ActivityWindow where
  start : Nat
  end_ : Nat
  ordered : start ≤ end_
  aligned : start % HOUR_MS = 0 ∧ end_ % HOUR_MS = 0

def DEFAULT_WAN_REPORT_HOURS : Nat := 24

/-- `report_window` (activity.rs:78), at the time `now`. -/
def reportWindow (input : StatsQueryInput) (now : Nat) : Except McpError (Nat × Nat) :=
  match input.startMs, input.endMs, input.hours with
  | some start, some end_, none =>
    if end_ ≤ now then
      match activityWindow start end_ with
      | .ok window => .ok window
      | .error _ => .error (.invalidParams "startMs/endMs must cover ordered whole UTC hours ending in the past".toList)
    else .error (.invalidParams "supply both startMs/endMs instead of hours, with endMs in the past".toList)
  | none, none, hours =>
    let hours := hours.getD DEFAULT_WAN_REPORT_HOURS
    if hours = 0 then .error (.invalidParams "hours must be positive".toList)
    else
      let end_ := if input.report = .wanHourly then now else now / HOUR_MS * HOUR_MS
      .ok (end_ - hours * HOUR_MS, end_)
  | _, _, _ => .error (.invalidParams "supply both startMs/endMs instead of hours, with endMs in the past".toList)

/-- **The window of an activity report covers whole hours.** -/
theorem reportWindow_aligned {input : StatsQueryInput} {now : Nat} {bounds : Nat × Nat} (hreport : input.report ≠ .wanHourly)
    (h : reportWindow input now = .ok bounds) : ∃ window : ActivityWindow, bounds = (window.start, window.end_) := by
  unfold reportWindow at h
  split at h
  · split at h
    · split at h
      · rename_i hwindow
        cases h
        unfold activityWindow at hwindow
        split at hwindow
        · cases hwindow
        · rename_i hbounds
          cases hwindow
          simp only [not_or, not_le, not_not] at hbounds
          exact ⟨⟨_, _, hbounds.1.le, hbounds.2⟩, rfl⟩
      · cases h
    · cases h
  · dsimp only at h
    split at h
    · cases h
    · cases h
      refine ⟨⟨_, _, Nat.sub_le _ _, ?_, Nat.mul_mod_left _ _⟩, rfl⟩
      unfold HOUR_MS
      omega
  · cases h

/-! ## Rows -/

/-- A counter of a row: the rational it is, or a float that is not finite. -/
inductive Counter where
  | finite (value : ℚ)
  | nonFinite
deriving DecidableEq

namespace Counter

def isFinite : Counter → Bool
  | finite _ => true
  | nonFinite => false

/-- `< 0.0`, of a finite counter. -/
def isNegative : Counter → Bool
  | finite value => value < 0
  | nonFinite => false

def add : Counter → Counter → Counter
  | finite a, finite b => finite (a + b)
  | _, _ => nonFinite

def sub : Counter → ℚ → Counter
  | finite a, b => finite (a - b)
  | nonFinite, _ => nonFinite

/-- A usable counter: finite and not negative. -/
def Usable (counter : Counter) : Prop := ∃ value, 0 ≤ value ∧ counter = finite value

def value : Counter → ℚ
  | finite value => value
  | nonFinite => 0

theorem usable_iff {counter : Counter} : counter.Usable ↔ counter.isFinite = true ∧ counter.isNegative = false := by
  cases counter with
  | finite value => simp [Usable, isFinite, isNegative]
  | nonFinite => simp [Usable, isFinite]

theorem Usable.eq_finite {counter : Counter} (h : counter.Usable) : counter = finite counter.value := by
  obtain ⟨value, -, rfl⟩ := h
  rfl

end Counter

/-- The status of a reconciliation. -/
def COMPARED : Text := "compared".toList

def INCOMPLETE_WAN : Text := "incompleteWan".toList

/-- `Reconciliation` (activity.rs:67), without the text of its reason, which is always the same. -/
structure Reconciliation where
  status : Text
  completeWanHours : Nat
  expectedWanHours : Nat
  siteRxBytes : Option Counter
  siteTxBytes : Option Counter
  unmatchedRxBytes : Option Counter
  unmatchedTxBytes : Option Counter

/-- What the loop over the rows keeps. -/
structure Tally where
  hours : Finset Nat
  missingCounter : Bool
  rx : Counter
  tx : Counter

def Tally.start : Tally := ⟨∅, false, .finite 0, .finite 0⟩

section
variable (window : ActivityWindow)

/-- `time < window.start || time >= window.end`. -/
def outside (time : Nat) : Bool := time < window.start || window.end_ ≤ time

/-- One row (activity.rs:341-371); nothing for an invalid or repeated bucket. -/
def addRow (tally : Tally) (row : SiteWanSample Counter) : Option Tally :=
  if row.time.any (outside window) then some tally
  else match row.time, row.wanRxBytes, row.wanTxBytes with
    | some time, some received, some transmitted =>
      if outside window time then some tally
      else if time % HOUR_MS ≠ 0 ∨ !received.isFinite ∨ !transmitted.isFinite ∨ received.isNegative ∨
          transmitted.isNegative ∨ time ∈ tally.hours then none
      else some ⟨insert time tally.hours, tally.missingCounter, tally.rx.add received, tally.tx.add transmitted⟩
    | _, _, _ => some { tally with missingCounter := true }

/-- The status and the numbers (activity.rs:372-391). -/
def summarize (clients : ByteTotals) (tally : Tally) : Reconciliation :=
  let expected := (window.end_ - window.start) / HOUR_MS
  let complete := !tally.missingCounter && tally.hours.card == expected && tally.rx.isFinite && tally.tx.isFinite
  { status := if complete then COMPARED else INCOMPLETE_WAN
    completeWanHours := tally.hours.card
    expectedWanHours := expected
    siteRxBytes := if complete then some tally.rx else none
    siteTxBytes := if complete then some tally.tx else none
    unmatchedRxBytes := if complete then some (tally.rx.sub clients.rxBytes) else none
    unmatchedTxBytes := if complete then some (tally.tx.sub clients.txBytes) else none }

/-- `reconcile_activity` (activity.rs:327), from the accepted rows and response on. -/
def reconcileActivity (clients : ByteTotals) (response : Text) (rows : List (SiteWanSample Counter)) : Except McpError Reconciliation :=
  match rows.foldlM (addRow window) .start with
  | none =>
    .error (apiError (.decodeResponse response (boundedMessage "WAN comparison contains invalid or duplicate buckets".toList)))
  | some tally => .ok (summarize window clients tally)

end

/-! ## The loop -/

/-- A row inside the window with both counters. -/
structure Bucket where
  hour : Nat
  rx : Counter
  tx : Counter

structure Bucket.Valid (bucket : Bucket) : Prop where
  whole : bucket.hour % HOUR_MS = 0
  rx : bucket.rx.Usable
  tx : bucket.tx.Usable

section
variable (window : ActivityWindow)

def bucketOf (row : SiteWanSample Counter) : Option Bucket :=
  match row.time, row.wanRxBytes, row.wanTxBytes with
  | some time, some rx, some tx => if outside window time then none else some ⟨time, rx, tx⟩
  | _, _, _ => none

/-- A row that is not outside the window and is no bucket. -/
def lacking (row : SiteWanSample Counter) : Bool := !row.time.any (outside window) && (bucketOf window row).isNone

def buckets (rows : List (SiteWanSample Counter)) : List Bucket := rows.filterMap (bucketOf window)

end

/-- The buckets the loop takes when it holds these hours already. -/
structure Accepted (hours : Finset Nat) (found : List Bucket) : Prop where
  valid : ∀ bucket ∈ found, bucket.Valid
  nodup : (found.map Bucket.hour).Nodup
  fresh : ∀ bucket ∈ found, bucket.hour ∉ hours

def Tally.take (tally : Tally) (bucket : Bucket) : Tally :=
  ⟨insert bucket.hour tally.hours, tally.missingCounter, tally.rx.add bucket.rx, tally.tx.add bucket.tx⟩

/-- The tally behind accepted buckets. -/
def Tally.extended (tally : Tally) (found : List Bucket) (lacks : Bool) : Tally :=
  ⟨tally.hours ∪ (found.map Bucket.hour).toFinset, tally.missingCounter || lacks,
    found.foldl (fun sum bucket => sum.add bucket.rx) tally.rx, found.foldl (fun sum bucket => sum.add bucket.tx) tally.tx⟩

section
variable {window : ActivityWindow}

/-- What one row does. -/
theorem addRow_eq (tally next : Tally) (row : SiteWanSample Counter) : addRow window tally row = some next ↔
    match bucketOf window row with
    | some bucket => bucket.Valid ∧ bucket.hour ∉ tally.hours ∧ next = tally.take bucket
    | none => next = { tally with missingCounter := tally.missingCounter || lacking window row } := by
  obtain ⟨time, tx, rx⟩ := row
  cases time with
  | none => simp [addRow, bucketOf, lacking, eq_comm]
  | some time =>
    cases hout : outside window time with
    | true => cases rx <;> cases tx <;> simpa [addRow, bucketOf, lacking, hout] using eq_comm
    | false =>
      cases rx with
      | none => simp [addRow, bucketOf, lacking, hout, eq_comm]
      | some rx =>
        cases tx with
        | none => simp [addRow, bucketOf, lacking, hout, eq_comm]
        | some tx =>
          have hbucket : bucketOf window ⟨some time, some tx, some rx⟩ = some ⟨time, rx, tx⟩ := by simp [bucketOf, hout]
          have hvalid : (⟨time, rx, tx⟩ : Bucket).Valid ∧ time ∉ tally.hours ↔
              ¬(time % HOUR_MS ≠ 0 ∨ !rx.isFinite ∨ !tx.isFinite ∨ rx.isNegative ∨ tx.isNegative ∨ time ∈ tally.hours) := by
            constructor
            · rintro ⟨⟨hwhole, hrx, htx⟩, hfresh⟩
              rw [Counter.usable_iff] at hrx htx
              simp [hwhole, hrx, htx, hfresh]
            · intro h
              simp only [not_or, not_not, Bool.not_eq_true, Bool.not_eq_false'] at h
              obtain ⟨hwhole, hrx, htx, hrx', htx', hfresh⟩ := h
              exact ⟨⟨hwhole, Counter.usable_iff.2 ⟨hrx, hrx'⟩, Counter.usable_iff.2 ⟨htx, htx'⟩⟩, hfresh⟩
          rw [hbucket]
          show _ ↔ _ ∧ _ ∧ _
          rw [← and_assoc, hvalid]
          by_cases hrefused : time % HOUR_MS ≠ 0 ∨ !rx.isFinite ∨ !tx.isFinite ∨ rx.isNegative ∨ tx.isNegative ∨ time ∈ tally.hours
          · simp only [addRow, Option.any_some, hout, Bool.false_eq_true, if_false, if_pos hrefused]
            exact iff_of_false nofun fun h => h.1 hrefused
          · simp only [addRow, Option.any_some, hout, Bool.false_eq_true, if_false, if_neg hrefused]
            exact ⟨fun h => ⟨hrefused, (Option.some.inj h).symm⟩, fun h => congrArg some h.2.symm⟩

theorem accepted_cons {hours : Finset Nat} {bucket : Bucket} {found : List Bucket} : Accepted hours (bucket :: found) ↔
    bucket.Valid ∧ bucket.hour ∉ hours ∧ Accepted (insert bucket.hour hours) found := by
  constructor
  · rintro ⟨hvalid, hnodup, hfresh⟩
    obtain ⟨hbucket, hvalid⟩ := List.forall_mem_cons.1 hvalid
    obtain ⟨hnew, hfresh⟩ := List.forall_mem_cons.1 hfresh
    rw [List.map_cons, List.nodup_cons] at hnodup
    refine ⟨hbucket, hnew, hvalid, hnodup.2, fun other hother hin => ?_⟩
    rcases Finset.mem_insert.1 hin with heq | hin
    · exact hnodup.1 (heq ▸ List.mem_map_of_mem hother)
    · exact hfresh other hother hin
  · rintro ⟨hbucket, hnew, hvalid, hnodup, hfresh⟩
    refine ⟨List.forall_mem_cons.2 ⟨hbucket, hvalid⟩, ?_, List.forall_mem_cons.2 ⟨hnew, fun other hother hin => ?_⟩⟩
    · rw [List.map_cons, List.nodup_cons]
      refine ⟨fun hmem => ?_, hnodup⟩
      obtain ⟨other, hother, heq⟩ := List.mem_map.1 hmem
      exact hfresh other hother (heq ▸ Finset.mem_insert_self _ _)
    · exact hfresh other hother (Finset.mem_insert_of_mem hin)

/-- **What the loop over the rows leaves**, from any tally. -/
theorem tally_eq : ∀ (rows : List (SiteWanSample Counter)) (tally next : Tally), rows.foldlM (addRow window) tally = some next ↔
    Accepted tally.hours (buckets window rows) ∧ next = tally.extended (buckets window rows) (rows.any (lacking window))
  | [], tally, next => by
    have hnone : Accepted tally.hours (buckets window []) := ⟨nofun, List.nodup_nil, nofun⟩
    have hsame : tally.extended (buckets window []) ([].any (lacking window)) = tally := by
      simp [Tally.extended, buckets]
    rw [hsame, List.foldlM_nil]
    exact ⟨fun h => ⟨hnone, (Option.some.inj h).symm⟩, fun h => congrArg some h.2.symm⟩
  | row :: rows, tally, next => by
    rw [List.foldlM_cons]
    have hrow := fun next => @addRow_eq window tally next row
    cases hbucket : bucketOf window row with
    | none =>
      simp only [hbucket] at hrow
      have hbuckets : buckets window (row :: rows) = buckets window rows := List.filterMap_cons_none hbucket
      rw [(hrow _).2 rfl, hbuckets, List.any_cons]
      refine (tally_eq rows _ next).trans (and_congr Iff.rfl (Eq.congr_right ?_))
      simp only [Tally.extended, Bool.or_assoc]
    | some bucket =>
      simp only [hbucket] at hrow
      have hbuckets : buckets window (row :: rows) = bucket :: buckets window rows := List.filterMap_cons_some hbucket
      have hlacking : lacking window row = false := by simp [lacking, hbucket]
      rw [hbuckets, accepted_cons, List.any_cons, hlacking, Bool.false_or]
      by_cases hvalid : bucket.Valid ∧ bucket.hour ∉ tally.hours
      · rw [(hrow _).2 ⟨hvalid.1, hvalid.2, rfl⟩]
        have hextended : (tally.take bucket).extended (buckets window rows) (rows.any (lacking window)) =
            tally.extended (bucket :: buckets window rows) (rows.any (lacking window)) := by
          simp [Tally.extended, Tally.take, Finset.insert_union]
        refine (tally_eq rows _ next).trans ?_
        rw [hextended, ← and_assoc (a := bucket.Valid), and_iff_right hvalid]
        rfl
      · have hnone : addRow window tally row = none := by
          cases hsome : addRow window tally row with
          | none => rfl
          | some next =>
            obtain ⟨hb, hfresh, -⟩ := (hrow next).1 hsome
            exact absurd ⟨hb, hfresh⟩ hvalid
        rw [hnone]
        exact iff_of_false nofun fun h => hvalid ⟨h.1.1, h.1.2.1⟩

/-! ## Buckets and faults -/

end

/-- The row supplies both counters for that time. -/
def Supplies (row : SiteWanSample Counter) (time : Nat) (rx tx : Counter) : Prop :=
  row.time = some time ∧ row.wanRxBytes = some rx ∧ row.wanTxBytes = some tx

section
variable (window : ActivityWindow)

def Inside (time : Nat) : Prop := window.start ≤ time ∧ time < window.end_

/-- A row inside the window supplies both counters for a time that is not a whole hour or that another row
supplies them for too, or a counter is negative or not finite. -/
def Faulty (rows : List (SiteWanSample Counter)) : Prop :=
  ∃ front row back time rx tx, rows = front ++ row :: back ∧ Inside window time ∧ Supplies row time rx tx ∧
    (time % HOUR_MS ≠ 0 ∨ ¬rx.Usable ∨ ¬tx.Usable ∨ ∃ other ∈ front ++ back, ∃ rx' tx', Supplies other time rx' tx')

/-- The whole hours of the window. -/
def wholeHours : Finset Nat := (Finset.Ico window.start window.end_).filter fun time => time % HOUR_MS = 0

/-- Every whole hour has both counters; every row has a time, and both counters when that is inside. -/
structure Covered (rows : List (SiteWanSample Counter)) : Prop where
  hours : ∀ hour ∈ wholeHours window, ∃ row ∈ rows, ∃ rx tx, Supplies row hour rx tx
  others : ∀ row ∈ rows, ∃ time, row.time = some time ∧ (Inside window time → ∃ rx tx, Supplies row time rx tx)

/-- The rows that are not outside the window. -/
def relevant (rows : List (SiteWanSample Counter)) : List (SiteWanSample Counter) :=
  rows.filter fun row => !row.time.any (outside window)

end

section
variable {window : ActivityWindow} {rows : List (SiteWanSample Counter)}

theorem outside_eq_false {time : Nat} : outside window time = false ↔ Inside window time := by
  simp [outside, Inside]

theorem bucketOf_eq_some {row : SiteWanSample Counter} {bucket : Bucket} :
    bucketOf window row = some bucket ↔ Inside window bucket.hour ∧ Supplies row bucket.hour bucket.rx bucket.tx := by
  obtain ⟨time, tx, rx⟩ := row
  obtain ⟨hour, brx, btx⟩ := bucket
  rw [← outside_eq_false]
  cases time with
  | none => simp [bucketOf, Supplies]
  | some time =>
    cases rx with
    | none => simp [bucketOf, Supplies]
    | some rx =>
      cases tx with
      | none => simp [bucketOf, Supplies]
      | some tx =>
        simp only [bucketOf, Supplies, Option.some.injEq]
        constructor
        · intro h
          split at h
          · cases h
          · cases h
            exact ⟨Bool.eq_false_iff.2 ‹_›, rfl, rfl, rfl⟩
        · rintro ⟨hinside, rfl, rfl, rfl⟩
          rw [hinside]
          rfl

theorem lacking_eq_false {row : SiteWanSample Counter} : lacking window row = false ↔
    ∃ time, row.time = some time ∧ (Inside window time → ∃ rx tx, Supplies row time rx tx) := by
  cases htime : row.time with
  | none => simp [lacking, bucketOf, htime]
  | some time =>
    cases hout : outside window time with
    | true =>
      have hnot : ¬Inside window time := fun h => by rw [outside_eq_false.2 h] at hout; cases hout
      simp [lacking, htime, hout, hnot]
    | false =>
      have hinside := outside_eq_false.1 hout
      cases hbucket : bucketOf window row with
      | none =>
        have hnone : ¬∃ rx tx, Supplies row time rx tx := by
          rintro ⟨rx, tx, hsupplies⟩
          have hsome := (@bucketOf_eq_some window _ ⟨time, rx, tx⟩).2 ⟨hinside, hsupplies⟩
          rw [hbucket] at hsome
          cases hsome
        simp [lacking, htime, hout, hbucket, hinside, hnone]
      | some bucket =>
        obtain ⟨-, hsupplies⟩ := bucketOf_eq_some.1 hbucket
        have hhour : time = bucket.hour := Option.some.inj (htime.symm.trans hsupplies.1)
        have hgives : ∃ rx tx, Supplies row time rx tx := ⟨bucket.rx, bucket.tx, hhour ▸ hsupplies⟩
        simp [lacking, htime, hbucket, hgives]

theorem mem_buckets {bucket : Bucket} :
    bucket ∈ buckets window rows ↔ ∃ row ∈ rows, Inside window bucket.hour ∧ Supplies row bucket.hour bucket.rx bucket.tx := by
  simp only [buckets, List.mem_filterMap, bucketOf_eq_some]

/-- No bucket is repeated when none is in the rows behind it. -/
theorem nodup_hours : ∀ {rows : List (SiteWanSample Counter)},
    (∀ front row back bucket, rows = front ++ row :: back → bucketOf window row = some bucket →
      bucket.hour ∉ (buckets window back).map Bucket.hour) → ((buckets window rows).map Bucket.hour).Nodup
  | [], _ => List.nodup_nil
  | row :: rows, h => by
    have hrest : ((buckets window rows).map Bucket.hour).Nodup := nodup_hours fun front other back bucket hrows =>
      h (row :: front) other back bucket (by rw [hrows, List.cons_append])
    cases hbucket : bucketOf window row with
    | none => rwa [buckets, List.filterMap_cons_none hbucket]
    | some bucket =>
      rw [buckets, List.filterMap_cons_some hbucket, List.map_cons, List.nodup_cons]
      exact ⟨h [] row rows bucket rfl hbucket, hrest⟩

theorem accepted_iff : Accepted ∅ (buckets window rows) ↔ ¬Faulty window rows := by
  constructor
  · rintro haccepted ⟨front, row, back, time, rx, tx, rfl, hinside, hsupplies, hfault⟩
    have hbucket : bucketOf window row = some ⟨time, rx, tx⟩ := bucketOf_eq_some.2 ⟨hinside, hsupplies⟩
    have hsplit : buckets window (front ++ row :: back) = buckets window front ++ ⟨time, rx, tx⟩ :: buckets window back := by
      rw [buckets, List.filterMap_append, List.filterMap_cons_some hbucket]
      rfl
    have hvalid : Bucket.Valid ⟨time, rx, tx⟩ := haccepted.valid _ (by rw [hsplit]; simp)
    rcases hfault with hwhole | hrx | htx | ⟨other, hother, rx', tx', hagain⟩
    · exact hwhole hvalid.whole
    · exact hrx hvalid.rx
    · exact htx hvalid.tx
    · have hnodup := haccepted.nodup
      rw [hsplit, List.map_append, List.map_cons, List.nodup_middle, List.nodup_cons, ← List.map_append] at hnodup
      refine hnodup.1 (List.mem_map.2 ⟨⟨time, rx', tx'⟩, ?_, rfl⟩)
      rw [buckets, buckets, ← List.filterMap_append]
      exact mem_buckets.2 ⟨other, hother, hinside, hagain⟩
  · intro hsound
    refine ⟨fun bucket hbucket => ?_, nodup_hours fun front row back bucket hrows hbucket hagain => ?_, fun _ _ => Finset.notMem_empty _⟩
    · obtain ⟨row, hrow, hinside, hsupplies⟩ := mem_buckets.1 hbucket
      obtain ⟨front, back, hrows⟩ := List.append_of_mem hrow
      refine ⟨by_contra fun h => ?_, by_contra fun h => ?_, by_contra fun h => ?_⟩
      · exact hsound ⟨front, row, back, _, _, _, hrows, hinside, hsupplies, Or.inl h⟩
      · exact hsound ⟨front, row, back, _, _, _, hrows, hinside, hsupplies, Or.inr (Or.inl h)⟩
      · exact hsound ⟨front, row, back, _, _, _, hrows, hinside, hsupplies, Or.inr (Or.inr (Or.inl h))⟩
    · obtain ⟨hinside, hsupplies⟩ := bucketOf_eq_some.1 hbucket
      obtain ⟨other, hother, hsame⟩ := List.mem_map.1 hagain
      obtain ⟨again, hmem, -, hsecond⟩ := mem_buckets.1 hother
      refine hsound ⟨front, row, back, _, _, _, hrows, hinside, hsupplies, Or.inr (Or.inr (Or.inr ?_))⟩
      exact ⟨again, List.mem_append_right _ hmem, other.rx, other.tx, hsame ▸ hsecond⟩

/-! ## Sums and coverage -/

theorem foldl_add {counter : Bucket → Counter} : ∀ {found : List Bucket} {sum : ℚ}, (∀ bucket ∈ found, (counter bucket).Usable) →
    found.foldl (fun (total : Counter) bucket => total.add (counter bucket)) (.finite sum) =
      .finite (sum + (found.map fun bucket => (counter bucket).value).sum)
  | [], sum, _ => by simp
  | bucket :: found, sum, h => by
    obtain ⟨hbucket, hfound⟩ := List.forall_mem_cons.1 h
    have hadd : Counter.add (.finite sum) (counter bucket) = .finite (sum + (counter bucket).value) := by
      rw [hbucket.eq_finite]
      rfl
    rw [List.foldl_cons, hadd, foldl_add hfound, List.map_cons, List.sum_cons, add_assoc]

theorem card_wholeHours : (wholeHours window).card = (window.end_ - window.start) / HOUR_MS := by
  have hhours : wholeHours window =
      (Finset.range ((window.end_ - window.start) / HOUR_MS)).image fun k => window.start + k * HOUR_MS := by
    ext time
    simp only [wholeHours, Finset.mem_filter, Finset.mem_Ico, Finset.mem_image, Finset.mem_range]
    obtain ⟨hstart, hend⟩ := window.aligned
    have hordered := window.ordered
    unfold HOUR_MS at *
    constructor
    · rintro ⟨⟨hfrom, hto⟩, hwhole⟩
      exact ⟨(time - window.start) / 3600000, by omega, by omega⟩
    · rintro ⟨k, hk, rfl⟩
      omega
  rw [hhours, Finset.card_image_of_injective, Finset.card_range]
  intro a b hab
  have hmultiples : window.start + a * 3600000 = window.start + b * 3600000 := hab
  omega

/-- The accepted hours are whole hours of the window. -/
theorem hours_subset (h : Accepted ∅ (buckets window rows)) :
    ((buckets window rows).map Bucket.hour).toFinset ⊆ wholeHours window := by
  intro hour hhour
  obtain ⟨bucket, hbucket, rfl⟩ := List.mem_map.1 (List.mem_toFinset.1 hhour)
  obtain ⟨row, -, hinside, -⟩ := mem_buckets.1 hbucket
  exact Finset.mem_filter.2 ⟨Finset.mem_Ico.2 hinside, (h.valid bucket hbucket).whole⟩

/-- **As many accepted hours as the window has are all of them.** -/
theorem hours_complete (h : Accepted ∅ (buckets window rows)) :
    ((buckets window rows).map Bucket.hour).toFinset.card = (window.end_ - window.start) / HOUR_MS ↔
      ∀ hour ∈ wholeHours window, ∃ row ∈ rows, ∃ rx tx, Supplies row hour rx tx := by
  rw [← card_wholeHours]
  constructor
  · intro hcard hour hhour
    rw [← Finset.eq_of_subset_of_card_le (hours_subset h) hcard.ge] at hhour
    obtain ⟨bucket, hbucket, rfl⟩ := List.mem_map.1 (List.mem_toFinset.1 hhour)
    obtain ⟨row, hrow, -, hsupplies⟩ := mem_buckets.1 hbucket
    exact ⟨row, hrow, _, _, hsupplies⟩
  · intro hall
    refine congrArg Finset.card (Finset.Subset.antisymm (hours_subset h) fun hour hhour => ?_)
    obtain ⟨row, hrow, rx, tx, hsupplies⟩ := hall hour hhour
    have hinside := Finset.mem_Ico.1 (Finset.mem_filter.1 hhour).1
    have hbucket : ⟨hour, rx, tx⟩ ∈ buckets window rows := mem_buckets.2 ⟨row, hrow, hinside, hsupplies⟩
    exact List.mem_toFinset.2 (List.mem_map.2 ⟨_, hbucket, rfl⟩)

theorem any_lacking_eq_false : rows.any (lacking window) = false ↔
    ∀ row ∈ rows, ∃ time, row.time = some time ∧ (Inside window time → ∃ rx tx, Supplies row time rx tx) := by
  simp only [List.any_eq_false, Bool.not_eq_true, lacking_eq_false]

/-- The sum of one counter over the buckets, hour by hour. -/
theorem sum_buckets (h : Accepted ∅ (buckets window rows)) (hours : ((buckets window rows).map Bucket.hour).toFinset = wholeHours window)
    {counter : Bucket → Counter} {assigned : Nat → ℚ}
    (hassigned : ∀ bucket ∈ buckets window rows, counter bucket = .finite (assigned bucket.hour)) :
    ((buckets window rows).map fun bucket => (counter bucket).value).sum = ∑ hour ∈ wholeHours window, assigned hour := by
  have hvalues : ((buckets window rows).map fun bucket => (counter bucket).value) =
      ((buckets window rows).map Bucket.hour).map assigned := by
    rw [List.map_map]
    refine List.map_congr_left fun bucket hbucket => ?_
    rw [hassigned bucket hbucket]
    rfl
  rw [hvalues, ← List.sum_toFinset assigned h.nodup, hours]

/-- The rows outside the window are not read. -/
theorem buckets_relevant (rows : List (SiteWanSample Counter)) : buckets window (relevant window rows) = buckets window rows := by
  rw [buckets, relevant, List.filterMap_filter]
  refine List.filterMap_congr fun row _ => ?_
  cases hout : row.time.any (outside window) with
  | false => rfl
  | true =>
    cases hbucket : bucketOf window row with
    | none => rfl
    | some bucket =>
      obtain ⟨hinside, htime, -⟩ := bucketOf_eq_some.1 hbucket
      rw [htime, Option.any_some, outside_eq_false.2 hinside] at hout
      cases hout

theorem any_lacking_relevant (rows : List (SiteWanSample Counter)) :
    (relevant window rows).any (lacking window) = rows.any (lacking window) := by
  rw [relevant, List.any_filter]
  refine List.any_congr rfl fun row => ?_
  unfold lacking
  cases row.time.any (outside window) <;> rfl

end

/-! ## What the reconciliation says -/

/-- The tally of all buckets. -/
def gathered (window : ActivityWindow) (rows : List (SiteWanSample Counter)) : Tally :=
  ⟨((buckets window rows).map Bucket.hour).toFinset, rows.any (lacking window),
    .finite ((buckets window rows).map fun bucket => bucket.rx.value).sum,
    .finite ((buckets window rows).map fun bucket => bucket.tx.value).sum⟩

section
variable {window : ActivityWindow} {clients : ByteTotals} {response : Text} {rows : List (SiteWanSample Counter)}

theorem reconcileActivity_ok (h : Accepted ∅ (buckets window rows)) :
    reconcileActivity window clients response rows = .ok (summarize window clients (gathered window rows)) := by
  have hextended : Tally.start.extended (buckets window rows) (rows.any (lacking window)) = gathered window rows := by
    simp only [Tally.extended, Tally.start, Finset.empty_union, Bool.false_or, gathered,
      foldl_add fun bucket hbucket => (h.valid bucket hbucket).rx, foldl_add fun bucket hbucket => (h.valid bucket hbucket).tx,
      zero_add]
  have htally : rows.foldlM (addRow window) .start = some (gathered window rows) := (tally_eq rows .start _).2 ⟨h, hextended.symm⟩
  rw [reconcileActivity, htally]

theorem reconcileActivity_error (h : ¬Accepted ∅ (buckets window rows)) : reconcileActivity window clients response rows =
    .error (apiError (.decodeResponse response (boundedMessage "WAN comparison contains invalid or duplicate buckets".toList))) := by
  have htally : rows.foldlM (addRow window) .start = none := by
    cases hsome : rows.foldlM (addRow window) .start with
    | none => rfl
    | some tally => exact absurd ((tally_eq rows .start tally).1 hsome).1 h
  rw [reconcileActivity, htally]

/-- The comparison is complete when all hours are there and no row lacks anything. -/
theorem summarize_complete (h : Accepted ∅ (buckets window rows)) :
    (summarize window clients (gathered window rows)).status = COMPARED ↔ Covered window rows := by
  have hstatus : (summarize window clients (gathered window rows)).status = COMPARED ↔
      rows.any (lacking window) = false ∧
        ((buckets window rows).map Bucket.hour).toFinset.card = (window.end_ - window.start) / HOUR_MS := by
    have hne : INCOMPLETE_WAN ≠ COMPARED := by decide
    simp [summarize, gathered, Counter.isFinite, hne]
  rw [hstatus, any_lacking_eq_false, hours_complete h]
  exact ⟨fun h => ⟨h.2, h.1⟩, fun h => ⟨h.others, h.hours⟩⟩

/-- The counters that some row supplies for the hour of a bucket are those of the bucket. -/
theorem counters_of_supplies (h : Accepted ∅ (buckets window rows)) {bucket : Bucket} (hbucket : bucket ∈ buckets window rows)
    {row : SiteWanSample Counter} (hrow : row ∈ rows) {rx tx : Counter} (hsupplies : Supplies row bucket.hour rx tx) :
    bucket.rx = rx ∧ bucket.tx = tx := by
  obtain ⟨-, -, hinside, -⟩ := mem_buckets.1 hbucket
  have hsame : ⟨bucket.hour, rx, tx⟩ ∈ buckets window rows := mem_buckets.2 ⟨row, hrow, hinside, hsupplies⟩
  rw [List.inj_on_of_nodup_map h.nodup hbucket hsame rfl]
  exact ⟨rfl, rfl⟩

/-- Each hour has one pair of counters, whichever row supplies it. -/
theorem counters_assigned (h : Accepted ∅ (buckets window rows)) : ∃ rx tx : Nat → ℚ, ∀ hour ∈ wholeHours window, ∀ row ∈ rows,
    ∀ received transmitted, Supplies row hour received transmitted →
      received = .finite (rx hour) ∧ transmitted = .finite (tx hour) := by
  have hhour : ∀ hour, ∃ counters : ℚ × ℚ, hour ∈ wholeHours window → ∀ row ∈ rows, ∀ received transmitted,
      Supplies row hour received transmitted → received = .finite counters.1 ∧ transmitted = .finite counters.2 := by
    intro hour
    by_cases hbucket : ∃ bucket ∈ buckets window rows, bucket.hour = hour
    · obtain ⟨bucket, hbucket, rfl⟩ := hbucket
      refine ⟨(bucket.rx.value, bucket.tx.value), fun _ row hrow received transmitted hsupplies => ?_⟩
      obtain ⟨rfl, rfl⟩ := counters_of_supplies h hbucket hrow hsupplies
      exact ⟨(h.valid bucket hbucket).rx.eq_finite, (h.valid bucket hbucket).tx.eq_finite⟩
    · refine ⟨(0, 0), fun hwhole row hrow received transmitted hsupplies => ?_⟩
      have hinside := Finset.mem_Ico.1 (Finset.mem_filter.1 hwhole).1
      exact absurd ⟨⟨hour, received, transmitted⟩, mem_buckets.2 ⟨row, hrow, hinside, hsupplies⟩, rfl⟩ hbucket
  choose counters hcounters using hhour
  exact ⟨fun hour => (counters hour).1, fun hour => (counters hour).2, hcounters⟩

/-- **The site's totals and the differences** of a complete comparison. -/
theorem summarize_totals (h : Accepted ∅ (buckets window rows)) (hcovered : Covered window rows) {rx tx : Nat → ℚ}
    (hsupplied : ∀ hour ∈ wholeHours window, ∃ row ∈ rows, Supplies row hour (.finite (rx hour)) (.finite (tx hour))) :
    summarize window clients (gathered window rows) =
      { status := COMPARED
        completeWanHours := (wholeHours window).card
        expectedWanHours := (wholeHours window).card
        siteRxBytes := some (.finite (∑ hour ∈ wholeHours window, rx hour))
        siteTxBytes := some (.finite (∑ hour ∈ wholeHours window, tx hour))
        unmatchedRxBytes := some (.finite (∑ hour ∈ wholeHours window, rx hour - clients.rxBytes))
        unmatchedTxBytes := some (.finite (∑ hour ∈ wholeHours window, tx hour - clients.txBytes)) } := by
  have hcard := (hours_complete h).2 hcovered.hours
  rw [← card_wholeHours] at hcard
  have hhours := Finset.eq_of_subset_of_card_le (hours_subset h) hcard.ge
  have hlacking := any_lacking_eq_false.2 hcovered.others
  have hcounters : ∀ bucket ∈ buckets window rows, bucket.rx = .finite (rx bucket.hour) ∧ bucket.tx = .finite (tx bucket.hour) := by
    intro bucket hbucket
    have hhour : bucket.hour ∈ wholeHours window := hours_subset h (List.mem_toFinset.2 (List.mem_map_of_mem hbucket))
    obtain ⟨row, hrow, hsupplies⟩ := hsupplied bucket.hour hhour
    exact counters_of_supplies h hbucket hrow hsupplies
  have hrx := sum_buckets h hhours fun bucket hbucket => (hcounters bucket hbucket).1
  have htx := sum_buckets h hhours fun bucket hbucket => (hcounters bucket hbucket).2
  simp [summarize, gathered, hhours, hlacking, hrx, htx, Counter.isFinite, Counter.sub, card_wholeHours]

/-- Only the relevant rows count, in any order. -/
theorem reconcileActivity_perm {others : List (SiteWanSample Counter)} (h : (relevant window rows).Perm (relevant window others)) :
    reconcileActivity window clients response rows = reconcileActivity window clients response others := by
  have hbuckets : (buckets window rows).Perm (buckets window others) := by
    rw [← buckets_relevant rows, ← buckets_relevant others]
    exact h.filterMap _
  have haccepted : Accepted ∅ (buckets window rows) ↔ Accepted ∅ (buckets window others) :=
    ⟨fun h => ⟨fun b hb => h.valid b (hbuckets.mem_iff.2 hb), (hbuckets.map _).nodup_iff.1 h.nodup, fun b hb => h.fresh b (hbuckets.mem_iff.2 hb)⟩,
      fun h => ⟨fun b hb => h.valid b (hbuckets.mem_iff.1 hb), (hbuckets.map _).nodup_iff.2 h.nodup, fun b hb => h.fresh b (hbuckets.mem_iff.1 hb)⟩⟩
  by_cases hrows : Accepted ∅ (buckets window rows)
  · have hgathered : gathered window rows = gathered window others := by
      have hlacking : rows.any (lacking window) = others.any (lacking window) := by
        rw [← any_lacking_relevant rows, ← any_lacking_relevant others, Bool.eq_iff_iff, List.any_eq_true, List.any_eq_true]
        exact exists_congr fun row => and_congr_left fun _ => h.mem_iff
      rw [gathered, gathered, List.toFinset_eq_of_perm _ _ (hbuckets.map Bucket.hour), hlacking,
        (hbuckets.map fun bucket => bucket.rx.value).sum_eq, (hbuckets.map fun bucket => bucket.tx.value).sum_eq]
    rw [reconcileActivity_ok hrows, reconcileActivity_ok (haccepted.1 hrows), hgathered]
  · rw [reconcileActivity_error hrows, reconcileActivity_error (haccepted.not.1 hrows)]

end

/-- **A comparison covers every hour of the window, each once.** It fails for a bad bucket alone; it compares
when every whole hour is supplied and no row lacks anything; then the totals are those of the hours. Rows
outside the window and the order of the rows do not matter. -/
theorem reconcile_activity_covers (window : ActivityWindow) (clients : ByteTotals) (response : Text)
    (rows : List (SiteWanSample Counter)) :
    ((∃ error, reconcileActivity window clients response rows = .error error) ↔ Faulty window rows) ∧
    (∀ result, reconcileActivity window clients response rows = .ok result →
      (result.status = COMPARED ↔ Covered window rows) ∧
      (result.status = COMPARED → ∃ rx tx : Nat → ℚ,
        (∀ hour ∈ wholeHours window, ∀ row ∈ rows, ∀ received transmitted, Supplies row hour received transmitted →
          received = .finite (rx hour) ∧ transmitted = .finite (tx hour)) ∧
        result.siteRxBytes = some (.finite (∑ hour ∈ wholeHours window, rx hour)) ∧
        result.siteTxBytes = some (.finite (∑ hour ∈ wholeHours window, tx hour)) ∧
        result.unmatchedRxBytes = some (.finite (∑ hour ∈ wholeHours window, rx hour - clients.rxBytes)) ∧
        result.unmatchedTxBytes = some (.finite (∑ hour ∈ wholeHours window, tx hour - clients.txBytes)))) ∧
    ∀ others, (relevant window rows).Perm (relevant window others) →
      reconcileActivity window clients response rows = reconcileActivity window clients response others := by
  refine ⟨?_, fun result hresult => ?_, fun others h => reconcileActivity_perm h⟩
  · constructor
    · rintro ⟨error, herror⟩
      by_contra hsound
      rw [reconcileActivity_ok (accepted_iff.2 hsound)] at herror
      cases herror
    · intro hfaulty
      exact ⟨_, reconcileActivity_error fun haccepted => accepted_iff.1 haccepted hfaulty⟩
  · have haccepted : Accepted ∅ (buckets window rows) := by
      by_contra hrefused
      rw [reconcileActivity_error hrefused] at hresult
      cases hresult
    rw [reconcileActivity_ok haccepted] at hresult
    cases hresult
    refine ⟨summarize_complete haccepted, fun hstatus => ?_⟩
    have hcovered := (summarize_complete haccepted).1 hstatus
    obtain ⟨rx, tx, hassigned⟩ := counters_assigned haccepted
    have hsupplied : ∀ hour ∈ wholeHours window, ∃ row ∈ rows, Supplies row hour (.finite (rx hour)) (.finite (tx hour)) := by
      intro hour hhour
      obtain ⟨row, hrow, received, transmitted, hsupplies⟩ := hcovered.hours hour hhour
      obtain ⟨rfl, rfl⟩ := hassigned hour hhour row hrow _ _ hsupplies
      exact ⟨row, hrow, hsupplies⟩
    rw [summarize_totals haccepted hcovered hsupplied]
    exact ⟨rx, tx, hassigned, rfl, rfl, rfl, rfl⟩

/-- A window of two hours; the row behind it is not read. -/
example : (reconcileActivity ⟨3600000, 10800000, by decide, by decide⟩ ⟨1, 2⟩ []
    [⟨some 7200000, some (.finite 5), some (.finite (7 / 2))⟩, ⟨some 3600000, some (.finite 0), some (.finite 4)⟩,
      ⟨some 10800000, none, none⟩]).toOption.map (fun result => (result.status, result.siteRxBytes, result.unmatchedTxBytes)) =
    some (COMPARED, some (.finite (15 / 2)), some (.finite 3)) := by
  decide +kernel

end UnifiMcp.Activity

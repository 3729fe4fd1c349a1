import UnifiMcp.Api.LegacyClient
/-! # Traffic snapshots (unifi-api/src/collection.rs, legacy/collection.rs, collection/totals.rs)

One snapshot holds what the three fixed sources answered for an hour: each collected, unrecognized,
unsupported or failed. `activityTotals` checks and adds up the activity counters.

* `source_collected` — a collected source carries data its report parses from.
* `activityTotals_macs` — the client rows have pairwise distinct, valid addresses. -/
namespace UnifiMcp
open Text

/-! ## Reports -/

/-- `ApplicationActivity` (traffic.rs:56). -/
structure ApplicationActivity where
  application : Nat
  category : Nat
  bytesReceived : Nat
  bytesTransmitted : Nat
deriving DecidableEq

/-- `ClientActivity` with its `ActivityClient`. -/
structure ClientActivity where
  mac : Text
  name : Option Text
  usageByApp : List ApplicationActivity
deriving DecidableEq

structure ActivityReport where
  clientUsageByApp : List ClientActivity
  totalUsageByApp : List ApplicationActivity
deriving DecidableEq

/-- A binary64 number by its bits. -/
structure F64 where
  bits : BitVec 64
deriving DecidableEq

/-- `f64::is_finite`. -/
def F64.isFinite (x : F64) : Bool := x.bits.toNat / 4503599627370496 % 2048 != 2047

/-- `x >= 0.0` for a finite number: no sign bit, or the negative zero. -/
def F64.isNonnegative (x : F64) : Bool :=
  x.bits.toNat < 9223372036854775808 || x.bits.toNat == 9223372036854775808

/-- `SiteWanSample` (models.rs:716), with counters as they are read or as they are added up. -/
structure SiteWanSample (ν : Type) where
  time : Option Nat
  wanTxBytes : Option ν
  wanRxBytes : Option ν
deriving DecidableEq

/-- `WanReport` with its `WanMeta`. -/
structure WanReport where
  rc : Text
  data : List (SiteWanSample F64)
deriving DecidableEq

/-- `serde_json::from_str` to the three report types, and `from_slice` to a raw value: what each
accepts and what it reads. -/
structure Reports where
  activityReport : Text → Option ActivityReport
  activityBuckets : Text → Bool
  wanReport : Text → Option WanReport

/-! ## Snapshots -/

/-- `SourceStatus` (collection.rs:39). -/
inductive SourceStatus where
  | collected
  | unsupported
  | unrecognized
  | failed
deriving DecidableEq

/-- `SourceReport` (collection.rs:29); `data` is the raw JSON text. -/
structure SourceReport where
  status : SourceStatus
  data : Option Text
  error : Option Text
deriving DecidableEq

structure TrafficSnapshot where
  startMs : Nat
  endMs : Nat
  activity : SourceReport
  graph : SourceReport
  wan : SourceReport
deriving DecidableEq

/-- `TrafficSnapshot::collected`. -/
def TrafficSnapshot.collected (snapshot : TrafficSnapshot) : Bool :=
  [snapshot.activity, snapshot.graph, snapshot.wan].all fun source => source.status == .collected

/-! ## Collecting -/

/-- `ActivityRead` (traffic.rs:29). -/
inductive ActivityRead (α : Type) where
  | reported (data : α)
  | unsupported (response : Option ApiError)
  | unrecognized

/-- `execute_activity` (legacy/traffic.rs:106) from the answer on. -/
def finishActivity (c : Codecs) (rawValue : Bytes → Except Text Text) : Answer → Except ApiError (ActivityRead Text)
  | .failed detail => .error (sendError detail)
  | .response response =>
    if response.status = TOO_MANY_REQUESTS then .error (rateLimitedError c response)
    else match readBoundedBody response with
      | .error error => .error error
      | .ok bytes =>
        if response.status = 404 ∨ response.status = 405 then
          .ok (.unsupported (some (translateFailure c response.status bytes)))
        else if isSuccess response.status then
          match rawValue bytes with
          | .ok data => .ok (.reported data)
          | .error detail => .error (decodeFailure c.base64 detail bytes)
        else .error (translateFailure c response.status bytes)

/-- `collect_wan_bytes` (legacy/collection.rs:143) from the answer on. -/
def finishWanBytes (c : Codecs) (answer : Answer) : Except ApiError Bytes :=
  match Legacy.executeRequestBytes c answer with
  | .error error => .error error
  | .ok (status, bytes) =>
    match envelopeRejection c bytes with
    | some code => .error (rejection c (some status) code bytes)
    | none => .ok bytes

/-- The end of `collect_wan` (legacy/collection.rs:123-141). -/
def finishWan (c : Codecs) (rawValue : Bytes → Except Text Text) (answer : Answer) :
    Except ApiError (ActivityRead Text) :=
  match finishWanBytes c answer with
  | .ok bytes =>
    match rawValue bytes with
    | .ok data => .ok (.reported data)
    | .error detail => .error (decodeFailure c.base64 detail bytes)
  | .error error =>
    match error with
    | .status status _ => if status = 404 ∨ status = 405 then .ok (.unsupported (some error)) else .error error
    | .rejected (some status) _ _ =>
      if status = 404 ∨ status = 405 then .ok (.unsupported (some error)) else .error error
    | _ => .error error

/-- `source` (legacy/collection.rs:11); `recognized` is `from_str::<T>(data).is_ok_and(valid)`. -/
def source (recognized : Text → Bool) : Except ApiError (ActivityRead Text) → SourceReport
  | .ok (.reported data) => ⟨if recognized data then .collected else .unrecognized, some data, none⟩
  | .ok (.unsupported response) => ⟨.unsupported, none, response.map ApiError.display⟩
  | .ok .unrecognized => ⟨.unrecognized, none, none⟩
  | .error error => ⟨.failed, none, some error.display⟩

def HOUR : Nat := 3600000

/-- `ActivityWindow::new` (traffic.rs:17). -/
def activityWindow (start end_ : Nat) : Except ApiError (Nat × Nat) :=
  if end_ ≤ start ∨ start % HOUR ≠ 0 ∨ end_ % HOUR ≠ 0 then
    .error (.config "activity window must cover ordered whole UTC hours".toList)
  else .ok (start, end_)

/-- The reads of the three sources, in the order they are made. -/
structure SourceReads where
  activity : Except ApiError (ActivityRead Text)
  graph : Except ApiError (ActivityRead Text)
  wan : Except ApiError (ActivityRead Text)

/-- The reads of these answers, each the last of its source. -/
def SourceReads.ofAnswers (c : Codecs) (rawValue : Bytes → Except Text Text) (activity graph wan : Answer) : SourceReads :=
  ⟨finishActivity c rawValue activity, finishActivity c rawValue graph, finishWan c rawValue wan⟩

/-- `collect_traffic` and `traffic_source` (legacy/collection.rs:53-102), given what each source
reads. -/
def collectTraffic (r : Reports) (start end_ : Nat) (reads : SourceReads) : Except ApiError TrafficSnapshot :=
  match activityWindow start end_ with
  | .error error => .error error
  | .ok (start, end_) =>
    .ok {
      startMs := start
      endMs := end_
      activity := source (fun data => (r.activityReport data).isSome) reads.activity
      graph := source r.activityBuckets reads.graph
      wan := source (fun data => (r.wanReport data).any fun report => report.rc == "ok".toList) reads.wan }

/-- A collected source carries data its report parses from. -/
theorem source_collected {recognized : Text → Bool} {read : Except ApiError (ActivityRead Text)}
    (h : (source recognized read).status = .collected) :
    ∃ data, (source recognized read).data = some data ∧ recognized data = true := by
  match read with
  | .ok (.reported data) =>
    refine ⟨data, rfl, ?_⟩
    by_cases hr : recognized data = true
    · exact hr
    · simp [source, hr] at h
  | .ok (.unsupported _) => cases h
  | .ok .unrecognized => cases h
  | .error _ => cases h

/-- What `collect_traffic` returns: the hour it was asked for, and collected sources that parse. -/
theorem collectTraffic_ok {r : Reports} {start end_ : Nat} {reads : SourceReads} {snapshot : TrafficSnapshot}
    (h : collectTraffic r start end_ reads = .ok snapshot) :
    snapshot.startMs = start ∧ snapshot.endMs = end_ ∧
      (snapshot.activity.status = .collected → ∃ data report, snapshot.activity.data = some data ∧
        r.activityReport data = some report) ∧
      (snapshot.wan.status = .collected → ∃ data report, snapshot.wan.data = some data ∧
        r.wanReport data = some report) := by
  unfold collectTraffic activityWindow at h
  split at h
  · cases h
  · rename_i hwindow
    split at hwindow
    · cases hwindow
    · cases hwindow
      cases h
      refine ⟨rfl, rfl, fun hs => ?_, fun hs => ?_⟩
      · obtain ⟨data, hdata, hsome⟩ := source_collected hs
        obtain ⟨report, hreport⟩ := Option.isSome_iff_exists.1 hsome
        exact ⟨data, report, hdata, hreport⟩
      · obtain ⟨data, hdata, hany⟩ := source_collected hs
        cases hreport : r.wanReport data with
        | none => simp [hreport] at hany
        | some report => exact ⟨data, report, hdata, hreport⟩

/-! ## Totals -/

/-- `Bytes` (totals.rs:9). -/
structure ByteTotals where
  rxBytes : Nat
  txBytes : Nat
deriving DecidableEq

/-- `ClientRow` (totals.rs:14). -/
structure ClientRow where
  mac : Text
  name : Option Text
  bytes : ByteTotals
deriving DecidableEq

/-- `u8::from_str_radix(octet, 16)` of two hexadecimal digits. -/
def hexOctet (octet : Text) : Nat := (octet.foldl (fun n c => 16 * n + hexDigitValue c) 0)
where
  hexDigitValue (c : Char) : Nat :=
    if c.isDigit then c.toNat - 48 else if 'a' ≤ c ∧ c ≤ 'f' then c.toNat - 87 else c.toNat - 55

/-- One octet: two hexadecimal digits. -/
def macOctet (octet : Text) : Option Nat :=
  if byteLen octet ≠ 2 ∨ !octet.all isHexDigit then none else some (hexOctet octet)

/-- The loop over `n` octets; nothing may follow. -/
def macOctets : Nat → List Text → Option (List Nat)
  | 0, [] => some []
  | 0, _ :: _ => none
  | _ + 1, [] => none
  | n + 1, octet :: octets => (macOctet octet).bind fun byte => (macOctets n octets).map (byte :: ·)

/-- `valid_mac` (totals.rs:22). -/
def validMac (value : Text) : Bool :=
  if byteLen value ≠ 17 then false
  else match macOctets 6 (value.splitOn ':') with
    | none => false
    | some bytes => (bytes.head?.any fun byte => byte % 2 == 0) && !(bytes.all (· == 0))

def invalid (message : Text) : ApiError := .decode (boundedMessage message)

/-- `u64::checked_add`. -/
def checkedAdd (a b : Nat) : Option Nat := if a + b ≤ MAXIMUM_U64 then some (a + b) else none

/-- `add` (totals.rs:121). -/
def addTotals (total value : ByteTotals) : Except ApiError ByteTotals :=
  match checkedAdd total.rxBytes value.rxBytes, checkedAdd total.txBytes value.txBytes with
  | some rx, some tx => .ok ⟨rx, tx⟩
  | _, _ => .error (invalid "activity byte total overflow".toList)

/-- The loop of `sum` (totals.rs:101). -/
def sumFrom : ByteTotals → List (Nat × Nat) → List ApplicationActivity → Except ApiError ByteTotals
  | total, _, [] => .ok total
  | total, seen, row :: rows =>
    if (row.category, row.application) ∈ seen then
      .error (invalid "activity response contains duplicate application counters".toList)
    else match addTotals total ⟨row.bytesReceived, row.bytesTransmitted⟩ with
      | .error error => .error error
      | .ok total => sumFrom total ((row.category, row.application) :: seen) rows

def sumActivity (rows : List ApplicationActivity) : Except ApiError ByteTotals := sumFrom ⟨0, 0⟩ [] rows

/-- The loop of `activity_totals` (totals.rs:68): the rows and the running total. -/
def clientRows : List Text → ByteTotals → List ClientActivity → Except ApiError (List ClientRow × ByteTotals)
  | _, total, [] => .ok ([], total)
  | seen, total, row :: rows =>
    if row.usageByApp.isEmpty then .error (invalid "activity client has no reported counters".toList)
    else
      let mac := toAsciiLowercase (trim row.mac)
      if !validMac mac || seen.contains mac then
        .error (invalid "activity response contains invalid or duplicate client identities".toList)
      else match sumActivity row.usageByApp with
        | .error error => .error error
        | .ok bytes =>
          match addTotals total bytes with
          | .error error => .error error
          | .ok total =>
            match clientRows (mac :: seen) total rows with
            | .error error => .error error
            | .ok (clients, total) => .ok (⟨mac, row.name, bytes⟩ :: clients, total)

/-- `activity_totals` (totals.rs:62). -/
def activityTotals (report : ActivityReport) : Except ApiError (List ClientRow × ByteTotals × ByteTotals) :=
  match clientRows [] ⟨0, 0⟩ report.clientUsageByApp with
  | .error error => .error error
  | .ok (clients, total) =>
    match sumActivity report.totalUsageByApp with
    | .error error => .error error
    | .ok applications => .ok (clients, total, applications)

theorem clientRows_macs {rows : List ClientActivity} : ∀ {seen : List Text} {total total' : ByteTotals}
    {clients : List ClientRow}, clientRows seen total rows = .ok (clients, total') →
    (clients.map ClientRow.mac).Nodup ∧ ∀ client ∈ clients, validMac client.mac = true ∧ client.mac ∉ seen := by
  induction rows with
  | nil =>
    intro seen total total' clients h
    cases h
    exact ⟨List.nodup_nil, fun _ h => by cases h⟩
  | cons row rows ih =>
    intro seen total total' clients h
    rw [clientRows] at h
    split at h
    · cases h
    · dsimp only at h
      split at h
      · cases h
      · rename_i hmac
        simp only [Bool.or_eq_true, Bool.not_eq_true', List.contains_iff_mem, not_or, Bool.not_eq_false] at hmac
        split at h
        · cases h
        · split at h
          · cases h
          · split at h
            · cases h
            · rename_i hrest
              cases h
              obtain ⟨hnodup, hall⟩ := ih hrest
              refine ⟨List.nodup_cons.2 ⟨fun hm => ?_, hnodup⟩, fun client hc => ?_⟩
              · obtain ⟨client, hc, he⟩ := List.mem_map.1 hm
                exact (hall client hc).2 (by rw [he]; exact List.mem_cons_self)
              · rcases List.mem_cons.1 hc with rfl | hc
                · exact hmac
                · exact ⟨(hall client hc).1, fun hs => (hall client hc).2 (List.mem_cons_of_mem _ hs)⟩

/-- **The client rows have pairwise distinct, valid addresses.** -/
theorem activityTotals_macs {report : ActivityReport} {clients : List ClientRow} {total applications : ByteTotals}
    (h : activityTotals report = .ok (clients, total, applications)) :
    (clients.map ClientRow.mac).Nodup ∧ ∀ client ∈ clients, validMac client.mac = true := by
  unfold activityTotals at h
  split at h
  · cases h
  · rename_i hrows
    split at h
    · cases h
    · cases h
      obtain ⟨hnodup, hall⟩ := clientRows_macs hrows
      exact ⟨hnodup, fun client hc => (hall client hc).1⟩

theorem checkedAdd_le {a b sum : Nat} (h : checkedAdd a b = some sum) : sum ≤ MAXIMUM_U64 := by
  unfold checkedAdd at h
  split at h
  · cases h
    assumption
  · cases h

/-- The counters of a sum are those of a `u64`. -/
def ByteTotals.Bounded (b : ByteTotals) : Prop := b.rxBytes ≤ MAXIMUM_U64 ∧ b.txBytes ≤ MAXIMUM_U64

theorem addTotals_bounded {total value sum : ByteTotals} (h : addTotals total value = .ok sum) : sum.Bounded := by
  unfold addTotals at h
  split at h
  · rename_i hrx htx
    cases h
    exact ⟨checkedAdd_le hrx, checkedAdd_le htx⟩
  · cases h

theorem sumFrom_bounded {rows : List ApplicationActivity} : ∀ {total sum : ByteTotals} {seen : List (Nat × Nat)},
    total.Bounded → sumFrom total seen rows = .ok sum → sum.Bounded := by
  induction rows with
  | nil =>
    intro total sum seen ht h
    cases h
    exact ht
  | cons row rows ih =>
    intro total sum seen _ h
    rw [sumFrom] at h
    split at h
    · cases h
    · split at h
      · cases h
      · rename_i hadd
        exact ih (addTotals_bounded hadd) h

theorem sumActivity_bounded {rows : List ApplicationActivity} {sum : ByteTotals} (h : sumActivity rows = .ok sum) :
    sum.Bounded :=
  sumFrom_bounded ⟨Nat.zero_le _, Nat.zero_le _⟩ h

theorem clientRows_bounded {rows : List ClientActivity} : ∀ {seen : List Text} {total total' : ByteTotals}
    {clients : List ClientRow}, total.Bounded → clientRows seen total rows = .ok (clients, total') →
    total'.Bounded ∧ ∀ client ∈ clients, client.bytes.Bounded := by
  induction rows with
  | nil =>
    intro seen total total' clients ht h
    cases h
    exact ⟨ht, fun _ h => by cases h⟩
  | cons row rows ih =>
    intro seen total total' clients _ h
    rw [clientRows] at h
    split at h
    · cases h
    · dsimp only at h
      split at h
      · cases h
      · split at h
        · cases h
        · rename_i hsum
          split at h
          · cases h
          · rename_i hadd
            split at h
            · cases h
            · rename_i hrest
              cases h
              obtain ⟨htotal, hclients⟩ := ih (addTotals_bounded hadd) hrest
              exact ⟨htotal, List.forall_mem_cons.2 ⟨sumActivity_bounded hsum, hclients⟩⟩

/-- All counters of the result are those of a `u64`. -/
theorem activityTotals_bounded {report : ActivityReport} {clients : List ClientRow} {total applications : ByteTotals}
    (h : activityTotals report = .ok (clients, total, applications)) :
    (∀ client ∈ clients, client.bytes.Bounded) ∧ total.Bounded ∧ applications.Bounded := by
  unfold activityTotals at h
  split at h
  · cases h
  · rename_i hrows
    split at h
    · cases h
    · rename_i hsum
      cases h
      obtain ⟨htotal, hclients⟩ := clientRows_bounded ⟨Nat.zero_le _, Nat.zero_le _⟩ hrows
      exact ⟨hclients, htotal, sumActivity_bounded hsum⟩

theorem macOctets_chars : ∀ {n : Nat} {octets : List Text} {bytes : List Nat}, macOctets n octets = some bytes →
    ∀ octet ∈ octets, ∀ c ∈ octet, isHexDigit c = true
  | 0, [], _, _, _, h => by cases h
  | n + 1, octet :: octets, bytes, h, o, ho => by
    rw [macOctets] at h
    obtain ⟨byte, hbyte, h⟩ := Option.bind_eq_some_iff.1 h
    obtain ⟨rest, hrest, -⟩ := Option.map_eq_some_iff.1 h
    rcases List.mem_cons.1 ho with rfl | ho
    · intro c hc
      unfold macOctet at hbyte
      split at hbyte
      · cases hbyte
      · rename_i hdig
        simp only [not_or, Bool.not_eq_true', Bool.not_eq_false, List.all_eq_true] at hdig
        exact hdig.2 c hc
    · exact macOctets_chars hrest o ho

/-- A character of a joined text is from a part or a separator. -/
theorem mem_intercalate {c sep : Char} : ∀ {parts : List Text}, c ∈ [sep].intercalate parts →
    (∃ part ∈ parts, c ∈ part) ∨ c = sep
  | [], h => by cases h
  | [a], h => Or.inl ⟨a, by simp, by simpa [List.intercalate] using h⟩
  | a :: b :: parts, h => by
    have h : c ∈ a ∨ c = sep ∨ c ∈ [sep].intercalate (b :: parts) := by
      simpa [List.intercalate, List.intersperse] using h
    rcases h with h | h | h
    · exact Or.inl ⟨a, by simp, h⟩
    · exact Or.inr h
    · rcases mem_intercalate h with ⟨part, hp, hc⟩ | hc
      · exact Or.inl ⟨part, List.mem_cons_of_mem _ hp, hc⟩
      · exact Or.inr hc

/-- A valid address is made of hexadecimal digits and colons. -/
theorem validMac_chars {value : Text} (h : validMac value = true) : ∀ c ∈ value, isHexDigit c = true ∨ c = ':' := by
  intro c hc
  unfold validMac at h
  split at h
  · cases h
  · split at h
    · cases h
    · rename_i hoct
      rw [← @List.intercalate_splitOn Char value _ _ ':'] at hc
      rcases mem_intercalate hc with ⟨part, hpart, hc⟩ | hc
      · exact Or.inl (macOctets_chars hoct part hpart c hc)
      · exact Or.inr hc

theorem validMac_length {value : Text} (h : validMac value = true) : byteLen value = 17 := by
  unfold validMac at h
  split at h
  · cases h
  · rename_i hlen
    simpa using hlen

end UnifiMcp

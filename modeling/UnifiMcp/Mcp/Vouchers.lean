import UnifiMcp.Mcp.EventSearch
import UnifiMcp.Mcp.PolicyWrite
/-! # Hotspot vouchers (unifi-mcp/src/tools.rs:9951-10430)

A confirmed creation mints once and reads every returned voucher back, until the deadline. A revocation reads the
voucher first, deletes it once and looks for it again. A revocation by filter counts the matches before and behind.

* `voucherChecks_distinct` — sorted and deduplicated codes are as many as before exactly when all differ.
* `account_of_run` — what the loop of readbacks keeps, by induction on the vouchers.
* `creation_accounts` — **a confirmed creation accounts for every voucher it minted.** -/
namespace UnifiMcp.Integration
open Text Dialogue Timed

/-! ## Inputs -/

def VOUCHER_BATCH_CEILING : Nat := 1000

def VOUCHER_MINUTES_CEILING : Nat := 1000000

def MAXIMUM_VOUCHER_REQUEST_BYTES : Nat := 1024 * 1024

def MAXIMUM_VOUCHER_LIMIT : Nat := 1000

/-- `VouchersCreateInput` (tools.rs:3909); its defaults are filled in. -/
structure VouchersCreateInput where
  name : Text
  count : Nat
  timeLimitMinutes : Nat
  guestLimit : Option Nat
  dataLimitMegabytes : Option Nat
  downloadRateLimitKbps : Option Nat
  uploadRateLimitKbps : Option Nat
  confirm : Option Bool

/-- `VoucherBatch` (tools.rs:4103). -/
structure VoucherBatch where
  name : Text
  count : Nat
  timeLimitMinutes : Nat
  guestLimit : Option Nat
  dataLimitMegabytes : Option Nat
  downloadRateLimitKbps : Option Nat
  uploadRateLimitKbps : Option Nat
deriving DecidableEq

/-- A limit as it is checked: its name, value and range (tools.rs:12464-12484). -/
structure Limit where
  field : Text
  value : Option Nat
  minimum : Nat
  maximum : Nat

def VouchersCreateInput.limits (input : VouchersCreateInput) : List Limit :=
  [⟨"guestLimit".toList, input.guestLimit, 1, 9223372036854775807⟩,
    ⟨"dataLimitMegabytes".toList, input.dataLimitMegabytes, 1, 1048576⟩,
    ⟨"downloadRateLimitKbps".toList, input.downloadRateLimitKbps, 2, 100000⟩,
    ⟨"uploadRateLimitKbps".toList, input.uploadRateLimitKbps, 2, 100000⟩]

def outside (minimum maximum value : Nat) : Bool := !(minimum ≤ value && value ≤ maximum)

/-- `{field} must be between {minimum} and {maximum}`. -/
def rangeError (field : Text) (minimum maximum : Nat) : McpError :=
  .invalidParams (field ++ " must be between ".toList ++ dec minimum ++ " and ".toList ++ dec maximum)

/-- `voucher_batch` (tools.rs:12452). -/
def voucherBatch (input : VouchersCreateInput) : Except McpError VoucherBatch :=
  if outside 1 VOUCHER_BATCH_CEILING input.count then .error (rangeError "count".toList 1 VOUCHER_BATCH_CEILING)
  else if outside 1 VOUCHER_MINUTES_CEILING input.timeLimitMinutes then
    .error (rangeError "timeLimitMinutes".toList 1 VOUCHER_MINUTES_CEILING)
  else if input.name.isEmpty then .error (.invalidParams "name must be nonempty".toList)
  else match input.limits.find? fun limit => limit.value.any (outside limit.minimum limit.maximum) with
    | some limit => .error (rangeError limit.field limit.minimum limit.maximum)
    | none => .ok ⟨input.name, input.count, input.timeLimitMinutes, input.guestLimit, input.dataLimitMegabytes,
        input.downloadRateLimitKbps, input.uploadRateLimitKbps⟩

/-- The `VoucherCreate` of a batch (tools.rs:10328). -/
def VoucherBatch.request (batch : VoucherBatch) : VoucherCreate :=
  ⟨batch.name, batch.count, batch.timeLimitMinutes, batch.guestLimit, batch.dataLimitMegabytes,
    batch.downloadRateLimitKbps, batch.uploadRateLimitKbps⟩

/-- `voucher_id` (tools.rs:12440). -/
def voucherId (raw : Text) : Except McpError Text :=
  if (trim raw).isEmpty ∨ MAXIMUM_QUERY_LENGTH < byteLen (trim raw) then
    .error (.invalidParams "voucherId must be a bounded voucher id from vouchers.search".toList)
  else .ok (trim raw)

theorem trim_of_voucherId {raw id : Text} (h : voucherId raw = .ok id) : id = trim raw := by
  rw [voucherId] at h
  split at h
  · cases h
  · exact (Except.ok.inj h).symm

/-! ## Checks on the answer -/

/-- `VoucherChecks` (tools.rs:4138). -/
structure VoucherChecks where
  countMatches : Bool
  allIdentified : Bool
  allDistinct : Bool
  codeLengths : List Nat
deriving DecidableEq

/-- `Vec::dedup`. -/
def dedup {α : Type} [DecidableEq α] : List α → List α
  | [] => []
  | [a] => [a]
  | a :: b :: rest => if a = b then dedup (b :: rest) else a :: dedup (b :: rest)

/-- `voucher_checks` (tools.rs:12512). -/
def voucherChecks (requested : Nat) (vouchers : List Voucher) : VoucherChecks :=
  let lengths := (vouchers.filterMap fun voucher => voucher.code.map List.length).mergeSort (· ≤ ·)
  let codes := (vouchers.filterMap Voucher.code).mergeSort (· ≤ ·)
  { countMatches := requested == vouchers.length
    allIdentified := vouchers.all fun voucher => voucher.id.any (!·.isEmpty) && voucher.code.any (!·.isEmpty)
    allDistinct := (dedup codes).length == codes.length
    codeLengths := dedup lengths }

theorem length_dedup_le {α : Type} [DecidableEq α] : ∀ l : List α, (dedup l).length ≤ l.length
  | [] => Nat.le_refl _
  | [a] => Nat.le_refl _
  | a :: b :: rest => by
    have ih := length_dedup_le (b :: rest)
    rw [dedup]
    split
    · exact Nat.le_succ_of_le ih
    · simpa using ih

/-- A sorted list loses nothing to `dedup` exactly when its members all differ. -/
theorem length_dedup_iff {α : Type} [LinearOrder α] [DecidableEq α] : ∀ {l : List α}, l.Pairwise (· ≤ ·) →
    ((dedup l).length = l.length ↔ l.Nodup)
  | [], _ => by simp [dedup]
  | [a], _ => by simp [dedup]
  | a :: b :: rest, h => by
    obtain ⟨ha, hrest⟩ := List.pairwise_cons.1 h
    have ih := length_dedup_iff hrest
    rw [dedup]
    by_cases hab : a = b
    · subst hab
      have hle := length_dedup_le (a :: rest)
      simp only [if_true, List.length_cons, List.nodup_cons, List.mem_cons, true_or, not_true, false_and, iff_false] at hle ⊢
      omega
    · rw [if_neg hab, List.length_cons, List.length_cons, Nat.add_right_cancel_iff, ih]
      refine ⟨fun hnodup => List.nodup_cons.2 ⟨fun hmem => ?_, hnodup⟩, fun hnodup => (List.nodup_cons.1 hnodup).2⟩
      obtain heq | hmem := List.mem_cons.1 hmem
      · exact hab heq
      · exact hab (le_antisymm (ha b List.mem_cons_self) ((List.pairwise_cons.1 hrest).1 a hmem))

/-- **The codes are told distinct exactly when they are.** -/
theorem voucherChecks_distinct {requested : Nat} {vouchers : List Voucher} :
    (voucherChecks requested vouchers).allDistinct = true ↔ (vouchers.filterMap Voucher.code).Nodup := by
  have hsorted : ((vouchers.filterMap Voucher.code).mergeSort (· ≤ ·)).Pairwise (· ≤ ·) :=
    (List.pairwise_mergeSort (fun a b c => by simpa using le_trans) (fun a b => by simpa using le_total a b) _).imp
      (by simp)
  unfold voucherChecks
  rw [beq_iff_eq, length_dedup_iff hsorted, (List.mergeSort_perm ..).nodup_iff]

/-! ## Verification -/

/-- `VoucherReadbackFailure` (tools.rs:4151). -/
structure VoucherReadbackFailure where
  voucherId : Text
  error : Text
deriving DecidableEq

/-- `VoucherVerification` (tools.rs:4156). -/
structure VoucherVerification where
  verified : Bool
  errors : List VoucherReadbackFailure
  complete : Bool
  stopReason : Option Text
deriving DecidableEq

namespace VoucherVerification

/-- The voucher counts against the batch. -/
def fail (result : VoucherVerification) : VoucherVerification := { result with verified := false }

/-- A readback that failed or disagreed. -/
def complain (result : VoucherVerification) (voucherId error : Text) : VoucherVerification :=
  { result with verified := false, errors := result.errors ++ [⟨voucherId, error⟩] }

/-- The deadline stops the readbacks. -/
def stop (result : VoucherVerification) : VoucherVerification :=
  { result with verified := false, complete := false, stopReason := some "deadline".toList }

end VoucherVerification

/-- The complaint about a readback with another id or code (tools.rs:10291). -/
def disagreement (base64 : Bytes → Text) (bytes : Bytes) : Text :=
  (ApiError.decodeResponse (fromControllerBytes base64 bytes)
    (boundedMessage "created voucher readback disagrees with the creation response".toList)).display

/-- What one readback adds (tools.rs:10287-10313); none when the deadline passed. -/
def readingOf (base64 : Bytes → Text) (id code : Text) (result : VoucherVerification) :
    Option (Except ApiError (VoucherDetails × Bytes)) → VoucherVerification
  | some (.ok (persisted, bytes)) =>
    if persisted.id = id ∧ persisted.code = code then result else result.complain id (disagreement base64 bytes)
  | some (.error error) => result.complain id error.display
  | none => result.stop

/-- The `for voucher in vouchers` loop (tools.rs:10270-10321). -/
def verifyVouchers (rt : Runtime) (site : Text) (deadline : Nat) :
    List Voucher → List Text → VoucherVerification → Tool VoucherVerification
  | [], _, result => .done result
  | ⟨some id, some code⟩ :: rest, ids, result =>
    let result := if ids.contains id then result.fail else result
    (Dialogue.put (Timed.free Ask.elapsed) : Tool Nat).bind fun now =>
      if deadline ≤ now then .done result.stop
      else (rt.integration.voucherWithResponse site id).timeout.bind fun readback =>
        let result := readingOf rt.integration.codecs.base64 id code result readback
        match readback with
        | none => .done result
        | some _ => verifyVouchers rt site deadline rest (id :: ids) result
  | _ :: rest, ids, result => verifyVouchers rt site deadline rest ids result.fail

/-- `verify_created_vouchers_before_deadline` (tools.rs:10250). -/
def verifyCreatedVouchersBeforeDeadline (rt : Runtime) (site : Text) (requested : Nat) (vouchers : List Voucher) :
    Tool VoucherVerification :=
  (Dialogue.put (Timed.free Ask.elapsed) : Tool Nat).bind fun elapsed =>
    (Dialogue.put (Timed.free Ask.elapsed) : Tool Nat).bind fun now =>
      verifyVouchers rt site (now + readbackBudget rt.requestTimeout elapsed) vouchers []
        ⟨requested == vouchers.length, [], true, none⟩

/-- A readback in time, and the rest behind it. -/
theorem runs_reading {rt : Runtime} {site id code : Text} {deadline now : Nat} {rest : List Voucher} {ids : List Text}
    {result out : VoucherVerification} {answer : Except ApiError (VoucherDetails × Bytes)} {plain : Log} {log : ToolLog}
    (hids : ids.contains id = false) (hnow : now < deadline) (hplain : Runs (rt.integration.voucherWithResponse site id) plain answer)
    (hrest : Runs (verifyVouchers rt site deadline rest (id :: ids) (readingOf rt.integration.codecs.base64 id code result (some answer)))
      log out) :
    Runs (verifyVouchers rt site deadline (⟨some id, some code⟩ :: rest) ids result)
      (⟨.free .elapsed, now⟩ :: (plain.map intime ++ log)) out := by
  rw [verifyVouchers]
  simp only [hids, Bool.false_eq_true, if_false]
  refine runs_bind_iff.2 ⟨[_], _, now, rfl, runs_put_iff.2 rfl, ?_⟩
  rw [if_neg (Nat.not_le.2 hnow)]
  exact runs_bind_iff.2 ⟨_, _, _, rfl, runs_timeout_iff.2 (Or.inl ⟨_, _, rfl, hplain, rfl⟩), hrest⟩

/-- The vouchers that are read back, by id and code. -/
def identified (vouchers : List Voucher) : List (Text × Text) :=
  vouchers.filterMap fun voucher => voucher.id.bind fun id => voucher.code.map fun code => (id, code)

/-- What the readback of one voucher complains about. -/
def complaint (base64 : Bytes → Text) (issued : Text × Text) :
    Except ApiError (VoucherDetails × Bytes) → Option VoucherReadbackFailure
  | .ok (persisted, bytes) =>
    if persisted.id = issued.1 ∧ persisted.code = issued.2 then none else some ⟨issued.1, disagreement base64 bytes⟩
  | .error error => some ⟨issued.1, error.display⟩

def complaints (base64 : Bytes → Text) (issued : List (Text × Text))
    (answers : List (Except ApiError (VoucherDetails × Bytes))) : List VoucherReadbackFailure :=
  (issued.zip answers).filterMap fun pair => complaint base64 pair.1 pair.2

/-- The log holds whole readbacks of the first vouchers, in time and one behind the other, that ended so. -/
inductive Readings (c : Client) (site : Text) : List (Text × Text) → List (Except ApiError (VoucherDetails × Bytes)) → ToolLog → Prop
  | rest {unread : List (Text × Text)} {log : ToolLog} : Readings c site unread [] log
  | read {issued : Text × Text} {unread : List (Text × Text)} {answer : Except ApiError (VoucherDetails × Bytes)}
    {answers : List (Except ApiError (VoucherDetails × Bytes))} {before log : ToolLog} {plain : Log}
    (hplain : Runs (c.voucherWithResponse site issued.1) plain answer) (h : Readings c site unread answers log) :
    Readings c site (issued :: unread) (answer :: answers) (before ++ (plain.map intime ++ log))

theorem Readings.prepend {c : Client} {site : Text} {issued : List (Text × Text)}
    {answers : List (Except ApiError (VoucherDetails × Bytes))} {log : ToolLog} (h : Readings c site issued answers log)
    (before : ToolLog) : Readings c site issued answers (before ++ log) := by
  cases h with
  | rest => exact .rest
  | read hplain h =>
    rw [← List.append_assoc]
    exact .read hplain h

/-- What a verification accounts for, from one result to the next. -/
structure Account (rt : Runtime) (site : Text) (vouchers : List Voucher) (ids : List Text)
    (log : ToolLog) (answers : List (Except ApiError (VoucherDetails × Bytes)))
    (before out : VoucherVerification) : Prop where
  answered : answers.length ≤ (identified vouchers).length
  complete : out.complete = true ↔ answers.length = (identified vouchers).length
  readings : Readings rt.integration site (identified vouchers) answers log
  errors : out.errors = before.errors ++ complaints rt.integration.codecs.base64 (identified vouchers) answers
  stopReason : out.stopReason = if out.complete then before.stopReason else some "deadline".toList
  verified : out.verified = true ↔ before.verified = true ∧ (identified vouchers).length = vouchers.length ∧
    (∀ issued ∈ identified vouchers, issued.1 ∉ ids) ∧ ((identified vouchers).map Prod.fst).Nodup ∧ out.complete = true ∧
    complaints rt.integration.codecs.base64 (identified vouchers) answers = []

section
variable {rt : Runtime} {site : Text} {deadline : Nat} {vouchers : List Voucher} {ids : List Text}
  {log : ToolLog} {result out : VoucherVerification}

theorem identified_length_le : ∀ vouchers : List Voucher, (identified vouchers).length ≤ vouchers.length :=
  fun vouchers => List.length_filterMap_le _ vouchers

/-- A readback in time adds its complaint, if it has one. -/
theorem readingOf_some {base64 : Bytes → Text} {id code : Text} {answer : Except ApiError (VoucherDetails × Bytes)} :
    readingOf base64 id code result (some answer) =
      { result with
        verified := result.verified && (complaint base64 (id, code) answer).isNone
        errors := result.errors ++ (complaint base64 (id, code) answer).toList } := by
  rcases answer with error | ⟨persisted, bytes⟩
  · simp [readingOf, complaint, VoucherVerification.complain]
  · by_cases h : persisted.id = id ∧ persisted.code = code
    · simp [readingOf, complaint, h]
    · simp [readingOf, complaint, VoucherVerification.complain, h]

/-- A voucher without an id or a code is not read. -/
theorem account_skip {voucher : Voucher} (hnone : voucher.id.bind (fun id => voucher.code.map fun code => (id, code)) = none)
    {answers : List (Except ApiError (VoucherDetails × Bytes))} (h : Account rt site vouchers ids log answers result.fail out) :
    Account rt site (voucher :: vouchers) ids log answers result out := by
  have hsame : identified (voucher :: vouchers) = identified vouchers := by
    simp only [identified, List.filterMap_cons, hnone]
  have hle := identified_length_le vouchers
  refine ⟨by rw [hsame]; exact h.answered, by rw [hsame]; exact h.complete, by rw [hsame]; exact h.readings,
    by rw [hsame]; exact h.errors, h.stopReason, ?_⟩
  rw [h.verified, hsame]
  constructor
  · rintro ⟨hfail, -⟩
    cases hfail
  · rintro ⟨-, hlength, -⟩
    rw [List.length_cons] at hlength
    omega

/-- The deadline stops before a voucher is read. -/
theorem account_stop {issued : Text × Text} {voucher : Voucher}
    (hissued : voucher.id.bind (fun id => voucher.code.map fun code => (id, code)) = some issued)
    {stopped : VoucherVerification} (herrors : stopped.errors = result.errors) :
    Account rt site (voucher :: vouchers) ids log [] result stopped.stop := by
  have hcons : identified (voucher :: vouchers) = issued :: identified vouchers := by
    simp only [identified, List.filterMap_cons, hissued]
  refine ⟨Nat.zero_le _, ?_, .rest, by simp [complaints, VoucherVerification.stop, herrors], rfl, ?_⟩
  · simp [hcons, VoucherVerification.stop]
  · simp [VoucherVerification.stop]

theorem account_read {id code : Text} {answer : Except ApiError (VoucherDetails × Bytes)} {before rest : ToolLog}
    {plain : Log} (hplain : Runs (rt.integration.voucherWithResponse site id) plain answer)
    {answers : List (Except ApiError (VoucherDetails × Bytes))}
    (h : Account rt site vouchers (id :: ids) rest answers (readingOf rt.integration.codecs.base64 id code
      (if ids.contains id then result.fail else result) (some answer)) out) :
    Account rt site (⟨some id, some code⟩ :: vouchers) ids (before ++ (plain.map intime ++ rest)) (answer :: answers) result out := by
  have hcons : identified (⟨some id, some code⟩ :: vouchers) = (id, code) :: identified vouchers := rfl
  have hstep : ∀ r : VoucherVerification, (if ids.contains id then r.fail else r) =
      { r with verified := r.verified && !ids.contains id } := by
    intro r
    cases hin : ids.contains id with
    | true => simp [VoucherVerification.fail]
    | false => simp
  have hcomplaints : complaints rt.integration.codecs.base64 ((id, code) :: identified vouchers) (answer :: answers) =
      (complaint rt.integration.codecs.base64 (id, code) answer).toList ++
        complaints rt.integration.codecs.base64 (identified vouchers) answers := by
    rw [complaints, List.zip_cons_cons, List.filterMap_cons]
    cases complaint rt.integration.codecs.base64 (id, code) answer <;> rfl
  rw [hstep, readingOf_some] at h
  refine ⟨by simpa [hcons] using h.answered, by simpa [hcons] using h.complete, ?_, ?_, h.stopReason, ?_⟩
  · rw [hcons]
    exact .read hplain h.readings
  · rw [hcons, hcomplaints, h.errors, List.append_assoc]
  · rw [h.verified, hcons, hcomplaints]
    have hcomplaint : (complaint rt.integration.codecs.base64 (id, code) answer).isNone = true ↔
        (complaint rt.integration.codecs.base64 (id, code) answer).toList = [] := by
      cases complaint rt.integration.codecs.base64 (id, code) answer <;> simp
    simp only [Bool.and_eq_true, Bool.not_eq_true', List.contains_eq_mem, decide_eq_false_iff_not, List.length_cons,
      Nat.add_right_cancel_iff, List.mem_cons, forall_eq_or_imp, List.map_cons, List.nodup_cons, not_or,
      List.append_eq_nil_iff, hcomplaint, List.mem_map]
    constructor
    · rintro ⟨⟨⟨hv, hid⟩, hnone⟩, hlength, hids, hnodup, hcomplete, hrest⟩
      refine ⟨hv, hlength, ⟨hid, fun issued hissued => (hids issued hissued).2⟩, ⟨?_, hnodup⟩, hcomplete, hnone, hrest⟩
      rintro ⟨issued, hissued, heq⟩
      exact (hids issued hissued).1 heq
    · rintro ⟨hv, hlength, ⟨hid, hids⟩, ⟨hnew, hnodup⟩, hcomplete, hnone, hrest⟩
      exact ⟨⟨⟨hv, hid⟩, hnone⟩, hlength, fun issued hissued => ⟨fun heq => hnew ⟨issued, hissued, heq⟩, hids issued hissued⟩,
        hnodup, hcomplete, hrest⟩

/-- Every run of the loop accounts for the vouchers it was given. -/
theorem account_of_run (hcomplete : result.complete = true)
    (h : Runs (verifyVouchers rt site deadline vouchers ids result) log out) :
    ∃ answers, Account rt site vouchers ids log answers result out := by
  induction vouchers generalizing ids log result with
  | nil =>
    obtain ⟨rfl, rfl⟩ := runs_done_iff.1 h
    exact ⟨[], by simp, by simp [identified, hcomplete], .rest, by simp [complaints, identified], by simp [hcomplete],
      by simp [identified, complaints, hcomplete]⟩
  | cons voucher rest ih =>
    rcases voucher with ⟨id | id, code⟩
    · obtain ⟨answers, haccount⟩ := @ih _ _ result.fail hcomplete h
      exact ⟨answers, account_skip rfl haccount⟩
    rcases code with - | code
    · obtain ⟨answers, haccount⟩ := @ih _ _ result.fail hcomplete h
      exact ⟨answers, account_skip rfl haccount⟩
    obtain ⟨clock, more, now, rfl, hclock, hmore⟩ := runs_bind_iff.1 h
    have hstep : (if ids.contains id then result.fail else result).errors = result.errors := by
      split <;> rfl
    by_cases hdeadline : deadline ≤ now
    · rw [if_pos hdeadline] at hmore
      obtain ⟨rfl, rfl⟩ := runs_done_iff.1 hmore
      exact ⟨[], account_stop rfl hstep⟩
    · rw [if_neg hdeadline] at hmore
      obtain ⟨readback, after, ended, rfl, hread, hafter⟩ := runs_bind_iff.1 hmore
      obtain ⟨plain, answer, rfl, hplain, rfl⟩ | ⟨plain, question, next, -, -, rfl⟩ := runs_timeout_iff.1 hread
      · have hkept : (readingOf rt.integration.codecs.base64 id code (if ids.contains id then result.fail else result)
            (some answer)).complete = true := by
          rw [readingOf_some]
          split <;> exact hcomplete
        obtain ⟨answers, haccount⟩ := ih hkept hafter
        exact ⟨answer :: answers, account_read hplain haccount⟩
      · obtain ⟨rfl, rfl⟩ := runs_done_iff.1 hafter
        exact ⟨[], account_stop rfl hstep⟩

end

/-! ## Creation -/

/-- `VouchersCreateOutput` (tools.rs:4165), before large fields move to content blocks. -/
structure VouchersCreateOutput where
  applied : Bool
  batch : VoucherBatch
  requested : Nat
  responseStatus : Option Nat
  responseBody : Option Text
  vouchers : Option (List Voucher)
  checks : Option VoucherChecks
  verified : Option Bool
  readbackErrors : List VoucherReadbackFailure
  readbackComplete : Option Bool
  readbackStopReason : Option Text
  warnings : List Text

def CREDENTIAL_WARNING : Text := ("each voucher code is a guest network credential; codes can also be read through ".toList ++
  "vouchers.search and vouchers.status".toList)

def UNVERIFIED_WARNING : Text := ("not every created voucher could be read back with the same id and code; inspect ".toList ++
  "vouchers.status or vouchers.search".toList)

def VoucherBatch.preview (batch : VoucherBatch) : VouchersCreateOutput :=
  ⟨false, batch, batch.count, none, none, none, none, none, [], none, none, [CREDENTIAL_WARNING]⟩

/-- The report of an accepted creation (tools.rs:10376-10425). -/
def created (rt : Runtime) (batch : VoucherBatch) (site : Text) : List Voucher × Nat × Bytes → Tool VouchersCreateOutput
  | (vouchers, status, body) =>
    (verifyCreatedVouchersBeforeDeadline rt site batch.count vouchers).map fun verification =>
      { applied := true, batch, requested := batch.count, responseStatus := some status,
        responseBody := some (fromControllerBytes rt.integration.codecs.base64 body),
        vouchers := some vouchers, checks := some (voucherChecks batch.count vouchers),
        verified := some verification.verified, readbackErrors := verification.errors,
        readbackComplete := some verification.complete, readbackStopReason := verification.stopReason,
        warnings := CREDENTIAL_WARNING ::
          (if !verification.verified && verification.errors.isEmpty then [UNVERIFIED_WARNING] else []) }

/-- `vouchers_create` (tools.rs:10329). -/
def vouchersCreate (rt : Runtime) (input : VouchersCreateInput) : Tool (Except McpError VouchersCreateOutput) :=
  match voucherBatch input with
  | .error error => .done (.error error)
  | .ok batch =>
    if MAXIMUM_VOUCHER_REQUEST_BYTES < byteLen batch.request.body.write then
      .done (.error (.invalidParams "serialized voucher request exceeds the 1 MiB transport bound".toList))
    else if !input.confirm.getD false then .done (.ok batch.preview)
    else writeOnce rt (fun site => rt.integration.createVouchersWithResponse site batch.request) (created rt batch)

/-- The readback shows the voucher as it was issued. -/
def Agrees (issued : Text × Text) (answer : Except ApiError (VoucherDetails × Bytes)) : Prop :=
  ∃ persisted bytes, answer = .ok (persisted, bytes) ∧ persisted.id = issued.1 ∧ persisted.code = issued.2

theorem complaint_eq_none_iff {base64 : Bytes → Text} {issued : Text × Text}
    {answer : Except ApiError (VoucherDetails × Bytes)} : complaint base64 issued answer = none ↔ Agrees issued answer := by
  rcases answer with error | ⟨persisted, bytes⟩
  · constructor
    · intro h
      cases h
    · rintro ⟨persisted, bytes, h, -⟩
      cases h
  · rw [complaint]
    constructor
    · intro h
      split at h
      · rename_i hsame
        exact ⟨persisted, bytes, rfl, hsame.1, hsame.2⟩
      · cases h
    · rintro ⟨persisted', bytes', h, hid, hcode⟩
      cases h
      exact if_pos ⟨hid, hcode⟩

/-- No complaint about as many readbacks as vouchers: all agree. -/
theorem complaints_eq_nil_iff {base64 : Bytes → Text} : ∀ {issued : List (Text × Text)}
    {answers : List (Except ApiError (VoucherDetails × Bytes))}, answers.length = issued.length →
    (complaints base64 issued answers = [] ↔ List.Forall₂ Agrees issued answers)
  | [], [], _ => by simp [complaints]
  | [], _ :: _, h => by cases h
  | _ :: _, [], h => by cases h
  | i :: issued, a :: answers, h => by
    have ih := @complaints_eq_nil_iff base64 issued answers (by simpa using h)
    rw [List.forall₂_cons, ← ih, ← @complaint_eq_none_iff base64, complaints, List.zip_cons_cons, List.filterMap_eq_nil_iff,
      List.forall_mem_cons, complaints, List.filterMap_eq_nil_iff]

theorem identified_length_iff (vouchers : List Voucher) : (identified vouchers).length = vouchers.length ↔
    ∀ voucher ∈ vouchers, ∃ id code, voucher = ⟨some id, some code⟩ := by
  induction vouchers with
  | nil => simp [identified]
  | cons voucher rest ih =>
    have hskip : identified (voucher :: rest) = identified rest → (∀ id code, voucher ≠ ⟨some id, some code⟩) →
        ((identified (voucher :: rest)).length = (voucher :: rest).length ↔
          ∀ v ∈ voucher :: rest, ∃ id code, v = ⟨some id, some code⟩) := by
      intro hsame hnone
      have hle := identified_length_le rest
      rw [hsame, List.length_cons]
      refine iff_of_false (by omega) fun h => ?_
      obtain ⟨id, code, heq⟩ := h _ List.mem_cons_self
      exact hnone id code heq
    rcases voucher with ⟨_ | id, _ | code⟩
    · exact hskip rfl fun _ _ h => (by cases h)
    · exact hskip rfl fun _ _ h => (by cases h)
    · exact hskip rfl fun _ _ h => (by cases h)
    · have hsame : identified (⟨some id, some code⟩ :: rest) = (id, code) :: identified rest := rfl
      rw [hsame, List.length_cons, List.length_cons, Nat.add_right_cancel_iff, ih, List.forall_mem_cons]
      exact ⟨fun h => ⟨⟨id, code, rfl⟩, h⟩, And.right⟩

/-- The creation was accepted, and the report has its status, its body and the vouchers in it. -/
def Minted (c : Client) (answer : Answer) (vouchers : List Voucher) (output : VouchersCreateOutput) : Prop :=
  ∃ status body, (c.received answer).bind Client.accepted = .ok (status, body) ∧ c.readCreated body = .ok vouchers ∧
    output.responseStatus = some status ∧ output.responseBody = some (fromControllerBytes c.codecs.base64 body) ∧
    output.vouchers = some vouchers

/-- Every readback is accounted for, in the log behind the creation. -/
structure Accounted (c : Client) (site : Text) (batch : VoucherBatch) (log : ToolLog) (vouchers : List Voucher)
    (answers : List (Except ApiError (VoucherDetails × Bytes))) (output : VouchersCreateOutput) : Prop where
  readings : Readings c site (identified vouchers) answers log
  errors : output.readbackErrors = complaints c.codecs.base64 (identified vouchers) answers
  complete : output.readbackComplete = some (decide (answers.length = (identified vouchers).length))
  stopReason : output.readbackStopReason = if answers.length = (identified vouchers).length then none else some "deadline".toList
  verified : output.verified = some true ↔ vouchers.length = batch.count ∧
    (∀ voucher ∈ vouchers, ∃ id code, voucher = ⟨some id, some code⟩) ∧ ((identified vouchers).map Prod.fst).Nodup ∧
    List.Forall₂ Agrees (identified vouchers) answers

section
variable {rt : Runtime} {site : Text} {log : ToolLog}

theorem account_of_verification {requested : Nat} {vouchers : List Voucher} {out : VoucherVerification}
    (h : Runs (verifyCreatedVouchersBeforeDeadline rt site requested vouchers) log out) :
    ∃ answers, Account rt site vouchers [] log answers ⟨requested == vouchers.length, [], true, none⟩ out := by
  obtain ⟨clock, rest, elapsed, rfl, -, hrest⟩ := runs_bind_iff.1 h
  obtain ⟨clock', loop, now, rfl, -, hloop⟩ := runs_bind_iff.1 hrest
  obtain ⟨answers, haccount⟩ := account_of_run rfl hloop
  exact ⟨answers, { haccount with readings := (haccount.readings.prepend clock').prepend clock }⟩

theorem accounted_of_created {batch : VoucherBatch} {vouchers : List Voucher} {status : Nat} {body : Bytes}
    {output : VouchersCreateOutput} (h : Runs (created rt batch site (vouchers, status, body)) log output) :
    ∃ answers, Accounted rt.integration site batch log vouchers answers output := by
  obtain ⟨out, hout, rfl⟩ := runs_map_iff.1 h
  obtain ⟨answers, haccount⟩ := account_of_verification hout
  have hcomplete : out.complete = decide (answers.length = (identified vouchers).length) := by
    rw [Bool.eq_iff_iff, haccount.complete, decide_eq_true_iff]
  refine ⟨answers, haccount.readings, haccount.errors, by rw [hcomplete], ?_, ?_⟩
  · rw [haccount.stopReason, hcomplete]
    simp only [decide_eq_true_eq]
  · rw [Option.some.injEq, haccount.verified, haccount.complete, identified_length_iff]
    have hcount : (batch.count == vouchers.length) = true ↔ vouchers.length = batch.count := by
      rw [beq_iff_eq]
      exact eq_comm
    simp only [hcount, List.not_mem_nil, not_false_eq_true, implies_true, true_and]
    refine and_congr_right fun _ => and_congr_right fun _ => and_congr_right fun _ => ⟨?_, fun hall => ?_⟩
    · rintro ⟨hlength, hnone⟩
      exact (complaints_eq_nil_iff hlength).1 hnone
    · have hlength := hall.length_eq.symm
      exact ⟨hlength, (complaints_eq_nil_iff hlength).2 hall⟩

/-- The creation in the run: its address, its answer and what the report takes from it. -/
theorem minted_of_runs {batch : VoucherBatch} {sending : Log} {rest : ToolLog} {vouchers : List Voucher} {status : Nat}
    {body : Bytes} {output : VouchersCreateOutput}
    (hsending : Runs (rt.integration.createVouchersWithResponse site batch.request) sending (.ok (vouchers, status, body)))
    (h : Runs (created rt batch site (vouchers, status, body)) rest output) :
    ∃ url answer, rt.integration.endpoint (onSite site VOUCHERS) [] = .ok url ∧
      sending = [sent ⟨.post, url, some batch.request.body⟩ answer] ∧ Minted rt.integration answer vouchers output := by
  obtain ⟨out, -, rfl⟩ := runs_map_iff.1 h
  obtain ⟨whole, hwhole, heq⟩ := runs_map_iff.1 hsending
  obtain ⟨error, -, -, rfl⟩ | ⟨url, answer, hurl, rfl, rfl⟩ := Client.runs_submit_iff.1 hwhole
  · cases heq
  · cases hanswer : (rt.integration.received answer).bind Client.accepted with
    | error error =>
      rw [hanswer] at heq
      cases heq
    | ok accepted =>
      obtain ⟨status', body'⟩ := accepted
      rw [hanswer] at heq
      simp only [Except.bind, Client.readAccepted] at heq
      cases hread : rt.integration.readCreated body' with
      | error refusal =>
        rw [hread] at heq
        cases heq
      | ok created =>
        rw [hread] at heq
        cases heq
        exact ⟨url, answer, hurl, rfl, status, body, hanswer, hread, rfl, rfl, rfl⟩

/-! ## Two vouchers -/

def consoleRuntime : Runtime := ⟨consoleClient, "default".toList, 30000⟩

def guestInput : VouchersCreateInput := ⟨"guest".toList, 2, 60, none, none, none, none, some true⟩

def guestBatch : VoucherBatch := ⟨"guest".toList, 2, 60, none, none, none, none⟩

def guestVouchers : List Voucher := [⟨some "v1".toList, some "0001".toList⟩, ⟨some "v2".toList, some "0002".toList⟩]

def mintedBody : Bytes := utf8 ("\x7b\"vouchers\":[\x7b\"id\":\"v1\",\"code\":\"0001\"\x7d,".toList ++
  "\x7b\"id\":\"v2\",\"code\":\"0002\"\x7d]\x7d".toList)

/-- A voucher as its detail endpoint shows it. -/
def detailBody (id code : Text) : Bytes := utf8 ("\x7b\"id\":\"".toList ++ id ++ "\",\"code\":\"".toList ++ code ++
  "\",\"name\":\"guest\",\"createdAt\":\"2026-01-01T00:00:00Z\",\"expired\":false,".toList ++
  "\"authorizedGuestCount\":0,\"timeLimitMinutes\":60\x7d".toList)

def detailRequest (id : Text) : Request := underRoot .get (onSite "home".toList (VOUCHERS ++ [id])) [] none

/-- The first voucher is shown as it was issued, the second with another code. -/
def guestReadbacks : ToolLog :=
  [⟨.free .elapsed, Nat.zero⟩, ⟨.free .elapsed, Nat.zero⟩] ++
    (⟨.free .elapsed, Nat.zero⟩ :: ([sent (detailRequest "v1".toList) (answered (detailBody "v1".toList "0001".toList))].map intime ++
      ⟨.free .elapsed, Nat.zero⟩ :: [sent (detailRequest "v2".toList) (answered (detailBody "v2".toList "0003".toList))].map intime))

/-- The batch is created and its vouchers read back. -/
def guestCreation : ToolLog :=
  consoleSite.map freely ++
    ([sent (underRoot .post (onSite "home".toList VOUCHERS) [] (some guestBatch.request.body)) (answered mintedBody)].map freely ++
      guestReadbacks)

def guestDetails (id code : Text) : VoucherDetails := ⟨id, code, "guest".toList, false, 0⟩

theorem runs_detail {id code : Text}
    (hread : (consoleClient.received (answered (detailBody id code))).bind (consoleClient.decoded consoleClient.readVoucher) =
      .ok (guestDetails id code, detailBody id code))
    (hurl : consoleClient.endpoint (onSite "home".toList (VOUCHERS ++ [id])) [] = .ok (detailRequest id).url) :
    Runs (consoleClient.voucherWithResponse "home".toList id) [sent (detailRequest id) (answered (detailBody id code))]
      (.ok (guestDetails id code, detailBody id code)) := by
  rw [← hread, Client.voucherWithResponse, Client.getJsonWithResponse, hurl]
  exact .step (.refl _)

theorem guest_first : Runs (consoleClient.voucherWithResponse "home".toList "v1".toList)
    [sent (detailRequest "v1".toList) (answered (detailBody "v1".toList "0001".toList))]
    (.ok (guestDetails "v1".toList "0001".toList, detailBody "v1".toList "0001".toList)) :=
  runs_detail (by decide +kernel) rfl

theorem guest_second : Runs (consoleClient.voucherWithResponse "home".toList "v2".toList)
    [sent (detailRequest "v2".toList) (answered (detailBody "v2".toList "0003".toList))]
    (.ok (guestDetails "v2".toList "0003".toList, detailBody "v2".toList "0003".toList)) :=
  runs_detail (by decide +kernel) rfl

def guestFailure : VoucherReadbackFailure := ⟨"v2".toList, disagreement Base64.encode (detailBody "v2".toList "0003".toList)⟩

theorem guest_verification : Runs (verifyCreatedVouchersBeforeDeadline consoleRuntime "home".toList 2 guestVouchers) guestReadbacks
    ⟨false, [guestFailure], true, none⟩ := by
  have hlast : readingOf consoleRuntime.integration.codecs.base64 "v2".toList "0002".toList
      (readingOf consoleRuntime.integration.codecs.base64 "v1".toList "0001".toList ⟨true, [], true, none⟩
        (some (.ok (guestDetails "v1".toList "0001".toList, detailBody "v1".toList "0001".toList))))
      (some (.ok (guestDetails "v2".toList "0003".toList, detailBody "v2".toList "0003".toList))) =
      ⟨false, [guestFailure], true, none⟩ := by
    rw [readingOf, if_neg (by decide), readingOf, if_pos (by decide)]
    rfl
  have hlog : guestReadbacks = [⟨.free .elapsed, Nat.zero⟩] ++ ([⟨.free .elapsed, Nat.zero⟩] ++ (⟨.free .elapsed, Nat.zero⟩ ::
      ([sent (detailRequest "v1".toList) (answered (detailBody "v1".toList "0001".toList))].map intime ++
        (⟨.free .elapsed, Nat.zero⟩ ::
          ([sent (detailRequest "v2".toList) (answered (detailBody "v2".toList "0003".toList))].map intime ++ []))))) := rfl
  rw [hlog]
  refine runs_bind_iff.2 ⟨_, _, Nat.zero, rfl, runs_put_iff.2 rfl, runs_bind_iff.2 ⟨_, _, Nat.zero, rfl, runs_put_iff.2 rfl, ?_⟩⟩
  exact runs_reading (by decide) (by decide) guest_first
    (runs_reading (by decide) (by decide) guest_second (runs_done_iff.2 ⟨rfl, hlast.symm⟩))

def guestCreated : VouchersCreateOutput :=
  { applied := true, batch := guestBatch, requested := 2, responseStatus := some 200,
    responseBody := some (fromControllerBytes Base64.encode mintedBody), vouchers := some guestVouchers,
    checks := some (voucherChecks 2 guestVouchers), verified := some false, readbackErrors := [guestFailure],
    readbackComplete := some true, readbackStopReason := none, warnings := [CREDENTIAL_WARNING] }

theorem guest_creation : Runs (vouchersCreate consoleRuntime guestInput) guestCreation (.ok guestCreated) := by
  have hbatch : voucherBatch guestInput = .ok guestBatch := by decide
  have hread : ((consoleClient.received (answered mintedBody)).bind Client.accepted).bind
      (consoleClient.readAccepted consoleClient.readCreated) = .ok (guestVouchers, 200, mintedBody) := by
    decide +kernel
  have hsending : Runs (consoleClient.createVouchersWithResponse "home".toList guestBatch.request)
      [sent (underRoot .post (onSite "home".toList VOUCHERS) [] (some guestBatch.request.body)) (answered mintedBody)]
      (.ok (guestVouchers, 200, mintedBody)) := by
    rw [← hread]
    exact .step (.refl _)
  rw [vouchersCreate, hbatch]
  simp only
  rw [if_neg (by decide), if_neg (by decide)]
  exact runs_writeOnce_iff.2 (Or.inr ⟨consoleSite, "home".toList, console_site, Or.inr ⟨_, (guestVouchers, 200, mintedBody), _,
    guestCreated, rfl, hsending, runs_map_iff.2 ⟨_, guest_verification, rfl⟩, rfl⟩⟩)

/-! ## The account of a creation -/

/-- **A confirmed creation accounts for every voucher**: the minted vouchers are reported as they were answered, the
readbacks on the same site follow the creation and one another in the order of the vouchers, every complaint is theirs,
and `verified` says neither more nor less. -/
theorem creation_accounts {input : VouchersCreateInput} {output : VouchersCreateOutput}
    (h : Runs (vouchersCreate rt input) log (.ok output)) (happlied : output.applied = true) :
    ∃ batch site url answer before behind vouchers answers, voucherBatch input = .ok batch ∧
      rt.integration.endpoint (onSite site VOUCHERS) [] = .ok url ∧
      log = before ++ freely (sent ⟨.post, url, some batch.request.body⟩ answer) :: behind ∧
      Minted rt.integration answer vouchers output ∧ Accounted rt.integration site batch behind vouchers answers output := by
  rw [vouchersCreate] at h
  cases hbatch : voucherBatch input with
  | error error =>
    rw [hbatch] at h
    cases (runs_done_iff.1 h).2
  | ok batch =>
    simp only [hbatch] at h
    split at h
    · cases (runs_done_iff.1 h).2
    · split at h
      · obtain ⟨-, heq⟩ := runs_done_iff.1 h
        cases heq
        cases happlied
      · obtain ⟨first, error, -, -, heq⟩ | ⟨first, site, -, ⟨sending, error, -, -, heq⟩ |
          ⟨sending, ⟨vouchers, status, body⟩, rest, output', rfl, hsending, hreport, heq⟩⟩ := runs_writeOnce_iff.1 h
        · cases heq
        · cases heq
        · cases heq
          obtain ⟨answers, haccounted⟩ := accounted_of_created hreport
          obtain ⟨url, answer, hurl, rfl, hminted⟩ := minted_of_runs hsending hreport
          exact ⟨batch, site, url, answer, first.map freely, rest, vouchers, answers, rfl, hurl, rfl, hminted, haccounted⟩

theorem creation_accounts_pair : ∃ batch site url answer before behind vouchers answers, voucherBatch guestInput = .ok batch ∧
    consoleClient.endpoint (onSite site VOUCHERS) [] = .ok url ∧
    guestCreation = before ++ freely (sent ⟨.post, url, some batch.request.body⟩ answer) :: behind ∧
    Minted consoleClient answer vouchers guestCreated ∧ Accounted consoleClient site batch behind vouchers answers guestCreated :=
  creation_accounts guest_creation rfl

end

/-! ## Revocation -/

/-- `VoucherRevokeOutput` (tools.rs:4020), before large fields move to content blocks. -/
structure VoucherRevokeOutput where
  voucherId : Text
  name : Text
  expired : Bool
  authorizedGuestCount : Nat
  applied : Bool
  responseStatus : Option Nat
  responseBody : Option Text
  verified : Option Bool
  readbackError : Option Text
  warnings : List Text

/-- `ApiError::DecodeResponse` of an answer that was accepted, as its text. -/
def answerError (base64 : Bytes → Text) (bytes : Bytes) (diagnostic : Text) : Text :=
  (ApiError.decodeResponse (fromControllerBytes base64 bytes) (boundedMessage diagnostic)).display

def STILL_EXISTS : Text := "controller acknowledged deletion but the voucher still exists".toList

/-- What the readback of a deleted voucher adds (tools.rs:10189-10243). -/
def voucherAbsence (base64 : Bytes → Text) (id : Text) (output : VoucherRevokeOutput) :
    Readback ApiError (VoucherDetails × Bytes) → VoucherRevokeOutput
  | .skipped => { output with readbackError := some "voucher readback skipped near request deadline".toList }
  | .timedOut => { output with readbackError := some "voucher readback timed out".toList }
  | .answered (.error error) =>
    let output := { output with readbackError := some error.display }
    match error with
    | .status 404 _ => { output with verified := some true }
    | _ => output
  | .answered (.ok (voucher, bytes)) =>
    if voucher.id ≠ id then
      { output with readbackError := some (answerError base64 bytes "controller voucher readback returned a different id".toList) }
    else
      { output with
        readbackError := some (answerError base64 bytes STILL_EXISTS), verified := some false, warnings := [STILL_EXISTS] }

/-- `vouchers_revoke` behind the site (tools.rs:10148-10244). -/
def revokeVoucher (rt : Runtime) (id : Text) (confirm : Bool) (site : Text) : Tool (Except McpError VoucherRevokeOutput) :=
  let base64 := rt.integration.codecs.base64
  ((rt.integration.voucherWithResponse site id).untimed.map mapError).tryBind fun (voucher, bytes) =>
    if voucher.id ≠ id then
      .done (.error (pageValidationError (fromControllerBytes base64 bytes) "controller returned a different voucher id".toList))
    else
      let output : VoucherRevokeOutput :=
        ⟨voucher.id, voucher.name, voucher.expired, voucher.authorizedGuestCount, false, none, none, none, none, []⟩
      if !confirm then .done (.ok output)
      else ((rt.integration.deleteVoucher site id).untimed.map mapError).tryBind fun (status, body) =>
        let output := { output with
          applied := true, responseStatus := some status, responseBody := some (fromControllerBytes base64 body) }
        (readBack rt (rt.integration.voucherWithResponse site id)).map fun ended => .ok (voucherAbsence base64 id output ended)

/-- `vouchers_revoke` (tools.rs:10148). -/
def vouchersRevoke (rt : Runtime) (voucher : Text) (confirm : Bool) : Tool (Except McpError VoucherRevokeOutput) :=
  match voucherId voucher with
  | .error error => .done (.error error)
  | .ok id => (siteId rt.integration rt.legacySite).untimed.tryBind (revokeVoucher rt id confirm)

/-! ## Revocation by filter -/

/-- `VouchersRevokeMatchingInput` (tools.rs:3969); its defaults are filled in. -/
structure VouchersRevokeMatchingInput where
  filter : Text
  previewOffset : Nat
  previewLimit : Nat
  confirm : Bool

/-- `VouchersRevokeMatchingOutput` (tools.rs:3986), before large fields move to content blocks. -/
structure VouchersRevokeMatchingOutput where
  pageCounts : PageCounts
  filter : Text
  matchesBefore : Nat
  previewComplete : Bool
  applied : Bool
  beforeResponse : Option Text
  responseStatus : Option Nat
  responseBody : Option Text
  vouchersDeleted : Option Nat
  matchesAfter : Option Nat
  verifiedAbsent : Option Bool
  afterResponse : Option Text
  readbackError : Option Text

/-- `voucher_limit` (tools.rs:98). -/
def voucherLimit (requested : Nat) : Nat := min requested MAXIMUM_VOUCHER_LIMIT

/-- The condition of `validate_voucher_records_page` (tools.rs:14536). -/
def inconsistentVouchers (page : Page Json) (offset limit : Nat) : Bool :=
  page.offset != offset || page.limit == 0 || voucherLimit limit < page.limit || page.count != page.data.length ||
    page.limit < page.count || (page.count != 0 && page.totalCount < saturatingAdd page.offset page.count) ||
    (page.count == 0 && page.offset < page.totalCount)

def INCONSISTENT_PAGE : Text := "controller returned an inconsistent voucher page".toList

/-- The message of `page_validation_error`. -/
def errorMessage : McpError → Text
  | .invalidParams message => message
  | .internalError message => message

/-- What the readback behind a deletion by filter adds (tools.rs:10110-10132). -/
def matchesAbsence (base64 : Bytes → Text) (output : VouchersRevokeMatchingOutput) :
    Readback ApiError (Page Json × Bytes) → VouchersRevokeMatchingOutput
  | .skipped => { output with readbackError := some "voucher filter readback skipped near request deadline".toList }
  | .timedOut => { output with readbackError := some "voucher filter readback timed out".toList }
  | .answered (.error error) => { output with readbackError := some error.display }
  | .answered (.ok (after, bytes)) =>
    let response := fromControllerBytes base64 bytes
    let output := { output with afterResponse := some response }
    if inconsistentVouchers after 0 1 then
      { output with readbackError := some (errorMessage (pageValidationError response INCONSISTENT_PAGE)) }
    else { output with matchesAfter := some after.totalCount, verifiedAbsent := some (after.totalCount == 0) }

/-- `Value::as_u64`. -/
def asU64 : Json → Option Nat
  | .number spelling => parseU64 spelling
  | _ => none

/-- `vouchers_revoke_matching` behind the site (tools.rs:10046-10134). -/
def revokeMatching (rt : Runtime) (input : VouchersRevokeMatchingInput) (site : Text) :
    Tool (Except McpError VouchersRevokeMatchingOutput) :=
  let base64 := rt.integration.codecs.base64
  ((rt.integration.voucherRecords site ⟨input.previewOffset, voucherLimit input.previewLimit⟩
      (some input.filter)).untimed.map mapError).tryBind fun (before, bytes) =>
    let response := fromControllerBytes base64 bytes
    if inconsistentVouchers before input.previewOffset input.previewLimit then
      .done (.error (pageValidationError response INCONSISTENT_PAGE))
    else
      let output : VouchersRevokeMatchingOutput :=
        { pageCounts := ⟨input.previewLimit, before.limit, before.data.length⟩, filter := input.filter,
          matchesBefore := before.totalCount,
          previewComplete := before.offset == 0 && before.count == before.totalCount,
          applied := false, beforeResponse := some response, responseStatus := none, responseBody := none,
          vouchersDeleted := none, matchesAfter := none, verifiedAbsent := none, afterResponse := none,
          readbackError := none }
      if !input.confirm then .done (.ok output)
      else ((rt.integration.deleteMatchingVouchers site input.filter).untimed.map mapError).tryBind fun (status, body) =>
        let output := { output with
          applied := true, responseStatus := some status,
          vouchersDeleted := ((rt.integration.codecs.fromSlice body).bind (Json.get "vouchersDeleted".toList)).bind asU64,
          responseBody := some (fromControllerBytes base64 body) }
        (readBack rt (rt.integration.voucherRecords site ⟨0, 1⟩ (some input.filter))).map fun ended =>
          .ok (matchesAbsence base64 output ended)

/-- `vouchers_revoke_matching` (tools.rs:10035). -/
def vouchersRevokeMatching (rt : Runtime) (input : VouchersRevokeMatchingInput) :
    Tool (Except McpError VouchersRevokeMatchingOutput) :=
  if (trim input.filter).isEmpty ∨ 2048 < byteLen input.filter ∨ 2147483647 < input.previewOffset ∨ input.previewLimit = 0 then
    .done (.error (.invalidParams ("filter must be nonempty and at most 2048 bytes; previewOffset must fit a nonnegative ".toList ++
      "32-bit integer; previewLimit must be positive".toList)))
  else (siteId rt.integration rt.legacySite).untimed.tryBind (revokeMatching rt input)

end UnifiMcp.Integration

import UnifiMcp.Mcp.NetworkServer
/-! # What a call reports, and what it did (unifi-mcp/src/tools.rs:8292-8666, 9951-10430)

A client acts on the answer of a call: whether something was applied, with which status, or an error. The answer is held
against the exchanges of the run that gave it.

* `runs_submitted` — a write behind a known site, and the answer it got.
* `reports_honest` — **an answer never says more or less than happened**: an unconfirmed call changed nothing, a confirmed
  one that succeeds sent one change which was accepted, and an error has no accepted change behind it.
* `verdict_shown` — **a verdict has a readback behind it**: what an answer says was verified was read behind the change. -/
namespace UnifiMcp.Integration
open Text Dialogue Timed

/-! ## Changes in a log -/

/-- A change that went out, with its answer if one came. -/
def changeIn : Exchange (Timed.Answer Ask.Reply) → Option (Request × Option Answer)
  | ⟨.free (.send request), answer⟩ => if request.method = .get then none else some (request, some answer)
  | ⟨.due (.send request), answer⟩ => if request.method = .get then none else some (request, answer)
  | _ => none

def changesIn (log : ToolLog) : List (Request × Option Answer) := log.filterMap changeIn

theorem changeIn_of_not_isMutation {x : Exchange (Timed.Answer Ask.Reply)} (h : x.1.question.isMutation = false) :
    changeIn x = none := by
  rcases x with ⟨q | q, a⟩
  all_goals
    cases q with
    | send request =>
      have hget : request.method = .get := by
        by_contra hne
        simp [Timed.question, Ask.isMutation, Ask.mutation, hne] at h
      simp only [changeIn, hget, if_true]
    | sleep delay => rfl
    | elapsed => rfl
    | enter => rfl
    | fill site => rfl
    | leave => rfl

theorem changesIn_eq_nil {log : ToolLog} (h : ∀ x ∈ log, x.1.question.isMutation = false) : changesIn log = [] :=
  List.filterMap_eq_nil_iff.2 fun x hx => changeIn_of_not_isMutation (h x hx)

theorem changesIn_append (first rest : ToolLog) : changesIn (first ++ rest) = changesIn first ++ changesIn rest :=
  List.filterMap_append

/-! ## Runs without a change, and with one -/

/-- Questions that change nothing. -/
def Still {α : Type} (d : Tool α) : Prop := Guarded (fun _ q => q.question.isMutation = false) [] d

section
variable {rt : Runtime} {log : ToolLog}

theorem Still.changesIn {α : Type} {d e : Tool α} (h : Still d) (hd : Reaches d log e) : changesIn log = [] :=
  changesIn_eq_nil (h.forall_mem hd)

theorem still_of_quiet {α : Type} {d : Tool α} {site : Text}
    (h : Guarded (fun _ q => Quiet rt.integration site q.question) [] d) : Still d :=
  h.mono fun _ _ hquiet => hquiet.isMutation

theorem still_siteId : Still (siteId rt.integration rt.legacySite).untimed := by
  refine guarded_untimed (fun _ q => q.isMutation = false) (?_ : Guarded _ [] _) fun _ _ h => h
  refine Guarded.bind (guarded_put rfl) fun _ kept _ => ?_
  cases kept with
  | some site => exact .done
  | none =>
    refine Guarded.bind (guarded_scan (fun _ _ => rfl) fun _ _ _ _ => rfl) fun _ found _ => ?_
    cases found with
    | ok site => exact Guarded.bind (guarded_put rfl) fun _ _ _ => .done
    | error error => exact Guarded.bind (guarded_put rfl) fun _ _ _ => .done

/-- Behind a part that changes nothing. -/
theorem runs_still {α β ε : Type} {d : Tool (Except ε α)} {f : α → Tool (Except ε β)} {r : Except ε β} (hd : Still d)
    (h : Runs (d.tryBind f) log r) :
    (∃ error, changesIn log = [] ∧ r = .error error) ∨ ∃ a rest, changesIn log = changesIn rest ∧ Runs (f a) rest r := by
  obtain ⟨error, herror, rfl⟩ | ⟨first, rest, a, rfl, hfirst, hrest⟩ := runs_tryBind_iff.1 h
  · exact Or.inl ⟨error, hd.changesIn herror, rfl⟩
  · exact Or.inr ⟨a, rest, by rw [changesIn_append, hd.changesIn hfirst, List.nil_append], hrest⟩

/-- **A write behind a known site**: it never went out, it was not read as accepted, or it was and the report follows. -/
theorem runs_submitted {α β : Type} {method : Method} {segments : List Text} {query : List (Text × Text)}
    {body : Option Json} {read : Except ApiError (Nat × Bytes) → Except McpError α}
    {report : α → Tool (Except McpError β)} {r : Except McpError β} (hmethod : method ≠ .get)
    (hread : ∀ error, ∃ error', read (.error error) = .error error') (hreport : ∀ a, Still (report a))
    (h : Runs (((rt.integration.submit method segments query body).untimed.map read).tryBind report) log r) :
    (∃ error, changesIn log = [] ∧ r = .error error) ∨
    ∃ request answer, changesIn log = [(request, some answer)] ∧
      ((∃ error, read ((rt.integration.received answer).bind Client.accepted) = .error error ∧ r = .error error) ∨
        ∃ a rest, read ((rt.integration.received answer).bind Client.accepted) = .ok a ∧ Runs (report a) rest r) := by
  have hsent : ∀ {first : ToolLog} {outcome : Except McpError α},
      Runs ((rt.integration.submit method segments query body).untimed.map read) first outcome →
      (changesIn first = [] ∧ ∃ error, outcome = .error error) ∨
        ∃ request answer, changesIn first = [(request, some answer)] ∧
          outcome = read ((rt.integration.received answer).bind Client.accepted) := by
    intro first outcome hfirst
    obtain ⟨whole, hwhole, rfl⟩ := runs_map_iff.1 hfirst
    obtain ⟨plain, rfl, hplain⟩ := runs_untimed_iff.1 hwhole
    obtain ⟨error, -, rfl, rfl⟩ | ⟨url, answer, -, rfl, rfl⟩ := Client.runs_submit_iff.1 hplain
    · exact Or.inl ⟨rfl, hread error⟩
    · refine Or.inr ⟨⟨method, url, body⟩, answer, ?_, rfl⟩
      simp [changesIn, changeIn, sent, freely, hmethod]
  obtain ⟨error, herror, rfl⟩ | ⟨first, rest, a, rfl, hfirst, hrest⟩ := runs_tryBind_iff.1 h
  · obtain ⟨hnone, -⟩ | ⟨request, answer, hone, heq⟩ := hsent herror
    · exact Or.inl ⟨error, hnone, rfl⟩
    · exact Or.inr ⟨request, answer, hone, Or.inl ⟨error, heq.symm, rfl⟩⟩
  · rw [changesIn_append, (hreport a).changesIn hrest, List.append_nil]
    obtain ⟨-, error, herror⟩ | ⟨request, answer, hone, heq⟩ := hsent hfirst
    · cases herror
    · exact Or.inr ⟨request, answer, hone, Or.inr ⟨a, rest, heq.symm, hrest⟩⟩

end

/-! ## Honest answers -/

namespace ToolOutput

/-- `submitted` or `applied`, as the output has it. -/
def applied : ToolOutput → Bool
  | policy output => output.submitted
  | created output => output.applied
  | revoked output => output.applied
  | revokedMatching output => output.applied

def responseStatus : ToolOutput → Option Nat
  | policy output => output.responseStatus
  | created output => output.responseStatus
  | revoked output => output.responseStatus
  | revokedMatching output => output.responseStatus

end ToolOutput

/-- The body of an accepted write is of the type the call reads; a deletion reads none. -/
def ToolCall.reads (c : Client) (body : Bytes) : ToolCall → Bool
  | policyWrite plan => match plan.change with
    | .delete _ => true
    | _ => (c.readValue body).isOk
  | aclOrder _ _ => (c.readValue body).isOk
  | firewallOrder _ _ _ => (c.readValue body).isOk
  | vouchersCreate _ => (c.readCreated body).isOk
  | vouchersRevoke _ _ => true
  | vouchersRevokeMatching _ => true

/-- How the answer of a call and the changes of its run belong together. -/
inductive Honest (c : Client) (call : ToolCall) : List (Request × Option Answer) → Except McpError ToolOutput → Prop
  | failed (error : McpError) : Honest c call [] (.error error)
  | shown (output : ToolOutput) (hconfirmed : call.confirmed = false) (happlied : output.applied = false)
    (hstatus : output.responseStatus = none) : Honest c call [] (.ok output)
  | refused (request : Request) (answer : Answer) (error : McpError) (hconfirmed : call.confirmed = true)
    (hanswer : ∀ status body, (c.received answer).bind Client.accepted = .ok (status, body) → call.reads c body = false) :
    Honest c call [(request, some answer)] (.error error)
  | applied (request : Request) (answer : Answer) (status : Nat) (body : Bytes) (output : ToolOutput)
    (hconfirmed : call.confirmed = true) (hanswer : (c.received answer).bind Client.accepted = .ok (status, body))
    (hreads : call.reads c body = true) (happlied : output.applied = true) (hstatus : output.responseStatus = some status) :
    Honest c call [(request, some answer)] (.ok output)

section
variable {rt : Runtime} {call : ToolCall} {log : ToolLog}

/-- A write that a call is for, in the terms of its answer. -/
theorem honest_submitted {α β : Type} {method : Method} {segments : List Text} {query : List (Text × Text)}
    {body : Option Json} {read : Except ApiError (Nat × Bytes) → Except McpError α}
    {report : α → Tool (Except McpError β)} {wrap : β → ToolOutput} {r : Except McpError β}
    (hconfirmed : call.confirmed = true) (hmethod : method ≠ .get)
    (hread : ∀ error, ∃ error', read (.error error) = .error error')
    (hreads : ∀ status bytes, (read (.ok (status, bytes))).isOk = call.reads rt.integration bytes)
    (hreport : ∀ a, Still (report a))
    (houtput : ∀ status bytes a rest s, read (.ok (status, bytes)) = .ok a → Runs (report a) rest s →
      ∃ output, s = .ok output ∧ (wrap output).applied = true ∧ (wrap output).responseStatus = some status)
    (h : Runs (((rt.integration.submit method segments query body).untimed.map read).tryBind report) log r) :
    Honest rt.integration call (changesIn log) (r.map wrap) := by
  obtain ⟨error, hnone, rfl⟩ | ⟨request, answer, hone, hrest⟩ := runs_submitted hmethod hread hreport h
  · rw [hnone]
    exact .failed error
  rw [hone]
  obtain ⟨error, herror, rfl⟩ | ⟨a, rest, ha, hrest⟩ := hrest
  · refine .refused request answer error hconfirmed fun status bytes hanswer => ?_
    rw [hanswer] at herror
    rw [← hreads status bytes, herror]
    rfl
  · cases hanswer : (rt.integration.received answer).bind Client.accepted with
    | error original =>
      obtain ⟨error, herror⟩ := hread original
      rw [hanswer, herror] at ha
      cases ha
    | ok accepted =>
      obtain ⟨status, bytes⟩ := accepted
      rw [hanswer] at ha
      obtain ⟨output, rfl, happlied, hstatus⟩ := houtput status bytes a rest r ha hrest
      refine .applied request answer status bytes _ hconfirmed hanswer ?_ happlied hstatus
      rw [← hreads status bytes, ha]
      rfl

/-- A confirmed write from the site on. -/
theorem honest_writeOnce {α β : Type} {method : Method} {rest : List Text} {query : List (Text × Text)} {body : Option Json}
    {read : Except ApiError (Nat × Bytes) → Except ApiError α} {report : Text → α → Tool β} {wrap : β → ToolOutput}
    {r : Except McpError β} (hconfirmed : call.confirmed = true) (hmethod : method ≠ .get)
    (hread : ∀ error, ∃ error', read (.error error) = .error error')
    (hreads : ∀ status bytes, (read (.ok (status, bytes))).isOk = call.reads rt.integration bytes)
    (hreport : ∀ site a, Still (report site a))
    (houtput : ∀ site status bytes a more output, read (.ok (status, bytes)) = .ok a → Runs (report site a) more output →
      (wrap output).applied = true ∧ (wrap output).responseStatus = some status)
    (h : Runs (writeOnce rt (fun site => (rt.integration.submit method (onSite site rest) query body).map read) report)
      log r) : Honest rt.integration call (changesIn log) (r.map wrap) := by
  obtain ⟨error, hnone, rfl⟩ | ⟨site, more, hlog, hmore⟩ := runs_still still_siteId h
  · rw [hnone]
    exact .failed error
  rw [hlog]
  rw [untimed_map, map_map] at hmore
  have hok : ∀ {outcome : Except ApiError α}, (mapError outcome).isOk = outcome.isOk := fun {outcome} => by
    cases outcome <;> rfl
  refine honest_submitted hconfirmed hmethod (fun error => ?_) (fun status bytes => by rw [hok, hreads])
    (fun a => (hreport site a).map _) (fun status bytes a more s ha hs => ?_) hmore
  · obtain ⟨error', herror⟩ := hread error
    exact ⟨apiError error', by rw [herror]; rfl⟩
  · obtain ⟨output, hrun, rfl⟩ := runs_map_iff.1 hs
    cases hoffered : read (.ok (status, bytes)) with
    | error error =>
      rw [hoffered] at ha
      cases ha
    | ok value =>
      rw [hoffered] at ha
      cases ha
      exact ⟨output, rfl, houtput site status bytes _ more output hoffered hrun⟩

/-- A call that reads on the site first. -/
theorem honest_read {α β : Type} {d : Text → Talk (Except ApiError α)} {f : Text → α → Tool (Except McpError β)}
    {wrap : β → ToolOutput} {r : Except McpError β}
    (hd : ∀ site, Guarded (fun _ q => Quiet rt.integration site q) [] (d site))
    (hf : ∀ site a rest s, Runs (f site a) rest s → Honest rt.integration call (changesIn rest) (s.map wrap))
    (h : Runs ((siteId rt.integration rt.legacySite).untimed.tryBind fun site =>
      ((d site).untimed.map mapError).tryBind (f site)) log r) :
    Honest rt.integration call (changesIn log) (r.map wrap) := by
  obtain ⟨error, hnone, rfl⟩ | ⟨site, more, hlog, hmore⟩ := runs_still still_siteId h
  · rw [hnone]
    exact .failed error
  rw [hlog]
  obtain ⟨error, hnone, rfl⟩ | ⟨a, rest, hlog, hrest⟩ :=
    runs_still (still_of_quiet ((quiet_untimed (hd site)).map mapError)) hmore
  · rw [hnone]
    exact .failed error
  rw [hlog]
  exact hf site a rest r hrest

/-! ## Every answer is honest -/

theorem isOk_readAccepted {α : Type} {c : Client} {decode : Bytes → Except Text α} {status : Nat} {bytes : Bytes} :
    ((Except.ok (status, bytes) : Except ApiError (Nat × Bytes)).bind (c.readAccepted decode)).isOk = (decode bytes).isOk := by
  simp only [Except.bind, Client.readAccepted]
  cases decode bytes <;> rfl

theorem readAccepted_decodes {α : Type} {c : Client} {decode : Bytes → Except Text α} {status : Nat} {bytes : Bytes}
    {a : α × Nat × Bytes}
    (h : (Except.ok (status, bytes) : Except ApiError (Nat × Bytes)).bind (c.readAccepted decode) = .ok a) :
    decode bytes = .ok a.1 := by
  simp only [Except.bind, Client.readAccepted] at h
  cases hdecode : decode bytes with
  | error refusal =>
    rw [hdecode] at h
    cases h
  | ok value =>
    rw [hdecode] at h
    cases h
    rfl

theorem readAccepted_eq_ok {α : Type} {c : Client} {decode : Bytes → Except Text α} {status : Nat} {bytes : Bytes}
    {a : α × Nat × Bytes}
    (h : (Except.ok (status, bytes) : Except ApiError (Nat × Bytes)).bind (c.readAccepted decode) = .ok a) :
    a.2.1 = status := by
  simp only [Except.bind, Client.readAccepted] at h
  cases hdecode : decode bytes with
  | error refusal =>
    rw [hdecode] at h
    cases h
  | ok value =>
    rw [hdecode] at h
    cases h
    rfl

theorem recordWritten_applied {plan : NetworkPolicyWritePlan} {requested : Json} {site : Text}
    {accepted : Json × Nat × Bytes} {output : NetworkPolicyWriteOutput}
    (h : Runs (recordWritten rt plan requested site accepted) log output) :
    output.submitted = true ∧ output.responseStatus = some accepted.2.1 := by
  obtain ⟨record, status, bytes⟩ := accepted
  simp only [recordWritten] at h
  split at h
  · obtain ⟨-, rfl⟩ := runs_done_iff.1 h
    exact ⟨rfl, rfl⟩
  · obtain ⟨ended, -, rfl⟩ := runs_map_iff.1 h
    cases ended with
    | skipped => exact ⟨rfl, rfl⟩
    | timedOut => exact ⟨rfl, rfl⟩
    | answered answer => cases answer <;> exact ⟨rfl, rfl⟩

theorem recordDeleted_applied {plan : NetworkPolicyWritePlan} {id site : Text} {accepted : Nat × Bytes}
    {output : NetworkPolicyWriteOutput} (h : Runs (recordDeleted rt plan id site accepted) log output) :
    output.submitted = true ∧ output.responseStatus = some accepted.1 := by
  obtain ⟨status, bytes⟩ := accepted
  obtain ⟨ended, -, rfl⟩ := runs_map_iff.1 h
  cases ended with
  | skipped => exact ⟨rfl, rfl⟩
  | timedOut => exact ⟨rfl, rfl⟩
  | answered answer =>
    cases answer with
    | ok after => exact ⟨rfl, rfl⟩
    | error error =>
      simp only [absenceReport]
      split <;> exact ⟨rfl, rfl⟩

/-- A record that is created or replaced. -/
theorem honest_recordWrite {plan : NetworkPolicyWritePlan} {requested : Json} {method : Method} {rest : List Text}
    {r : Except McpError NetworkPolicyWriteOutput} (hconfirmed : call.confirmed = true) (hmethod : method ≠ .get)
    (hreads : ∀ bytes, call.reads rt.integration bytes = (rt.integration.readValue bytes).isOk)
    (h : Runs (writeOnce rt (fun site => (rt.integration.submit method (onSite site rest) [] (some requested)).map
      (·.bind (rt.integration.readAccepted rt.integration.readValue))) (recordWritten rt plan requested)) log r) :
    Honest rt.integration call (changesIn log) (r.map .policy) := by
  refine honest_writeOnce hconfirmed hmethod (fun error => ⟨error, rfl⟩)
    (fun status bytes => by rw [hreads]; exact isOk_readAccepted) (fun site a => still_of_quiet quiet_recordWritten)
    (fun site status bytes a more output ha hrun => ?_) h
  rw [← readAccepted_eq_ok ha]
  exact recordWritten_applied hrun

theorem honest_policyWrite {plan : NetworkPolicyWritePlan} {r : Except McpError NetworkPolicyWriteOutput}
    (h : Runs (networkPolicyWrite rt plan) log r) :
    Honest rt.integration (.policyWrite plan) (changesIn log) (r.map .policy) := by
  rw [networkPolicyWrite] at h
  cases hconfirm : plan.confirm with
  | false =>
    rw [hconfirm] at h
    obtain ⟨rfl, rfl⟩ := runs_done_iff.1 h
    exact .shown _ hconfirm rfl rfl
  | true =>
    simp only [hconfirm, Bool.not_true, Bool.false_eq_true, if_false] at h
    split at h
    · rename_i body hchange
      exact honest_recordWrite hconfirm (by decide) (fun _ => by rw [ToolCall.reads, hchange]) h
    · rename_i id body hchange
      exact honest_recordWrite hconfirm (by decide) (fun _ => by rw [ToolCall.reads, hchange]) h
    · rename_i id hchange
      have hwrite := @honest_writeOnce rt (.policyWrite plan) log _ _ .delete ((collectionOf plan.kind).path ++ [id]) [] none
        (fun r => r) (recordDeleted rt plan id) .policy r hconfirm (by decide) (fun error => ⟨error, rfl⟩)
        (fun status bytes => by rw [ToolCall.reads, hchange]; rfl)
        (fun site a => still_of_quiet ((quiet_readBack quiet_detail).map _))
        (fun site status bytes a more output ha hrun => by cases ha; exact recordDeleted_applied hrun)
      simp only [map_id] at hwrite
      exact hwrite h

theorem honest_order {kind : OrderKind} {requested : Json} {rest readRest : List Text} {confirm : Bool}
    {r : Except McpError NetworkPolicyWriteOutput} (hconfirmed : call.confirmed = confirm)
    (hreads : ∀ bytes, call.reads rt.integration bytes = (rt.integration.readValue bytes).isOk)
    (h : Runs (orderConfigure rt kind requested
      (fun site => (rt.integration.submit .put (onSite site rest) [] (some requested)).map
        (·.bind (rt.integration.readAccepted rt.integration.readValue)))
      (fun site => rt.integration.getJson rt.integration.readValue (onSite site readRest) []) confirm) log r) :
    Honest rt.integration call (changesIn log) (r.map .policy) := by
  rw [orderConfigure] at h
  split at h
  · obtain ⟨rfl, rfl⟩ := runs_done_iff.1 h
    exact .failed _
  · cases confirm with
    | false =>
      obtain ⟨rfl, rfl⟩ := runs_done_iff.1 h
      exact .shown _ hconfirmed rfl rfl
    | true =>
      refine honest_writeOnce hconfirmed (by decide) (fun error => ⟨error, rfl⟩)
        (fun status bytes => by rw [hreads]; exact isOk_readAccepted)
        (fun site a => still_of_quiet ((quiet_readBack (quiet_get.map _)).map _))
        (fun site status bytes a more output ha hrun => ?_) h
      obtain ⟨ended, -, rfl⟩ := runs_map_iff.1 hrun
      rw [← readAccepted_eq_ok ha]
      cases ended with
      | skipped => exact ⟨rfl, rfl⟩
      | timedOut => exact ⟨rfl, rfl⟩
      | answered answer => cases answer <;> exact ⟨rfl, rfl⟩

theorem honest_vouchersCreate {input : VouchersCreateInput} {r : Except McpError VouchersCreateOutput}
    (h : Runs (Integration.vouchersCreate rt input) log r) :
    Honest rt.integration (.vouchersCreate input) (changesIn log) (r.map .created) := by
  rw [Integration.vouchersCreate] at h
  cases hbatch : voucherBatch input with
  | error error =>
    rw [hbatch] at h
    obtain ⟨rfl, rfl⟩ := runs_done_iff.1 h
    exact .failed error
  | ok batch =>
    simp only [hbatch] at h
    split at h
    · obtain ⟨rfl, rfl⟩ := runs_done_iff.1 h
      exact .failed _
    · cases hconfirm : input.confirm.getD false with
      | false =>
        rw [hconfirm] at h
        obtain ⟨rfl, rfl⟩ := runs_done_iff.1 h
        exact .shown _ hconfirm rfl rfl
      | true =>
        rw [hconfirm] at h
        refine honest_writeOnce hconfirm (by decide) (fun error => ⟨error, rfl⟩) (fun status bytes => isOk_readAccepted)
          (fun site a => still_of_quiet quiet_created) (fun site status bytes a more output ha hrun => ?_) h
        obtain ⟨vouchers, accepted, body⟩ := a
        obtain ⟨verification, -, rfl⟩ := runs_map_iff.1 hrun
        rw [← readAccepted_eq_ok ha]
        exact ⟨rfl, rfl⟩

theorem honest_vouchersRevoke {voucher : Text} {confirm : Bool} {r : Except McpError VoucherRevokeOutput}
    (h : Runs (Integration.vouchersRevoke rt voucher confirm) log r) :
    Honest rt.integration (.vouchersRevoke voucher confirm) (changesIn log) (r.map .revoked) := by
  rw [Integration.vouchersRevoke] at h
  cases hid : voucherId voucher with
  | error error =>
    rw [hid] at h
    obtain ⟨rfl, rfl⟩ := runs_done_iff.1 h
    exact .failed error
  | ok id =>
    rw [hid] at h
    refine honest_read (fun site => quiet_get) (fun site found rest r hrest => ?_) h
    obtain ⟨found, bytes⟩ := found
    simp only at hrest
    split at hrest
    · obtain ⟨rfl, rfl⟩ := runs_done_iff.1 hrest
      exact .failed _
    · cases confirm with
      | false =>
        obtain ⟨rfl, rfl⟩ := runs_done_iff.1 hrest
        exact .shown _ rfl rfl rfl
      | true =>
        refine honest_submitted rfl (by decide) (fun error => ⟨apiError error, rfl⟩) (fun status bytes => rfl)
          (fun a => still_of_quiet ((quiet_readBack quiet_get).map _)) (fun status bytes a rest s ha hs => ?_) hrest
        cases ha
        obtain ⟨ended, -, rfl⟩ := runs_map_iff.1 hs
        refine ⟨_, rfl, ?_⟩
        cases ended with
        | skipped => exact ⟨rfl, rfl⟩
        | timedOut => exact ⟨rfl, rfl⟩
        | answered answer =>
          cases answer with
          | error error =>
            simp only [voucherAbsence]
            split <;> exact ⟨rfl, rfl⟩
          | ok readback =>
            simp only [voucherAbsence]
            split <;> exact ⟨rfl, rfl⟩

theorem honest_vouchersRevokeMatching {input : VouchersRevokeMatchingInput}
    {r : Except McpError VouchersRevokeMatchingOutput} (h : Runs (Integration.vouchersRevokeMatching rt input) log r) :
    Honest rt.integration (.vouchersRevokeMatching input) (changesIn log) (r.map .revokedMatching) := by
  rw [Integration.vouchersRevokeMatching] at h
  split at h
  · obtain ⟨rfl, rfl⟩ := runs_done_iff.1 h
    exact .failed _
  refine honest_read (fun site => quiet_get) (fun site found rest r hrest => ?_) h
  obtain ⟨found, bytes⟩ := found
  simp only at hrest
  split at hrest
  · obtain ⟨rfl, rfl⟩ := runs_done_iff.1 hrest
    exact .failed _
  · cases hconfirm : input.confirm with
    | false =>
      rw [hconfirm] at hrest
      obtain ⟨rfl, rfl⟩ := runs_done_iff.1 hrest
      exact .shown _ hconfirm rfl rfl
    | true =>
      rw [hconfirm] at hrest
      refine honest_submitted hconfirm (by decide) (fun error => ⟨apiError error, rfl⟩) (fun status bytes => rfl)
        (fun a => still_of_quiet ((quiet_readBack quiet_get).map _)) (fun status bytes a rest s ha hs => ?_) hrest
      cases ha
      obtain ⟨ended, -, rfl⟩ := runs_map_iff.1 hs
      refine ⟨_, rfl, ?_⟩
      cases ended with
      | skipped => exact ⟨rfl, rfl⟩
      | timedOut => exact ⟨rfl, rfl⟩
      | answered answer =>
        cases answer with
        | error error => exact ⟨rfl, rfl⟩
        | ok readback =>
          simp only [matchesAbsence]
          split <;> exact ⟨rfl, rfl⟩

/-- **An answer never says more or less than happened.** -/
theorem reports_honest {r : Except McpError ToolOutput} (h : Runs (call.run rt) log r) :
    Honest rt.integration call (changesIn log) r := by
  cases call with
  | policyWrite plan =>
    obtain ⟨s, hs, rfl⟩ := runs_map_iff.1 h
    exact honest_policyWrite hs
  | aclOrder ids confirm =>
    obtain ⟨s, hs, rfl⟩ := runs_map_iff.1 h
    exact honest_order rfl (fun _ => rfl) hs
  | firewallOrder before after confirm =>
    obtain ⟨s, hs, rfl⟩ := runs_map_iff.1 h
    exact honest_order rfl (fun _ => rfl) hs
  | vouchersCreate input =>
    obtain ⟨s, hs, rfl⟩ := runs_map_iff.1 h
    exact honest_vouchersCreate hs
  | vouchersRevoke voucher confirm =>
    obtain ⟨s, hs, rfl⟩ := runs_map_iff.1 h
    exact honest_vouchersRevoke hs
  | vouchersRevokeMatching input =>
    obtain ⟨s, hs, rfl⟩ := runs_map_iff.1 h
    exact honest_vouchersRevokeMatching hs

/-- A deletion whose readback ran out of time is reported as applied. -/
theorem reports_honest_late :
    Honest consoleClient deletion (changesIn lateDeletion) (.ok (.policy lateOutput)) :=
  reports_honest late_deletion

end

/-! ## A verdict has a readback behind it -/

/-- The change that the call is for was put on the site and accepted with that body; the rest of the log came behind it. -/
def Submitted (c : Client) (site : Text) (call : ToolCall) (log : ToolLog) (body : Bytes) (behind : ToolLog) : Prop :=
  ∃ before request answer status, log = before ++ freely (sent request answer) :: behind ∧
    call.mutation c site = some request ∧ (c.received answer).bind Client.accepted = .ok (status, body)

/-- A readback that came in time ended so. -/
def ReadBehind {α : Type} (behind : ToolLog) (d : Talk (Except ApiError α)) (answer : Except ApiError α) : Prop :=
  ∃ elapsed plain, behind = ⟨.free .elapsed, elapsed⟩ :: plain.map intime ∧ Runs d plain answer

/-- What an output says of the controller behind the change; a batch of vouchers has its `Accounted`. -/
def ToolOutput.verdict : ToolOutput → Option Bool
  | policy output => output.verified.or output.verifiedAbsent
  | created _ => none
  | revoked output => output.verified
  | revokedMatching output => output.verifiedAbsent

/-- The readbacks that may stand behind a verdict, where `body` is that of the accepted change. -/
inductive Shown (c : Client) (site : Text) (body : Bytes) (behind : ToolLog) : ToolCall → ToolOutput → Bool → Prop
  | record {plan : NetworkPolicyWritePlan} {requested accepted after : Json} {id : Text}
    {output : NetworkPolicyWriteOutput} (hrequested : plan.change.requested = some requested)
    (hbody : c.readValue body = .ok accepted) (hid : plan.change.id.or (recordId accepted) = some id)
    (haccepted : output.accepted = some accepted) (hafter : output.after = some after)
    (hread : ReadBehind behind (c.networkPolicyDetail site (collectionOf plan.kind) id) (.ok after)) :
    Shown c site body behind (.policyWrite plan) (.policy output) (policyVerified plan.kind requested accepted after id)
  | recordGone {plan : NetworkPolicyWritePlan} {id : Text} {message : Text} {output : NetworkPolicyWriteOutput}
    (hchange : plan.change = .delete id)
    (hread : ReadBehind behind (c.networkPolicyDetail site (collectionOf plan.kind) id) (.error (.status 404 message))) :
    Shown c site body behind (.policyWrite plan) (.policy output) true
  | recordLeft {plan : NetworkPolicyWritePlan} {id : Text} {after : Json} {output : NetworkPolicyWriteOutput}
    (hchange : plan.change = .delete id) (hafter : output.after = some after)
    (hread : ReadBehind behind (c.networkPolicyDetail site (collectionOf plan.kind) id) (.ok after)) :
    Shown c site body behind (.policyWrite plan) (.policy output) false
  | aclOrder {ids : List Text} {confirm : Bool} {accepted after : Json} {output : NetworkPolicyWriteOutput}
    (hbody : c.readValue body = .ok accepted) (haccepted : output.accepted = some accepted)
    (hafter : output.after = some after) (hread : ReadBehind behind (c.aclRuleOrdering site) (.ok after)) :
    Shown c site body behind (.aclOrder ids confirm) (.policy output)
      (sameMember ACL_ORDER.field after (aclOrderingBody ids) && sameMember ACL_ORDER.field accepted (aclOrderingBody ids))
  | firewallOrder {first last : List Text} {confirm : Bool} {accepted after : Json} {output : NetworkPolicyWriteOutput}
    (hbody : c.readValue body = .ok accepted) (haccepted : output.accepted = some accepted)
    (hafter : output.after = some after) (hread : ReadBehind behind (c.firewallPolicyOrdering site) (.ok after)) :
    Shown c site body behind (.firewallOrder first last confirm) (.policy output)
      (sameMember FIREWALL_ORDER.field after (firewallOrderingBody first last) &&
        sameMember FIREWALL_ORDER.field accepted (firewallOrderingBody first last))
  | voucherGone {voucher : Text} {confirm : Bool} {message : Text} {output : VoucherRevokeOutput}
    (hread : ReadBehind behind (c.voucherWithResponse site (trim voucher)) (.error (.status 404 message))) :
    Shown c site body behind (.vouchersRevoke voucher confirm) (.revoked output) true
  | voucherLeft {voucher : Text} {confirm : Bool} {found : VoucherDetails} {bytes : Bytes} {output : VoucherRevokeOutput}
    (hid : found.id = trim voucher)
    (hread : ReadBehind behind (c.voucherWithResponse site (trim voucher)) (.ok (found, bytes))) :
    Shown c site body behind (.vouchersRevoke voucher confirm) (.revoked output) false
  | counted {input : VouchersRevokeMatchingInput} {after : Page Json} {bytes : Bytes} {output : VouchersRevokeMatchingOutput}
    (hconsistent : inconsistentVouchers after 0 1 = false)
    (hread : ReadBehind behind (c.voucherRecords site ⟨0, 1⟩ (some input.filter)) (.ok (after, bytes))) :
    Shown c site body behind (.vouchersRevokeMatching input) (.revokedMatching output) (after.totalCount == 0)

section
variable {rt : Runtime} {call : ToolCall} {log behind : ToolLog} {site : Text} {verdict : Bool} {bytes : Bytes}

theorem readBehind_of_runs {α : Type} {d : Talk (Except ApiError α)} {answer : Except ApiError α}
    (h : Runs (readBack rt d) behind (.answered answer)) : ReadBehind behind d answer := by
  obtain ⟨elapsed, rest, rfl, ⟨-, -, heq⟩ | ⟨-, ⟨plain, answer', rfl, hplain, heq⟩ | ⟨plain, question, next, -, -, heq⟩⟩⟩ :=
    runs_readBack_iff.1 h
  · cases heq
  · cases heq
    exact ⟨elapsed, plain, rfl, hplain⟩
  · cases heq

/-- The request of an accepted change, in the log around it. -/
theorem submitted_of_runs {method : Method} {segments : List Text} {query : List (Text × Text)} {body : Option Json}
    {sending : Log} {status : Nat} (hmutation : call.mutation rt.integration site = rt.integration.request method segments query body)
    (h : Runs (rt.integration.submit method segments query body) sending (.ok (status, bytes))) (before behind : ToolLog) :
    Submitted rt.integration site call (before ++ (sending.map freely ++ behind)) bytes behind := by
  obtain ⟨error, -, -, heq⟩ | ⟨url, answer, hurl, rfl, heq⟩ := Client.runs_submit_iff.1 h
  · cases heq
  · refine ⟨before, ⟨method, url, body⟩, answer, status, rfl, ?_, heq.symm⟩
    rw [hmutation, Client.request, hurl]

/-- A write that succeeds has its report behind its change. -/
theorem runs_reported {α β : Type} {method : Method} {segments : List Text} {query : List (Text × Text)}
    {body : Option Json} {read : Except ApiError (Nat × Bytes) → Except ApiError α} {report : Text → α → Tool β}
    {output : β} (hmutation : ∀ site, call.mutation rt.integration site =
      rt.integration.request method (onSite site segments) query body)
    (hread : ∀ error, ∃ error', read (.error error) = .error error')
    (h : Runs (writeOnce rt (fun site => (rt.integration.submit method (onSite site segments) query body).map read) report)
      log (.ok output)) :
    ∃ site status bytes accepted behind, Submitted rt.integration site call log bytes behind ∧
      read (.ok (status, bytes)) = .ok accepted ∧ Runs (report site accepted) behind output := by
  obtain ⟨before, error, -, -, heq⟩ | ⟨before, site, -, ⟨sending, error, -, -, heq⟩ |
    ⟨sending, accepted, rest, output', rfl, hsending, hreport, heq⟩⟩ := runs_writeOnce_iff.1 h
  · cases heq
  · cases heq
  · cases heq
    obtain ⟨whole, hwhole, hok⟩ := runs_map_iff.1 hsending
    cases whole with
    | error error =>
      obtain ⟨error', herror⟩ := hread error
      rw [herror] at hok
      cases hok
    | ok answer =>
      obtain ⟨status, bytes⟩ := answer
      exact ⟨site, status, bytes, accepted, rest, submitted_of_runs (hmutation site) hwhole _ _, hok.symm, hreport⟩

/-- A read on the site, and what follows it. -/
theorem runs_read_then {α β : Type} {d : Text → Talk (Except ApiError α)} {f : Text → α → Tool (Except McpError β)}
    {output : β} (h : Runs ((siteId rt.integration rt.legacySite).untimed.tryBind fun site =>
      ((d site).untimed.map mapError).tryBind (f site)) log (.ok output)) :
    ∃ site a first rest, log = first ++ rest ∧ Runs (f site a) rest (.ok output) := by
  obtain ⟨error, -, heq⟩ | ⟨before, rest, site, rfl, -, hrest⟩ := runs_tryBind_iff.1 h
  · cases heq
  · obtain ⟨error, -, heq⟩ | ⟨reading, behind, a, rfl, -, hbehind⟩ := runs_tryBind_iff.1 hrest
    · cases heq
    · exact ⟨site, a, before ++ reading, behind, by rw [List.append_assoc], hbehind⟩

/-- A deletion, and what follows it. -/
theorem runs_deleted {β : Type} {segments : List Text} {query : List (Text × Text)}
    {report : Nat × Bytes → Tool (Except McpError β)} {output : β}
    (hmutation : call.mutation rt.integration site = rt.integration.request .delete segments query none)
    (h : Runs (((rt.integration.submit .delete segments query none).untimed.map mapError).tryBind report) log (.ok output))
    (before : ToolLog) :
    ∃ status bytes behind, Submitted rt.integration site call (before ++ log) bytes behind ∧
      Runs (report (status, bytes)) behind (.ok output) := by
  obtain ⟨error, -, heq⟩ | ⟨first, rest, ⟨status, bytes⟩, rfl, hfirst, hrest⟩ := runs_tryBind_iff.1 h
  · cases heq
  · obtain ⟨sending, whole, rfl, hsending, heq⟩ := runs_mapError_iff.1 hfirst
    cases whole with
    | error error => cases heq
    | ok answer' =>
      cases heq
      exact ⟨status, bytes, rest, submitted_of_runs hmutation hsending before rest, hrest⟩

theorem shown_record {plan : NetworkPolicyWritePlan} {requested accepted : Json} {status : Nat} {kept : Bytes}
    {output : NetworkPolicyWriteOutput} (hrequested : plan.change.requested = some requested)
    (hbody : rt.integration.readValue bytes = .ok accepted)
    (h : Runs (recordWritten rt plan requested site (accepted, status, kept)) behind output)
    (hverdict : (ToolOutput.policy output).verdict = some verdict) :
    Shown rt.integration site bytes behind (.policyWrite plan) (.policy output) verdict := by
  simp only [recordWritten] at h
  split at h
  · obtain ⟨-, rfl⟩ := runs_done_iff.1 h
    cases hverdict
  · rename_i id hid
    obtain ⟨ended, hended, rfl⟩ := runs_map_iff.1 h
    cases ended with
    | skipped => cases hverdict
    | timedOut => cases hverdict
    | answered answer =>
      cases answer with
      | error error => cases hverdict
      | ok after =>
        cases hverdict
        exact .record hrequested hbody hid rfl rfl (readBehind_of_runs hended)

theorem shown_deletion {plan : NetworkPolicyWritePlan} {id : Text} {answer : Nat × Bytes} {output : NetworkPolicyWriteOutput}
    (hchange : plan.change = .delete id) (h : Runs (recordDeleted rt plan id site answer) behind output)
    (hverdict : (ToolOutput.policy output).verdict = some verdict) :
    Shown rt.integration site bytes behind (.policyWrite plan) (.policy output) verdict := by
  obtain ⟨status, kept⟩ := answer
  obtain ⟨ended, hended, rfl⟩ := runs_map_iff.1 h
  cases ended with
  | skipped => cases hverdict
  | timedOut => cases hverdict
  | answered answer =>
    have hread := readBehind_of_runs hended
    cases answer with
    | ok after =>
      cases hverdict
      exact .recordLeft hchange rfl hread
    | error error =>
      simp only [absenceReport] at hverdict ⊢
      split at hverdict
      · cases hverdict
        exact .recordGone hchange hread
      · cases hverdict

theorem shown_policyWrite {plan : NetworkPolicyWritePlan} {output : NetworkPolicyWriteOutput}
    (h : Runs (networkPolicyWrite rt plan) log (.ok output)) (hverdict : (ToolOutput.policy output).verdict = some verdict) :
    ∃ site body behind, Submitted rt.integration site (.policyWrite plan) log body behind ∧
      Shown rt.integration site body behind (.policyWrite plan) (.policy output) verdict := by
  rw [networkPolicyWrite] at h
  cases hconfirm : plan.confirm with
  | false =>
    rw [hconfirm] at h
    obtain ⟨-, heq⟩ := runs_done_iff.1 h
    cases heq
    cases hverdict
  | true =>
    simp only [hconfirm, Bool.not_true, Bool.false_eq_true, if_false] at h
    split at h
    · rename_i body hchange
      have hmutation (site : Text) : ToolCall.mutation rt.integration site (.policyWrite plan) =
          rt.integration.request .post (policySegments site (collectionOf plan.kind) none) [] (some body) := by
        simp only [ToolCall.mutation, hchange]
      obtain ⟨site, status, bytes, accepted, behind, hsubmitted, hread, hreport⟩ :=
        runs_reported hmutation (fun error => ⟨error, rfl⟩) h
      exact ⟨site, bytes, behind, hsubmitted, shown_record (by rw [hchange]; rfl) (readAccepted_decodes hread) hreport hverdict⟩
    · rename_i id body hchange
      have hmutation (site : Text) : ToolCall.mutation rt.integration site (.policyWrite plan) =
          rt.integration.request .put (policySegments site (collectionOf plan.kind) (some id)) [] (some body) := by
        simp only [ToolCall.mutation, hchange]
      obtain ⟨site, status, bytes, accepted, behind, hsubmitted, hread, hreport⟩ :=
        runs_reported hmutation (fun error => ⟨error, rfl⟩) h
      exact ⟨site, bytes, behind, hsubmitted, shown_record (by rw [hchange]; rfl) (readAccepted_decodes hread) hreport hverdict⟩
    · rename_i id hchange
      have hmutation (site : Text) : ToolCall.mutation rt.integration site (.policyWrite plan) =
          rt.integration.request .delete (policySegments site (collectionOf plan.kind) (some id)) [] none := by
        simp only [ToolCall.mutation, hchange]
      have hreported := @runs_reported rt (.policyWrite plan) log _ _ .delete ((collectionOf plan.kind).path ++ [id]) [] none
        (fun r => r) (recordDeleted rt plan id) output hmutation (fun error => ⟨error, rfl⟩)
      simp only [map_id] at hreported
      obtain ⟨site, status, bytes, accepted, behind, hsubmitted, -, hreport⟩ := hreported h
      exact ⟨site, bytes, behind, hsubmitted, shown_deletion hchange hreport hverdict⟩

/-- What the readback of an order says, of either order. -/
theorem shown_order {kind : OrderKind} {requested : Json} {segments readSegments : List Text} {confirm : Bool}
    {output : NetworkPolicyWriteOutput} (hmutation : ∀ site, call.mutation rt.integration site =
      rt.integration.request .put (onSite site segments) [] (some requested))
    (h : Runs (orderConfigure rt kind requested
      (fun site => (rt.integration.submit .put (onSite site segments) [] (some requested)).map
        (·.bind (rt.integration.readAccepted rt.integration.readValue)))
      (fun site => rt.integration.getJson rt.integration.readValue (onSite site readSegments) []) confirm) log (.ok output))
    (hverdict : (ToolOutput.policy output).verdict = some verdict) :
    ∃ site body behind accepted after, Submitted rt.integration site call log body behind ∧
      rt.integration.readValue body = .ok accepted ∧ output.accepted = some accepted ∧ output.after = some after ∧
      ReadBehind behind (rt.integration.getJson rt.integration.readValue (onSite site readSegments) []) (.ok after) ∧
      verdict = (sameMember kind.field after requested && sameMember kind.field accepted requested) := by
  rw [orderConfigure] at h
  split at h
  · cases (runs_done_iff.1 h).2
  · cases confirm with
    | false =>
      obtain ⟨-, heq⟩ := runs_done_iff.1 h
      cases heq
      cases hverdict
    | true =>
      obtain ⟨site, status, bytes, accepted, behind, hsubmitted, hread, hreport⟩ :=
        runs_reported hmutation (fun error => ⟨error, rfl⟩) h
      obtain ⟨ended, hended, rfl⟩ := runs_map_iff.1 hreport
      cases ended with
      | skipped => cases hverdict
      | timedOut => cases hverdict
      | answered answer =>
        cases answer with
        | error error => cases hverdict
        | ok after =>
          cases hverdict
          exact ⟨site, bytes, behind, accepted.1, after, hsubmitted, readAccepted_decodes hread, rfl, rfl,
            readBehind_of_runs hended, rfl⟩

/-- The readback of a deleted voucher. -/
theorem shown_voucherAbsence {voucher : Text} {confirm : Bool} {output : VoucherRevokeOutput}
    {ended : Readback ApiError (VoucherDetails × Bytes)} (hnone : output.verified = none)
    (hended : Runs (readBack rt (rt.integration.voucherWithResponse site (trim voucher))) behind ended)
    (hverdict : (voucherAbsence rt.integration.codecs.base64 (trim voucher) output ended).verified = some verdict) :
    Shown rt.integration site bytes behind (.vouchersRevoke voucher confirm)
      (.revoked (voucherAbsence rt.integration.codecs.base64 (trim voucher) output ended)) verdict := by
  cases ended with
  | skipped => cases hnone.symm.trans hverdict
  | timedOut => cases hnone.symm.trans hverdict
  | answered answer =>
    have hread := readBehind_of_runs hended
    cases answer with
    | error error =>
      simp only [voucherAbsence] at hverdict ⊢
      split at hverdict
      · cases hverdict
        exact .voucherGone hread
      · cases hnone.symm.trans hverdict
    | ok readback =>
      obtain ⟨left, kept⟩ := readback
      simp only [voucherAbsence] at hverdict ⊢
      split at hverdict
      · cases hnone.symm.trans hverdict
      · rename_i hsame
        cases hverdict
        exact .voucherLeft (not_not.1 hsame) hread

theorem shown_vouchersRevoke {voucher : Text} {confirm : Bool} {output : VoucherRevokeOutput}
    (h : Runs (Integration.vouchersRevoke rt voucher confirm) log (.ok output))
    (hverdict : (ToolOutput.revoked output).verdict = some verdict) :
    ∃ site body behind, Submitted rt.integration site (.vouchersRevoke voucher confirm) log body behind ∧
      Shown rt.integration site body behind (.vouchersRevoke voucher confirm) (.revoked output) verdict := by
  rw [Integration.vouchersRevoke] at h
  cases hid : voucherId voucher with
  | error error =>
    rw [hid] at h
    cases (runs_done_iff.1 h).2
  | ok id =>
    obtain rfl := trim_of_voucherId hid
    rw [hid] at h
    obtain ⟨site, ⟨found, bytes⟩, before, rest, rfl, hrest⟩ := runs_read_then h
    simp only at hrest
    split at hrest
    · cases (runs_done_iff.1 hrest).2
    · cases confirm with
      | false =>
        obtain ⟨-, heq⟩ := runs_done_iff.1 hrest
        cases heq
        cases hverdict
      | true =>
        obtain ⟨status, body, behind, hsubmitted, hreport⟩ :=
          @runs_deleted rt (.vouchersRevoke voucher true) _ site _ _ _ _ _ rfl hrest before
        obtain ⟨ended, hended, heq⟩ := runs_map_iff.1 hreport
        cases heq
        exact ⟨site, body, behind, hsubmitted, shown_voucherAbsence rfl hended hverdict⟩

/-- The readback of a filter. -/
theorem shown_matchesAbsence {input : VouchersRevokeMatchingInput} {output : VouchersRevokeMatchingOutput}
    {ended : Readback ApiError (Page Json × Bytes)} (hnone : output.verifiedAbsent = none)
    (hended : Runs (readBack rt (rt.integration.voucherRecords site ⟨0, 1⟩ (some input.filter))) behind ended)
    (hverdict : (matchesAbsence rt.integration.codecs.base64 output ended).verifiedAbsent = some verdict) :
    Shown rt.integration site bytes behind (.vouchersRevokeMatching input)
      (.revokedMatching (matchesAbsence rt.integration.codecs.base64 output ended)) verdict := by
  cases ended with
  | skipped => cases hnone.symm.trans hverdict
  | timedOut => cases hnone.symm.trans hverdict
  | answered answer =>
    have hread := readBehind_of_runs hended
    cases answer with
    | error error => cases hnone.symm.trans hverdict
    | ok readback =>
      obtain ⟨after, kept⟩ := readback
      simp only [matchesAbsence] at hverdict ⊢
      split at hverdict
      · cases hnone.symm.trans hverdict
      · rename_i hconsistent
        cases hverdict
        exact .counted (by simpa using hconsistent) hread

theorem shown_vouchersRevokeMatching {input : VouchersRevokeMatchingInput} {output : VouchersRevokeMatchingOutput}
    (h : Runs (Integration.vouchersRevokeMatching rt input) log (.ok output))
    (hverdict : (ToolOutput.revokedMatching output).verdict = some verdict) :
    ∃ site body behind, Submitted rt.integration site (.vouchersRevokeMatching input) log body behind ∧
      Shown rt.integration site body behind (.vouchersRevokeMatching input) (.revokedMatching output) verdict := by
  rw [Integration.vouchersRevokeMatching] at h
  split at h
  · cases (runs_done_iff.1 h).2
  obtain ⟨site, ⟨found, bytes⟩, before, rest, rfl, hrest⟩ := runs_read_then h
  simp only at hrest
  split at hrest
  · cases (runs_done_iff.1 hrest).2
  · cases hconfirm : input.confirm with
    | false =>
      rw [hconfirm] at hrest
      obtain ⟨-, heq⟩ := runs_done_iff.1 hrest
      cases heq
      cases hverdict
    | true =>
      rw [hconfirm] at hrest
      obtain ⟨status, body, behind, hsubmitted, hreport⟩ :=
        @runs_deleted rt (.vouchersRevokeMatching input) _ site _ _ _ _ _ rfl hrest before
      obtain ⟨ended, hended, heq⟩ := runs_map_iff.1 hreport
      cases heq
      exact ⟨site, body, behind, hsubmitted, shown_matchesAbsence rfl hended hverdict⟩

theorem runs_output {α : Type} {d : Tool (Except McpError α)} {f : α → ToolOutput} {output : ToolOutput}
    (h : Runs (d.map (·.map f)) log (.ok output)) : ∃ a, Runs d log (.ok a) ∧ f a = output := by
  obtain ⟨r, hr, heq⟩ := runs_map_iff.1 h
  cases r with
  | error error => cases heq
  | ok a => exact ⟨a, hr, (Except.ok.inj heq).symm⟩

/-- **A verdict has a readback behind it**: whatever an answer says was verified, or found absent, or not, a readback put
on the same site behind the accepted change of the call, and answered in time, shows it. -/
theorem verdict_shown {call : ToolCall} {output : ToolOutput} (h : Runs (call.run rt) log (.ok output))
    (hverdict : output.verdict = some verdict) :
    ∃ site body behind, Submitted rt.integration site call log body behind ∧
      Shown rt.integration site body behind call output verdict := by
  cases call with
  | policyWrite plan =>
    obtain ⟨output', hr, rfl⟩ := runs_output h
    exact shown_policyWrite hr hverdict
  | aclOrder ids confirm =>
    obtain ⟨output', hr, rfl⟩ := runs_output h
    obtain ⟨site, body, behind, accepted, after, hsubmitted, hbody, haccepted, hafter, hread, rfl⟩ :=
      @shown_order rt (.aclOrder ids confirm) _ _ _ _ _ _ _ _ (fun _ => rfl) hr hverdict
    exact ⟨site, body, behind, hsubmitted, .aclOrder hbody haccepted hafter hread⟩
  | firewallOrder before after confirm =>
    obtain ⟨output', hr, rfl⟩ := runs_output h
    obtain ⟨site, body, behind, accepted, after, hsubmitted, hbody, haccepted, hafter, hread, rfl⟩ :=
      @shown_order rt (.firewallOrder before after confirm) _ _ _ _ _ _ _ _ (fun _ => rfl) hr hverdict
    exact ⟨site, body, behind, hsubmitted, .firewallOrder hbody haccepted hafter hread⟩
  | vouchersCreate input =>
    obtain ⟨output', hr, rfl⟩ := runs_output h
    cases hverdict
  | vouchersRevoke voucher confirm =>
    obtain ⟨output', hr, rfl⟩ := runs_output h
    exact shown_vouchersRevoke hr hverdict
  | vouchersRevokeMatching input =>
    obtain ⟨output', hr, rfl⟩ := runs_output h
    exact shown_vouchersRevokeMatching hr hverdict

/-- The record is deleted, and its readback no longer finds it. -/
def goneDeletion : ToolLog :=
  consoleSite.map freely ++ ([sent (recordAddress .delete) accepted].map freely ++
    ⟨.free .elapsed, Nat.zero⟩ :: [sent (recordAddress .get) (.response ⟨404, none, none, []⟩)].map intime)

theorem verdict_shown_gone : ∃ output : NetworkPolicyWriteOutput, output.verifiedAbsent = some true ∧
    ∃ site body behind, Submitted consoleClient site deletion goneDeletion body behind ∧
      Shown consoleClient site body behind deletion (.policy output) true := by
  have hreadback : Runs (readBack consoleRuntime (consoleClient.networkPolicyDetail "home".toList .dnsPolicies "p1".toList))
      (⟨.free .elapsed, Nat.zero⟩ :: [sent (recordAddress .get) (.response ⟨404, none, none, []⟩)].map intime)
      (.answered (.error (.status 404 []))) :=
    runs_readBack_iff.2 ⟨Nat.zero, _, rfl, Or.inr ⟨by decide, Or.inl ⟨_, _, rfl, .step (.refl _), rfl⟩⟩⟩
  obtain ⟨output, hreport, habsent, hverdict⟩ : ∃ output, Runs (recordDeleted consoleRuntime deletionPlan "p1".toList "home".toList
      (200, [])) _ output ∧ output.verifiedAbsent = some true ∧ (ToolOutput.policy output).verdict = some true :=
    ⟨_, runs_map_iff.2 ⟨_, hreadback, rfl⟩, rfl, rfl⟩
  have hwrite : Runs (writeOnce consoleRuntime (fun site => consoleClient.networkPolicyDelete site .dnsPolicies "p1".toList)
      (recordDeleted consoleRuntime deletionPlan "p1".toList)) goneDeletion (.ok output) :=
    runs_writeOnce_iff.2 (Or.inr ⟨consoleSite, "home".toList, console_site, Or.inr ⟨[sent (recordAddress .delete) accepted],
      (200, []), _, output, rfl, .step (.refl _), hreport, rfl⟩⟩)
  have hrun : Runs (deletion.run consoleRuntime) goneDeletion (.ok (.policy output)) := runs_map_iff.2 ⟨.ok output, hwrite, rfl⟩
  exact ⟨output, habsent, verdict_shown hrun hverdict⟩

end

end UnifiMcp.Integration

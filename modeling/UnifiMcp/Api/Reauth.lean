import UnifiMcp.Api.LoginFlow
/-! # How often a request reaches its route (unifi-api/src/legacy.rs:1407-1443)

`history i log` is what request `i` did on its route. `Traced` says which histories go with each
place of the flow: at most one attempt before a refresh or a wait, at most one after it, and the
latter only for a read.

* `requests_not_resent` — a mutation is sent at most once and ends in the outcome of that attempt;
  a read is sent at most twice, the second time only after a refresh that succeeded or adopted a
  newer session, or a rate limit of at most `MAXIMUM_RETRY_AFTER`. -/
namespace UnifiMcp.Legacy
open Text

/-! ## Histories -/

/-- The entries of request `i` about its own route. -/
def Obs.ofRequest (i : TaskId) : Obs → Bool
  | .sent j _ _ => j == i
  | .answered j _ _ => j == i
  | .refreshed j _ _ => j == i
  | _ => false

/-- What request `i` did, newest first. -/
def history (i : TaskId) (log : List Obs) : List Obs := log.filter (Obs.ofRequest i)

def Obs.isSent : Obs → Bool
  | .sent _ _ _ => true
  | _ => false

/-- The sends among some entries. -/
def sentIn (l : List Obs) : Nat := (l.filter Obs.isSent).length

/-- How often request `i` reached its route. -/
def sends (i : TaskId) (log : List Obs) : Nat := sentIn (history i log)

def Obs.answer? : Obs → Option Answer
  | .answered _ _ answer => some answer
  | _ => none

/-- The controller's answers to request `i`, newest first. -/
def answers (i : TaskId) (log : List Obs) : List Answer := (history i log).filterMap Obs.answer?

section
variable {ρ : Type} (call : Call ρ) (i : TaskId) (g : Nat)

/-- One attempt, answered, with its outcome. -/
inductive Once : Except ApiError ρ → List Obs → Prop
  | mk (answer : Answer) (wire : Wire) : Once (call.finish answer) [.answered i g answer, .sent i g wire]

/-- A read may be sent again: its session was refreshed, or it waited for a rate limit. -/
inductive Resumed : List Obs → Prop
  | refreshed {error : ApiError} {l : List Obs} (current : Nat) (hone : Once call i g (.error error) l)
      (hread : call.class_ = .idempotentRead) (hlogin : isLoginRequired error = true) (hnewer : g < current) :
      Resumed (.refreshed i g current :: l)
  | waited {delay : Nat} {message : Text} {l : List Obs}
      (hone : Once call i g (.error (.rateLimited (some delay) message)) l)
      (hread : call.class_ = .idempotentRead) (hdelay : delay ≤ MAXIMUM_RETRY_AFTER) : Resumed l

/-- The history and the result of a request that is over. -/
inductive Finished : Except ApiError ρ → List Obs → Prop
  | unsent (result : Except ApiError ρ) : Finished result []
  | once {result : Except ApiError ρ} {l : List Obs} (hone : Once call i g result l) : Finished result l
  | refreshFailed {error : ApiError} {l : List Obs} (refresh : ApiError) (hone : Once call i g (.error error) l)
      (hread : call.class_ = .idempotentRead) : Finished (.error (error.withRefreshFailure refresh)) l
  | notResent {l : List Obs} (result : Except ApiError ρ) (hres : Resumed call i g l) : Finished result l
  | twice {l : List Obs} (answer : Answer) (wire : Wire) (hres : Resumed call i g l) :
      Finished (call.finish answer) (.answered i g answer :: .sent i g wire :: l)

end

section
variable {ρ : Type} (call : Call ρ) (i : TaskId)

/-- The histories that go with a place of the flow. -/
def TracedAt : Pc ρ → List Obs → Prop
  | .start, l => l = []
  | .loggingIn .ensure, l => l = []
  | .ready _ .first, l => l = []
  | .sent g .first, l => ∃ wire, l = [.sent i g wire]
  | .answered g .first answer, l => ∃ wire, l = [.answered i g answer, .sent i g wire]
  | .refreshing g error, l => Once call i g (.error error) l ∧ isLoginRequired error = true
  | .loggingIn (.refresh g error), l => Once call i g (.error error) l ∧ isLoginRequired error = true
  | .sleeping g _, l => Resumed call i g l
  | .ready g .again, l => Resumed call i g l
  | .sent g .again, l => ∃ wire l', l = .sent i g wire :: l' ∧ Resumed call i g l'
  | .answered g .again answer, l =>
    ∃ wire l', l = .answered i g answer :: .sent i g wire :: l' ∧ Resumed call i g l'
  | .done result, l => ∃ g, Finished call i g result l
  | .cancelled, _ => False

/-- A cancelled request stopped at some place. -/
def Traced (pc : Pc ρ) (l : List Obs) : Prop := ∃ at_, (pc = at_ ∨ pc = .cancelled) ∧ TracedAt call i at_ l

variable {call i} {pc : Pc ρ} {l : List Obs}

theorem Traced.of_at (h : TracedAt call i pc l) : Traced call i pc l := ⟨pc, Or.inl rfl, h⟩

theorem Traced.at (h : Traced call i pc l) (hpc : pc ≠ .cancelled) : TracedAt call i pc l := by
  obtain ⟨at_, rfl | h', ht⟩ := h
  · exact ht
  · exact absurd h' hpc

theorem Traced.cancel (h : Traced call i pc l) : Traced call i .cancelled l := by
  obtain ⟨at_, -, ht⟩ := h
  exact ⟨at_, Or.inr rfl, ht⟩

end

/-! ## The invariant -/

section
variable {ρ : Type} (calls : TaskId → Call ρ)

def TraceInv (s : Client ρ) : Prop := ∀ i, Traced (calls i) i (s.tasks i) (history i s.log)

variable {calls} {client : LegacyClient} {s t : Client ρ} {i : TaskId}

theorem traceInv_initial : TraceInv calls (initial : Client ρ) := fun _ => .of_at rfl

/-- **The move of one request.** What it logs about its route is its own. -/
theorem TraceInv.move (hi : TraceInv calls s) (extra : List Obs) {pc : Pc ρ} {u : Client ρ}
    (hlog : u.log = extra ++ s.log) (htasks : u.tasks = Function.update s.tasks i pc)
    (hown : ∀ o ∈ extra, ∀ j, j ≠ i → o.ofRequest j = false)
    (hpc : Traced (calls i) i pc (history i extra ++ history i s.log)) : TraceInv calls u := by
  intro j
  rw [htasks, hlog, history, List.filter_append]
  by_cases hji : j = i
  · subst hji
    rw [Function.update_self]
    exact hpc
  · have hnil : extra.filter (Obs.ofRequest j) = [] := by
      rw [List.filter_eq_nil_iff]
      intro o ho
      rw [hown o ho j hji]
      exact Bool.false_ne_true
    rw [Function.update_of_ne hji, hnil]
    exact hi j

theorem TraceInv.goto (hi : TraceInv calls s) {pc : Pc ρ} (hpc : Traced (calls i) i pc (history i s.log)) :
    TraceInv calls (s.goto i pc) :=
  hi.move [] rfl rfl (by simp) hpc

/-- The arms after an execution: of the first attempt with its history, or of the second. -/
theorem TraceInv.settle (hi : TraceInv calls s) {g : Nat} {attempt : Attempt} {result : Except ApiError ρ}
    (hfin : Finished (calls i) i g result (history i s.log))
    (hone : attempt = .first → Once (calls i) i g result (history i s.log)) :
    TraceInv calls (s.settle (calls i) i g attempt result) := by
  obtain ⟨pc, hpc, hset⟩ := settle_cases (calls i) s i g attempt result
  rw [hpc]
  cases hset with
  | done => exact hi.goto (.of_at ⟨g, hfin⟩)
  | refreshing error hfirst hresult hlogin => exact hi.goto (.of_at ⟨hresult ▸ hone hfirst, hlogin⟩)
  | sleeping delay until_ message hfirst hresult hread hdelay =>
    exact hi.goto (.of_at (.waited (hresult ▸ hone hfirst) hread hdelay))

/-- The ways on from `refresh_session`; its success means a newer session. -/
theorem TraceInv.afterRefresh (hi : TraceInv calls s) {g : Nat} {original : ApiError}
    (hone : Once (calls i) i g (.error original) (history i s.log)) (hlogin : isLoginRequired original = true)
    {refresh : Except ApiError Unit} (hnewer : refresh = .ok () → g < s.session.generation) :
    TraceInv calls (s.afterRefresh (calls i) i g original refresh) := by
  rcases afterRefresh_cases (calls i) s i g original refresh with
    ⟨-, h⟩ | ⟨hread, hok, h⟩ | ⟨hread, error, -, h⟩ <;> rw [h]
  · exact hi.goto (.of_at ⟨g, .once hone⟩)
  · refine hi.move [.refreshed i g s.session.generation] rfl rfl ?_ ?_
    · intro o ho j hj
      rw [List.mem_singleton.1 ho]
      simpa [Obs.ofRequest] using Ne.symm hj
    · have : history i [.refreshed i g s.session.generation] = [.refreshed i g s.session.generation] := by
        simp [history, Obs.ofRequest]
      rw [this]
      exact .of_at (.refreshed _ hone hread hlogin (hnewer hok))
  · exact hi.goto (.of_at ⟨g, .refreshFailed error hone hread⟩)

/-- A login is no part of a history. -/
theorem TraceInv.startLogin (hi : TraceInv calls s) (cause : Cause) {u : Client ρ} (hlog : u.log = s.log)
    (htasks : u.tasks = s.tasks) (hpc : TracedAt (calls i) i (.loggingIn cause) (history i s.log)) :
    TraceInv calls (u.startLogin i cause) := by
  refine hi.move [.loginStarted i cause u.now] ?_ ?_ ?_ (.of_at hpc)
  · rw [← hlog]; rfl
  · rw [← htasks]; rfl
  · intro o ho j _
    rw [List.mem_singleton.1 ho]
    rfl

theorem endLogin_history (client : LegacyClient) (s : Client ρ) (i j : TaskId) (answers : List Text → Answer) :
    (s.endLogin client i answers).1.tasks = s.tasks ∧
      history j (s.endLogin client i answers).1.log = history j s.log := by
  unfold Client.endLogin
  split <;> exact ⟨rfl, rfl⟩

/-- A login that succeeds raises the generation by one. -/
theorem endLogin_ok {answers : List Text → Answer} {u : Client ρ} (h : s.endLogin client i answers = (u, .ok ())) :
    u.session.generation = s.session.generation + 1 := by
  have hspec := login_spec client answers s.session
  unfold Client.endLogin at h
  rcases hlogin : login client answers s.session with ⟨session, result⟩
  rw [hlogin] at hspec h
  cases result with
  | ok v => cases h; exact congrArg (·.2.1) hspec
  | error error => cases h

theorem TraceInv.loggedIn (hi : TraceInv calls s) (hl : LoginInv calls s) {cause : Cause}
    (hpc : s.tasks i = .loggingIn cause) (answers : List Text → Answer) :
    TraceInv calls (s.loggedIn client (calls i) i cause answers) := by
  have hplace := hi i
  rw [hpc] at hplace
  have hat := hplace.at (by simp)
  have hends : TraceInv calls (s.endLogin client i answers).1 := fun j => by
    rw [(endLogin_history client s i j answers).1, (endLogin_history client s i j answers).2]
    exact hi j
  unfold Client.loggedIn
  have hhist := (endLogin_history client s i i answers).2
  rcases hres : s.endLogin client i answers with ⟨u, result⟩
  rw [hres] at hends hhist
  simp only at hhist
  cases cause with
  | ensure =>
    have hnil : history i u.log = [] := hhist.trans hat
    cases result with
    | ok v => exact hends.goto (.of_at hnil)
    | error error => exact hends.goto (.of_at ⟨0, hnil ▸ .unsent _⟩)
  | refresh g original =>
    refine hends.afterRefresh (hhist ▸ hat.1) hat.2 fun hok => ?_
    subst hok
    have hobs := (hl.places i).observed g (by rw [hpc]; rfl)
    have := endLogin_ok hres
    rw [hl.generation] at this
    show g < u.session.generation
    omega

theorem TraceInv.ensure (hi : TraceInv calls s) (hs : Legacy.step client calls s (.ensure i) = some t) :
    TraceInv calls t := by
  have hplace := hi i
  cases hpc : s.tasks i <;> cases hlock : s.lock <;> simp only [Legacy.step, hpc, hlock, reduceCtorEq] at hs
  rw [hpc] at hplace
  have hnil : history i s.log = [] := hplace.at (by simp)
  cases hs
  unfold Client.ensureSession
  split
  · exact hi.goto (.of_at hnil)
  · split
    · exact hi.goto (.of_at ⟨0, hnil ▸ .unsent _⟩)
    · exact hi.startLogin .ensure rfl rfl hnil

theorem TraceInv.prepare (hi : TraceInv calls s) (hs : Legacy.step client calls s (.prepare i) = some t) :
    TraceInv calls t := by
  have hplace := hi i
  cases hpc : s.tasks i <;> simp only [Legacy.step, hpc, reduceCtorEq] at hs
  rename_i g attempt
  rw [hpc] at hplace
  have hat := hplace.at (by simp)
  split at hs
  · cases hs
  · cases hprep : (calls i).prepare s.session.kind s.session.csrf with
    | ended result =>
      rw [hprep] at hs
      cases hs
      rw [settle_ended fun error h => (calls i).prepare_config _ _ _ (h ▸ hprep)]
      refine hi.goto (.of_at ⟨g, ?_⟩)
      cases attempt with
      | first => exact (show history i s.log = [] from hat) ▸ .unsent _
      | again => exact .notResent _ hat
    | send wire =>
      rw [hprep] at hs
      cases hs
      refine hi.move [.sent i g wire] rfl rfl ?_ (.of_at ?_)
      · intro o ho j hj
        rw [List.mem_singleton.1 ho]
        simpa [Obs.ofRequest] using Ne.symm hj
      · have : history i [.sent i g wire] = [.sent i g wire] := by simp [history, Obs.ofRequest]
        rw [this]
        cases attempt with
        | first => exact ⟨wire, by rw [show history i s.log = [] from hat]; rfl⟩
        | again => exact ⟨wire, _, rfl, hat⟩

theorem TraceInv.answer {answer : Answer} (hi : TraceInv calls s) (hs : Legacy.step client calls s (.answer i answer) = some t) :
    TraceInv calls t := by
  have hplace := hi i
  cases hpc : s.tasks i <;> simp only [Legacy.step, hpc, reduceCtorEq] at hs
  rename_i g attempt
  rw [hpc] at hplace
  have hat := hplace.at (by simp)
  cases hs
  refine hi.move [.answered i g answer] rfl rfl ?_ (.of_at ?_)
  · intro o ho j hj
    rw [List.mem_singleton.1 ho]
    simpa [Obs.ofRequest] using Ne.symm hj
  · have : history i [.answered i g answer] = [.answered i g answer] := by simp [history, Obs.ofRequest]
    rw [this]
    cases attempt with
    | first =>
      obtain ⟨wire, hw⟩ := hat
      exact ⟨wire, by rw [hw]; rfl⟩
    | again =>
      obtain ⟨wire, l, hw, hres⟩ := hat
      exact ⟨wire, l, by rw [hw]; rfl, hres⟩

theorem TraceInv.finish (hi : TraceInv calls s) (hs : Legacy.step client calls s (.finish i) = some t) :
    TraceInv calls t := by
  have hplace := hi i
  cases hpc : s.tasks i <;> simp only [Legacy.step, hpc, reduceCtorEq] at hs
  rename_i g attempt answer
  rw [hpc] at hplace
  have hat := hplace.at (by simp)
  have hone : attempt = .first → Once (calls i) i g ((calls i).finish answer) (history i s.log) := by
    rintro rfl
    obtain ⟨wire, hw⟩ := hat
    exact hw ▸ .mk answer wire
  have hfin : Finished (calls i) i g ((calls i).finish answer) (history i s.log) := by
    cases attempt with
    | first => exact .once (hone rfl)
    | again =>
      obtain ⟨wire, l, hw, hres⟩ := hat
      exact hw ▸ .twice answer wire hres
  cases htok : answerToken answer with
  | none => rw [htok] at hs; cases hs; exact hi.settle hfin hone
  | some token =>
    rw [htok] at hs
    cases hlock : s.lock with
    | some j => rw [hlock] at hs; cases hs
    | none =>
      rw [hlock] at hs
      cases hs
      have hcap : TraceInv calls (s.captureCsrf i g token) := hi
      exact hcap.settle hfin hone

theorem TraceInv.refresh (hi : TraceInv calls s) (hl : LoginInv calls s) (hs : Legacy.step client calls s (.refresh i) = some t) :
    TraceInv calls t := by
  have hplace := hi i
  cases hpc : s.tasks i <;> cases hlock : s.lock <;> simp only [Legacy.step, hpc, hlock, reduceCtorEq] at hs
  rename_i g original
  rw [hpc] at hplace
  have hat := hplace.at (by simp)
  have hobs := (hl.places i).observed g (by rw [hpc]; rfl)
  rw [← hl.generation] at hobs
  cases hs
  unfold Client.refreshSession
  split
  · rename_i hstale
    exact hi.afterRefresh hat.1 hat.2 fun _ => by have := hstale.1; omega
  · split
    · exact hi.afterRefresh hat.1 hat.2 fun h => by cases h
    · exact hi.startLogin (.refresh g original) rfl rfl hat

/-- **Every step keeps the histories.** -/
theorem TraceInv.step {e : Event} (hi : TraceInv calls s) (hl : LoginInv calls s)
    (hs : Legacy.step client calls s e = some t) : TraceInv calls t := by
  cases e with
  | advance ms => cases hs; exact hi
  | ensure i => exact hi.ensure hs
  | loggedIn i answers =>
    cases hpc : s.tasks i <;> simp only [Legacy.step, hpc, reduceCtorEq] at hs
    cases hs
    exact hi.loggedIn hl hpc answers
  | prepare i => exact hi.prepare hs
  | answer i answer => exact hi.answer hs
  | finish i => exact hi.finish hs
  | refresh i => exact hi.refresh hl hs
  | wake i =>
    have hplace := hi i
    cases hpc : s.tasks i <;> simp only [Legacy.step, hpc, reduceCtorEq] at hs
    rw [hpc] at hplace
    split at hs
    · cases hs
    · cases hs
      exact hi.goto (.of_at (hplace.at (by simp)))
  | cancel i =>
    have hgo : TraceInv calls (s.goto i .cancelled) := hi.goto (hi i).cancel
    cases hpc : s.tasks i <;> simp only [Legacy.step, hpc, reduceCtorEq] at hs <;> cases hs <;> exact hgo
  | drop i answers await =>
    obtain ⟨cause, left, hpc, -, rfl⟩ := drop_cases hs
    refine hi.move [.loginDropped i s.now] rfl rfl (fun o ho j _ => ?_) (hi i).cancel
    rw [List.mem_singleton.1 ho]
    rfl

end

/-! ## Counting attempts -/

/-- What must have happened before a second attempt: the first answer was login-required and the
session refreshed to a newer generation, or it was a rate limit short enough to wait for. -/
def MayResend {ρ : Type} (call : Call ρ) (i : TaskId) (log : List Obs) : Prop :=
  ∃ answer error, answers i log = [answer] ∧ call.finish answer = .error error ∧
    ((isLoginRequired error = true ∧ ∃ g current, Obs.refreshed i g current ∈ log ∧ g < current) ∨
      ∃ delay message, error = .rateLimited (some delay) message ∧ delay ≤ MAXIMUM_RETRY_AFTER)

/-- A request is sent at most twice, a mutation at most once and with that attempt's outcome, and
every second attempt was allowed. -/
def NotResent {ρ : Type} (call : Call ρ) (i : TaskId) (s : Client ρ) : Prop :=
  sends i s.log ≤ 2 ∧
    (call.class_ = .mutation → sends i s.log ≤ 1 ∧ ∀ result, s.tasks i = .done result → sends i s.log = 1 →
      ∃ answer, answers i s.log = [answer] ∧ result = call.finish answer) ∧
    ∀ newer g wire older, s.log = newer ++ .sent i g wire :: older → sends i older = 0 ∨
      (call.class_ = .idempotentRead ∧ sends i older = 1 ∧ MayResend call i older)

section
variable {ρ : Type} {call : Call ρ} {i : TaskId} {g : Nat} {l log : List Obs} {pc : Pc ρ}

theorem sentIn_sent {wire : Wire} : sentIn (.sent i g wire :: l) = sentIn l + 1 := rfl

theorem sentIn_answered {answer : Answer} : sentIn (.answered i g answer :: l) = sentIn l := rfl

/-- The counts of a single attempt. -/
theorem Once.counts {result : Except ApiError ρ} (h : Once call i g result l) :
    sentIn l = 1 ∧ ∃ answer, l.filterMap Obs.answer? = [answer] ∧ result = call.finish answer := by
  cases h with
  | mk answer wire => exact ⟨rfl, answer, rfl, rfl⟩

/-- A request that may be sent again was sent once. -/
theorem Resumed.counts (h : Resumed call i g l) : sentIn l = 1 ∧ call.class_ = .idempotentRead := by
  cases h with
  | refreshed _ hone hread => exact ⟨hone.counts.1, hread⟩
  | waited hone hread => exact ⟨hone.counts.1, hread⟩

theorem Resumed.mayResend (h : Resumed call i g (history i log)) : MayResend call i log := by
  cases hl : history i log with
  | nil =>
    rw [hl] at h
    have := h.counts.1
    cases this
  | cons o l =>
    rw [hl] at h
    cases h with
    | refreshed current hone hread hlogin hnewer =>
      obtain ⟨-, answer, ha, hf⟩ := hone.counts
      have hm : Obs.refreshed i g current ∈ history i log := by rw [hl]; exact List.mem_cons_self
      exact ⟨answer, _, by rw [answers, hl]; exact ha, hf.symm,
        Or.inl ⟨hlogin, g, current, (List.mem_filter.1 hm).1, hnewer⟩⟩
    | waited hone hread hdelay =>
      obtain ⟨-, answer, ha, hf⟩ := hone.counts
      exact ⟨answer, _, by rw [answers, hl]; exact ha, hf.symm, Or.inr ⟨_, _, rfl, hdelay⟩⟩

/-- The attempts of a history: none, one, or a second one on top of what allows it. -/
inductive Attempts (call : Call ρ) (i : TaskId) : List Obs → Prop
  | none : Attempts call i []
  | one {g : Nat} {wire : Wire} : Attempts call i [.sent i g wire]
  | answered {g : Nat} {result : Except ApiError ρ} {l : List Obs} (hone : Once call i g result l) : Attempts call i l
  | resumed {g : Nat} {l : List Obs} (hres : Resumed call i g l) : Attempts call i l
  | second {g : Nat} {wire : Wire} {l : List Obs} (hres : Resumed call i g l) : Attempts call i (.sent i g wire :: l)
  | secondAnswered {g : Nat} {wire : Wire} {answer : Answer} {l : List Obs} (hres : Resumed call i g l) :
      Attempts call i (.answered i g answer :: .sent i g wire :: l)

theorem Finished.attempts {result : Except ApiError ρ} (h : Finished call i g result l) : Attempts call i l := by
  cases h with
  | unsent => exact .none
  | once hone => exact .answered hone
  | refreshFailed _ hone => exact .answered hone
  | notResent _ hres => exact .resumed hres
  | twice answer wire hres => exact .secondAnswered hres

theorem TracedAt.attempts (h : TracedAt call i pc l) : Attempts call i l := by
  cases pc with
  | start => exact (show l = [] from h) ▸ .none
  | loggingIn cause =>
    cases cause with
    | ensure => exact (show l = [] from h) ▸ .none
    | refresh g error => exact .answered h.1
  | ready g attempt =>
    cases attempt with
    | first => exact (show l = [] from h) ▸ .none
    | again => exact .resumed h
  | sent g attempt =>
    cases attempt with
    | first => obtain ⟨wire, rfl⟩ := h; exact .one
    | again => obtain ⟨wire, l', rfl, hres⟩ := h; exact .second hres
  | answered g attempt answer =>
    cases attempt with
    | first => obtain ⟨wire, rfl⟩ := h; exact .answered (.mk answer wire)
    | again => obtain ⟨wire, l', rfl, hres⟩ := h; exact .secondAnswered hres
  | refreshing g error => exact .answered h.1
  | sleeping g until_ => exact .resumed h
  | done result => obtain ⟨g, hfin⟩ := h; exact hfin.attempts
  | cancelled => exact h.elim

/-- At most two sends, and two only for a read. -/
theorem Attempts.sends_le (h : Attempts call i l) : sentIn l ≤ 2 ∧
    (call.class_ = .mutation → sentIn l ≤ 1) := by
  have hread : ∀ {g l}, Resumed call i g l → call.class_ ≠ .mutation := fun hres h => by
    rw [hres.counts.2] at h
    cases h
  cases h with
  | none => exact ⟨Nat.zero_le _, fun _ => Nat.zero_le _⟩
  | one => exact ⟨Nat.le_succ 1, fun _ => Nat.le_refl 1⟩
  | answered hone => rw [hone.counts.1]; exact ⟨Nat.le_succ 1, fun _ => Nat.le_refl 1⟩
  | resumed hres => rw [hres.counts.1]; exact ⟨Nat.le_succ 1, fun _ => Nat.le_refl 1⟩
  | second hres =>
    rw [sentIn_sent, hres.counts.1]
    exact ⟨Nat.le_refl 2, fun hm => absurd hm (hread hres)⟩
  | secondAnswered hres =>
    rw [sentIn_answered, sentIn_sent, hres.counts.1]
    exact ⟨Nat.le_refl 2, fun hm => absurd hm (hread hres)⟩

/-- Nothing lies under the send of a single attempt. -/
theorem Once.under {result : Except ApiError ρ} (h : Once call i g result l) {a b : List Obs} {k : Nat} {wire : Wire}
    (hl : l = a ++ .sent i k wire :: b) : b = [] := by
  cases h with
  | mk answer w =>
    rcases a with _ | ⟨o, _ | ⟨o', a⟩⟩
    · cases hl
    · cases hl; rfl
    · simp at hl

theorem Resumed.under (h : Resumed call i g l) {a b : List Obs} {k : Nat} {wire : Wire}
    (hl : l = a ++ .sent i k wire :: b) : b = [] := by
  cases h with
  | refreshed current hone =>
    cases a with
    | nil => cases hl
    | cons o a => exact hone.under (List.cons.inj hl).2
  | waited hone => exact hone.under hl

/-- What lies under a send: nothing, or what allows a second attempt. -/
theorem Attempts.under (h : Attempts call i l) {a b : List Obs} {k : Nat} {wire : Wire}
    (hl : l = a ++ .sent i k wire :: b) : b = [] ∨ ∃ g', Resumed call i g' b := by
  have hsecond : ∀ {g w l' a}, Resumed call i g l' → .sent i g w :: l' = a ++ .sent i k wire :: b →
      b = [] ∨ ∃ g', Resumed call i g' b := by
    intro g w l' a hres hl
    cases a with
    | nil => exact Or.inr ⟨g, (List.cons.inj hl).2 ▸ hres⟩
    | cons o a => exact Or.inl (hres.under (List.cons.inj hl).2)
  cases h with
  | none => simp at hl
  | one =>
    cases a with
    | nil => exact Or.inl (List.cons.inj hl).2.symm
    | cons o a => simp at hl
  | answered hone => exact Or.inl (hone.under hl)
  | resumed hres => exact Or.inl (hres.under hl)
  | second hres => exact hsecond hres hl
  | secondAnswered hres =>
    cases a with
    | nil => cases hl
    | cons o a => exact hsecond hres (List.cons.inj hl).2

/-- A mutation that is over was answered by its one attempt. -/
theorem Finished.outcome {result : Except ApiError ρ} (h : Finished call i g result l) (hm : call.class_ = .mutation)
    (hone : sentIn l = 1) : ∃ answer, l.filterMap Obs.answer? = [answer] ∧ result = call.finish answer := by
  have hread : call.class_ ≠ .idempotentRead := by rw [hm]; simp
  cases h with
  | unsent => cases hone
  | once h => exact h.counts.2
  | refreshFailed _ _ hclass => exact absurd hclass hread
  | notResent _ hres => exact absurd hres.counts.2 hread
  | twice answer wire hres => exact absurd hres.counts.2 hread

theorem TraceInv.notResent {calls : TaskId → Call ρ} {s : Client ρ} (hi : TraceInv calls s) (i : TaskId) :
    NotResent (calls i) i s := by
  have hplace := hi i
  obtain ⟨at_, -, hat⟩ := hi i
  have hle := hat.attempts.sends_le
  refine ⟨hle.1, fun hm => ⟨hle.2 hm, fun result hdone hone => ?_⟩, fun newer g wire older hlog => ?_⟩
  · rw [hdone] at hplace
    obtain ⟨g, hfin⟩ := hplace.at (by simp)
    exact hfin.outcome hm hone
  · have hhist : history i s.log = history i newer ++ .sent i g wire :: history i older := by
      rw [hlog, history, List.filter_append, List.filter_cons_of_pos (by simp [Obs.ofRequest])]
      rfl
    rcases hat.attempts.under hhist with h | ⟨g', hres⟩
    · exact Or.inl (by rw [sends, h]; rfl)
    · exact Or.inr ⟨hres.counts.2, hres.counts.1, hres.mayResend⟩

end

/-- **No request is resent against the rules.** In every run of requests made through
`request_with_reauth_with_status_bytes`: a mutation reaches its route at most once and its result
is the outcome of that attempt; a read reaches it at most twice, the second time only after a
login-required answer whose refresh brought a newer session, or a short rate limit. -/
theorem requests_not_resent {T : Type} (client : LegacyClient) (requests : TaskId → LegacyRequest T)
    (es : List Event) (s : Client (List T × Nat × Bytes))
    (hrun : (legacyClient client fun i => legacyCall client (requests i)).Reaches es s) (i : TaskId) :
    NotResent (legacyCall client (requests i)) i s := by
  have hboth : LoginInv (fun i => legacyCall client (requests i)) s ∧
      TraceInv (fun i => legacyCall client (requests i)) s :=
    (legacyClient client _).run_invariant (I := fun s => LoginInv _ s ∧ TraceInv _ s)
      ⟨loginInv_initial, traceInv_initial⟩ (fun _ _ _ hi hs => ⟨hi.1.step hs, hi.2.step hi.1 hs⟩) hrun
  exact hboth.2.notResent i

/-! ## A mutation whose refresh fails -/

/-- A write of one network, of which only empty answers come back. -/
def sampleMutation : LegacyRequest Unit where
  class_ := .mutation
  method := "PUT".toList
  site := "default".toList
  tail := ["rest", "networkconf", "n1"].map String.toList
  body := some "{}".toList
  decode := fun _ => .error "EOF while parsing a value at line 1 column 0".toList

/-- The write is told to log in and the login that follows is refused. -/
def refusedRun : List Event :=
  [.ensure 0, .loggedIn 0 fun _ => emptyAnswer 200, .prepare 0, .answer 0 (emptyAnswer 401), .finish 0, .refresh 0,
    .loggedIn 0 fun _ => emptyAnswer 403]

theorem requests_not_resent_refused : ∃ s,
    (legacyClient sampleClient fun _ => legacyCall sampleClient sampleMutation).Reaches refusedRun s ∧
      s.tasks 0 = .done (.error (.status 401 [])) ∧ NotResent (legacyCall sampleClient sampleMutation) 0 s :=
  ⟨_, rfl, rfl, requests_not_resent sampleClient (fun _ => sampleMutation) refusedRun _ rfl 0⟩

end UnifiMcp.Legacy

import UnifiMcp.Api.LegacyClient
/-! # When a login is started (unifi-api/src/legacy.rs:1549-1587)

The log of a run tells which logins were started, how they ended and which requests were told to
log in. `WellStarted` says that every start was allowed by what the log held before it;
`LoginInv` ties the session to the log.

* `logins_restrained` — in every run that drops no request in the middle of its login, a login is
  started only as the first one, after a rejected request of the current generation, or once the
  backoff window of the last failure is over; two logins for observers of one generation have such
  a failure between them; `generation` counts the successful logins. -/
namespace UnifiMcp.Legacy
open Text

/-! ## Reading the log -/

/-- Successful logins. -/
def successes : List Obs → Nat
  | [] => 0
  | .loginEnded _ (.ok _) _ :: log => successes log + 1
  | _ :: log => successes log

/-- The outcome and time of the last login that ended. -/
def lastEnded : List Obs → Option (Except ApiError Unit × Nat)
  | [] => none
  | .loginEnded _ result t :: _ => some (result, t)
  | _ :: log => lastEnded log

/-- A login was started and has neither ended nor been dropped. -/
def inFlight : List Obs → Bool
  | [] => false
  | .loginStarted _ _ _ :: _ => true
  | .loginEnded _ _ _ :: _ => false
  | .loginDropped _ _ :: _ => false
  | _ :: log => inFlight log

def Obs.isLogin : Obs → Bool
  | .loginStarted _ _ _ => true
  | .loginEnded _ _ _ => true
  | .loginDropped _ _ => true
  | _ => false

def Obs.isDrop : Obs → Bool
  | .loginDropped _ _ => true
  | _ => false

/-- No request was dropped while its login was under way. -/
def Whole (log : List Obs) : Prop := ∀ o ∈ log, o.isDrop = false

instance (log : List Obs) : Decidable (Whole log) := inferInstanceAs (Decidable (∀ o ∈ log, o.isDrop = false))

theorem Whole.older {newer older : List Obs} (h : Whole (newer ++ older)) : Whole older :=
  fun o ho => h o (List.mem_append_right _ ho)

theorem Whole.newer {newer older : List Obs} (h : Whole (newer ++ older)) : Whole newer :=
  fun o ho => h o (List.mem_append_left _ ho)

theorem Whole.tail {o : Obs} {log : List Obs} (h : Whole (o :: log)) : Whole log :=
  fun o' ho => h o' (List.mem_cons_of_mem _ ho)

theorem not_whole_dropped {i : TaskId} {t : Nat} {log : List Obs} : ¬Whole (.loginDropped i t :: log) :=
  fun h => Bool.noConfusion (h _ List.mem_cons_self)

section
variable {ρ : Type} (calls : TaskId → Call ρ)

/-- Some request that observed generation `g` was answered login-required. -/
def RejectedAt (log : List Obs) (g : Nat) : Prop :=
  ∃ j answer error, Obs.answered j g answer ∈ log ∧ (calls j).finish answer = .error error ∧
    isLoginRequired error = true

/-- What must have happened before a login starts at time `t`. -/
def Allowed (older : List Obs) (t : Nat) : Prop :=
  match lastEnded older with
  | none => ∀ j cause u, Obs.loginStarted j cause u ∉ older
  | some (.ok _, _) => RejectedAt calls older (successes older)
  | some (.error error, failedAt) => failedAt + backoffWindow error ≤ t

/-- A login for an observer of `g` is for the current generation, unless the last login failed. -/
def Cause.Current (older : List Obs) : Cause → Prop
  | .ensure => True
  | .refresh g _ => g ≤ successes older ∧ ∀ t, lastEnded older = some (.ok (), t) → successes older = g

/-- Every login in the log was allowed by what came before it, and no other one was under way. -/
def WellStarted : List Obs → Prop
  | [] => True
  | .loginStarted _ cause t :: older =>
    inFlight older = false ∧ Allowed calls older t ∧ cause.Current older ∧ WellStarted older
  | _ :: older => WellStarted older

variable {calls} {log extra older : List Obs}

/-- An observation that is no login changes none of the readings. -/
theorem quiet_cons {o : Obs} (h : o.isLogin = false) :
    successes (o :: log) = successes log ∧ lastEnded (o :: log) = lastEnded log ∧
      inFlight (o :: log) = inFlight log ∧ (WellStarted calls (o :: log) ↔ WellStarted calls log) := by
  cases o with
  | loginStarted => cases h
  | loginEnded => cases h
  | loginDropped => cases h
  | _ => exact ⟨rfl, rfl, rfl, Iff.rfl⟩

theorem quiet_append (h : ∀ o ∈ extra, o.isLogin = false) :
    successes (extra ++ log) = successes log ∧ lastEnded (extra ++ log) = lastEnded log ∧
      inFlight (extra ++ log) = inFlight log ∧ (WellStarted calls (extra ++ log) ↔ WellStarted calls log) := by
  induction extra with
  | nil => exact ⟨rfl, rfl, rfl, Iff.rfl⟩
  | cons o extra ih =>
    obtain ⟨h1, h2, h3, h4⟩ := ih fun x hx => h x (by simp [hx])
    obtain ⟨k1, k2, k3, k4⟩ := @quiet_cons _ calls (extra ++ log) o (h o (by simp))
    exact ⟨k1.trans h1, k2.trans h2, k3.trans h3, k4.trans h4⟩

/-- With no login ended and none under way, none was started. -/
theorem not_started_of_none (hw : Whole log) (hf : inFlight log = false) (hl : lastEnded log = none) (j : TaskId)
    (cause : Cause) (u : Nat) : Obs.loginStarted j cause u ∉ log := by
  induction log with
  | nil => exact List.not_mem_nil
  | cons o log ih =>
    have ih := @ih hw.tail
    cases o with
    | loginStarted => cases hf
    | loginEnded => cases hl
    | loginDropped => exact absurd hw not_whole_dropped
    | _ =>
      intro hm
      rcases List.mem_cons.1 hm with hm | hm
      · cases hm
      · exact ih hf hl hm

/-- The last login ended after the last one started, when none is under way. -/
theorem lastEnded_append_started {newer : List Obs} {j : TaskId} {cause : Cause} {u : Nat} (hw : Whole newer)
    (hf : inFlight (newer ++ .loginStarted j cause u :: older) = false) :
    ∃ k result t, Obs.loginEnded k result t ∈ newer ∧
      lastEnded (newer ++ .loginStarted j cause u :: older) = some (result, t) := by
  induction newer with
  | nil => cases hf
  | cons o newer ih =>
    have ih := @ih hw.tail
    cases o with
    | loginStarted => cases hf
    | loginDropped => exact absurd hw not_whole_dropped
    | loginEnded k result t => exact ⟨k, result, t, List.mem_cons_self, rfl⟩
    | _ =>
      obtain ⟨k, result, t, hm, hl⟩ := ih hf
      exact ⟨k, result, t, List.mem_cons_of_mem _ hm, hl⟩

theorem successes_append (newer older : List Obs) : successes older ≤ successes (newer ++ older) := by
  induction newer with
  | nil => exact Nat.le_refl _
  | cons o newer ih =>
    cases o with
    | loginEnded k result t => cases result <;> simp only [List.cons_append, successes] <;> omega
    | _ => exact ih

/-- A success in the newer part counts. -/
theorem successes_lt_append {newer : List Obs} {k : TaskId} {t : Nat} (h : Obs.loginEnded k (.ok ()) t ∈ newer) :
    successes older < successes (newer ++ older) := by
  obtain ⟨a, b, rfl⟩ := List.append_of_mem h
  have h1 := successes_append a (.loginEnded k (.ok ()) t :: (b ++ older))
  have h2 := successes_append b older
  simp only [successes] at h1
  rw [List.append_assoc, List.cons_append]
  omega

theorem WellStarted.tail {newer : List Obs} (h : WellStarted calls (newer ++ older)) : WellStarted calls older := by
  induction newer with
  | nil => exact h
  | cons o newer ih =>
    cases o with
    | loginStarted => exact ih h.2.2.2
    | _ => exact ih h

/-- Two logins for observers of one generation: the last login before the later one failed, and
its window is over. -/
theorem WellStarted.between {a b c : List Obs} {i j : TaskId} {g t u : Nat} {e e' : ApiError}
    (hw : Whole b)
    (h : WellStarted calls (a ++ .loginStarted i (.refresh g e) t :: b ++ .loginStarted j (.refresh g e') u :: c)) :
    ∃ k error failedAt, Obs.loginEnded k (.error error) failedAt ∈ b ∧ failedAt + backoffWindow error ≤ t := by
  rw [List.append_assoc, List.cons_append] at h
  obtain ⟨hquiet, hallow, hcur, hrest⟩ := h.tail
  obtain ⟨k, result, f, hm, hlast⟩ := lastEnded_append_started hw hquiet
  have hg : g ≤ successes c := hrest.tail.2.2.1.1
  rw [Allowed, hlast] at hallow
  cases result with
  | error error => exact ⟨k, error, f, hm, hallow⟩
  | ok u' =>
    -- a success since the earlier start would have raised the generation above `g`
    have hlt : successes (.loginStarted j (.refresh g e') u :: c) <
        successes (b ++ .loginStarted j (.refresh g e') u :: c) := successes_lt_append hm
    have heq := hcur.2 f hlast
    simp only [successes] at hlt
    omega

end

/-! ## The invariant -/

/-- The generation a request carries. -/
def Pc.observed {ρ : Type} : Pc ρ → Option Nat
  | .ready g _ | .sent g _ | .answered g _ _ | .refreshing g _ | .sleeping g _ => some g
  | .loggingIn (.refresh g _) => some g
  | _ => none

/-- The place holds no answer of the controller. -/
def Pc.plain {ρ : Type} : Pc ρ → Bool
  | .answered _ _ _ | .refreshing _ _ => false
  | _ => true

/-- The session of a client without a login under way, by how the last login ended. -/
def SettledSession (session : SessionState) : Option (Except ApiError Unit × Nat) → Prop
  | none => session.authenticated = false ∧ session.failedLogin = none
  | some (.ok _, _) => session.authenticated = true ∧ session.failedLogin = none
  | some (.error error, t) =>
    session.authenticated = false ∧ session.failedLogin = some ⟨t + backoffWindow error, error⟩

section
variable {ρ : Type} (calls : TaskId → Call ρ)

/-- What the log says about one request's place. -/
structure PlaceInv (log : List Obs) (i : TaskId) (pc : Pc ρ) : Prop where
  observed : ∀ g, pc.observed = some g → g ≤ successes log
  answered : ∀ g attempt answer, pc = .answered g attempt answer → Obs.answered i g answer ∈ log
  refreshing : ∀ g original, pc = .refreshing g original → RejectedAt calls log g

structure LoginInv (s : Client ρ) : Prop where
  generation : s.session.generation = successes s.log
  started : Whole s.log → WellStarted calls s.log
  settled : s.lock = none → Whole s.log → inFlight s.log = false ∧ SettledSession s.session (lastEnded s.log)
  held : s.lock.isSome → s.session.authenticated = false
  logging : ∀ i cause, s.tasks i = .loggingIn cause → s.lock = some i
  places : ∀ i, PlaceInv calls s.log i (s.tasks i)

variable {calls} {client : LegacyClient} {s t : Client ρ} {i : TaskId} {log extra : List Obs} {pc : Pc ρ}

theorem RejectedAt.mono {g : Nat} (h : RejectedAt calls log g) (hsub : ∀ o ∈ log, o ∈ extra) :
    RejectedAt calls extra g := by
  obtain ⟨j, answer, error, hm, h⟩ := h
  exact ⟨j, answer, error, hsub _ hm, h⟩

theorem PlaceInv.append (h : PlaceInv calls log i pc) (newer : List Obs) : PlaceInv calls (newer ++ log) i pc where
  observed := fun g hg => Nat.le_trans (h.observed g hg) (successes_append newer log)
  answered := fun g attempt answer hp => List.mem_append_right _ (h.answered g attempt answer hp)
  refreshing := fun g original hp => (h.refreshing g original hp).mono fun _ ho => List.mem_append_right _ ho

/-- A place that holds no answer asks nothing of the log but its generation. -/
theorem PlaceInv.of_plain (h : pc.plain = true) (hg : ∀ g, pc.observed = some g → g ≤ successes log) :
    PlaceInv calls log i pc where
  observed := hg
  answered := fun g attempt answer hp => by rw [hp] at h; cases h
  refreshing := fun g original hp => by rw [hp] at h; cases h

theorem PlaceInv.of_done {result : Except ApiError ρ} : PlaceInv calls log i (.done result) :=
  .of_plain rfl fun _ h => by cases h

theorem loginInv_initial : LoginInv calls (initial : Client ρ) where
  generation := rfl
  started := fun _ => trivial
  settled := fun _ _ => ⟨rfl, rfl, rfl⟩
  held := fun h => by cases h
  logging := fun _ _ h => by cases h
  places := fun _ => .of_plain rfl fun _ h => by cases h

/-- **The quiet move.** Request `i` goes on, logging nothing about logins and leaving the core of
the session and the mutex alone. -/
theorem LoginInv.quiet (hi : LoginInv calls s) (extra : List Obs) {session : SessionState} (hcore : session.core = s.session.core)
    (hextra : ∀ o ∈ extra, o.isLogin = false) (hlog : ∀ cause, pc ≠ .loggingIn cause)
    (hpc : PlaceInv calls (extra ++ s.log) i pc) :
    LoginInv calls ⟨session, s.lock, s.now, Function.update s.tasks i pc, extra ++ s.log⟩ := by
  obtain ⟨h1, h2, h3, h4⟩ := @quiet_append _ calls s.log extra hextra
  simp only [SessionState.core, Prod.mk.injEq] at hcore
  obtain ⟨hauth, hgen, hfail⟩ := hcore
  constructor
  case generation => exact hgen.trans (hi.generation.trans h1.symm)
  case started => exact fun hw => h4.2 (hi.started (Whole.older hw))
  case settled =>
    intro hl hw
    obtain ⟨hq, hs⟩ := hi.settled hl (Whole.older hw)
    refine ⟨h3.trans hq, ?_⟩
    simp only [h2]
    unfold SettledSession at hs ⊢
    rw [hauth, hfail]
    exact hs
  case held => exact fun hl => hauth.trans (hi.held hl)
  case logging =>
    intro j cause hj
    by_cases hji : j = i
    · subst hji
      simp only [Function.update_self] at hj
      exact absurd hj (hlog cause)
    · simp only [Function.update_of_ne hji] at hj
      exact hi.logging j cause hj
  case places =>
    intro j
    by_cases hji : j = i
    · subst hji
      simpa only [Function.update_self] using hpc
    · simp only [Function.update_of_ne hji]
      exact (hi.places j).append extra

/-- Time passes. -/
theorem LoginInv.advance (hi : LoginInv calls s) (ms : Nat) : LoginInv calls { s with now := s.now + ms } where
  generation := hi.generation
  started := hi.started
  settled := hi.settled
  held := hi.held
  logging := hi.logging
  places := hi.places

/-- A move to a place without a generation. -/
theorem LoginInv.goto (hi : LoginInv calls s) (hlog : ∀ cause, pc ≠ .loggingIn cause)
    (hpc : PlaceInv calls s.log i pc) : LoginInv calls (s.goto i pc) :=
  hi.quiet [] rfl (by simp) hlog hpc

/-- The arms after an execution. -/
theorem LoginInv.settle (hi : LoginInv calls s) {g : Nat} {attempt : Attempt} {result : Except ApiError ρ}
    (hg : g ≤ successes s.log)
    (hrej : ∀ error, result = .error error → isLoginRequired error = true → RejectedAt calls s.log g) :
    LoginInv calls (s.settle (calls i) i g attempt result) := by
  obtain ⟨pc, hpc, hset⟩ := settle_cases (calls i) s i g attempt result
  rw [hpc]
  cases hset with
  | done => exact hi.goto (by simp) .of_done
  | refreshing error _ hresult hlogin =>
    refine hi.goto (by simp) ⟨fun g' h => ?_, fun _ _ _ h => by simp at h, fun g' e h => ?_⟩ <;> cases h
    · exact hg
    · exact hrej error hresult hlogin
  | sleeping => exact hi.goto (by simp) (.of_plain rfl fun g' h => by cases h; exact hg)

/-- The ways on from a refresh. -/
theorem LoginInv.afterRefresh (hi : LoginInv calls s) {g : Nat} (hg : g ≤ successes s.log) (original : ApiError)
    (refresh : Except ApiError Unit) : LoginInv calls (s.afterRefresh (calls i) i g original refresh) := by
  rcases afterRefresh_cases (calls i) s i g original refresh with
    ⟨-, h⟩ | ⟨-, -, h⟩ | ⟨-, error, -, h⟩ <;> rw [h]
  · exact hi.goto (by simp) .of_done
  · exact hi.quiet [.refreshed i g s.session.generation] rfl (by simp [Obs.isLogin]) (by simp)
      (.of_plain rfl fun g' h => by cases h; exact hg)
  · exact hi.goto (by simp) .of_done

/-- **A login starts.** The caller found no failure to share, so the record of the last failure,
if any, has run out. -/
theorem LoginInv.startLogin (hi : LoginInv calls s) (cause : Cause) (session : SessionState)
    (hlock : s.lock = none) (hcur : session.generation = s.session.generation)
    (hauth : session.authenticated = false) (hshared : sharedFailure s.session s.now = none)
    (hcause : match cause with
      | .ensure => s.session.authenticated = false
      | .refresh g _ => RejectedAt calls s.log g ∧ g ≤ successes s.log ∧
          (s.session.authenticated = true → s.session.generation = g)) :
    LoginInv calls ({ s with session := session }.startLogin i cause) := by
  have hallow (hw : Whole s.log) : Allowed calls s.log s.now := by
    obtain ⟨hquiet, hsettled⟩ := hi.settled hlock hw
    unfold Allowed
    cases hl : lastEnded s.log with
    | none => exact not_started_of_none hw hquiet hl
    | some last =>
      obtain ⟨result, f⟩ := last
      rw [hl] at hsettled
      cases result with
      | error error => exact sharedFailure_none hshared hsettled.2
      | ok u =>
        -- an authenticated session is only refreshed for an observer of its generation
        cases cause with
        | ensure => rw [hsettled.1] at hcause; cases hcause
        | refresh g original =>
          have := hcause.2.2 hsettled.1
          rw [← hi.generation, this]
          exact hcause.1
  have hcurrent (hw : Whole s.log) : cause.Current s.log := by
    have hsettled := (hi.settled hlock hw).2
    cases cause with
    | ensure => trivial
    | refresh g original =>
      refine ⟨hcause.2.1, fun f hl => ?_⟩
      rw [hl] at hsettled
      rw [← hi.generation, hcause.2.2 hsettled.1]
  constructor
  case generation => exact hcur.trans hi.generation
  case started =>
    intro hw
    have hw : Whole s.log := Whole.tail hw
    exact ⟨(hi.settled hlock hw).1, hallow hw, hcurrent hw, hi.started hw⟩
  case settled => exact fun h => by cases h
  case held => exact fun _ => hauth
  case logging =>
    intro j cause' hj
    by_cases hji : j = i
    · rw [hji]; rfl
    · simp only [Client.startLogin, Client.note, Client.goto, Function.update_of_ne hji] at hj
      rw [hi.logging j cause' hj] at hlock
      cases hlock
  case places =>
    intro j
    by_cases hji : j = i
    · subst hji
      simp only [Client.startLogin, Client.note, Client.goto, Function.update_self]
      refine .of_plain rfl fun g h => ?_
      cases cause with
      | ensure => cases h
      | refresh g' original => cases h; exact hcause.2.1
    · simp only [Client.startLogin, Client.note, Client.goto, Function.update_of_ne hji]
      exact (hi.places j).append [_]

/-- Only the holder of the mutex has a login under way. -/
theorem LoginInv.not_logging (hi : LoginInv calls s) {cause : Cause} (hpc : s.tasks i = .loggingIn cause) (j : TaskId)
    (cause' : Cause) : (Function.update s.tasks i .cancelled) j ≠ .loggingIn cause' := by
  intro hj
  by_cases hji : j = i
  · subst hji
    simp at hj
  · rw [Function.update_of_ne hji] at hj
    have hlock := hi.logging i cause hpc
    rw [hi.logging j cause' hj] at hlock
    exact hji (Option.some.inj hlock)

theorem LoginInv.places_cancelled (hi : LoginInv calls s) (o : Obs) (j : TaskId) :
    PlaceInv calls (o :: s.log) j ((Function.update s.tasks i .cancelled) j) := by
  by_cases hji : j = i
  · subst hji
    rw [Function.update_self]
    exact .of_plain rfl fun _ h => by cases h
  · rw [Function.update_of_ne hji]
    exact (hi.places j).append [o]

/-- **A login ends**, and its request leaves the mutex. -/
theorem LoginInv.endLogin (client : LegacyClient) (hi : LoginInv calls s) {cause : Cause} (hpc : s.tasks i = .loggingIn cause)
    (answers : List Text → Answer) : LoginInv calls ((s.endLogin client i answers).1.goto i .cancelled) := by
  have hlock := hi.logging i cause hpc
  have hauth := hi.held (by rw [hlock]; rfl)
  have hspec := login_spec client answers s.session
  unfold Client.endLogin
  rcases hlogin : login client answers s.session with ⟨session, result⟩
  rw [hlogin] at hspec
  cases result with
  | ok u =>
    simp only [LoginSpec, SessionState.core, Prod.mk.injEq] at hspec
    obtain ⟨h1, h2, h3⟩ := hspec
    exact {
      generation := h2.trans (congrArg (· + 1) hi.generation)
      started := fun hw => hi.started (Whole.tail hw)
      settled := fun _ _ => ⟨rfl, h1, h3⟩
      held := fun h => by cases h
      logging := fun j cause' h => absurd h (hi.not_logging hpc j cause')
      places := hi.places_cancelled _ }
  | error error =>
    simp only [LoginSpec, SessionState.core, Prod.mk.injEq] at hspec
    obtain ⟨h1, h2, h3⟩ := hspec
    exact {
      generation := h2.trans hi.generation
      started := fun hw => hi.started (Whole.tail hw)
      settled := fun _ _ => ⟨rfl, h1.trans hauth, rfl⟩
      held := fun h => by cases h
      logging := fun j cause' h => absurd h (hi.not_logging hpc j cause')
      places := hi.places_cancelled _ }

theorem goto_goto (s : Client ρ) (i : TaskId) (pc pc' : Pc ρ) : (s.goto i pc).goto i pc' = s.goto i pc' := by
  simp [Client.goto]

theorem afterRefresh_goto (call : Call ρ) (s : Client ρ) (i : TaskId) (pc : Pc ρ) (g : Nat) (original : ApiError)
    (refresh : Except ApiError Unit) :
    (s.goto i pc).afterRefresh call i g original refresh = s.afterRefresh call i g original refresh := by
  unfold Client.afterRefresh
  split
  · simp only [goto_goto]
  · simp only [goto_goto]
    rfl
  · simp only [goto_goto]

/-- **A login is dropped**: the mutex is free again, and nothing says how it ended. -/
theorem LoginInv.dropLogin (hi : LoginInv calls s) {cause : Cause} (hpc : s.tasks i = .loggingIn cause)
    {session : SessionState} (hcore : session.core = s.session.core) : LoginInv calls (s.dropLogin i session) where
  generation := (congrArg (·.2.1) hcore).trans hi.generation
  started := fun hw => absurd hw not_whole_dropped
  settled := fun _ hw => absurd hw not_whole_dropped
  held := fun h => by cases h
  logging := fun j cause' h => absurd h (hi.not_logging hpc j cause')
  places := hi.places_cancelled _

/-- After the login, on to the execution or to the end. -/
theorem LoginInv.loggedIn (hi : LoginInv calls s) {cause : Cause} (hpc : s.tasks i = .loggingIn cause)
    (answers : List Text → Answer) : LoginInv calls (s.loggedIn client (calls i) i cause answers) := by
  have hend := hi.endLogin client hpc answers
  have hobs := (hi.places i).observed
  have hle : successes s.log ≤ successes (s.endLogin client i answers).1.log := by
    unfold Client.endLogin
    split
    · exact successes_append [_] s.log
    · exact successes_append [_] s.log
  unfold Client.loggedIn
  rcases hres : s.endLogin client i answers with ⟨s', result⟩
  rw [hres] at hend hle
  cases cause with
  | ensure =>
    cases result with
    | ok u =>
      have hplace : PlaceInv calls s'.log i (.ready s'.session.generation .first) :=
        .of_plain rfl fun g h => by cases h; exact Nat.le_of_eq hend.generation
      simpa only [goto_goto] using hend.goto (by simp) hplace
    | error error =>
      have hplace : PlaceInv calls s'.log i (.done (.error error)) := .of_done
      simpa only [goto_goto] using hend.goto (by simp) hplace
  | refresh g original =>
    rw [hpc] at hobs
    have hg : g ≤ successes s'.log := Nat.le_trans (hobs g rfl) hle
    have := hend.afterRefresh (i := i) hg original result
    rwa [afterRefresh_goto] at this

/-- The token of an answer is captured. -/
theorem LoginInv.capture (hi : LoginInv calls s) {pc : Pc ρ} (hpc : s.tasks i = pc) (hlog : ∀ cause, pc ≠ .loggingIn cause)
    (g : Nat) (token : Text) : LoginInv calls (s.captureCsrf i g token) := by
  have hplace := (hi.places i).append [.captured i g token]
  rw [hpc] at hplace
  have hquiet : LoginInv calls ⟨{ s.session with csrf := some token }, s.lock, s.now,
      Function.update s.tasks i pc, [.captured i g token] ++ s.log⟩ :=
    hi.quiet [.captured i g token] rfl (by simp [Obs.isLogin]) hlog hplace
  rwa [← hpc, Function.update_eq_self] at hquiet

/-- `ensure_session`. -/
theorem LoginInv.ensureSession (hi : LoginInv calls s) (hlock : s.lock = none) :
    LoginInv calls (s.ensureSession i) := by
  unfold Client.ensureSession
  split
  · exact hi.goto (by simp) (.of_plain rfl fun g h => by cases h; exact Nat.le_of_eq hi.generation)
  · rename_i hauth
    have hauth : s.session.authenticated = false := by simpa using hauth
    split
    · exact hi.goto (by simp) .of_done
    · rename_i hshared
      exact hi.startLogin .ensure s.session hlock rfl hauth hshared hauth

/-- `refresh_session`. -/
theorem LoginInv.refreshSession (hi : LoginInv calls s) {g : Nat} {original : ApiError}
    (hpc : s.tasks i = .refreshing g original) (hlock : s.lock = none) :
    LoginInv calls (s.refreshSession (calls i) i g original) := by
  have hplace := hi.places i
  rw [hpc] at hplace
  have hg : g ≤ successes s.log := hplace.observed g rfl
  unfold Client.refreshSession
  split
  · exact hi.afterRefresh hg original _
  · rename_i hstale
    split
    · exact hi.afterRefresh hg original _
    · rename_i hshared
      refine hi.startLogin (.refresh g original) _ hlock rfl rfl hshared
        ⟨hplace.refreshing g original rfl, hg, fun hauth => ?_⟩
      by_cases hne : s.session.generation = g
      · exact hne
      · exact absurd ⟨hne, hauth⟩ hstale

theorem LoginInv.prepare (hi : LoginInv calls s) (hs : Legacy.step client calls s (.prepare i) = some t) :
    LoginInv calls t := by
  have hplace := hi.places i
  cases hpc : s.tasks i <;> simp only [Legacy.step, hpc, reduceCtorEq] at hs
  rename_i g attempt
  rw [hpc] at hplace
  split at hs
  · cases hs
  · cases hprep : (calls i).prepare s.session.kind s.session.csrf with
    | ended result =>
      rw [hprep] at hs
      cases hs
      rw [settle_ended fun error h => (calls i).prepare_config _ _ _ (h ▸ hprep)]
      exact hi.goto (by simp) .of_done
    | send wire =>
      rw [hprep] at hs
      cases hs
      exact hi.quiet [.sent i g wire] rfl (by simp [Obs.isLogin]) (by simp)
        (.of_plain rfl fun g' h => by cases h; exact hplace.observed g rfl)

theorem LoginInv.answer {answer : Answer} (hi : LoginInv calls s) (hs : Legacy.step client calls s (.answer i answer) = some t) :
    LoginInv calls t := by
  have hplace := hi.places i
  cases hpc : s.tasks i <;> simp only [Legacy.step, hpc, reduceCtorEq] at hs
  rename_i g attempt
  rw [hpc] at hplace
  cases hs
  refine hi.quiet [.answered i g answer] rfl (by simp [Obs.isLogin]) (by simp) ⟨fun g' h => ?_, fun _ _ _ h => ?_,
    fun _ _ h => by simp at h⟩ <;> cases h
  · exact hplace.observed g rfl
  · exact List.mem_cons_self

theorem LoginInv.finish (hi : LoginInv calls s) (hs : Legacy.step client calls s (.finish i) = some t) :
    LoginInv calls t := by
  have hplace := hi.places i
  cases hpc : s.tasks i <;> simp only [Legacy.step, hpc, reduceCtorEq] at hs
  rename_i g attempt answer
  rw [hpc] at hplace
  have hg : g ≤ successes s.log := hplace.observed g rfl
  have hrej : ∀ error, (calls i).finish answer = .error error → isLoginRequired error = true →
      RejectedAt calls s.log g := fun error hf hl => ⟨i, answer, error, hplace.answered g attempt answer rfl, hf, hl⟩
  cases htok : answerToken answer with
  | none =>
    rw [htok] at hs
    cases hs
    exact hi.settle hg hrej
  | some token =>
    rw [htok] at hs
    cases hlock : s.lock with
    | some j => rw [hlock] at hs; cases hs
    | none =>
      rw [hlock] at hs
      cases hs
      exact (hi.capture hpc (by simp) g token).settle hg fun error hf hl =>
        (hrej error hf hl).mono fun o ho => List.mem_cons_of_mem _ ho

/-- **Every step keeps the invariant.** -/
theorem LoginInv.step {e : Event} (hi : LoginInv calls s) (hs : Legacy.step client calls s e = some t) :
    LoginInv calls t := by
  cases e with
  | advance ms => cases hs; exact hi.advance ms
  | ensure i =>
    cases hpc : s.tasks i <;> cases hlock : s.lock <;> simp only [Legacy.step, hpc, hlock, reduceCtorEq] at hs
    cases hs
    exact hi.ensureSession hlock
  | loggedIn i answers =>
    cases hpc : s.tasks i <;> simp only [Legacy.step, hpc, reduceCtorEq] at hs
    cases hs
    exact hi.loggedIn hpc answers
  | prepare i => exact hi.prepare hs
  | answer i answer => exact hi.answer hs
  | finish i => exact hi.finish hs
  | refresh i =>
    cases hpc : s.tasks i <;> cases hlock : s.lock <;> simp only [Legacy.step, hpc, hlock, reduceCtorEq] at hs
    cases hs
    exact hi.refreshSession hpc hlock
  | wake i =>
    have hplace := hi.places i
    cases hpc : s.tasks i <;> simp only [Legacy.step, hpc, reduceCtorEq] at hs
    rename_i g until_
    rw [hpc] at hplace
    split at hs
    · cases hs
    · cases hs
      exact hi.goto (by simp) (.of_plain rfl fun g' h => by cases h; exact hplace.observed g rfl)
  | cancel i =>
    have hgo : LoginInv calls (s.goto i .cancelled) :=
      hi.goto (by simp) (.of_plain rfl fun _ h => by cases h)
    cases hpc : s.tasks i <;> simp only [Legacy.step, hpc, reduceCtorEq] at hs <;> cases hs <;> exact hgo
  | drop i answers await =>
    obtain ⟨cause, left, hpc, hleft, rfl⟩ := drop_cases hs
    exact hi.dropLogin hpc (loginAwaits_spec (List.mem_of_getElem? hleft)).1

end

/-- Logins are restrained: `generation` is the number of successful logins; a login is started only
as the first, or after a success of whose generation some request was told to log in, or once the
backoff window of the last failure is over; and between two logins for observers of one generation
one failed and its window ran out before the later one. -/
def LoginsRestrained {ρ : Type} (calls : TaskId → Call ρ) (s : Client ρ) : Prop :=
  s.session.generation = successes s.log ∧
    (∀ newer older i cause t, s.log = newer ++ .loginStarted i cause t :: older →
      inFlight older = false ∧ Allowed calls older t) ∧
    ∀ a b c i j g t u original original',
      s.log = a ++ .loginStarted i (.refresh g original) t :: b ++ .loginStarted j (.refresh g original') u :: c →
      ∃ k error failedAt, Obs.loginEnded k (.error error) failedAt ∈ b ∧ failedAt + backoffWindow error ≤ t

/-- **Whatever requests do, in whatever order, whatever the controller answers and whenever, logins
are restrained**, as long as no request is dropped in the middle of its login. -/
theorem logins_restrained {ρ : Type} (client : LegacyClient) (calls : TaskId → Call ρ) (es : List Event)
    (s : Client ρ) (hrun : (legacyClient client calls).Reaches es s) (hwhole : Whole s.log) : LoginsRestrained calls s := by
  have hi : LoginInv calls s :=
    (legacyClient client calls).run_invariant loginInv_initial (fun _ _ _ hi hs => hi.step hs) hrun
  refine ⟨hi.generation, ?_, ?_⟩
  · intro newer older i cause t hlog
    have hwell := hi.started hwhole
    rw [hlog] at hwell
    exact ⟨hwell.tail.1, hwell.tail.2.1⟩
  · intro a b c i j g t u original original' hlog
    have hwell := hi.started hwhole
    rw [hlog] at hwell hwhole
    rw [List.append_assoc, List.cons_append] at hwhole
    exact hwell.between hwhole.older.tail.newer

/-! ## Two rejected requests -/

/-- A console whose bodies are all empty. -/
def sampleClient : LegacyClient := ⟨⟨fun _ => [], fun _ => none, urlPush⟩, console, rfl⟩

def emptyAnswer (status : Nat) : Answer := .response ⟨status, none, none, []⟩

/-- A read of the site health; an empty body is no envelope. -/
def sampleRequest : LegacyRequest Unit where
  class_ := .idempotentRead
  method := "GET".toList
  site := "default".toList
  tail := ["stat", "health"].map String.toList
  body := none
  decode := fun _ => .error "EOF while parsing a value at line 1 column 0".toList

/-- Requests 0 and 1 both read under the first session and are both told to log in. -/
def rejectedRun : List Event :=
  [.ensure 0, .loggedIn 0 fun _ => emptyAnswer 200, .ensure 1, .prepare 0, .prepare 1, .answer 0 (emptyAnswer 401),
    .answer 1 (emptyAnswer 401), .finish 0, .finish 1, .refresh 0, .loggedIn 0 fun _ => emptyAnswer 200, .refresh 1]

/-- The second of them adopts the session of the first. -/
theorem logins_restrained_rejected : ∃ s,
    (legacyClient sampleClient fun _ => legacyCall sampleClient sampleRequest).Reaches rejectedRun s ∧
      successes s.log = 2 ∧ LoginsRestrained (fun _ => legacyCall sampleClient sampleRequest) s :=
  ⟨_, rfl, rfl, logins_restrained sampleClient _ rejectedRun _ rfl (by decide)⟩

end UnifiMcp.Legacy

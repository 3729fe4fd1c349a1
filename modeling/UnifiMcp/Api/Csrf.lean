import UnifiMcp.Api.Reauth
/-! # Whose CSRF token a request carries (unifi-api/src/legacy.rs)

The session keeps one token. A login's response sets it before the login is judged, and every
response to a request sets it when it arrives. Here the machine of the client runs together with a
record of who issued which token and which token went out under which session generation.

* `watched_run` — the record changes nothing about the runs of the client.
* `tokens_fresh` — a token that goes out was issued under the generation it goes out under, if every
  token is captured under the generation it was issued for and every new session brings one. -/
namespace UnifiMcp.Legacy
open Text

/-! ## Tokens -/

/-- A route that attaches the session's token or none. -/
structure TokenCall (ρ : Type) extends Call ρ where
  attaches : ∀ kind csrf wire, prepare kind csrf = .send wire → wire.csrf = none ∨ wire.csrf = csrf

theorem executeBytes_attaches {T : Type} (client : LegacyClient) (request : LegacyRequest T) (kind : Option ConsoleKind)
    (csrf : Option Text) (wire : Wire) (h : executeBytes client request kind csrf = .send wire) :
    wire.csrf = none ∨ wire.csrf = csrf := by
  unfold executeBytes at h
  split at h
  · cases h
  · split at h
    · cases h
    · cases h
      dsimp only
      split
      · exact Or.inr rfl
      · exact Or.inl rfl

def legacyTokenCall {T : Type} (client : LegacyClient) (request : LegacyRequest T) : TokenCall (List T × Nat × Bytes) :=
  { legacyCall client request with attaches := executeBytes_attaches client request }

/-- The response that `login` hands to `finish_login`. -/
def loginResponse (client : LegacyClient) (answers : List Text → Answer) (session : SessionState) : Option Response :=
  match session.kind with
  | some kind => (sendLogin client answers (loginRoute kind)).toOption
  | none =>
    match sendLogin client answers (loginRoute .unifiOs) with
    | .error _ => none
    | .ok probe =>
      if probe.status = NOT_FOUND then (sendLogin client answers (loginRoute .standalone)).toOption else some probe

/-- The token it carries. -/
def loginToken (client : LegacyClient) (answers : List Text → Answer) (session : SessionState) : Option Text :=
  (loginResponse client answers session).bind Response.csrf

theorem finishLogin_csrf (c : Codecs) (session : SessionState) (response : Response) :
    (finishLogin c session response).1.csrf = response.csrf.or session.csrf := by
  have hcapture := captureCsrfInto_csrf session response
  unfold finishLogin
  dsimp only
  split
  · exact hcapture
  · split
    · exact hcapture
    · split
      · split
        · exact hcapture
        · exact hcapture
      · exact hcapture

theorem loginAs_csrf (client : LegacyClient) (answers : List Text → Answer) (session : SessionState) (kind : ConsoleKind) :
    (loginAs client answers session kind).1.csrf =
      ((sendLogin client answers (loginRoute kind)).toOption.bind Response.csrf).or session.csrf := by
  unfold loginAs
  cases sendLogin client answers (loginRoute kind) with
  | error error => rfl
  | ok response => exact finishLogin_csrf ..

/-- A login leaves the token of its response, or the one that was there. -/
theorem login_csrf (client : LegacyClient) (answers : List Text → Answer) (session : SessionState) :
    (login client answers session).1.csrf = (loginToken client answers session).or session.csrf := by
  unfold login loginToken loginResponse
  cases session.kind with
  | some kind => exact loginAs_csrf ..
  | none =>
    cases sendLogin client answers (loginRoute .unifiOs) with
    | error error => rfl
    | ok probe =>
      dsimp only
      split
      · exact loginAs_csrf ..
      · split
        · exact finishLogin_csrf ..
        · exact finishLogin_csrf ..

/-! ## The record -/

inductive TokenObs where
  /-- The response of a login carried it: of the login that began `generation`, or of one that failed or was
  dropped. -/
  | login (generation : Option Nat) (token : Text)
  /-- The response to a request sent under `generation` carried it, and was captured at `current`. -/
  | response (generation current : Nat) (token : Text)
  /-- It went out with a request. -/
  | attached (generation : Nat) (token : Text)
deriving DecidableEq

structure Watched (ρ : Type) where
  client : Client ρ
  /-- The generation of the session when the request was last sent. -/
  sentUnder : TaskId → Nat
  /-- Newest first. -/
  tokens : List TokenObs

section
variable {ρ : Type} (client : LegacyClient) (calls : TaskId → TokenCall ρ)

/-- What one step adds to the record. -/
def newTokens (s : Watched ρ) : Event → Option TokenObs
  | .prepare i =>
    match s.client.tasks i with
    | .ready _ _ =>
      match (calls i).prepare s.client.session.kind s.client.session.csrf with
      | .ended _ => none
      | .send wire => wire.csrf.map (.attached s.client.session.generation)
    | _ => none
  | .loggedIn _ answers =>
    (loginToken client answers s.client.session).map <| .login <|
      match (login client answers s.client.session).2 with
      | .ok () => some (s.client.session.generation + 1)
      | .error _ => none
  | .finish i =>
    match s.client.tasks i with
    | .answered _ _ answer => (answerToken answer).map (.response (s.sentUnder i) s.client.session.generation)
    | _ => none
  | .drop _ answers await =>
    ((loginAwaits client answers s.client.session)[await]?.bind Prod.snd).map (.login none)
  | _ => none

/-- The requests sent so far, after one more step. -/
def sentAfter (s : Watched ρ) : Event → TaskId → Nat
  | .prepare i => Function.update s.sentUnder i s.client.session.generation
  | _ => s.sentUnder

def watchedStep (s : Watched ρ) (e : Event) : Option (Watched ρ) :=
  (step client (fun i => (calls i).toCall) s.client e).map fun next =>
    ⟨next, sentAfter s e, (newTokens client calls s e).toList ++ s.tokens⟩

/-- The client and the record. -/
def watched : Machine (Watched ρ) Event := ⟨⟨initial, fun _ => 0, []⟩, watchedStep client calls⟩

/-- The runs of the client are those of the watched one. -/
theorem watched_run (s : Watched ρ) (es : List Event) :
    ((watched client calls).runFrom s es).map Watched.client =
      (legacyClient client fun i => (calls i).toCall).runFrom s.client es := by
  induction es generalizing s with
  | nil => rfl
  | cons e es ih =>
    rw [Machine.runFrom_cons, Machine.runFrom_cons]
    show ((watchedStep client calls s e).bind _).map _ = (step client (fun i => (calls i).toCall) s.client e).bind _
    unfold watchedStep
    cases step client (fun i => (calls i).toCall) s.client e with
    | none => rfl
    | some next => exact ih _

/-! ## Freshness -/

/-- Every token that went out had been issued by the login that began its generation, or by a
response to a request sent under it; and no response to an older request was captured. -/
def Fresh : List TokenObs → Prop
  | [] => True
  | .attached generation token :: older =>
    (.login (some generation) token ∈ older ∨ ∃ current, .response generation current token ∈ older) ∧ Fresh older
  | .response generation current _ :: older => generation = current ∧ Fresh older
  | .login _ _ :: older => Fresh older

/-- The step captures no token for another generation than the one it was issued for: a successful
login brings one, a failed or dropped login none, and a response with one comes in time. -/
def Timely (s : Watched ρ) : Event → Prop
  | .loggedIn _ answers =>
    match (login client answers s.client.session).2 with
    | .ok () => (loginToken client answers s.client.session).isSome ∨ s.client.session.csrf = none
    | .error _ => loginToken client answers s.client.session = none
  | .finish i => ∀ generation attempt answer, s.client.tasks i = .answered generation attempt answer →
      (answerToken answer).isSome → s.sentUnder i = s.client.session.generation
  | .drop _ answers await => ∀ left, (loginAwaits client answers s.client.session)[await]? = some left → left.2 = none
  | _ => True

/-- The stored token was issued for the current generation. -/
structure TokenInv (s : Watched ρ) : Prop where
  stored : ∀ token, s.client.session.csrf = some token →
    .login (some s.client.session.generation) token ∈ s.tokens ∨
      ∃ current, .response s.client.session.generation current token ∈ s.tokens
  fresh : Fresh s.tokens

/-! ## What a step does to the session -/

/-- The token and the generation. -/
def keyed (session : SessionState) : Option Text × Nat := (session.csrf, session.generation)

variable {client calls} {s t : Client ρ} {w : Watched ρ} {i : TaskId}

theorem settle_session (call : Call ρ) (s : Client ρ) (i : TaskId) (generation : Nat) (attempt : Attempt)
    (result : Except ApiError ρ) : (s.settle call i generation attempt result).session = s.session := by
  obtain ⟨pc, h, -⟩ := settle_cases call s i generation attempt result
  rw [h]
  rfl

theorem afterRefresh_session (call : Call ρ) (s : Client ρ) (i : TaskId) (generation : Nat) (original : ApiError)
    (refresh : Except ApiError Unit) : (s.afterRefresh call i generation original refresh).session = s.session := by
  rcases afterRefresh_cases call s i generation original refresh with ⟨-, h⟩ | ⟨-, -, h⟩ | ⟨-, error, -, h⟩ <;> rw [h] <;> rfl

theorem ensureSession_session (s : Client ρ) (i : TaskId) : (s.ensureSession i).session = s.session := by
  unfold Client.ensureSession
  split
  · rfl
  · split <;> rfl

theorem refreshSession_keyed (call : Call ρ) (s : Client ρ) (i : TaskId) (observed : Nat) (original : ApiError) :
    keyed (s.refreshSession call i observed original).session = keyed s.session := by
  unfold Client.refreshSession
  split
  · rw [afterRefresh_session]
  · split
    · rw [afterRefresh_session]
    · rfl

/-- The end of a login takes over the token of its response; only a success begins a generation. -/
theorem loggedIn_keyed (client : LegacyClient) (call : Call ρ) (s : Client ρ) (i : TaskId) (cause : Cause) (answers : List Text → Answer) :
    keyed (s.loggedIn client call i cause answers).session =
      ((loginToken client answers s.session).or s.session.csrf,
        match (login client answers s.session).2 with
        | .ok () => s.session.generation + 1
        | .error _ => s.session.generation) := by
  have hcsrf := login_csrf client answers s.session
  have hspec := login_spec client answers s.session
  have hend : keyed (s.endLogin client i answers).1.session = ((loginToken client answers s.session).or s.session.csrf,
      match (login client answers s.session).2 with
      | .ok () => s.session.generation + 1
      | .error _ => s.session.generation) := by
    unfold Client.endLogin
    rcases hlogin : login client answers s.session with ⟨session, result⟩
    rw [hlogin] at hcsrf hspec
    cases result with
    | ok u =>
      have hgen : session.generation = s.session.generation + 1 := congrArg (·.2.1) hspec
      show (session.csrf, session.generation) = _
      rw [hcsrf, hgen]
    | error error =>
      have hgen : session.generation = s.session.generation := congrArg (·.2.1) hspec
      show (session.csrf, session.generation) = _
      rw [hcsrf, hgen]
  unfold Client.loggedIn
  rcases hres : s.endLogin client i answers with ⟨s', result⟩
  rw [hres] at hend
  cases cause with
  | ensure => cases result <;> exact hend
  | refresh generation original =>
    dsimp only
    rw [afterRefresh_session]
    exact hend

/-- **What a step adds to the record and makes of the token and the generation.** -/
inductive TokenMove (client : LegacyClient) (calls : TaskId → TokenCall ρ) (w : Watched ρ) (next : Watched ρ) :
    Event → Prop
  | quiet {e : Event} (hkeyed : keyed next.client.session = keyed w.client.session) (htokens : next.tokens = w.tokens) :
      TokenMove client calls w next e
  | attaches {i : TaskId} {token : Text} (hkeyed : keyed next.client.session = keyed w.client.session)
      (hstored : w.client.session.csrf = some token)
      (htokens : next.tokens = .attached w.client.session.generation token :: w.tokens) :
      TokenMove client calls w next (.prepare i)
  | logsIn {i : TaskId} {answers : List Text → Answer}
      (hkeyed : keyed next.client.session =
        ((loginToken client answers w.client.session).or w.client.session.csrf, w.client.session.generation + 1))
      (hresult : (login client answers w.client.session).2 = .ok ())
      (htokens : next.tokens = ((loginToken client answers w.client.session).map
        (.login (some (w.client.session.generation + 1)))).toList ++ w.tokens) :
      TokenMove client calls w next (.loggedIn i answers)
  | loginFails {i : TaskId} {answers : List Text → Answer} {error : ApiError}
      (hkeyed : keyed next.client.session =
        ((loginToken client answers w.client.session).or w.client.session.csrf, w.client.session.generation))
      (hresult : (login client answers w.client.session).2 = .error error)
      (htokens : next.tokens = ((loginToken client answers w.client.session).map (.login none)).toList ++ w.tokens) :
      TokenMove client calls w next (.loggedIn i answers)
  | captures {i : TaskId} {generation : Nat} {attempt : Attempt} {answer : Answer} {token : Text}
      (hplace : w.client.tasks i = .answered generation attempt answer) (htoken : answerToken answer = some token)
      (hkeyed : keyed next.client.session = (some token, w.client.session.generation))
      (htokens : next.tokens = .response (w.sentUnder i) w.client.session.generation token :: w.tokens) :
      TokenMove client calls w next (.finish i)
  | drops {i : TaskId} {answers : List Text → Answer} {await : Nat} {left : SessionState × Option Text}
      (hleft : (loginAwaits client answers w.client.session)[await]? = some left)
      (hkeyed : keyed next.client.session = (left.2.or w.client.session.csrf, w.client.session.generation))
      (htokens : next.tokens = (left.2.map (.login none)).toList ++ w.tokens) :
      TokenMove client calls w next (.drop i answers await)

/-- Every step of the watched client is one of these. -/
theorem watchedStep_move {e : Event} {next : Watched ρ} (h : watchedStep client calls w e = some next) :
    TokenMove client calls w next e := by
  obtain ⟨t, hs, rfl⟩ := Option.map_eq_some_iff.1 h
  cases e with
  | advance ms =>
    cases hs
    exact .quiet rfl rfl
  | ensure i =>
    cases hpc : w.client.tasks i <;> cases hlock : w.client.lock <;> simp only [step, hpc, hlock, reduceCtorEq] at hs
    cases hs
    exact .quiet (congrArg keyed (ensureSession_session ..)) rfl
  | loggedIn i answers =>
    cases hpc : w.client.tasks i <;> simp only [step, hpc, reduceCtorEq] at hs
    cases hs
    rename_i cause
    have hkeyed := loggedIn_keyed client (calls i).toCall w.client i cause answers
    cases hresult : (login client answers w.client.session).2 with
    | ok u =>
      rw [hresult] at hkeyed
      exact .logsIn hkeyed hresult (by simp [newTokens, hresult])
    | error error =>
      rw [hresult] at hkeyed
      exact .loginFails hkeyed hresult (by simp [newTokens, hresult])
  | prepare i =>
    cases hpc : w.client.tasks i <;> simp only [step, hpc, reduceCtorEq] at hs
    rename_i generation attempt
    split at hs
    · cases hs
    · split at hs
      · rename_i hprepare
        cases hs
        refine .quiet ?_ ?_
        · rw [settle_session]
        · simp [newTokens, hpc, hprepare]
      · rename_i wire hprepare
        cases hs
        cases htoken : wire.csrf with
        | none => exact .quiet rfl (by simp [newTokens, hpc, hprepare, htoken])
        | some token =>
          have hstored : w.client.session.csrf = some token := by
            rcases (calls i).attaches _ _ _ hprepare with hnone | hsome
            · rw [htoken] at hnone
              cases hnone
            · exact hsome.symm.trans htoken
          exact .attaches rfl hstored (by simp [newTokens, hpc, hprepare, htoken])
  | answer i answer =>
    cases hpc : w.client.tasks i <;> simp only [step, hpc, reduceCtorEq] at hs
    cases hs
    exact .quiet rfl rfl
  | finish i =>
    cases hpc : w.client.tasks i <;> simp only [step, hpc, reduceCtorEq] at hs
    rename_i generation attempt answer
    cases htoken : answerToken answer with
    | none =>
      simp only [htoken] at hs
      cases hs
      refine .quiet ?_ (by simp [newTokens, hpc, htoken])
      rw [settle_session]
    | some token =>
      cases hlock : w.client.lock with
      | some holder =>
        simp only [htoken, hlock] at hs
        cases hs
      | none =>
        simp only [htoken, hlock] at hs
        cases hs
        refine .captures hpc htoken ?_ (by simp [newTokens, hpc, htoken])
        rw [settle_session]
        rfl
  | refresh i =>
    cases hpc : w.client.tasks i <;> cases hlock : w.client.lock <;> simp only [step, hpc, hlock, reduceCtorEq] at hs
    cases hs
    exact .quiet (refreshSession_keyed ..) rfl
  | wake i =>
    cases hpc : w.client.tasks i <;> simp only [step, hpc, reduceCtorEq] at hs
    split at hs <;> cases hs
    exact .quiet rfl rfl
  | cancel i =>
    cases hpc : w.client.tasks i <;> simp only [step, hpc, reduceCtorEq] at hs <;> cases hs <;> exact .quiet rfl rfl
  | drop i answers await =>
    obtain ⟨cause, left, hpc, hleft, rfl⟩ := drop_cases hs
    obtain ⟨hcore, hcsrf⟩ := loginAwaits_spec (List.mem_of_getElem? hleft)
    exact .drops hleft (Prod.ext hcsrf (congrArg (·.2.1) hcore)) (by simp [newTokens, hleft])

theorem keyed_eq {session : SessionState} {csrf : Option Text} {generation : Nat}
    (h : keyed session = (csrf, generation)) : session.csrf = csrf ∧ session.generation = generation :=
  ⟨congrArg Prod.fst h, congrArg Prod.snd h⟩

/-- More in the record changes nothing about who issued the stored token. -/
theorem TokenInv.keeps (hi : TokenInv w) {next : Watched ρ} (new : List TokenObs)
    (hkeyed : keyed next.client.session = keyed w.client.session) (htokens : next.tokens = new ++ w.tokens)
    (hfresh : Fresh next.tokens) : TokenInv next := by
  obtain ⟨hcsrf, hgeneration⟩ := keyed_eq hkeyed
  refine ⟨fun token htoken => ?_, hfresh⟩
  rw [hgeneration, htokens]
  rcases hi.stored token (hcsrf ▸ htoken) with h | ⟨current, h⟩
  · exact Or.inl (List.mem_append_right _ h)
  · exact Or.inr ⟨current, List.mem_append_right _ h⟩

/-- **Timely steps keep the tokens fresh.** -/
theorem TokenInv.step {e : Event} {next : Watched ρ} (hi : TokenInv w) (ht : Timely client w e)
    (h : watchedStep client calls w e = some next) : TokenInv next := by
  cases watchedStep_move h with
  | quiet hkeyed htokens => exact hi.keeps [] hkeyed htokens (htokens ▸ hi.fresh)
  | @attaches i token hkeyed hstored htokens =>
    refine hi.keeps [_] hkeyed htokens ?_
    rw [htokens]
    exact ⟨hi.stored token hstored, hi.fresh⟩
  | @logsIn i answers hkeyed hresult htokens =>
    obtain ⟨hcsrf, hgeneration⟩ := keyed_eq hkeyed
    have ht : (loginToken client answers w.client.session).isSome ∨ w.client.session.csrf = none := by
      simpa only [Timely, hresult] using ht
    cases htoken : loginToken client answers w.client.session with
    | none =>
      rw [htoken] at ht hcsrf htokens
      have hnone : w.client.session.csrf = none := ht.resolve_left (by simp)
      refine ⟨fun token hs => ?_, by rw [htokens]; exact hi.fresh⟩
      rw [hcsrf, hnone] at hs
      cases hs
    | some issued =>
      rw [htoken] at hcsrf htokens
      refine ⟨fun token hs => Or.inl ?_, by rw [htokens]; exact hi.fresh⟩
      rw [hcsrf] at hs
      cases hs
      rw [hgeneration, htokens]
      exact List.mem_cons_self
  | @loginFails i answers error hkeyed hresult htokens =>
    have ht : loginToken client answers w.client.session = none := by
      simpa only [Timely, hresult] using ht
    rw [ht] at hkeyed htokens
    exact hi.keeps [] hkeyed htokens (htokens ▸ hi.fresh)
  | @captures i generation attempt answer token hplace htoken hkeyed htokens =>
    obtain ⟨hcsrf, hgeneration⟩ := keyed_eq hkeyed
    have hsent : w.sentUnder i = w.client.session.generation := ht generation attempt answer hplace (by rw [htoken]; rfl)
    refine ⟨fun issued hs => Or.inr ⟨w.client.session.generation, ?_⟩, ?_⟩
    · rw [hcsrf] at hs
      cases hs
      rw [hgeneration, htokens, hsent]
      exact List.mem_cons_self
    · rw [htokens]
      exact ⟨hsent, hi.fresh⟩
  | @drops i answers await left hleft hkeyed htokens =>
    have hnone : left.2 = none := ht left hleft
    rw [hnone] at hkeyed htokens
    exact hi.keeps [] hkeyed htokens (htokens ▸ hi.fresh)

end

/-- **In a timely run no request carries a token of another session**, and no late response replaces
one. -/
theorem tokens_fresh {ρ : Type} {client : LegacyClient} {calls : TaskId → TokenCall ρ} {es : List Event}
    {w : Watched ρ} (htimely : (watched client calls).Along (Timely client) (watched client calls).init es)
    (hrun : (watched client calls).Reaches es w) : Fresh w.tokens := by
  have hinit : TokenInv (watched client calls).init := ⟨fun token h => (by cases h), trivial⟩
  exact ((watched client calls).run_invariant_along hinit (fun _ _ _ hi ht hs => hi.step ht hs) htimely hrun).fresh

def tokenAnswer (status : Nat) (token : String) : Answer := .response ⟨status, some token.toList, none, []⟩

/-- Writes 0, 1 and 2 go out under the first session, 2 behind the answer to 0. Write 1 is told to log in and dropped
while it awaits the login route; write 3 logs in. -/
def renewedRun : List Event :=
  [.ensure 0, .loggedIn 0 fun _ => tokenAnswer 200 "first", .ensure 1, .ensure 2, .prepare 0, .prepare 1,
    .answer 0 (tokenAnswer 200 "next"), .finish 0, .prepare 2, .answer 1 (emptyAnswer 401), .finish 1, .refresh 1,
    .drop 1 (fun _ => tokenAnswer 200 "lost") 0, .ensure 3, .loggedIn 3 fun _ => tokenAnswer 200 "second", .prepare 3]

/-- What they leave in the record. -/
def renewedTokens : List TokenObs :=
  [.attached 2 "second".toList, .login (some 2) "second".toList, .attached 1 "next".toList, .response 1 1 "next".toList,
    .attached 1 "first".toList, .attached 1 "first".toList, .login (some 1) "first".toList]

theorem tokens_fresh_renewed : ∃ w, (watched sampleClient fun _ => legacyTokenCall sampleClient sampleMutation).Reaches
    renewedRun w ∧ w.tokens = renewedTokens ∧ Fresh w.tokens := by
  have hrun : ((watched sampleClient fun _ => legacyTokenCall sampleClient sampleMutation).runFrom
      ⟨initial, fun _ => 0, []⟩ renewedRun).map Watched.tokens = some renewedTokens := rfl
  obtain ⟨w, hw, htokens⟩ := Option.map_eq_some_iff.1 hrun
  have htimely : (watched sampleClient fun _ => legacyTokenCall sampleClient sampleMutation).Along (Timely sampleClient)
      ⟨initial, fun _ => 0, []⟩ renewedRun := by
    refine ⟨trivial, ?_⟩
    rintro _ ⟨⟩
    refine ⟨Or.inl rfl, ?_⟩
    rintro _ ⟨⟩
    iterate 5
      refine ⟨trivial, ?_⟩
      rintro _ ⟨⟩
    refine ⟨fun _ _ _ _ _ => rfl, ?_⟩
    rintro _ ⟨⟩
    iterate 2
      refine ⟨trivial, ?_⟩
      rintro _ ⟨⟩
    refine ⟨fun _ _ _ _ _ => rfl, ?_⟩
    rintro _ ⟨⟩
    refine ⟨trivial, ?_⟩
    rintro _ ⟨⟩
    -- the drop finds the login route unanswered
    refine ⟨fun left hleft => (by cases hleft; rfl), ?_⟩
    rintro _ ⟨⟩
    refine ⟨trivial, ?_⟩
    rintro _ ⟨⟩
    refine ⟨Or.inl rfl, ?_⟩
    rintro _ ⟨⟩
    exact ⟨trivial, fun _ _ => trivial⟩
  exact ⟨w, hw, htokens, tokens_fresh htimely hw⟩

/-! ## A late response -/

/-- Writes 0 and 1 go out under the first session; 1 is told to log in, the login brings a new token,
and then the answer to 0 arrives. -/
def lateRun : List Event :=
  [.ensure 0, .loggedIn 0 fun _ => tokenAnswer 200 "first", .ensure 1, .prepare 0, .prepare 1,
    .answer 1 (emptyAnswer 401), .finish 1, .refresh 1, .loggedIn 1 fun _ => tokenAnswer 200 "second",
    .answer 0 (tokenAnswer 200 "late"), .finish 0, .ensure 2, .prepare 2]

/-- What they leave in the record. -/
def lateTokens : List TokenObs :=
  [.response 1 2 "late".toList, .login (some 2) "second".toList, .attached 1 "first".toList,
    .attached 1 "first".toList, .login (some 1) "first".toList]

/-- **A late response replaces the token of the new session**, and the next write carries it. -/
theorem late_token_attached : ∃ w,
    (watched sampleClient fun _ => legacyTokenCall sampleClient sampleMutation).Reaches lateRun w ∧ ¬Fresh w.tokens := by
  have hrun : ((watched sampleClient fun _ => legacyTokenCall sampleClient sampleMutation).runFrom
      ⟨initial, fun _ => 0, []⟩ lateRun).map Watched.tokens = some (.attached 2 "late".toList :: lateTokens) := rfl
  have hnone : .login (some 2) "late".toList ∉ lateTokens := by decide
  obtain ⟨w, hw, htokens⟩ := Option.map_eq_some_iff.1 hrun
  refine ⟨w, hw, fun h => ?_⟩
  rw [htokens] at h
  rcases h.1 with h | ⟨current, h⟩
  · exact hnone h
  · simp [lateTokens] at h

end UnifiMcp.Legacy

import UnifiMcp.Api.Response
/-! # The legacy session and its login flow (unifi-api/src/legacy.rs:94-128, 1549-1770)

Everything here runs under the session mutex, so it is pure: a login takes the session and the
controller's answers to the login routes and returns the session and the outcome. A caller may be
dropped while its login awaits the controller; `loginAwaits` is what the session holds then.

* `login_spec` — what a login leaves in the session.
* `loginAwaits_spec` — what a dropped login leaves in it.
* `backoffWindow_bounds` — a failed login is shared for 1 to 60 s. -/
namespace UnifiMcp
open Text

inductive ConsoleKind where
  | unifiOs
  | standalone
deriving DecidableEq

structure FailedLogin where
  until_ : Nat
  error : ApiError
deriving DecidableEq

/-- `SessionState` (legacy.rs:111). Times are in milliseconds. -/
structure SessionState where
  kind : Option ConsoleKind
  csrf : Option Text
  authenticated : Bool
  generation : Nat
  failedLogin : Option FailedLogin
deriving DecidableEq

/-- `SessionState::default`. -/
def SessionState.default : SessionState := ⟨none, none, false, 0, none⟩

/-- What login and requests use of a `LegacyClient`; `new` refuses a base that carries no path. -/
structure LegacyClient where
  codecs : Codecs
  base : Url
  carries : base.cannotBeABase = false

/-- `shared_failure` (legacy.rs:1740). -/
def sharedFailure (session : SessionState) (now : Nat) : Option ApiError :=
  (session.failedLogin.filter fun failure => now < failure.until_).map (·.error)

/-- `backoff_window` (legacy.rs:1759). -/
def backoffWindow : ApiError → Nat
  | .rateLimited (some delay) _ => max 1000 (min delay 60000)
  | .rateLimited none _ => 5000
  | _ => 1000

/-- `record_failure` (legacy.rs:1748). -/
def recordFailure (session : SessionState) (error : ApiError) (now : Nat) : SessionState :=
  { session with failedLogin := some ⟨now + backoffWindow error, error⟩ }

/-- `capture_csrf_into` (legacy.rs:1734). -/
def captureCsrfInto (session : SessionState) (response : Response) : SessionState :=
  match response.csrf with
  | some token => { session with csrf := some token }
  | none => session

/-- `send_login` (legacy.rs:1622); `answers` is what the controller answers on each route. -/
def sendLogin (client : LegacyClient) (answers : List Text → Answer) (segments : List Text) :
    Except ApiError Response :=
  match buildUrl client.codecs.pathPush client.base segments [] with
  | .error error => .error error
  | .ok _ =>
    match answers segments with
    | .failed detail => .error (sendError detail)
    | .response response => .ok response

/-- `finish_login` (legacy.rs:1639). -/
def finishLogin (c : Codecs) (session : SessionState) (response : Response) :
    SessionState × Except ApiError Unit :=
  let session := captureCsrfInto session response
  if response.status = TOO_MANY_REQUESTS then (session, .error (rateLimitedError c response))
  else match readBoundedBody response with
    | .error error => (session, .error error)
    | .ok bytes =>
      if isSuccess response.status then
        match envelopeRejection c bytes with
        | some code => (session, .error (rejection c (some response.status) code bytes))
        | none =>
          ({ session with authenticated := true, generation := session.generation + 1, failedLogin := none }, .ok ())
      else (session, .error (translateFailure c response.status bytes))

/-- The login route of a console family (legacy.rs:1614-1617). -/
def loginRoute : ConsoleKind → List Text
  | .unifiOs => ["api", "auth", "login"].map String.toList
  | .standalone => ["api", "login"].map String.toList

/-- The end of `login`, once the console family is known. -/
def loginAs (client : LegacyClient) (answers : List Text → Answer) (session : SessionState) (kind : ConsoleKind) :
    SessionState × Except ApiError Unit :=
  match sendLogin client answers (loginRoute kind) with
  | .error error => (session, .error error)
  | .ok response => finishLogin client.codecs session response

/-- `login` (legacy.rs:1589). -/
def login (client : LegacyClient) (answers : List Text → Answer) (session : SessionState) :
    SessionState × Except ApiError Unit :=
  match session.kind with
  | some kind => loginAs client answers session kind
  | none =>
    match sendLogin client answers (loginRoute .unifiOs) with
    | .error error => (session, .error error)
    | .ok probe =>
      if probe.status = NOT_FOUND then
        -- the probe's body is read and dropped
        loginAs client answers { session with kind := some .standalone } .standalone
      else if probe.status = TOO_MANY_REQUESTS ∨ isServerError probe.status then
        finishLogin client.codecs session probe
      else finishLogin client.codecs { session with kind := some .unifiOs } probe

/-! ## A login that is dropped -/

/-- The session while the body of a login response is read, and the token taken from the response. -/
def finishLoginAwait (session : SessionState) (response : Response) : SessionState × Option Text :=
  (captureCsrfInto session response, response.csrf)

/-- The awaits of the end of `login`, once the console family is known. -/
def loginAsAwaits (client : LegacyClient) (answers : List Text → Answer) (session : SessionState) (kind : ConsoleKind) :
    List (SessionState × Option Text) :=
  match buildUrl client.codecs.pathPush client.base (loginRoute kind) [] with
  | .error _ => []
  | .ok _ =>
    (session, none) :: match answers (loginRoute kind) with
      | .failed _ => []
      | .response response => [finishLoginAwait session response]

/-- The session at each await of `login` in turn, and the token taken from the response it awaits the body of
(legacy.rs:1589-1673). -/
def loginAwaits (client : LegacyClient) (answers : List Text → Answer) (session : SessionState) :
    List (SessionState × Option Text) :=
  match session.kind with
  | some kind => loginAsAwaits client answers session kind
  | none =>
    match buildUrl client.codecs.pathPush client.base (loginRoute .unifiOs) [] with
    | .error _ => []
    | .ok _ =>
      (session, none) :: match answers (loginRoute .unifiOs) with
        | .failed _ => []
        | .response probe =>
          if probe.status = NOT_FOUND then
            -- the probe's body is read before the family is known
            (session, none) :: loginAsAwaits client answers { session with kind := some .standalone } .standalone
          else if probe.status = TOO_MANY_REQUESTS ∨ isServerError probe.status then [finishLoginAwait session probe]
          else [finishLoginAwait { session with kind := some .unifiOs } probe]

/-! ## What a login leaves behind -/

/-- The fields that decide about further logins. -/
def SessionState.core (session : SessionState) : Bool × Nat × Option FailedLogin :=
  (session.authenticated, session.generation, session.failedLogin)

/-- The outcome of a login started in `session`: a success counts, a failure leaves the core as
it was. -/
def LoginSpec (session : SessionState) : SessionState × Except ApiError Unit → Prop
  | (session', .ok ()) => session'.core = (true, session.generation + 1, none)
  | (session', .error _) => session'.core = session.core

@[simp] theorem captureCsrfInto_core (session : SessionState) (response : Response) :
    (captureCsrfInto session response).core = session.core := by
  unfold captureCsrfInto
  split <;> rfl

theorem finishLogin_spec (c : Codecs) {start session : SessionState} (hs : session.core = start.core)
    (response : Response) : LoginSpec start (finishLogin c session response) := by
  have hcore : (captureCsrfInto session response).core = start.core := by rw [captureCsrfInto_core, hs]
  unfold finishLogin
  split
  · exact hcore
  · cases readBoundedBody response with
    | error error => exact hcore
    | ok bytes =>
      dsimp only
      split
      · cases envelopeRejection c bytes with
        | some code => exact hcore
        | none =>
          have hg : (captureCsrfInto session response).generation = start.generation := congrArg (·.2.1) hcore
          simp [LoginSpec, SessionState.core, hg]
      · exact hcore

theorem loginAs_spec (client : LegacyClient) (answers : List Text → Answer) {start session : SessionState}
    (hs : session.core = start.core) (kind : ConsoleKind) :
    LoginSpec start (loginAs client answers session kind) := by
  unfold loginAs
  cases sendLogin client answers (loginRoute kind) with
  | error error => exact hs
  | ok response => exact finishLogin_spec client.codecs hs response

/-- **A login either succeeds, and then counts as one generation and clears the failure record, or
leaves both alone.** -/
theorem login_spec (client : LegacyClient) (answers : List Text → Answer) (session : SessionState) :
    LoginSpec session (login client answers session) := by
  unfold login
  cases session.kind with
  | some kind => exact loginAs_spec client answers rfl kind
  | none =>
    cases sendLogin client answers (loginRoute .unifiOs) with
    | error error => exact rfl
    | ok probe =>
      dsimp only
      split
      · exact loginAs_spec client answers (by rfl) _
      · split
        · exact finishLogin_spec client.codecs rfl probe
        · exact finishLogin_spec client.codecs (by rfl) probe

theorem captureCsrfInto_csrf (session : SessionState) (response : Response) :
    (captureCsrfInto session response).csrf = response.csrf.or session.csrf := by
  unfold captureCsrfInto
  cases response.csrf <;> rfl

theorem finishLoginAwait_spec {start session : SessionState} (hcore : session.core = start.core)
    (hcsrf : session.csrf = start.csrf) (response : Response) :
    (finishLoginAwait session response).1.core = start.core ∧
      (finishLoginAwait session response).1.csrf = (finishLoginAwait session response).2.or start.csrf :=
  ⟨(captureCsrfInto_core session response).trans hcore, by rw [← hcsrf]; exact captureCsrfInto_csrf session response⟩

theorem loginAsAwaits_spec {client : LegacyClient} {answers : List Text → Answer} {start session : SessionState}
    (hcore : session.core = start.core) (hcsrf : session.csrf = start.csrf) {kind : ConsoleKind}
    {left : SessionState × Option Text} (h : left ∈ loginAsAwaits client answers session kind) :
    left.1.core = start.core ∧ left.1.csrf = left.2.or start.csrf := by
  unfold loginAsAwaits at h
  split at h
  · cases h
  · rcases List.mem_cons.1 h with rfl | h
    · exact ⟨hcore, hcsrf⟩
    · split at h
      · cases h
      · rw [List.mem_singleton.1 h]
        exact finishLoginAwait_spec hcore hcsrf _

/-- **A dropped login leaves the core alone**, and at most the token of the response it was reading. -/
theorem loginAwaits_spec {client : LegacyClient} {answers : List Text → Answer} {session : SessionState}
    {left : SessionState × Option Text} (h : left ∈ loginAwaits client answers session) :
    left.1.core = session.core ∧ left.1.csrf = left.2.or session.csrf := by
  unfold loginAwaits at h
  split at h
  · exact loginAsAwaits_spec rfl rfl h
  · split at h
    · cases h
    · rcases List.mem_cons.1 h with rfl | h
      · exact ⟨rfl, rfl⟩
      · split at h
        · cases h
        · split at h
          · rcases List.mem_cons.1 h with rfl | h
            · exact ⟨rfl, rfl⟩
            · exact loginAsAwaits_spec (by rfl) (by rfl) h
          · split at h
            · rw [List.mem_singleton.1 h]
              exact finishLoginAwait_spec rfl rfl _
            · rw [List.mem_singleton.1 h]
              exact finishLoginAwait_spec (by rfl) (by rfl) _

/-- A failed login is shared for one second to one minute. -/
theorem backoffWindow_bounds (error : ApiError) : 1000 ≤ backoffWindow error ∧ backoffWindow error ≤ 60000 := by
  unfold backoffWindow
  split <;> omega

/-- The shared failure is the recorded one, until its window is over. -/
theorem sharedFailure_none {session : SessionState} {now : Nat} (h : sharedFailure session now = none)
    {failure : FailedLogin} (hf : session.failedLogin = some failure) : failure.until_ ≤ now := by
  by_cases hlt : now < failure.until_
  · simp [sharedFailure, hf, Option.filter, hlt] at h
  · omega

end UnifiMcp

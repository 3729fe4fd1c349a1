import UnifiMcp.Api.Session
import UnifiMcp.Lib.Machine
import Mathlib.Logic.Function.Basic
/-! # Requests on one `LegacyClient` (unifi-api/src/legacy.rs:1381-1587)

Any number of requests run `request_with_reauth_with_status_bytes` on one client. A step of the
machine is what one of them does between two await points; the session mutex is held over a whole
login flow and nowhere else across an await. `Call` holds what one route adds to the common flow:
`legacyCall` is the route of `execute_with_status_bytes`. Times are in milliseconds. The log records
what the controller and the callers see, newest first. -/
namespace UnifiMcp.Legacy
open Text

abbrev TaskId := Nat

/-- `RequestClass` (legacy.rs:105). -/
inductive RequestClass where
  | idempotentRead
  | mutation
deriving DecidableEq

/-- `MAXIMUM_RETRY_AFTER`, 10 s. -/
def MAXIMUM_RETRY_AFTER : Nat := 10000

/-- A request as it goes out. -/
structure Wire where
  method : Text
  url : Url
  csrf : Option Text
  body : Option Text
deriving DecidableEq

/-- What an attempt comes to before it awaits the controller. -/
inductive Prepared (ρ : Type) where
  | ended (result : Except ApiError ρ)
  | send (wire : Wire)

/-- One route: its class, whether a rate limit may be waited for, whether it reads the session
before it sends, what it sends and what it makes of the answer. An attempt that fails before it
sends fails with `Config`. -/
structure Call (ρ : Type) where
  class_ : RequestClass
  retriesRateLimit : Bool
  locks : Bool
  prepare : Option ConsoleKind → Option Text → Prepared ρ
  finish : Answer → Except ApiError ρ
  prepare_config : ∀ kind csrf error, prepare kind csrf = .ended (.error error) → ∃ detail, error = .config detail

/-! ## The legacy route -/

structure LegacyMeta where
  rc : Text
  msg : Option Text

/-- The `{"meta":…,"data":…}` envelope. -/
structure LegacyEnvelope (T : Type) where
  meta_ : LegacyMeta
  data : List T

/-- The arguments of `request_with_reauth_with_status_bytes`; `decode` is
`serde_json::from_slice::<LegacyEnvelope<T>>`, whose error carries its text. -/
structure LegacyRequest (T : Type) where
  class_ : RequestClass
  method : Text
  site : Text
  tail : List Text
  body : Option Text
  decode : Bytes → Except Text (LegacyEnvelope T)

/-- The API root of a console family (legacy.rs:1507-1510). -/
def apiRoot : ConsoleKind → List Text
  | .unifiOs => ["proxy", "network", "api", "s"].map String.toList
  | .standalone => ["api", "s"].map String.toList

/-- `execute_request_bytes` (legacy.rs:1529) but for the capture of the token. -/
def executeRequestBytes (c : Codecs) : Answer → Except ApiError (Nat × Bytes)
  | .failed detail => .error (sendError detail)
  | .response response =>
    if response.status = TOO_MANY_REQUESTS then .error (rateLimitedError c response)
    else match readBoundedBody response with
      | .error error => .error error
      | .ok bytes =>
        if isSuccess response.status then .ok (response.status, bytes)
        else .error (translateFailure c response.status bytes)

section route
variable {T : Type}

/-- `execute_bytes` (legacy.rs:1491) up to the send. -/
def executeBytes (client : LegacyClient) (request : LegacyRequest T) (kind : Option ConsoleKind)
    (csrf : Option Text) : Prepared (List T × Nat × Bytes) :=
  match kind with
  | none => .ended (.error (.config "session used before console detection".toList))
  | some kind =>
    match buildUrl client.codecs.pathPush client.base (apiRoot kind ++ request.site :: request.tail) [] with
    | .error error => .ended (.error error)
    | .ok url =>
      let token := if request.method ≠ "GET".toList ∧ kind = .unifiOs then csrf else none
      .send ⟨request.method, url, token, request.body⟩

/-- `execute_with_status_bytes` (legacy.rs:1471) from the answer on. -/
def executeWithStatusBytes (c : Codecs) (request : LegacyRequest T) (answer : Answer) :
    Except ApiError (List T × Nat × Bytes) :=
  match executeRequestBytes c answer with
  | .error error => .error error
  | .ok (status, bytes) =>
    match request.decode bytes with
    | .error detail => .error (decodeFailure c.base64 detail bytes)
    | .ok envelope =>
      if envelope.meta_.rc = "ok".toList then .ok (envelope.data, status, bytes)
      else .error (rejection c (some status) envelope.meta_.msg bytes)

theorem executeBytes_config (client : LegacyClient) (request : LegacyRequest T) (kind : Option ConsoleKind)
    (csrf : Option Text) (error : ApiError) (h : executeBytes client request kind csrf = .ended (.error error)) :
    ∃ detail, error = .config detail := by
  unfold executeBytes at h
  split at h
  · cases h
    exact ⟨_, rfl⟩
  · split at h
    · rename_i hurl
      cases h
      exact buildUrl_error hurl
    · cases h

/-- The route of `request_with_reauth_with_status_bytes`. -/
def legacyCall (client : LegacyClient) (request : LegacyRequest T) : Call (List T × Nat × Bytes) where
  class_ := request.class_
  retriesRateLimit := true
  locks := true
  prepare := executeBytes client request
  finish := executeWithStatusBytes client.codecs request
  prepare_config := executeBytes_config client request

end route

/-! ## The machine -/

/-- The first execution or the one after a refresh or a wait. -/
inductive Attempt where
  | first
  | again
deriving DecidableEq

/-- Who started a login: `ensure_session`, or `refresh_session` for an observer of `generation`
whose request failed with `original`. -/
inductive Cause where
  | ensure
  | refresh (generation : Nat) (original : ApiError)

/-- Where a request stands. `generation` is the one its `ensure_session` returned. -/
inductive Pc (ρ : Type) where
  | start
  /-- Holds the session mutex, its login is under way. -/
  | loggingIn (cause : Cause)
  | ready (generation : Nat) (attempt : Attempt)
  | sent (generation : Nat) (attempt : Attempt)
  | answered (generation : Nat) (attempt : Attempt) (answer : Answer)
  /-- Was told to log in and waits for the mutex in `refresh_session`. -/
  | refreshing (generation : Nat) (original : ApiError)
  | sleeping (generation : Nat) (until_ : Nat)
  | done (result : Except ApiError ρ)
  | cancelled

/-- What happened. -/
inductive Obs where
  | loginStarted (task : TaskId) (cause : Cause) (at_ : Nat)
  | loginEnded (task : TaskId) (result : Except ApiError Unit) (at_ : Nat)
  /-- The request was dropped while its login was under way. -/
  | loginDropped (task : TaskId) (at_ : Nat)
  | sent (task : TaskId) (generation : Nat) (wire : Wire)
  | answered (task : TaskId) (generation : Nat) (answer : Answer)
  | captured (task : TaskId) (generation : Nat) (token : Text)
  /-- `refresh_session` of an observer of `observed` returned `Ok` at generation `current`. -/
  | refreshed (task : TaskId) (observed current : Nat)

structure Client (ρ : Type) where
  session : SessionState
  /-- The holder of the session mutex between two steps. -/
  lock : Option TaskId
  now : Nat
  tasks : TaskId → Pc ρ
  log : List Obs

/-- One step: time passes, or request `i` goes on to its next await point. -/
inductive Event where
  | advance (ms : Nat)
  | ensure (i : TaskId)
  | loggedIn (i : TaskId) (answers : List Text → Answer)
  | prepare (i : TaskId)
  | answer (i : TaskId) (answer : Answer)
  | finish (i : TaskId)
  | refresh (i : TaskId)
  | wake (i : TaskId)
  | cancel (i : TaskId)
  /-- Request `i` is dropped at that await of its login, of which the controller has answered what came before. -/
  | drop (i : TaskId) (answers : List Text → Answer) (await : Nat)

section machine
variable {ρ : Type}

def Client.goto (s : Client ρ) (i : TaskId) (pc : Pc ρ) : Client ρ :=
  { s with tasks := Function.update s.tasks i pc }

def Client.note (s : Client ρ) (o : Obs) : Client ρ := { s with log := o :: s.log }

/-- The lock is taken and a login begins. -/
def Client.startLogin (s : Client ρ) (i : TaskId) (cause : Cause) : Client ρ :=
  { (s.goto i (.loggingIn cause)).note (.loginStarted i cause s.now) with lock := some i }

/-- The arms of `request_with_reauth_with_status_bytes` for the result of an execution
(legacy.rs:1419-1441). -/
def Client.settle (call : Call ρ) (s : Client ρ) (i : TaskId) (generation : Nat) :
    Attempt → Except ApiError ρ → Client ρ
  | .first, .error error =>
    if isLoginRequired error then s.goto i (.refreshing generation error)
    else match error with
      | .rateLimited (some delay) _ =>
        if call.retriesRateLimit ∧ call.class_ = .idempotentRead ∧ delay ≤ MAXIMUM_RETRY_AFTER then
          s.goto i (.sleeping generation (s.now + delay))
        else s.goto i (.done (.error error))
      | _ => s.goto i (.done (.error error))
  | _, result => s.goto i (.done result)

/-- The login-required arm after `refresh_session` returned (legacy.rs:1426-1432). -/
def Client.afterRefresh (call : Call ρ) (s : Client ρ) (i : TaskId) (generation : Nat) (original : ApiError)
    (refresh : Except ApiError Unit) : Client ρ :=
  match call.class_, refresh with
  | .mutation, _ => s.goto i (.done (.error original))
  | .idempotentRead, .ok () =>
    (s.goto i (.ready generation .again)).note (.refreshed i generation s.session.generation)
  | .idempotentRead, .error refresh => s.goto i (.done (.error (original.withRefreshFailure refresh)))

/-- `ensure_session` (legacy.rs:1552) up to its login. -/
def Client.ensureSession (s : Client ρ) (i : TaskId) : Client ρ :=
  if s.session.authenticated then s.goto i (.ready s.session.generation .first)
  else match sharedFailure s.session s.now with
    | some shared => s.goto i (.done (.error shared))
    | none => s.startLogin i .ensure

/-- `refresh_session` (legacy.rs:1571) up to its login. -/
def Client.refreshSession (call : Call ρ) (s : Client ρ) (i : TaskId) (observed : Nat) (original : ApiError) :
    Client ρ :=
  if s.session.generation ≠ observed ∧ s.session.authenticated = true then
    s.afterRefresh call i observed original (.ok ())
  else match sharedFailure s.session s.now with
    | some shared => s.afterRefresh call i observed original (.error shared)
    | none =>
      { s with session := { s.session with authenticated := false } }.startLogin i (.refresh observed original)

/-- The login is over: its failure is recorded, the mutex given back. -/
def Client.endLogin (client : LegacyClient) (s : Client ρ) (i : TaskId) (answers : List Text → Answer) :
    Client ρ × Except ApiError Unit :=
  match login client answers s.session with
  | (session, .ok ()) =>
    ({ s.note (.loginEnded i (.ok ()) s.now) with session := session, lock := none }, .ok ())
  | (session, .error error) =>
    ({ s.note (.loginEnded i (.error error) s.now) with
        session := recordFailure session error s.now, lock := none }, .error error)

/-- `ensure_session` and `refresh_session` from their login on. -/
def Client.loggedIn (client : LegacyClient) (call : Call ρ) (s : Client ρ) (i : TaskId) (cause : Cause)
    (answers : List Text → Answer) : Client ρ :=
  match cause, s.endLogin client i answers with
  | .ensure, (s, .ok ()) => s.goto i (.ready s.session.generation .first)
  | .ensure, (s, .error error) => s.goto i (.done (.error error))
  | .refresh generation original, (s, result) => s.afterRefresh call i generation original result

/-- The login ends with its request (handler.rs:319): nothing is recorded, the mutex is given back. -/
def Client.dropLogin (s : Client ρ) (i : TaskId) (session : SessionState) : Client ρ :=
  { (s.goto i .cancelled).note (.loginDropped i s.now) with session := session, lock := none }

/-- `capture_csrf` (legacy.rs:1675), with the session under its mutex. -/
def Client.captureCsrf (s : Client ρ) (i : TaskId) (generation : Nat) (token : Text) : Client ρ :=
  { s.note (.captured i generation token) with session := { s.session with csrf := some token } }

/-- The token header of an answer. -/
def answerToken : Answer → Option Text
  | .failed _ => none
  | .response response => response.csrf

variable (client : LegacyClient) (calls : TaskId → Call ρ)

/-- `request_with_reauth_with_status_bytes` (legacy.rs:1407), cut at its await points; request `i`
takes the route `calls i`. Its caller may drop it at every await point. -/
def step (s : Client ρ) : Event → Option (Client ρ)
  | .advance ms => some { s with now := s.now + ms }
  | .ensure i =>
    match s.tasks i, s.lock with
    | .start, none => some (s.ensureSession i)
    | _, _ => none
  | .loggedIn i answers =>
    match s.tasks i with
    | .loggingIn cause => some (s.loggedIn client (calls i) i cause answers)
    | _ => none
  | .prepare i =>
    match s.tasks i with
    | .ready generation attempt =>
      if (calls i).locks ∧ s.lock.isSome then none
      else match (calls i).prepare s.session.kind s.session.csrf with
        | .ended result => some (s.settle (calls i) i generation attempt result)
        | .send wire => some ((s.goto i (.sent generation attempt)).note (.sent i generation wire))
    | _ => none
  | .answer i answer =>
    match s.tasks i with
    | .sent generation attempt =>
      some ((s.goto i (.answered generation attempt answer)).note (.answered i generation answer))
    | _ => none
  | .finish i =>
    match s.tasks i with
    | .answered generation attempt answer =>
      match answerToken answer, s.lock with
      | none, _ => some (s.settle (calls i) i generation attempt ((calls i).finish answer))
      | some token, none =>
        some ((s.captureCsrf i generation token).settle (calls i) i generation attempt ((calls i).finish answer))
      | some _, some _ => none
    | _ => none
  | .refresh i =>
    match s.tasks i, s.lock with
    | .refreshing generation original, none => some (s.refreshSession (calls i) i generation original)
    | _, _ => none
  | .wake i =>
    match s.tasks i with
    | .sleeping generation until_ => if s.now < until_ then none else some (s.goto i (.ready generation .again))
    | _ => none
  | .cancel i =>
    match s.tasks i with
    | .loggingIn _ => none
    | .done _ => none
    | .cancelled => none
    | _ => some (s.goto i .cancelled)
  | .drop i answers await =>
    match s.tasks i, (loginAwaits client answers s.session)[await]? with
    | .loggingIn _, some left => some (s.dropLogin i left.1)
    | _, _ => none

/-- A new client and requests that have not begun. -/
def initial : Client ρ := ⟨SessionState.default, none, 0, fun _ => .start, []⟩

def legacyClient : Machine (Client ρ) Event := ⟨initial, step client calls⟩

/-! ## What the helpers can do -/

section helpers
variable {call : Call ρ} {s : Client ρ} {i : TaskId}

/-- The three places an execution leads to. -/
inductive Settled (call : Call ρ) (generation : Nat) (attempt : Attempt) (result : Except ApiError ρ) : Pc ρ → Prop
  | done : Settled call generation attempt result (.done result)
  | refreshing (error : ApiError) (hfirst : attempt = .first) (hresult : result = .error error)
      (hlogin : isLoginRequired error = true) :
      Settled call generation attempt result (.refreshing generation error)
  | sleeping (delay until_ : Nat) (message : Text) (hfirst : attempt = .first)
      (hresult : result = .error (.rateLimited (some delay) message)) (hclass : call.class_ = .idempotentRead)
      (hdelay : delay ≤ MAXIMUM_RETRY_AFTER) : Settled call generation attempt result (.sleeping generation until_)

theorem settle_cases (call : Call ρ) (s : Client ρ) (i : TaskId) (generation : Nat) (attempt : Attempt)
    (result : Except ApiError ρ) :
    ∃ pc, s.settle call i generation attempt result = s.goto i pc ∧ Settled call generation attempt result pc := by
  cases attempt with
  | again => exact ⟨_, rfl, .done⟩
  | first =>
    cases result with
    | ok reply => exact ⟨_, rfl, .done⟩
    | error error =>
      simp only [Client.settle]
      split
      · rename_i hlogin
        exact ⟨_, rfl, .refreshing error rfl rfl hlogin⟩
      · split
        · rename_i delay message _
          split
          · rename_i hretry
            exact ⟨_, rfl, .sleeping delay _ message rfl rfl hretry.2.1 hretry.2.2⟩
          · exact ⟨_, rfl, .done⟩
        · exact ⟨_, rfl, .done⟩

/-- A local failure of an attempt ends the request. -/
theorem settle_ended {result : Except ApiError ρ}
    (hp : ∀ error, result = .error error → ∃ detail, error = ApiError.config detail)
    (generation : Nat) (attempt : Attempt) :
    s.settle call i generation attempt result = s.goto i (.done result) := by
  obtain ⟨pc, hpc, hset⟩ := settle_cases call s i generation attempt result
  rw [hpc]
  cases hset with
  | done => rfl
  | refreshing error _ hresult hlogin =>
    obtain ⟨detail, rfl⟩ := hp error hresult
    cases hlogin
  | sleeping _ _ _ _ hresult =>
    obtain ⟨detail, h⟩ := hp _ hresult
    cases h

/-- The three ways on from `refresh_session`. -/
theorem afterRefresh_cases (call : Call ρ) (s : Client ρ) (i : TaskId) (generation : Nat) (original : ApiError)
    (refresh : Except ApiError Unit) :
    (call.class_ = .mutation ∧
        s.afterRefresh call i generation original refresh = s.goto i (.done (.error original))) ∨
      (call.class_ = .idempotentRead ∧ refresh = .ok () ∧ s.afterRefresh call i generation original refresh =
        (s.goto i (.ready generation .again)).note (.refreshed i generation s.session.generation)) ∨
      (call.class_ = .idempotentRead ∧ ∃ error, refresh = .error error ∧
        s.afterRefresh call i generation original refresh =
          s.goto i (.done (.error (original.withRefreshFailure error)))) := by
  cases hclass : call.class_ with
  | mutation => exact Or.inl ⟨rfl, by simp [Client.afterRefresh, hclass]⟩
  | idempotentRead =>
    cases refresh with
    | ok u => exact Or.inr (Or.inl ⟨rfl, rfl, by simp [Client.afterRefresh, hclass]⟩)
    | error error => exact Or.inr (Or.inr ⟨rfl, error, rfl, by simp [Client.afterRefresh, hclass]⟩)

/-- What a dropped login leaves. -/
theorem drop_cases {client : LegacyClient} {calls : TaskId → Call ρ} {answers : List Text → Answer} {await : Nat} {t : Client ρ}
    (h : step client calls s (.drop i answers await) = some t) : ∃ cause left, s.tasks i = .loggingIn cause ∧
      (loginAwaits client answers s.session)[await]? = some left ∧ t = s.dropLogin i left.1 := by
  simp only [step] at h
  split at h
  · rename_i cause left hpc hleft
    cases h
    exact ⟨cause, left, hpc, hleft, rfl⟩
  · cases h

end helpers

end machine

end UnifiMcp.Legacy

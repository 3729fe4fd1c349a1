import UnifiMcp.Api.Http
import UnifiMcp.Lib.Json
/-! # Controller answers and their classification (unifi-api/src/http.rs, legacy.rs)

What one HTTP request ends in, the bounded read of its body, and how a failure is told apart:
`translateFailure`, `envelopeRejection`, `rejection`, `isLoginRequired`, `retryAfter`.

* `not_isLoginRequired_rateLimited` — the two retry arms exclude each other.
* `readBoundedBody_le` — an accepted body is within the budget. -/
namespace UnifiMcp
open Text

/-- The third-party functions the client rests on: `STANDARD.encode`, `serde_json::from_slice` to
a `Value`, and the url crate's path pushes. -/
structure Codecs where
  base64 : Bytes → Text
  fromSlice : Bytes → Option Json
  pathPush : PathPush

/-- A response: its status, the two headers that are read (when `to_str` accepts them), and the
body chunks, of which one may fail. -/
structure Response where
  status : Nat
  csrf : Option Text
  retryAfter : Option Text
  chunks : List (Except Text Bytes)

/-- What `send().await` returns; a failure carries its text. -/
inductive Answer where
  | failed (detail : Text)
  | response (response : Response)

/-- `StatusCode::is_success`. -/
def isSuccess (status : Nat) : Bool := 200 ≤ status && status < 300

/-- `StatusCode::is_server_error`. -/
def isServerError (status : Nat) : Bool := 500 ≤ status && status < 600

def TOO_MANY_REQUESTS : Nat := 429

def NOT_FOUND : Nat := 404

/-- The `map_err` of every `send().await`. -/
def sendError (detail : Text) : ApiError := .transport (boundedMessage detail)

/-- The `while let Some(chunk)` loop of `read_bounded_body` (http.rs:19-31). -/
def readChunks : Bytes → List (Except Text Bytes) → Except ApiError Bytes
  | body, [] => .ok body
  | _, .error detail :: _ => .error (sendError detail)
  | body, .ok chunk :: chunks =>
    if MAXIMUM_RESPONSE_BYTES < body.length + chunk.length then .error (.responseTooLarge MAXIMUM_RESPONSE_BYTES)
    else readChunks (body ++ chunk) chunks

/-- `read_bounded_body`. -/
def readBoundedBody (response : Response) : Except ApiError Bytes := readChunks [] response.chunks

def MAXIMUM_U64 : Nat := 18446744073709551615

/-- `str::parse::<u64>`. -/
def parseU64 (text : Text) : Option Nat :=
  let digits := match text with
    | '+' :: rest => rest
    | _ => text
  if digits.isEmpty || !digits.all Char.isDigit then none
  else if natOf digits ≤ MAXIMUM_U64 then some (natOf digits) else none

/-- `retry_after` (http.rs:80), in milliseconds. -/
def retryAfter (response : Response) : Option Nat :=
  (response.retryAfter.bind fun value => parseU64 (trim value)).map (1000 * ·)

/-- `rate_limited` (http.rs:34). -/
def rateLimited (c : Codecs) (response : Response) : Except ApiError ApiError :=
  (readBoundedBody response).map fun bytes => .rateLimited (retryAfter response) (fromControllerBytes c.base64 bytes)

/-- `return Err(http::rate_limited(response).await?)`. -/
def rateLimitedError (c : Codecs) (response : Response) : ApiError :=
  match rateLimited c response with
  | .ok error => error
  | .error error => error

/-! ## Classification -/

def LOGIN_REQUIRED_CODE : Text := "api.err.LoginRequired".toList

/-- `rejection` (legacy.rs:1913). -/
def rejection (c : Codecs) (status : Option Nat) (code : Option Text) (bytes : Bytes) : ApiError :=
  .rejected status (boundedMessage (code.getD [])) (fromControllerBytes c.base64 bytes)

/-- `envelope_rejection` (legacy.rs:1894): the outer option tells whether the body rejects, the
inner one is the code it names. -/
def envelopeRejection (c : Codecs) (bytes : Bytes) : Option (Option Text) :=
  match c.fromSlice bytes with
  | none => none
  | some value =>
    match ((value.get "meta".toList).bind (Json.get "rc".toList)).bind Json.asStr with
    | none => none
    | some rc =>
      if rc = "ok".toList then none
      else some (((value.get "meta".toList).bind (Json.get "msg".toList)).bind Json.asStr)

/-- `translate_failure` (legacy.rs:1870). -/
def translateFailure (c : Codecs) (status : Nat) (bytes : Bytes) : ApiError :=
  if status = 401 then .status status (fromControllerBytes c.base64 bytes)
  else match envelopeRejection c bytes with
    | some code => rejection c (some status) code bytes
    | none => .status status (fromControllerBytes c.base64 bytes)

/-- `is_login_required` (legacy.rs:1864). -/
def isLoginRequired : ApiError → Bool
  | .rejected _ code _ => code == LOGIN_REQUIRED_CODE
  | .status status _ => status == 401
  | _ => false

@[simp] theorem not_isLoginRequired_rateLimited {delay : Option Nat} {message : Text} :
    isLoginRequired (.rateLimited delay message) = false := rfl

@[simp] theorem not_isLoginRequired_config {detail : Text} : isLoginRequired (.config detail) = false := rfl

theorem readChunks_le : ∀ {chunks : List (Except Text Bytes)} {body bytes : Bytes},
    body.length ≤ MAXIMUM_RESPONSE_BYTES → readChunks body chunks = .ok bytes →
    bytes.length ≤ MAXIMUM_RESPONSE_BYTES
  | [], _, _, hb, h => by cases h; exact hb
  | .error _ :: _, _, _, _, h => by cases h
  | .ok chunk :: chunks, body, bytes, _, h => by
    rw [readChunks] at h
    split at h
    · cases h
    · exact readChunks_le (by rw [List.length_append]; omega) h

/-- An accepted body is within the budget. -/
theorem readBoundedBody_le {response : Response} {bytes : Bytes} (h : readBoundedBody response = .ok bytes) :
    bytes.length ≤ MAXIMUM_RESPONSE_BYTES :=
  readChunks_le (Nat.zero_le _) h

end UnifiMcp

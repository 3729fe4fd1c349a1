import UnifiMcp.Lib.Text
/-! # `ApiError` and its bounded messages (unifi-api/src/error.rs) -/
namespace UnifiMcp
open Text

/-- `http::MAXIMUM_RESPONSE_BYTES`. -/
def MAXIMUM_RESPONSE_BYTES : Nat := 4 * 1024 * 1024

def TRUNCATION_MARKER : Text := " [truncated]".toList

/-! ## `BoundedMessage` -/

/-- The `for character in raw.chars()` loop of `with_limit` (error.rs:40-47): what was kept and
whether it stopped early. -/
def takeBounded (limit : Nat) : Text → Nat → Text × Bool
  | [], _ => ([], false)
  | c :: t, used =>
    if limit < used + c.utf8Size then ([], true)
    else ((c :: (takeBounded limit t (used + c.utf8Size)).1), (takeBounded limit t (used + c.utf8Size)).2)

/-- The `while message.len() + TRUNCATION_MARKER.len() > limit` loop (error.rs:49-51), on the
message read from its end. -/
def popTo (limit : Nat) : Text → Text
  | [] => []
  | c :: rest =>
    if limit < byteLen (c :: rest) + byteLen TRUNCATION_MARKER then popTo limit rest else c :: rest

/-- `BoundedMessage::with_limit`. -/
def withLimit (raw : Text) (limit : Nat) : Text :=
  match takeBounded limit raw 0 with
  | (message, false) => message
  | (message, true) => (popTo limit message.reverse).reverse ++ TRUNCATION_MARKER

/-- `BoundedMessage::new`. -/
def boundedMessage (raw : Text) : Text := withLimit raw MAXIMUM_RESPONSE_BYTES

/-- `BoundedMessage::from_controller_bytes`: the text itself, or its base64 encoding when the
body is not UTF-8. `base64` is `STANDARD.encode`. -/
def fromControllerBytes (base64 : Bytes → Text) (bytes : Bytes) : Text :=
  match fromUtf8 bytes with
  | some text => text
  | none => "non-UTF-8 controller response (base64): ".toList ++ base64 bytes

theorem takeBounded_fits {limit : Nat} : ∀ {t : Text} {used : Nat}, used + byteLen t ≤ limit →
    takeBounded limit t used = (t, false)
  | [], _, _ => rfl
  | c :: t, used, h => by
    rw [byteLen_cons] at h
    rw [takeBounded, if_neg (by omega), takeBounded_fits (t := t) (by omega)]

/-- A message within the budget is kept as it is. -/
theorem boundedMessage_fits {t : Text} (h : byteLen t ≤ MAXIMUM_RESPONSE_BYTES) : boundedMessage t = t := by
  rw [boundedMessage, withLimit, takeBounded_fits (by omega)]

/-! ## `ApiError` -/

/-- `ApiError` (error.rs:97-160). Durations are in milliseconds. -/
inductive ApiError where
  | config (detail : Text)
  | status (status : Nat) (message : Text)
  | rateLimited (retryAfter : Option Nat) (message : Text)
  | rejected (status : Option Nat) (code message : Text)
  | transport (detail : Text)
  | sessionRefresh (original refresh : ApiError)
  | responseTooLarge (limit : Nat)
  | invalidJson (endpoint : Text) (line column : Nat) (response : Option Text)
  | schemaMismatch (endpoint path : Text) (response : Option Text)
  | decode (detail : Text)
  | decodeResponse (response diagnostic : Text)
deriving DecidableEq

namespace ApiError

/-- `controller_response_suffix`. -/
def controllerResponseSuffix : Option Text → Text
  | none => []
  | some body => "; controller response: ".toList ++ body

/-- `rejection_status_prefix`. -/
def rejectionStatusPrefix : Option Nat → Text
  | none => []
  | some code => "controller rejected HTTP ".toList ++ dec code ++ ": ".toList

/-- The `Display` text of each variant (the `#[error(...)]` attributes). -/
def display : ApiError → Text
  | .config detail => "invalid controller configuration: ".toList ++ detail
  | .status code message => "controller returned HTTP ".toList ++ dec code ++ ": ".toList ++ message
  | .rateLimited _ message => "controller returned HTTP 429: ".toList ++ message
  | .rejected code _ message => rejectionStatusPrefix code ++ message
  | .transport detail => "transport failure: ".toList ++ detail
  | .sessionRefresh original refresh =>
    "original request: ".toList ++ original.display ++ "; session refresh: ".toList ++ refresh.display
  | .responseTooLarge limit =>
    "controller response exceeded the ".toList ++ dec limit ++ "-byte budget".toList
  | .invalidJson endpoint line column response =>
    "invalid JSON from ".toList ++ endpoint ++ " at line ".toList ++ dec line ++ ", column ".toList ++
      dec column ++ controllerResponseSuffix response
  | .schemaMismatch endpoint path response =>
    "response from ".toList ++ endpoint ++ " did not match its schema".toList ++
      controllerResponseSuffix response ++ " at ".toList ++ path
  | .decode detail => "response decoding failed: ".toList ++ detail
  | .decodeResponse response diagnostic =>
    "controller response: ".toList ++ response ++ "; decode error: ".toList ++ diagnostic

/-- `ApiError::with_refresh_failure`. -/
def withRefreshFailure (self refresh : ApiError) : ApiError := sessionRefresh self refresh

/-- `ApiError::with_controller_response`. -/
def withControllerResponse (base64 : Bytes → Text) (bytes : Bytes) : ApiError → ApiError
  | schemaMismatch endpoint path _ => schemaMismatch endpoint path (some (fromControllerBytes base64 bytes))
  | decode diagnostic => decodeResponse (fromControllerBytes base64 bytes) diagnostic
  | other => other

end ApiError

/-- `decode_failure` (error.rs:86-91). -/
def decodeFailure (base64 : Bytes → Text) (error : Text) (bytes : Bytes) : ApiError :=
  .decodeResponse (fromControllerBytes base64 bytes) (boundedMessage error)

end UnifiMcp

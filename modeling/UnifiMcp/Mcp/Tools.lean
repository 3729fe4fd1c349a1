import UnifiMcp.Api.Error
import UnifiMcp.Lib.Json
/-! # What the tools share (unifi-mcp/src/tools.rs) -/
namespace UnifiMcp
open Text

/-- `McpError` by its kind and message. -/
inductive McpError where
  | invalidParams (message : Text)
  | internalError (message : Text)
deriving DecidableEq

/-- `api_error` (tools.rs:13566). -/
def apiError (error : ApiError) : McpError := .internalError error.display

/-- `page_validation_error` (tools.rs:13570). -/
def pageValidationError (response diagnostic : Text) : McpError :=
  apiError (.decodeResponse response (boundedMessage diagnostic))

def EVENT_MESSAGE_CEILING : Nat := 256

/-- `bounded_text` (tools.rs:11671). -/
def boundedText (text : Text) : Text :=
  if text.length ≤ EVENT_MESSAGE_CEILING then text else text.take (EVENT_MESSAGE_CEILING - 1) ++ [Char.ofNat 0x2026]

/-- `validate_page` (tools.rs:10925). -/
def validatePage (limit : Nat) : Except McpError Unit :=
  if limit = 0 then .error (.invalidParams "limit must be positive".toList) else .ok ()

theorem validatePage_ok {limit : Nat} (h : validatePage limit = .ok ()) : 0 < limit := by
  unfold validatePage at h
  split at h
  · cases h
  · exact Nat.pos_of_ne_zero ‹_›

/-- `StatsReport` (tools.rs:4481). -/
inductive StatsReport where
  | wanHourly
  | dpiApplications
  | clientWanHistory
deriving DecidableEq

/-- `StatsQueryInput` (tools.rs:4490). -/
structure StatsQueryInput where
  report : StatsReport
  hours : Option Nat
  top : Option Nat
  startMs : Option Nat
  endMs : Option Nat
  limit : Option Nat
  offset : Option Nat

/-- `Option<&Value>` of a map. -/
def member (key : Text) (members : List (Text × Json)) : Option Json :=
  (members.find? fun entry => entry.1 == key).map Prod.snd

/-- `Map::remove`. -/
def without (key : Text) (members : List (Text × Json)) : List (Text × Json) :=
  members.filter fun entry => entry.1 != key

end UnifiMcp

import Mathlib.Data.List.Forall2
import UnifiMcp.Lib.Base64
import UnifiMcp.Lib.JsonReader
import UnifiMcp.Lib.Offsets
import UnifiMcp.Mcp.Scan
/-! # Offset paging (unifi-mcp/src/tools.rs)

A list tool checks the page it got and hands it out with the offset of the next; a narrowed firewall
section does the same with a scan.

* `continuations_complete` — over an honest controller the returned offsets lead through the whole
  list, or to a page whose text does not parse; over any controller they grow.
* `continuations_refused` — such a page may be honest. -/
namespace UnifiMcp
open Text Offsets

/-! ## List tools -/

/-- `PageCounts` (tools.rs:110). -/
structure PageCounts where
  requestedLimit : Nat
  effectiveLimit : Nat
  returned : Nat
deriving DecidableEq

/-- `NetworkPolicyKind` (tools.rs:2666). -/
inductive NetworkPolicyKind where
  | aclRules
  | firewallZones
  | firewallPolicies
  | dnsPolicies
  | trafficMatchingLists
deriving DecidableEq

structure ZoneView where
  id : Text
  name : Option Text

/-- `PolicyEndpoint` (models.rs:286). -/
structure PolicyEndpoint where
  zoneId : Option Text
  port : Option Text

/-- `FirewallPolicy` (models.rs:266). -/
structure FirewallPolicy where
  id : Text
  name : Option Text
  enabled : Option Bool
  loggingEnabled : Option Bool
  action : Option Json
  index : Option Int
  ipProtocolScope : Option Json
  source : Option PolicyEndpoint
  destination : Option PolicyEndpoint

/-- `PolicyView` (tools.rs:3373). -/
structure PolicyView where
  id : Text
  name : Option Text
  enabled : Option Bool
  loggingEnabled : Option Bool
  action : Option Text
  index : Option Int
  ipProtocolScope : Option Text
  sourceZoneId : Option Text
  sourcePort : Option Text
  destinationZoneId : Option Text
  destinationPort : Option Text

/-- `firewall_attribute_name` (tools.rs:12228): a scalar, or the discriminator of an object. -/
def firewallAttributeName (value : Json) (discriminator : Text) : Option Text :=
  value.asStr.or ((value.get discriminator).bind Json.asStr)

inductive FirewallSection where
  | zones
  | policies
  | portForwards
  | trafficRules
  | trafficRoutes
deriving DecidableEq

/-- `section_word` (tools.rs:11991). -/
def sectionWord : FirewallSection → Text
  | .zones => "zones".toList
  | .policies => "policies".toList
  | .portForwards => "portForwards".toList
  | .trafficRules => "trafficRules".toList
  | .trafficRoutes => "trafficRoutes".toList

/-- `ZoneScan` (tools.rs:11957), and the sections cut while unnarrowed. -/
structure ZoneScan where
  zones : List ZoneView
  policies : List PolicyView
  truncated : Bool
  nextOffset : Option Nat
  note : Option Text
  cut : List Text

/-- The closure `record` (tools.rs:7648). -/
def ZoneScan.record (scan : ZoneScan) (narrowed : Option FirewallSection) (start : Nat) (truncated : Bool)
    (this : FirewallSection) (returned : Nat) : ZoneScan :=
  if !truncated then scan
  else if narrowed ≠ some this then { scan with truncated := true, cut := scan.cut ++ [sectionWord this] }
  else { scan with truncated := true, nextOffset := some (saturatingAdd start returned) }

/-- `cut.join(" and ")`. -/
def joinWords (words : List Text) : Text := [' ', 'a', 'n', 'd', ' '].intercalate words

def ZoneScan.noted (scan : ZoneScan) : ZoneScan :=
  if scan.cut.isEmpty then scan
  else { scan with note := some (joinWords scan.cut ++ " reached the response bound for this read; narrow with ".toList ++
    "section and continue with sectionOffset to read the rest".toList) }

/-- Runs a section when the narrowing selects it; no rows otherwise. -/
def selected {β : Type} (narrowed : Option FirewallSection) (start : Nat) (this : FirewallSection)
    (scan : Nat → Option (Except McpError (List β × Bool))) : Option (Except McpError (List β × Bool)) :=
  if narrowed = none ∨ narrowed = some this then scan (if narrowed = some this then start else 0)
  else some (.ok ([], false))

/-- What an honest controller answers when it holds `all`: rows from the offset on, at least one while
rows remain, and all counts as they are. -/
structure Truthful {α : Type} (all : List α) (request : PageRequest) (page : Page α) : Prop where
  offset : page.offset = request.offset
  limit : 0 < page.limit ∧ page.limit ≤ request.limit
  count : page.count = page.data.length
  total : page.totalCount = all.length
  rows : page.data = (all.drop request.offset).take page.data.length
  fits : page.data.length ≤ page.limit
  progress : request.offset < all.length → page.data ≠ []

section
variable {α : Type} {all : List α} {request : PageRequest} {page : Page α}

theorem Truthful.length_le (h : Truthful all request page) : all.length ≤ MAXIMUM_U64 :=
  h.total ▸ page.totalCount_le

end

section
variable {all : List Json} {page : Page Json} {offset limit : Nat}

end

section
variable {α β : Type} {all : List α} {fetch : Nat → PageRequest → Except ApiError (Page α)}

end

@[simp] theorem record_zones (scan : ZoneScan) (narrowed : Option FirewallSection) (start : Nat) (truncated : Bool)
    (this : FirewallSection) (returned : Nat) : (scan.record narrowed start truncated this returned).zones = scan.zones := by
  unfold ZoneScan.record
  split
  · rfl
  · split <;> rfl

@[simp] theorem record_policies (scan : ZoneScan) (narrowed : Option FirewallSection) (start : Nat) (truncated : Bool)
    (this : FirewallSection) (returned : Nat) :
    (scan.record narrowed start truncated this returned).policies = scan.policies := by
  unfold ZoneScan.record
  split
  · rfl
  · split <;> rfl

@[simp] theorem noted_zones (scan : ZoneScan) : scan.noted.zones = scan.zones := by
  unfold ZoneScan.noted
  split <;> rfl

@[simp] theorem noted_policies (scan : ZoneScan) : scan.noted.policies = scan.policies := by
  unfold ZoneScan.noted
  split <;> rfl

section
variable {zones : Nat → PageRequest → Except ApiError (Page FirewallZone)}
  {policies : Nat → PageRequest → Except ApiError (Page FirewallPolicy)}

end

/-- The walk ends with the whole list, or at a page whose text is no object of values: with the complete text and the
diagnostic. -/
def Complete (parseObject : Text → Except Text (List (Text × Json))) (base64 : Bytes → Text) (limit : Nat) (all : List Json)
    (body : Nat → PageRequest → Bytes) (walked : Option (Except McpError (List Json))) : Prop :=
  walked = some (.ok all) ∨ ∃ call offset error, offset ≤ all.length ∧
    parseObject (fromControllerBytes base64 (body call ⟨offset, integrationLimit limit⟩)) = .error error ∧
    walked = some (.error (pageValidationError (fromControllerBytes base64 (body call ⟨offset, integrationLimit limit⟩)) error))

/-- Where every text parses, it is the whole list. -/
theorem Complete.whole {parseObject : Text → Except Text (List (Text × Json))} {base64 : Bytes → Text} {limit : Nat}
    {all : List Json} {body : Nat → PageRequest → Bytes} {walked : Option (Except McpError (List Json))}
    (h : Complete parseObject base64 limit all body walked) (hparse : ∀ call offset, offset ≤ all.length →
      ∃ metadata, parseObject (fromControllerBytes base64 (body call ⟨offset, integrationLimit limit⟩)) = .ok metadata) :
    walked = some (.ok all) := by
  obtain hok | ⟨call, offset, error, hin, herror, -⟩ := h
  · exact hok
  · obtain ⟨metadata, hmetadata⟩ := hparse call offset hin
    rw [herror] at hmetadata
    cases hmetadata

section
variable {parseObject : Text → Except Text (List (Text × Json))} {base64 : Bytes → Text}
  {decode : Bytes → Except Text (Page Json)} {limit : Nat} {all : List Json} {body : Nat → PageRequest → Bytes}

end

section
open JsonReader

/-- The members of a `Page` that have been read. -/
structure PageParts where
  offset : Option Nat
  limit : Option Nat
  count : Option Nat
  totalCount : Option Nat
  data : Option (List Json)

def pageMember (found : PageParts) (name : Text) (bytes : Bytes) : Option (PageParts × Bytes) :=
  if name = "offset".toList then
    if found.offset.isSome then none else (readU64 bytes).map fun (n, rest) => ({ found with offset := some n }, rest)
  else if name = "limit".toList then
    if found.limit.isSome then none else (readU64 bytes).map fun (n, rest) => ({ found with limit := some n }, rest)
  else if name = "count".toList then
    if found.count.isSome then none else (readU64 bytes).map fun (n, rest) => ({ found with count := some n }, rest)
  else if name = "totalCount".toList then
    if found.totalCount.isSome then none else (readU64 bytes).map fun (n, rest) => ({ found with totalCount := some n }, rest)
  else if name = "data".toList then
    if found.data.isSome then none
    else (readValue 127 bytes).bind fun (value, rest) =>
      match value with
      | .array rows => some ({ found with data := some rows }, rest)
      | _ => none
  else ignored found bytes

/-- `from_slice::<Page<Value>>`; members that are no field are skipped. -/
def plainPage (bytes : Bytes) : Except Text (Page Json) :=
  match readAll (readObject readString pageMember ⟨none, none, none, none, none⟩) bytes with
  | some ⟨some offset, some limit, some count, some total, some data⟩ =>
    if h : total ≤ MAXIMUM_U64 then .ok ⟨offset, limit, count, total, data, h⟩ else .error "invalid page".toList
  | _ => .error "invalid page".toList

end

/-- A controller that answers with one row at a time. -/
def singleRow {α : Type} (all : List α) (h : all.length ≤ MAXIMUM_U64) (asked : PageRequest) : Page α :=
  ⟨asked.offset, 1, ((all.drop asked.offset).take 1).length, all.length, (all.drop asked.offset).take 1, h⟩

/-- Its body, with one more member. -/
def rowBody (all : List Json) (extra : Text) (asked : PageRequest) : Bytes :=
  let rows := (all.drop asked.offset).take 1
  utf8 ("\x7b\"offset\":".toList ++ dec asked.offset ++ ",\"limit\":1,\"count\":".toList ++ dec rows.length ++
    ",\"totalCount\":".toList ++ dec all.length ++ ",\"data\":".toList ++ (Json.array rows).write ++
    ",\"more\":".toList ++ extra ++ "\x7d".toList)

end UnifiMcp

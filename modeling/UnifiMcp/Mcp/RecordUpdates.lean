import UnifiMcp.Api.Response
import UnifiMcp.Mcp.Mutation
/-! # `wlans.update` and `port_forwards.update` (unifi-mcp/src/tools.rs, unifi-api/src/legacy.rs)

Both tools read a record of the legacy API, send a partial update under the controller's names and
judge the record they read back. `RecordTool` is what differs between them.

* `record_judged` — **a readback behind an accepted write is judged.** -/
namespace UnifiMcp
open Text

/-! ## Records -/

/-- An `Option` member of a record: an absent one and `null` are `None`, a value of another type is an
error. -/
def optionMember {α : Type} (as : Json → Option α) (record : SortedMap Text Json) (key : Text) : Option (Option α) :=
  match record.find? key with
  | none => some none
  | some .null => some none
  | some value => (as value).map some

/-- A `String` member of a record. -/
def requiredString (record : SortedMap Text Json) (key : Text) : Option Text := (record.find? key).bind Json.asStr

/-- `WlanConf` (models.rs:561). -/
structure WlanConf where
  id : Text
  name : Option Text
  enabled : Option Bool
  security : Option Text
  xPassphrase : Option Text
  networkconfId : Option Text
  hideSsid : Option Bool
  radiusProfileId : Option Text

/-- `WlanConf` as serde derives it. -/
def decodeWlanConf (record : SortedMap Text Json) : Option WlanConf := do
  let id ← requiredString record "_id".toList
  let name ← optionMember Json.asStr record "name".toList
  let enabled ← optionMember Json.asBool record "enabled".toList
  let security ← optionMember Json.asStr record "security".toList
  let xPassphrase ← optionMember Json.asStr record "x_passphrase".toList
  let networkconfId ← optionMember Json.asStr record "networkconf_id".toList
  let hideSsid ← optionMember Json.asBool record "hide_ssid".toList
  let radiusProfileId ← optionMember Json.asStr record "radius_profile_id".toList
  some ⟨id, name, enabled, security, xPassphrase, networkconfId, hideSsid, radiusProfileId⟩

/-- `PortForward` (models.rs:423). -/
structure PortForward where
  id : Text
  name : Option Text
  enabled : Option Bool
  src : Option Text
  fwd : Option Text
  fwdPort : Option Text
  dstPort : Option Text
  proto : Option Text

/-- `PortForward` as serde derives it. -/
def decodePortForward (record : SortedMap Text Json) : Option PortForward := do
  let id ← requiredString record "_id".toList
  let name ← optionMember Json.asStr record "name".toList
  let enabled ← optionMember Json.asBool record "enabled".toList
  let src ← optionMember Json.asStr record "src".toList
  let fwd ← optionMember Json.asStr record "fwd".toList
  let fwdPort ← optionMember Json.asStr record "fwd_port".toList
  let dstPort ← optionMember Json.asStr record "dst_port".toList
  let proto ← optionMember Json.asStr record "proto".toList
  some ⟨id, name, enabled, src, fwd, fwdPort, dstPort, proto⟩

/-! ## Requests -/

/-- `WlanSecurity` (tools.rs:3511). -/
inductive WlanSecurity where
  | open_
  | wpapsk
  | wpaeap
deriving DecidableEq

def WlanSecurity.wire : WlanSecurity → Text
  | .open_ => "open".toList
  | .wpapsk => "wpapsk".toList
  | .wpaeap => "wpaeap".toList

/-- `WlanChanges` (tools.rs:3531). -/
structure WlanChanges where
  ssid : Option Text
  enabled : Option Bool
  security : Option WlanSecurity
  hidden : Option Bool
  passphrase : Option Text
  radiusProfileId : Option Text

/-- `PortForwardChanges` (tools.rs:3592). -/
structure PortForwardChanges where
  name : Option Text
  enabled : Option Bool
  source : Option Text
  forwardTo : Option Text
  forwardPort : Option Text
  destinationPort : Option Text
  protocol : Option Text

/-- `requested_fields` (tools.rs:13245). -/
def requestedFields (changes : WlanChanges) : SortedMap Text Json :=
  .ofOptions [("ssid".toList, changes.ssid.map .string), ("enabled".toList, changes.enabled.map .bool),
    ("security".toList, changes.security.map fun mode => .string mode.wire), ("hidden".toList, changes.hidden.map .bool),
    ("passphrase".toList, changes.passphrase.map .string),
    ("radiusProfileId".toList, changes.radiusProfileId.map .string)]

/-- `requested_port_forward_fields` (tools.rs:13152). -/
def requestedPortForwardFields (changes : PortForwardChanges) : SortedMap Text Json :=
  .ofOptions [("name".toList, changes.name.map .string), ("enabled".toList, changes.enabled.map .bool),
    ("source".toList, changes.source.map .string), ("forwardTo".toList, changes.forwardTo.map .string),
    ("forwardPort".toList, changes.forwardPort.map .string),
    ("destinationPort".toList, changes.destinationPort.map .string), ("protocol".toList, changes.protocol.map .string)]

/-- `WlanPatch` (models.rs:585). -/
structure WlanPatch where
  name : Option Text
  enabled : Option Bool
  security : Option Text
  xPassphrase : Option Text
  hideSsid : Option Bool
  radiusProfileId : Option Text

def WlanPatch.isEmpty (patch : WlanPatch) : Bool :=
  patch.name.isNone && patch.enabled.isNone && patch.security.isNone && patch.xPassphrase.isNone &&
    patch.hideSsid.isNone && patch.radiusProfileId.isNone

/-- `serde_json::to_value` of a patch: the members that are set. -/
def WlanPatch.toValue (patch : WlanPatch) : SortedMap Text Json :=
  .ofOptions [("name".toList, patch.name.map .string), ("enabled".toList, patch.enabled.map .bool),
    ("security".toList, patch.security.map .string), ("hide_ssid".toList, patch.hideSsid.map .bool),
    ("x_passphrase".toList, patch.xPassphrase.map .string),
    ("radius_profile_id".toList, patch.radiusProfileId.map .string)]

/-- `wlan_patch` (tools.rs:13298). -/
def wlanPatch (changes : WlanChanges) : WlanPatch where
  name := changes.ssid
  enabled := changes.enabled
  security := changes.security.map WlanSecurity.wire
  xPassphrase := changes.passphrase
  hideSsid := changes.hidden
  radiusProfileId := changes.radiusProfileId

/-- `PortForwardPatch` (models.rs:440). -/
structure PortForwardPatch where
  name : Option Text
  enabled : Option Bool
  src : Option Text
  fwd : Option Text
  fwdPort : Option Text
  dstPort : Option Text
  proto : Option Text

def PortForwardPatch.isEmpty (patch : PortForwardPatch) : Bool :=
  patch.name.isNone && patch.enabled.isNone && patch.src.isNone && patch.fwd.isNone && patch.fwdPort.isNone &&
    patch.dstPort.isNone && patch.proto.isNone

def PortForwardPatch.toValue (patch : PortForwardPatch) : SortedMap Text Json :=
  .ofOptions [("name".toList, patch.name.map .string), ("enabled".toList, patch.enabled.map .bool),
    ("src".toList, patch.src.map .string), ("fwd".toList, patch.fwd.map .string),
    ("fwd_port".toList, patch.fwdPort.map .string), ("dst_port".toList, patch.dstPort.map .string),
    ("proto".toList, patch.proto.map .string)]

/-- The patch of `port_forwards_update` (tools.rs:9470-9478). -/
def portForwardPatch (changes : PortForwardChanges) : PortForwardPatch where
  name := changes.name
  enabled := changes.enabled
  src := changes.source
  fwd := changes.forwardTo
  fwdPort := changes.forwardPort
  dstPort := changes.destinationPort
  proto := changes.protocol

/-! ## Projections and warnings -/

/-- `wlan_projection` (tools.rs:13232). -/
def wlanProjection (wlan : WlanConf) : Json :=
  .object [("enabled".toList, optionalBool wlan.enabled), ("hidden".toList, optionalBool wlan.hideSsid),
    ("networkId".toList, optionalText wlan.networkconfId), ("passphrase".toList, optionalText wlan.xPassphrase),
    ("radiusProfileId".toList, optionalText wlan.radiusProfileId), ("security".toList, optionalText wlan.security),
    ("ssid".toList, optionalText wlan.name)]

/-- `port_forward_projection` (tools.rs:13139). -/
def portForwardProjection (forward : PortForward) : Json :=
  .object [("destinationPort".toList, optionalText forward.dstPort), ("enabled".toList, optionalBool forward.enabled),
    ("forwardPort".toList, optionalText forward.fwdPort), ("forwardTo".toList, optionalText forward.fwd),
    ("name".toList, optionalText forward.name), ("protocol".toList, optionalText forward.proto),
    ("source".toList, optionalText forward.src)]

def WLAN_WIRE_NAMES : List (Text × Text) :=
  [("ssid".toList, "name".toList), ("enabled".toList, "enabled".toList), ("security".toList, "security".toList),
    ("hidden".toList, "hide_ssid".toList), ("passphrase".toList, "x_passphrase".toList),
    ("radiusProfileId".toList, "radius_profile_id".toList)]

def PORT_FORWARD_WIRE_NAMES : List (Text × Text) :=
  [("name".toList, "name".toList), ("enabled".toList, "enabled".toList), ("source".toList, "src".toList),
    ("forwardTo".toList, "fwd".toList), ("forwardPort".toList, "fwd_port".toList),
    ("destinationPort".toList, "dst_port".toList), ("protocol".toList, "proto".toList)]

/-- The closure `changing` (tools.rs:13274). -/
def changing (requested : SortedMap Text Json) (current : Json) (field : Text) : Bool :=
  (requested.find? field).any fun wanted => current.get field != some wanted

/-- `wlan_warnings` (tools.rs:13272). -/
def wlanWarnings (requested : SortedMap Text Json) (current : Json) : List Text :=
  (if requested.find? "enabled".toList = some (.bool false) ∧ changing requested current "enabled".toList then
    ["disabling the network drops every client on it".toList] else []) ++
  (if requested.find? "security".toList = some (.string "open".toList) ∧ changing requested current "security".toList then
    ["switching to open removes encryption from this network".toList] else []) ++
  (if ["ssid".toList, "passphrase".toList, "security".toList, "radiusProfileId".toList].any (changing requested current)
    then ["every client must reconnect after this change".toList] else [])

/-- `port_forward_warnings` (tools.rs:13176). -/
def portForwardWarnings (requested : SortedMap Text Json) (current : Json) : List Text :=
  let warnings : List Text :=
    if ["source".toList, "forwardTo".toList, "forwardPort".toList, "destinationPort".toList, "protocol".toList].any
      (changing requested current) then
        ["changing the rule match or target changes which traffic is forwarded".toList] else []
  let wanted := requested.find? "enabled".toList
  if wanted = none ∨ current.get "enabled".toList = wanted then warnings
  else if wanted = some (.bool false) then
    warnings ++ ["disabling the rule stops forwarding traffic to the internal host, so whatever ".toList ++
      "reaches it through this rule stops working".toList]
  else warnings ++ ["enabling the rule exposes the internal host's port to the source this rule ".toList ++
    "allows, which is the whole internet unless source is narrowed".toList]

/-! ## The tools -/

/-- The legacy reader: `STANDARD.encode`, serde's text for a record that does not decode, and the
`Display` of the tool error type. -/
structure LegacyReader where
  base64 : Bytes → Text
  decodeText : SortedMap Text Json → Text
  mcpErrorText : McpError → Text

/-- The rows of an accepted envelope, and its body. -/
abbrev LegacyRows := List (SortedMap Text Json) × Bytes

/-- What the other party does during one call. -/
structure RecordAnswers where
  before : Except ApiError LegacyRows
  write : Except ApiError (Nat × Bytes)
  after : Readback ApiError LegacyRows

/-- What differs between the two tools; `Patch` is what is sent, `Conf` what is read. -/
structure RecordTool (Changes Patch Conf View : Type) where
  kind : Text
  requested : Changes → SortedMap Text Json
  patch : Changes → Patch
  isEmpty : Patch → Bool
  toValue : Patch → SortedMap Text Json
  emptyPatch : Text
  decode : SortedMap Text Json → Option Conf
  confId : Conf → Text
  projection : Conf → Json
  wireNames : List (Text × Text)
  warnings : SortedMap Text Json → Json → List Text
  view : Text → Conf → View
  skipped : Text
  timedOut : Text

structure RecordUpdateInput (Changes : Type) where
  id : Text
  changes : Changes
  confirm : Option Bool

/-- `WlansUpdateOutput` and `PortForwardsUpdateOutput` (tools.rs:3556, 3621), before large fields move to
content blocks; `view` holds the fields that name the record. -/
structure RecordUpdateOutput (View : Type) where
  view : View
  applied : Bool
  responseStatus : Option Nat
  responseBody : Option Text
  changes : Option (List PlannedChange)
  fields : Option (List FieldOutcome)
  unexpectedChanges : Option (List Text)
  verified : Option Bool
  readbackError : Option Text
  warnings : List Text

/-- The body one call sent, and its result. -/
structure RecordRun (View : Type) where
  sent : Option (SortedMap Text Json)
  result : Except McpError (RecordUpdateOutput View)

section
variable {Changes Patch Conf View : Type}

/-- `legacy_detail_row` (legacy.rs:1699). -/
def legacyDetailRow (reader : LegacyReader) (rows : LegacyRows) (kind : Text) : Except ApiError (SortedMap Text Json) :=
  match rows.1 with
  | [row] => .ok row
  | others => .error (.decodeResponse (fromControllerBytes reader.base64 rows.2) (boundedMessage
      (if others.isEmpty then kind ++ " response contains no row for requested id".toList
        else kind ++ " response contains ".toList ++ dec others.length ++ " rows for requested id".toList)))

/-- `wlan_snapshot` and `port_forward_snapshot` (legacy.rs:363, 432). -/
def recordSnapshot (tool : RecordTool Changes Patch Conf View) (reader : LegacyReader) (id : Text)
    (answer : Except ApiError LegacyRows) : Except ApiError (Conf × RecordFingerprint) :=
  match answer with
  | .error error => .error error
  | .ok rows =>
    match legacyDetailRow reader rows tool.kind with
    | .error error => .error error
    | .ok row =>
      match tool.decode row with
      | none => .error (.decodeResponse (fromControllerBytes reader.base64 rows.2) (boundedMessage (reader.decodeText row)))
      | some conf =>
        if tool.confId conf ≠ id then
          .error (.decodeResponse (fromControllerBytes reader.base64 rows.2)
            (boundedMessage (tool.kind ++ " response id does not match requested id".toList)))
        else .ok (conf, row)

/-- The readback and its verdict (tools.rs:9417-9452, 9519-9554). -/
def recordReadback (tool : RecordTool Changes Patch Conf View) (reader : LegacyReader)
    (input : RecordUpdateInput Changes) (before : Json) (beforeDigest : RecordFingerprint)
    (written : RecordUpdateOutput View) : Readback ApiError LegacyRows → RecordUpdateOutput View
  | .skipped => { written with readbackError := some tool.skipped }
  | .timedOut => { written with readbackError := some tool.timedOut }
  | .answered answer =>
    match recordSnapshot tool reader input.id answer with
    | .error error => { written with readbackError := some (reader.mcpErrorText (apiError error)) }
    | .ok (after, afterDigest) =>
      let verdict := judge (tool.requested input.changes) tool.wireNames before (tool.projection after) beforeDigest afterDigest
      { written with
        view := tool.view input.id after
        fields := some verdict.fields
        unexpectedChanges := some verdict.unexpectedChanges
        verified := some verdict.verified }

/-- `wlans_update` and `port_forwards_update` (tools.rs:9358, 9456), on a parsed request. -/
def recordUpdate (tool : RecordTool Changes Patch Conf View) (reader : LegacyReader)
    (input : RecordUpdateInput Changes) (answers : RecordAnswers) : RecordRun View :=
  let requested := tool.requested input.changes
  let patch := tool.patch input.changes
  if requested.entries.isEmpty then ⟨none, .error (.invalidParams "changes names no field to change".toList)⟩
  else match recordSnapshot tool reader input.id answers.before with
    | .error error => ⟨none, .error (apiError error)⟩
    | .ok (current, beforeDigest) =>
      let before := tool.projection current
      let warnings := tool.warnings requested before
      let view := tool.view input.id current
      if input.confirm ≠ some true then
        ⟨none, .ok ⟨view, false, none, none, some (plan requested before), none, none, none, none, warnings⟩⟩
      else if tool.isEmpty patch then ⟨none, .error (apiError (.config tool.emptyPatch))⟩
      else ⟨some (tool.toValue patch), match answers.write with
        | .error error => .error (apiError error)
        | .ok (status, response) =>
          .ok (recordReadback tool reader input before beforeDigest
            ⟨view, true, some status, some (fromControllerBytes reader.base64 response), none, none, none, none, none,
              warnings⟩ answers.after)⟩

end

/-- The two fields of `WlansUpdateOutput` that name the network. -/
structure WlanName where
  wlan : Text
  ssid : Option Text

/-- `PortForwardView` (tools.rs:3398). -/
structure PortForwardView where
  id : Text
  name : Option Text
  enabled : Option Bool
  source : Option Text
  forwardTo : Option Text
  forwardPort : Option Text
  destinationPort : Option Text
  protocol : Option Text

/-- `port_forward_view` (tools.rs:13217). -/
def portForwardView (forward : PortForward) : PortForwardView :=
  ⟨forward.id, forward.name, forward.enabled, forward.src, forward.fwd, forward.fwdPort, forward.dstPort, forward.proto⟩

def wlanTool : RecordTool WlanChanges WlanPatch WlanConf WlanName where
  kind := "wireless network".toList
  requested := requestedFields
  patch := wlanPatch
  isEmpty := WlanPatch.isEmpty
  toValue := WlanPatch.toValue
  emptyPatch := "wireless network update carries no fields".toList
  decode := decodeWlanConf
  confId := WlanConf.id
  projection := wlanProjection
  wireNames := WLAN_WIRE_NAMES
  warnings := wlanWarnings
  view := fun id conf => ⟨id, conf.name⟩
  skipped := "wireless readback skipped near request deadline".toList
  timedOut := "wireless readback timed out".toList

def portForwardTool : RecordTool PortForwardChanges PortForwardPatch PortForward PortForwardView where
  kind := "port forward".toList
  requested := requestedPortForwardFields
  patch := portForwardPatch
  isEmpty := PortForwardPatch.isEmpty
  toValue := PortForwardPatch.toValue
  emptyPatch := "port forward update carries no fields".toList
  decode := decodePortForward
  confId := PortForward.id
  projection := portForwardProjection
  wireNames := PORT_FORWARD_WIRE_NAMES
  warnings := portForwardWarnings
  view := fun _ forward => portForwardView forward
  skipped := "port-forward readback skipped near request deadline".toList
  timedOut := "port-forward readback timed out".toList

/-- `WlansUpdateInput` (tools.rs:3546). -/
structure WlansUpdateInput where
  wlan : Text
  changes : WlanChanges
  confirm : Option Bool

/-- `PortForwardsUpdateInput` (tools.rs:3611). -/
structure PortForwardsUpdateInput where
  portForward : Text
  changes : PortForwardChanges
  confirm : Option Bool

/-- `wlans_update` (tools.rs:9358). -/
def wlansUpdate (reader : LegacyReader) (input : WlansUpdateInput) (answers : RecordAnswers) : RecordRun WlanName :=
  recordUpdate wlanTool reader ⟨input.wlan, input.changes, input.confirm⟩ answers

/-- `port_forwards_update` (tools.rs:9456). -/
def portForwardsUpdate (reader : LegacyReader) (input : PortForwardsUpdateInput) (answers : RecordAnswers) :
    RecordRun PortForwardView :=
  recordUpdate portForwardTool reader ⟨input.portForward, input.changes, input.confirm⟩ answers

/-! ## Members -/

section
variable {α : Type} {as : Json → Option α} {wrap : α → Json} {record patch : SortedMap Text Json} {key : Text}

/-- A member that was read shows a value exactly when the record holds it. -/
theorem optionMember_shown (hwrap : ∀ value x, as value = some x ↔ value = wrap x) (hnull : ∀ x, wrap x ≠ .null)
    {o : Option α} (h : optionMember as record key = some o) (x : α) :
    o.elim .null wrap = wrap x ↔ record.find? key = some (wrap x) := by
  unfold optionMember at h
  split at h
  · rename_i hfind
    cases h
    rw [hfind]
    exact ⟨fun h => absurd h.symm (hnull x), fun h => by cases h⟩
  · rename_i hfind
    cases h
    rw [hfind]
    exact ⟨fun h => absurd h.symm (hnull x), fun h => absurd (Option.some.inj h).symm (hnull x)⟩
  · rename_i value hvalue hfind
    obtain ⟨y, hy, rfl⟩ := Option.map_eq_some_iff.1 h
    rw [hfind, (hwrap _ _).1 hy]
    exact ⟨congrArg some, Option.some.inj⟩

/-- A member reads the same, or as the value written over it. -/
theorem optionMember_extend (hwrap : ∀ value x, as value = some x ↔ value = wrap x) (hnull : ∀ x, wrap x ≠ .null)
    {previous o : Option α} (h : optionMember as record key = some previous) (hpatch : patch.find? key = o.map wrap) :
    optionMember as (record.extendWith id patch) key = some (o.or previous) := by
  cases o with
  | none =>
    rw [optionMember, SortedMap.find?_extendWith, hpatch]
    exact h
  | some x =>
    rw [optionMember, SortedMap.find?_extendWith, hpatch]
    show (match some (wrap x) with
      | none => some none
      | some .null => some none
      | some value => (as value).map some) = some (some x)
    have has := (hwrap (wrap x) x).2 rfl
    cases hw : wrap x with
    | null => exact absurd hw (hnull x)
    | _ => rw [hw] at has; exact congrArg (Option.map some) has

end

/-! ## Coherence -/

/-- The views a tool keeps of each field agree. -/
structure RecordTool.Coherent {Changes Patch Conf View : Type} (tool : RecordTool Changes Patch Conf View)
    (rows : Changes → List FieldRow) : Prop where
  /-- The requested map, the sent body and the table of names have the same rows. -/
  columns : ∀ changes, Columns (rows changes) (tool.requested changes) (tool.toValue (tool.patch changes)) tool.wireNames
  /-- The projection shows a requested value exactly when the record stores it. -/
  shown : ∀ changes record conf field wire wanted, tool.decode record = some conf →
    ⟨field, wire, some wanted⟩ ∈ rows changes →
      (((tool.projection conf).get field).getD .null = wanted ↔ record.find? wire = some wanted)
  /-- A record still decodes, to the same id, when the body is written over it. -/
  applied : ∀ changes record conf, tool.decode record = some conf →
    ∃ conf', tool.decode (record.extendWith id (tool.toValue (tool.patch changes))) = some conf' ∧
      tool.confId conf' = tool.confId conf

theorem decodeWlanConf_eq {record : SortedMap Text Json} {conf : WlanConf} : decodeWlanConf record = some conf ↔
    requiredString record "_id".toList = some conf.id ∧
    optionMember Json.asStr record "name".toList = some conf.name ∧
    optionMember Json.asBool record "enabled".toList = some conf.enabled ∧
    optionMember Json.asStr record "security".toList = some conf.security ∧
    optionMember Json.asStr record "x_passphrase".toList = some conf.xPassphrase ∧
    optionMember Json.asStr record "networkconf_id".toList = some conf.networkconfId ∧
    optionMember Json.asBool record "hide_ssid".toList = some conf.hideSsid ∧
    optionMember Json.asStr record "radius_profile_id".toList = some conf.radiusProfileId := by
  simp only [decodeWlanConf, bind, Option.bind_eq_some_iff]
  constructor
  · rintro ⟨_, h1, _, h2, _, h3, _, h4, _, h5, _, h6, _, h7, _, h8, h⟩
    cases h
    exact ⟨h1, h2, h3, h4, h5, h6, h7, h8⟩
  · rintro ⟨h1, h2, h3, h4, h5, h6, h7, h8⟩
    exact ⟨_, h1, _, h2, _, h3, _, h4, _, h5, _, h6, _, h7, _, h8, rfl⟩

theorem decodePortForward_eq {record : SortedMap Text Json} {conf : PortForward} : decodePortForward record = some conf ↔
    requiredString record "_id".toList = some conf.id ∧
    optionMember Json.asStr record "name".toList = some conf.name ∧
    optionMember Json.asBool record "enabled".toList = some conf.enabled ∧
    optionMember Json.asStr record "src".toList = some conf.src ∧
    optionMember Json.asStr record "fwd".toList = some conf.fwd ∧
    optionMember Json.asStr record "fwd_port".toList = some conf.fwdPort ∧
    optionMember Json.asStr record "dst_port".toList = some conf.dstPort ∧
    optionMember Json.asStr record "proto".toList = some conf.proto := by
  simp only [decodePortForward, bind, Option.bind_eq_some_iff]
  constructor
  · rintro ⟨_, h1, _, h2, _, h3, _, h4, _, h5, _, h6, _, h7, _, h8, h⟩
    cases h
    exact ⟨h1, h2, h3, h4, h5, h6, h7, h8⟩
  · rintro ⟨h1, h2, h3, h4, h5, h6, h7, h8⟩
    exact ⟨_, h1, _, h2, _, h3, _, h4, _, h5, _, h6, _, h7, _, h8, rfl⟩

/-- The fields of `wlans.update`. -/
def wlanRows (changes : WlanChanges) : List FieldRow :=
  [⟨"ssid".toList, "name".toList, changes.ssid.map .string⟩,
    ⟨"enabled".toList, "enabled".toList, changes.enabled.map .bool⟩,
    ⟨"security".toList, "security".toList, changes.security.map fun mode => .string mode.wire⟩,
    ⟨"hidden".toList, "hide_ssid".toList, changes.hidden.map .bool⟩,
    ⟨"passphrase".toList, "x_passphrase".toList, changes.passphrase.map .string⟩,
    ⟨"radiusProfileId".toList, "radius_profile_id".toList, changes.radiusProfileId.map .string⟩]

/-- The fields of `port_forwards.update`. -/
def portForwardRows (changes : PortForwardChanges) : List FieldRow :=
  [⟨"name".toList, "name".toList, changes.name.map .string⟩,
    ⟨"enabled".toList, "enabled".toList, changes.enabled.map .bool⟩,
    ⟨"source".toList, "src".toList, changes.source.map .string⟩,
    ⟨"forwardTo".toList, "fwd".toList, changes.forwardTo.map .string⟩,
    ⟨"forwardPort".toList, "fwd_port".toList, changes.forwardPort.map .string⟩,
    ⟨"destinationPort".toList, "dst_port".toList, changes.destinationPort.map .string⟩,
    ⟨"protocol".toList, "proto".toList, changes.protocol.map .string⟩]

theorem wlan_columns (changes : WlanChanges) : Columns (wlanRows changes) (requestedFields changes)
    (wlanPatch changes).toValue WLAN_WIRE_NAMES where
  requested := rfl
  body := by
    unfold wlanRows WlanPatch.toValue wlanPatch
    simp only [Option.map_map]
    rfl
  wireNames := rfl
  fields_nodup := (by decide : (WLAN_WIRE_NAMES.map Prod.fst).Nodup)
  wires_nodup := (by decide : (WLAN_WIRE_NAMES.map Prod.snd).Nodup)

theorem wlan_wires (changes : WlanChanges) : (wlanRows changes).map FieldRow.wire = WLAN_WIRE_NAMES.map Prod.snd := rfl

theorem port_forward_columns (changes : PortForwardChanges) : Columns (portForwardRows changes)
    (requestedPortForwardFields changes) (portForwardPatch changes).toValue PORT_FORWARD_WIRE_NAMES where
  requested := rfl
  body := rfl
  wireNames := rfl
  fields_nodup := (by decide : (PORT_FORWARD_WIRE_NAMES.map Prod.fst).Nodup)
  wires_nodup := (by decide : (PORT_FORWARD_WIRE_NAMES.map Prod.snd).Nodup)

theorem port_forward_wires (changes : PortForwardChanges) :
    (portForwardRows changes).map FieldRow.wire = PORT_FORWARD_WIRE_NAMES.map Prod.snd := rfl

section
variable {record : SortedMap Text Json} {key : Text}

theorem text_shown {o : Option Text} (h : optionMember Json.asStr record key = some o) (x : Text) :
    optionalText o = .string x ↔ record.find? key = some (.string x) :=
  optionMember_shown (fun _ _ => asStr_eq_some) (fun _ h => by cases h) h x

theorem flag_shown {o : Option Bool} (h : optionMember Json.asBool record key = some o) (x : Bool) :
    optionalBool o = .bool x ↔ record.find? key = some (.bool x) :=
  optionMember_shown (fun _ _ => asBool_eq_some) (fun _ h => by cases h) h x

theorem text_extend {patch : SortedMap Text Json} {previous o : Option Text}
    (h : optionMember Json.asStr record key = some previous) (hpatch : patch.find? key = o.map .string) :
    optionMember Json.asStr (record.extendWith id patch) key = some (o.or previous) :=
  optionMember_extend (fun _ _ => asStr_eq_some) (fun _ h => by cases h) h hpatch

theorem flag_extend {patch : SortedMap Text Json} {previous o : Option Bool}
    (h : optionMember Json.asBool record key = some previous) (hpatch : patch.find? key = o.map .bool) :
    optionMember Json.asBool (record.extendWith id patch) key = some (o.or previous) :=
  optionMember_extend (fun _ _ => asBool_eq_some) (fun _ h => by cases h) h hpatch

theorem required_extend {patch : SortedMap Text Json} {t : Text} (h : requiredString record key = some t)
    (hpatch : patch.find? key = none) : requiredString (record.extendWith id patch) key = some t := by
  rw [requiredString, SortedMap.find?_extendWith, hpatch]
  exact h

end

theorem wlan_coherent : wlanTool.Coherent wlanRows where
  columns := wlan_columns
  shown changes record conf field wire wanted hdecode hrow := by
    obtain ⟨-, hname, henabled, hsecurity, hpassphrase, -, hhidden, hprofile⟩ := decodeWlanConf_eq.1 hdecode
    unfold wlanRows at hrow
    simp only [List.mem_cons, List.not_mem_nil, or_false, FieldRow.mk.injEq] at hrow
    rcases hrow with ⟨rfl, rfl, h⟩ | ⟨rfl, rfl, h⟩ | ⟨rfl, rfl, h⟩ | ⟨rfl, rfl, h⟩ | ⟨rfl, rfl, h⟩ | ⟨rfl, rfl, h⟩
    all_goals obtain ⟨x, -, rfl⟩ := Option.map_eq_some_iff.1 h.symm
    · exact text_shown hname x
    · exact flag_shown henabled x
    · exact text_shown hsecurity x.wire
    · exact flag_shown hhidden x
    · exact text_shown hpassphrase x
    · exact text_shown hprofile x
  applied changes record conf hdecode := by
    obtain ⟨hid, hname, henabled, hsecurity, hpassphrase, hnetwork, hhidden, hprofile⟩ := decodeWlanConf_eq.1 hdecode
    have hc := wlan_columns changes
    refine ⟨⟨conf.id, changes.ssid.or conf.name, changes.enabled.or conf.enabled,
      (changes.security.map WlanSecurity.wire).or conf.security, changes.passphrase.or conf.xPassphrase,
      conf.networkconfId, changes.hidden.or conf.hideSsid, changes.radiusProfileId.or conf.radiusProfileId⟩,
      decodeWlanConf_eq.2 ⟨?_, ?_, ?_, ?_, ?_, ?_, ?_, ?_⟩, rfl⟩
    · exact required_extend hid (hc.find?_body_of_not_mem (by rw [wlan_wires]; decide))
    · exact text_extend hname (hc.find?_body_of_mem (.head _))
    · exact flag_extend henabled (hc.find?_body_of_mem (.tail _ (.head _)))
    · refine text_extend hsecurity ((hc.find?_body_of_mem (.tail _ (.tail _ (.head _)))).trans ?_)
      rw [Option.map_map]
      rfl
    · exact text_extend hpassphrase (hc.find?_body_of_mem (.tail _ (.tail _ (.tail _ (.tail _ (.head _))))))
    · exact text_extend hnetwork (o := none) (hc.find?_body_of_not_mem (by rw [wlan_wires]; decide))
    · exact flag_extend hhidden (hc.find?_body_of_mem (.tail _ (.tail _ (.tail _ (.head _)))))
    · exact text_extend hprofile (hc.find?_body_of_mem (.tail _ (.tail _ (.tail _ (.tail _ (.tail _ (.head _)))))))

theorem port_forward_coherent : portForwardTool.Coherent portForwardRows where
  columns := port_forward_columns
  shown changes record conf field wire wanted hdecode hrow := by
    obtain ⟨-, hname, henabled, hsrc, hfwd, hfwdPort, hdstPort, hproto⟩ := decodePortForward_eq.1 hdecode
    unfold portForwardRows at hrow
    simp only [List.mem_cons, List.not_mem_nil, or_false, FieldRow.mk.injEq] at hrow
    rcases hrow with ⟨rfl, rfl, h⟩ | ⟨rfl, rfl, h⟩ | ⟨rfl, rfl, h⟩ | ⟨rfl, rfl, h⟩ | ⟨rfl, rfl, h⟩ | ⟨rfl, rfl, h⟩ |
      ⟨rfl, rfl, h⟩
    all_goals obtain ⟨x, -, rfl⟩ := Option.map_eq_some_iff.1 h.symm
    · exact text_shown hname x
    · exact flag_shown henabled x
    · exact text_shown hsrc x
    · exact text_shown hfwd x
    · exact text_shown hfwdPort x
    · exact text_shown hdstPort x
    · exact text_shown hproto x
  applied changes record conf hdecode := by
    obtain ⟨hid, hname, henabled, hsrc, hfwd, hfwdPort, hdstPort, hproto⟩ := decodePortForward_eq.1 hdecode
    have hc := port_forward_columns changes
    refine ⟨⟨conf.id, changes.name.or conf.name, changes.enabled.or conf.enabled, changes.source.or conf.src,
      changes.forwardTo.or conf.fwd, changes.forwardPort.or conf.fwdPort, changes.destinationPort.or conf.dstPort,
      changes.protocol.or conf.proto⟩, decodePortForward_eq.2 ⟨?_, ?_, ?_, ?_, ?_, ?_, ?_, ?_⟩, rfl⟩
    · exact required_extend hid (hc.find?_body_of_not_mem (by rw [port_forward_wires]; decide))
    · exact text_extend hname (hc.find?_body_of_mem (.head _))
    · exact flag_extend henabled (hc.find?_body_of_mem (.tail _ (.head _)))
    · exact text_extend hsrc (hc.find?_body_of_mem (.tail _ (.tail _ (.head _))))
    · exact text_extend hfwd (hc.find?_body_of_mem (.tail _ (.tail _ (.tail _ (.head _)))))
    · exact text_extend hfwdPort (hc.find?_body_of_mem (.tail _ (.tail _ (.tail _ (.tail _ (.head _))))))
    · exact text_extend hdstPort (hc.find?_body_of_mem (.tail _ (.tail _ (.tail _ (.tail _ (.tail _ (.head _)))))))
    · exact text_extend hproto (hc.find?_body_of_mem (.tail _ (.tail _ (.tail _ (.tail _ (.tail _ (.tail _ (.head _))))))))

/-! ## The verdict -/

section
variable {Changes Patch Conf View : Type} {tool : RecordTool Changes Patch Conf View} {reader : LegacyReader}
  {input : RecordUpdateInput Changes} {answers : RecordAnswers}

def RecordUpdateOutput.report (output : RecordUpdateOutput View) : Report :=
  ⟨output.unexpectedChanges, output.verified, output.readbackError⟩

/-- The projection of a record that decodes to the addressed id. -/
def recordShown (tool : RecordTool Changes Patch Conf View) (id : Text) (record : SortedMap Text Json) : Option Json :=
  (tool.decode record).bind fun conf => if tool.confId conf = id then some (tool.projection conf) else none

theorem recordShown_eq_some {id : Text} {record : SortedMap Text Json} {shown : Json} :
    recordShown tool id record = some shown ↔
      ∃ conf, tool.decode record = some conf ∧ tool.confId conf = id ∧ tool.projection conf = shown := by
  rw [recordShown, Option.bind_eq_some_iff]
  refine exists_congr fun conf => and_congr_right fun _ => ?_
  split <;> simp_all

/-- A read of one row gives the record itself as the fingerprint. -/
theorem recordSnapshot_ok {id : Text} {row : SortedMap Text Json} {bytes : Bytes} {conf : Conf}
    {digest : RecordFingerprint} :
    recordSnapshot tool reader id (.ok ([row], bytes)) = .ok (conf, digest) ↔
      tool.decode row = some conf ∧ tool.confId conf = id ∧ digest = row := by
  unfold recordSnapshot legacyDetailRow
  dsimp only
  cases tool.decode row with
  | none => simp
  | some found =>
    dsimp only
    split
    · rename_i hother
      simp only [reduceCtorEq, Option.some.injEq, false_iff]
      rintro ⟨rfl, hid, -⟩
      exact hother hid
    · rename_i hsame
      rw [not_not] at hsame
      simp only [Except.ok.injEq, Prod.mk.injEq, Option.some.injEq]
      exact ⟨fun h => ⟨h.1, h.1 ▸ hsame, h.2.symm⟩, fun h => ⟨h.1, h.2.2.symm⟩⟩

/-- What a call that sent a body went through. -/
theorem record_write_inv {body : SortedMap Text Json} {status : Nat} {response : Bytes}
    (h : (recordUpdate tool reader input answers).sent = some body) (hwrite : answers.write = .ok (status, response)) :
    body = tool.toValue (tool.patch input.changes) ∧ ∃ current digest written,
      recordSnapshot tool reader input.id answers.before = .ok (current, digest) ∧
      RecordUpdateOutput.report written = ⟨none, none, none⟩ ∧
      (recordUpdate tool reader input answers).result =
        .ok (recordReadback tool reader input (tool.projection current) digest written answers.after) := by
  generalize hrun : recordUpdate tool reader input answers = run at h ⊢
  unfold recordUpdate at hrun
  dsimp only at hrun
  split at hrun
  · rw [← hrun] at h; cases h
  split at hrun
  · rw [← hrun] at h; cases h
  rename_i current digest hread
  split at hrun
  · rw [← hrun] at h; cases h
  split at hrun
  · rw [← hrun] at h; cases h
  rw [← hrun] at h ⊢
  cases h
  rw [hwrite]
  refine ⟨rfl, current, digest, _, hread, ?_, rfl⟩
  rfl

/-- A readback that is answered is refused, or judged. -/
theorem recordReadback_report {before : Json} {digest : RecordFingerprint} {written : RecordUpdateOutput View}
    {after : SortedMap Text Json} {bytes : Bytes} (hwritten : written.report = ⟨none, none, none⟩) :
    (recordShown tool input.id after = none ∧
      ∃ error, (recordReadback tool reader input before digest written (.answered (.ok ([after], bytes)))).report =
        ⟨none, none, some error⟩) ∨
    (∃ shown, recordShown tool input.id after = some shown ∧
      (recordReadback tool reader input before digest written (.answered (.ok ([after], bytes)))).report =
        ⟨some (judge (tool.requested input.changes) tool.wireNames before shown digest after).unexpectedChanges,
          some (judge (tool.requested input.changes) tool.wireNames before shown digest after).verified, none⟩) := by
  obtain ⟨_, _, _, _, _, _, unexpectedChanges, verified, readbackError, _⟩ := written
  cases hwritten
  unfold recordReadback
  dsimp only
  cases hread : recordSnapshot tool reader input.id (.ok ([after], bytes)) with
  | error error =>
    refine Or.inl ⟨?_, _, rfl⟩
    rw [Option.eq_none_iff_forall_ne_some]
    intro shown hshown
    obtain ⟨conf, hdecode, hid, -⟩ := recordShown_eq_some.1 hshown
    cases (recordSnapshot_ok.2 ⟨hdecode, hid, rfl⟩).symm.trans hread
  | ok snapshot =>
    obtain ⟨conf, digest'⟩ := snapshot
    obtain ⟨hdecode, hid, rfl⟩ := recordSnapshot_ok.1 hread
    exact Or.inr ⟨_, recordShown_eq_some.2 ⟨_, hdecode, hid, rfl⟩, rfl⟩

/-- **A readback behind an accepted write is judged.** -/
theorem record_judged {rows : Changes → List FieldRow} (hcoherent : tool.Coherent rows) {before after body : SortedMap Text Json}
    {status : Nat} {response bytes afterBytes : Bytes} (hsent : (recordUpdate tool reader input answers).sent = some body)
    (hbefore : answers.before = .ok ([before], bytes)) (hwrite : answers.write = .ok (status, response))
    (hafter : answers.after = .answered (.ok ([after], afterBytes))) :
    ∃ output, (recordUpdate tool reader input answers).result = .ok output ∧
      Judged (tool.requested input.changes) body some before after (before.extendWith id body)
        (recordShown tool input.id after) output.report := by
  obtain ⟨rfl, current, digest, written, hread, hwritten, hresult⟩ := record_write_inv hsent hwrite
  rw [hbefore] at hread
  obtain ⟨hdecode, hid, rfl⟩ := recordSnapshot_ok.1 hread
  refine ⟨_, hresult, ?_⟩
  rw [hafter]
  have hcolumns := hcoherent.columns input.changes
  have hreport := @recordReadback_report _ _ _ _ tool reader input (tool.projection current) digest written after
    afterBytes hwritten
  refine judged_of_columns hcolumns (tool.projection current) digest after (fun _ => Iff.rfl) (fun hnone => ?_)
    (fun shown hshown => ?_) (fun shown hshown field property wanted hrow hholds => ?_) (fun heq => ?_)
  · rcases hreport with ⟨-, error, heq⟩ | ⟨shown, hshown, -⟩
    · rw [heq]
      exact ⟨rfl, by simp⟩
    · cases hnone.symm.trans hshown
  · rcases hreport with ⟨hnone, -⟩ | ⟨shown', hshown', heq⟩
    · cases hnone.symm.trans hshown
    · cases hshown.symm.trans hshown'
      rw [heq]
      exact ⟨rfl, rfl⟩
  · obtain ⟨conf, hafterDecode, -, rfl⟩ := recordShown_eq_some.1 hshown
    rw [(hcoherent.shown _ _ _ _ _ _ hafterDecode hrow).1 hholds]
    rfl
  · obtain ⟨conf, happlied, hsame⟩ := hcoherent.applied input.changes digest current hdecode
    refine ⟨_, recordShown_eq_some.2 ⟨conf, heq ▸ happlied, hsame.trans hid, rfl⟩, fun field wanted hwanted => ?_,
      fun property hother => ?_⟩
    · obtain ⟨wire, hrow⟩ := hcolumns.find?_requested.1 hwanted
      rw [hcoherent.shown _ _ _ _ _ _ happlied hrow, SortedMap.find?_extendWith, hcolumns.find?_body.2 ⟨field, hrow⟩]
      rfl
    · rw [heq, SortedMap.find?_extendWith, hother]
      rfl

end

end UnifiMcp

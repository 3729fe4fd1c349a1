import UnifiMcp.Api.Http
import UnifiMcp.Mcp.Mutation
import UnifiMcp.Mcp.Paging
/-! # `firewall.policies.update` (unifi-mcp/src/tools.rs, unifi-api/src/client.rs)

The tool reads the policy, decides on a parsed copy of it, and writes back either the texts it was
sent with the requested flags replaced (`PUT`) or the logging flag alone (`PATCH`).

* `policy_update_frame` — **which write is sent, and exactly what it carries.** -/
namespace UnifiMcp
open Text

/-! ## Requests -/

structure FirewallPolicyChanges where
  enabled : Option Bool
  loggingEnabled : Option Bool

/-- `FirewallPoliciesUpdateInput` (tools.rs:3797). -/
structure FirewallPoliciesUpdateInput where
  policy : Text
  changes : FirewallPolicyChanges
  confirm : Option Bool

/-- The `requested` map (tools.rs:9595-9601). -/
def requestedFlags (changes : FirewallPolicyChanges) : SortedMap Text Json :=
  .ofOptions [("enabled".toList, changes.enabled.map .bool), ("loggingEnabled".toList, changes.loggingEnabled.map .bool)]

def POLICY_WIRE_NAMES : List (Text × Text) :=
  [("enabled".toList, "enabled".toList), ("loggingEnabled".toList, "loggingEnabled".toList)]

/-! ## Records -/

/-- `Value::as_i64`; a JSON number has no plus sign. -/
def asI64 : Json → Option Int
  | .number ('-' :: digits) =>
    if digits ≠ [] ∧ digits.all Char.isDigit ∧ natOf digits ≤ 9223372036854775808 then some (-(natOf digits : Int)) else none
  | .number digits =>
    if digits ≠ [] ∧ digits.all Char.isDigit ∧ natOf digits ≤ 9223372036854775807 then some (natOf digits : Int) else none
  | _ => none

/-- `i32::try_from(..).ok()`. -/
def toI32 (value : Int) : Option Int := if -2147483648 ≤ value ∧ value ≤ 2147483647 then some value else none

/-- `parsed_record` (tools.rs:12217); `fromStr` is `serde_json::from_str` to a `Value`. -/
def parsedRecord (fromStr : Text → Option Json) (raw : SortedMap Text Text) : SortedMap Text Json :=
  raw.filterMap fromStr

/-- A flag of the record, `record.get(field).and_then(Value::as_bool)`. -/
def flag (record : SortedMap Text Json) (field : Text) : Option Bool := (record.find? field).bind Json.asBool

/-- `policy_projection` (tools.rs:12204). -/
def policyProjection (record : SortedMap Text Json) : Json :=
  .object [("enabled".toList, optionalBool (flag record "enabled".toList)),
    ("loggingEnabled".toList, optionalBool (flag record "loggingEnabled".toList))]

/-- `policy_view_from_record` (tools.rs:12235). -/
def policyViewFromRecord (id : Text) (record : SortedMap Text Json) : PolicyView :=
  let text := fun key : Text => (record.find? key).bind Json.asStr
  let endpoint := fun side key : Text => ((record.find? side).bind (Json.get key)).bind Json.asStr
  { id := (text "id".toList).getD id
    name := text "name".toList
    enabled := flag record "enabled".toList
    loggingEnabled := flag record "loggingEnabled".toList
    action := (record.find? "action".toList).bind (firewallAttributeName · "type".toList)
    index := ((record.find? "index".toList).bind asI64).bind toI32
    ipProtocolScope := (record.find? "ipProtocolScope".toList).bind (firewallAttributeName · "ipVersion".toList)
    sourceZoneId := endpoint "source".toList "zoneId".toList
    sourcePort := endpoint "source".toList "port".toList
    destinationZoneId := endpoint "destination".toList "zoneId".toList
    destinationPort := endpoint "destination".toList "port".toList }

/-- `bounded_policy_view` (tools.rs:12271). -/
def boundedPolicyView (policy : PolicyView) : PolicyView :=
  { policy with
    name := policy.name.map boundedText
    action := policy.action.map boundedText
    ipProtocolScope := policy.ipProtocolScope.map boundedText
    sourceZoneId := policy.sourceZoneId.map boundedText
    sourcePort := policy.sourcePort.map boundedText
    destinationZoneId := policy.destinationZoneId.map boundedText
    destinationPort := policy.destinationPort.map boundedText }

/-- The `match (action, wanted)` of `firewall_policy_warnings` (tools.rs:12373-12394). -/
def actionWarning (action : Option Text) (wanted : Bool) : Text :=
  if action = some "block".toList ∨ action = some "reject".toList ∨ action = some "drop".toList then
    if wanted then "this policy blocks traffic; enabling it blocks whatever reaches it and ".toList ++
      "matches, unless an earlier policy allows that traffic first".toList
    else "this policy blocks traffic; disabling it stops this policy from blocking, ".toList ++
      "and whether that traffic is then allowed depends on the policies after it".toList
  else if action = some "allow".toList ∨ action = some "accept".toList then
    if wanted then "this policy allows traffic; enabling it allows whatever reaches it and ".toList ++
      "matches, unless an earlier policy blocks that traffic first".toList
    else "this policy allows traffic; disabling it withdraws this policy's allowance, ".toList ++
      "and the policies after it decide".toList
  else "the controller reports no action this server recognizes for this policy, ".toList ++
    "so whether the change permits or blocks traffic could not be stated".toList

/-- `firewall_policy_warnings` (tools.rs:12363). -/
def firewallPolicyWarnings (wanted : Bool) (record : SortedMap Text Json) : List Text :=
  if flag record "enabled".toList = some wanted then []
  else
    let action := ((record.find? "action".toList).bind (firewallAttributeName · "type".toList)).map toAsciiLowercase
    [actionWarning action wanted, "this change resends the whole policy as it was just read, so an edit made ".toList ++
      "elsewhere between that read and this write is overwritten".toList]

/-! ## Writes -/

inductive Method where
  | put
  | patch
deriving DecidableEq

/-- The two bodies: the whole record, or the logging flag. -/
inductive PolicyBody where
  | record (sent : SortedMap Text Text)
  | logging (loggingEnabled : Bool)

/-- The body on the wire: a raw value is written as its text. -/
def PolicyBody.text : PolicyBody → Text
  | .record sent => '{' :: ([','].intercalate (sent.entries.map fun entry => Json.quote entry.1 ++ ':' :: entry.2) ++ ['}'])
  | .logging loggingEnabled => (Json.object [("loggingEnabled".toList, .bool loggingEnabled)]).write

structure PolicyRequest where
  method : Method
  url : Url
  body : PolicyBody

/-- The Integration API client: its base address and the third-party functions it rests on. -/
structure IntegrationClient where
  base : Url
  pathPush : PathPush
  base64 : Bytes → Text
  fromStr : Text → Option Json

/-- `endpoint` of the policy routes (client.rs:1396, 1433, 1467, 1524). -/
def policyEndpoint (client : IntegrationClient) (site policy : Text) : Except ApiError Url :=
  buildUrl client.pathPush client.base ["proxy".toList, "network".toList, "integration".toList, "v1".toList,
    "sites".toList, site, "firewall".toList, "policies".toList, policy] []

/-- What the other party does during one call: the zone API check, the site lookup, the answer to the
policy read, to the write, and the end of the readback. -/
structure PolicyAnswers where
  zoneApi : Except McpError Unit
  siteId : Except McpError Text
  before : Except ApiError (SortedMap Text Text × Bytes)
  write : Except ApiError (Nat × Bytes)
  after : Readback ApiError (SortedMap Text Text × Bytes)

/-- `firewall_policy_snapshot_with_response` (client.rs:1387), without the fingerprint. -/
def policySnapshot (client : IntegrationClient) (site policy : Text)
    (answer : Except ApiError (SortedMap Text Text × Bytes)) : Except ApiError (SortedMap Text Text × Bytes) :=
  match policyEndpoint client site policy with
  | .error error => .error error
  | .ok _ => answer

/-! ## The tool -/

/-- `FirewallPoliciesUpdateOutput` (tools.rs:3807), before large fields move to content blocks. -/
structure FirewallPoliciesUpdateOutput where
  policy : PolicyView
  beforeResponse : Option Text
  responseStatus : Option Nat
  responseBody : Option Text
  afterResponse : Option Text
  applied : Bool
  changes : Option (List PlannedChange)
  fields : Option (List FieldOutcome)
  unexpectedChanges : Option (List Text)
  verified : Option Bool
  readbackError : Option Text
  warnings : List Text

/-- How a call ends; `panicked` is a failed `expect`. -/
inductive Outcome (α : Type) where
  | returned (result : Except McpError α)
  | panicked

/-- The writes one call sent, and how it ended. -/
structure PolicyRun where
  writes : List PolicyRequest
  outcome : Outcome FirewallPoliciesUpdateOutput

/-- A call that ends without a write. -/
def PolicyRun.unsent (result : Except McpError FirewallPoliciesUpdateOutput) : PolicyRun := ⟨[], .returned result⟩

/-- The output of a call that wrote nothing (tools.rs:9637-9682). -/
def policyPreview (view : PolicyView) (beforeResponse : Text) (changes : List PlannedChange) (warnings : List Text) :
    FirewallPoliciesUpdateOutput :=
  ⟨view, some beforeResponse, none, none, none, false, some changes, none, none, none, none, warnings⟩

/-- The body of the write (tools.rs:9685-9713); `none` is the failed `expect("validated logging change")`. -/
def policyWrite (changes : FirewallPolicyChanges) (raw : SortedMap Text Text) (record : SortedMap Text Json) :
    Option (Method × PolicyBody) :=
  let enabledChanges := changes.enabled.any fun wanted => flag record "enabled".toList != some wanted
  if enabledChanges then
    some (.put, .record (raw.extendWith Json.write (requestedFlags changes)))
  else changes.loggingEnabled.map fun wanted => (.patch, .logging wanted)

/-- The readback and its verdict (tools.rs:9717-9809). -/
def policyReadback (client : IntegrationClient) (input : FirewallPoliciesUpdateInput) (site : Text)
    (raw : SortedMap Text Text) (written : FirewallPoliciesUpdateOutput)
    (after : Readback ApiError (SortedMap Text Text × Bytes)) : FirewallPoliciesUpdateOutput :=
  match after with
  | .skipped => { written with readbackError := some "policy readback skipped near request deadline".toList }
  | .timedOut => { written with readbackError := some "policy readback timed out".toList }
  | .answered answer =>
    match policySnapshot client site input.policy answer with
    | .error error => { written with readbackError := some error.display }
    | .ok (afterRaw, afterBytes) =>
      let afterResponse := fromControllerBytes client.base64 afterBytes
      let afterRecord := parsedRecord client.fromStr afterRaw
      if (afterRecord.find? "id".toList).bind Json.asStr ≠ some input.policy then
        { written with
          afterResponse := some afterResponse
          readbackError := some (ApiError.decodeResponse afterResponse
            (boundedMessage "controller policy readback returned a different id".toList)).display }
      else
        let verdict := judge (requestedFlags input.changes) POLICY_WIRE_NAMES
          (policyProjection (parsedRecord client.fromStr raw)) (policyProjection afterRecord)
          (fromRawRecord raw) (fromRawRecord afterRaw)
        { written with
          policy := boundedPolicyView (policyViewFromRecord input.policy afterRecord)
          afterResponse := some afterResponse
          fields := some verdict.fields
          unexpectedChanges := some verdict.unexpectedChanges
          verified := some verdict.verified }

/-- The part behind the checks (tools.rs:9684-9809): one write, and the readback when it is accepted. -/
def policySubmit (client : IntegrationClient) (input : FirewallPoliciesUpdateInput) (answers : PolicyAnswers)
    (site : Text) (raw : SortedMap Text Text) (beforeResponse : Text) (warnings : List Text) : PolicyRun :=
  let record := parsedRecord client.fromStr raw
  match policyWrite input.changes raw record with
  | none => ⟨[], .panicked⟩
  | some (method, body) =>
    match policyEndpoint client site input.policy with
    | .error error => .unsent (.error (apiError error))
    | .ok url =>
      ⟨[⟨method, url, body⟩], .returned (match answers.write with
        | .error error => .error (apiError error)
        | .ok (status, response) =>
          let written : FirewallPoliciesUpdateOutput :=
            ⟨boundedPolicyView (policyViewFromRecord input.policy record), some beforeResponse, some status,
              some (fromControllerBytes client.base64 response), none, true, none, none, none, none, none, warnings⟩
          .ok (policyReadback client input site raw written answers.after))⟩

/-- `firewall_policies_update` (tools.rs:9588), on a parsed request. -/
def firewallPoliciesUpdate (client : IntegrationClient) (input : FirewallPoliciesUpdateInput)
    (answers : PolicyAnswers) : PolicyRun :=
  let requested := requestedFlags input.changes
  if requested.entries.isEmpty then .unsent (.error (.invalidParams "changes names no field to change".toList))
  else match answers.zoneApi with
    | .error error => .unsent (.error error)
    | .ok () =>
      match answers.siteId with
      | .error error => .unsent (.error error)
      | .ok site =>
        match policySnapshot client site input.policy answers.before with
        | .error error => .unsent (.error (apiError error))
        | .ok (raw, bytes) =>
          let record := parsedRecord client.fromStr raw
          let beforeResponse := fromControllerBytes client.base64 bytes
          if (record.find? "id".toList).bind Json.asStr ≠ some input.policy then
            .unsent (.error (apiError (.decodeResponse beforeResponse
              (boundedMessage "controller returned a different firewall policy".toList))))
          else
            let view := boundedPolicyView (policyViewFromRecord input.policy record)
            let warnings := input.changes.enabled.elim [] fun wanted => firewallPolicyWarnings wanted record
            if input.confirm ≠ some true then
              .unsent (.ok (policyPreview view beforeResponse (plan requested (policyProjection record)) warnings))
            else if requested.entries.all fun entry => record.find? entry.1 = some entry.2 then
              .unsent (.ok (policyPreview view beforeResponse []
                ["the policy already holds that value, so nothing was sent".toList]))
            else policySubmit client input answers site raw beforeResponse warnings

/-! ## Lemmas -/

section
variable {changes : FirewallPolicyChanges} {raw : SortedMap Text Text}

theorem flag_eq_some {record : SortedMap Text Json} {field : Text} {b : Bool} :
    flag record field = some b ↔ record.find? field = some (.bool b) := by
  rw [flag, Option.bind_eq_some_iff]
  simp [asBool_eq_some]

theorem find?_requestedFlags (field : Text) : (requestedFlags changes).find? field =
    if field = "enabled".toList then changes.enabled.map .bool
    else if field = "loggingEnabled".toList then changes.loggingEnabled.map .bool else none := by
  have hnodup : ["enabled".toList, "loggingEnabled".toList].Nodup := by decide
  apply Option.ext
  intro value
  rw [requestedFlags, SortedMap.find?_ofOptions (by exact hnodup)]
  revert hnodup
  generalize "enabled".toList = e
  generalize "loggingEnabled".toList = l
  intro hnodup
  rw [List.mem_cons, List.mem_singleton, Prod.mk.injEq, Prod.mk.injEq]
  by_cases he : field = e
  · have hne : field ≠ l := fun hl => by simp [← he, ← hl] at hnodup
    rw [if_pos he]
    exact ⟨fun h => (h.resolve_right fun h => hne h.1).2.symm, fun h => Or.inl ⟨he, h.symm⟩⟩
  · rw [if_neg he]
    by_cases hl : field = l
    · rw [if_pos hl]
      exact ⟨fun h => (h.resolve_left fun h => he h.1).2.symm, fun h => Or.inr ⟨hl, h.symm⟩⟩
    · rw [if_neg hl]
      exact ⟨fun h => (h.elim (fun h => he h.1) fun h => hl h.1).elim, fun h => by cases h⟩

theorem find?_requestedFlags_enabled :
    (requestedFlags changes).find? "enabled".toList = changes.enabled.map .bool := by
  rw [find?_requestedFlags, if_pos rfl]

theorem find?_requestedFlags_loggingEnabled :
    (requestedFlags changes).find? "loggingEnabled".toList = changes.loggingEnabled.map .bool := by
  rw [find?_requestedFlags, if_neg (by decide), if_pos rfl]

theorem requestedFlags_nonempty (h : changes.enabled ≠ none ∨ changes.loggingEnabled ≠ none) :
    (requestedFlags changes).entries.isEmpty = false := by
  rw [Bool.eq_false_iff]
  intro hempty
  have hnone : ∀ field, (requestedFlags changes).find? field = none := fun field => by
    rw [SortedMap.find?_eq_none]
    simp [List.isEmpty_iff.1 hempty]
  have henabled := hnone "enabled".toList
  have hlogging := hnone "loggingEnabled".toList
  rw [find?_requestedFlags_enabled, Option.map_eq_none_iff] at henabled
  rw [find?_requestedFlags_loggingEnabled, Option.map_eq_none_iff] at hlogging
  exact h.elim (fun h => h henabled) fun h => h hlogging

/-! ## The frame -/

/-- The flag is requested and the record's parsed property is not that boolean. -/
def FlagDiffers (record : SortedMap Text Json) (field : Text) (requested : Option Bool) : Prop :=
  ∃ wanted, requested = some wanted ∧ record.find? field ≠ some (.bool wanted)

/-- Some requested flag differs from the record. -/
def Differs (record : SortedMap Text Json) (changes : FirewallPolicyChanges) : Prop :=
  FlagDiffers record "enabled".toList changes.enabled ∨ FlagDiffers record "loggingEnabled".toList changes.loggingEnabled

/-- The record that was read, with the requested flags and no other change. -/
structure Resent (changes : FirewallPolicyChanges) (raw sent : SortedMap Text Text) : Prop where
  enabled : ∀ wanted, changes.enabled = some wanted → sent.find? "enabled".toList = some (Json.bool wanted).write
  loggingEnabled : ∀ wanted, changes.loggingEnabled = some wanted →
    sent.find? "loggingEnabled".toList = some (Json.bool wanted).write
  others : ∀ property, (property = "enabled".toList → changes.enabled = none) →
    (property = "loggingEnabled".toList → changes.loggingEnabled = none) → sent.find? property = raw.find? property

theorem resent_extendWith : Resent changes raw (raw.extendWith Json.write (requestedFlags changes)) where
  enabled wanted h := by
    rw [SortedMap.find?_extendWith, find?_requestedFlags_enabled, h]
    rfl
  loggingEnabled wanted h := by
    rw [SortedMap.find?_extendWith, find?_requestedFlags_loggingEnabled, h]
    rfl
  others property henabled hlogging := by
    have hnone : (requestedFlags changes).find? property = none := by
      rw [find?_requestedFlags]
      split_ifs with he hl
      · rw [henabled he, Option.map_none]
      · rw [hlogging hl, Option.map_none]
      · rfl
    rw [SortedMap.find?_extendWith, hnone]
    rfl

/-- The test before a write (tools.rs:9661) is that no requested flag differs. -/
theorem holds_iff_not_differs {record : SortedMap Text Json} :
    ((requestedFlags changes).entries.all fun entry => record.find? entry.1 = some entry.2) = true ↔
      ¬Differs record changes := by
  simp only [List.all_eq_true, decide_eq_true_eq]
  constructor
  · rintro hall (⟨wanted, hwanted, hne⟩ | ⟨wanted, hwanted, hne⟩)
    · have hfind : (requestedFlags changes).find? "enabled".toList = some (.bool wanted) := by
        rw [find?_requestedFlags_enabled, hwanted]
        rfl
      exact hne (hall _ (SortedMap.find?_eq_some.1 hfind))
    · have hfind : (requestedFlags changes).find? "loggingEnabled".toList = some (.bool wanted) := by
        rw [find?_requestedFlags_loggingEnabled, hwanted]
        rfl
      exact hne (hall _ (SortedMap.find?_eq_some.1 hfind))
  · rintro hsame ⟨field, value⟩ hmem
    have hfind := SortedMap.find?_eq_some.2 hmem
    rw [find?_requestedFlags] at hfind
    by_contra hne
    split_ifs at hfind with he hl
    · obtain ⟨wanted, hwanted, rfl⟩ := Option.map_eq_some_iff.1 hfind
      exact hsame (Or.inl ⟨wanted, hwanted, he ▸ hne⟩)
    · obtain ⟨wanted, hwanted, rfl⟩ := Option.map_eq_some_iff.1 hfind
      exact hsame (Or.inr ⟨wanted, hwanted, hl ▸ hne⟩)

theorem policyWrite_of_enabled {record : SortedMap Text Json}
    (h : FlagDiffers record "enabled".toList changes.enabled) :
    policyWrite changes raw record = some (.put, .record (raw.extendWith Json.write (requestedFlags changes))) := by
  obtain ⟨wanted, hwanted, hne⟩ := h
  rw [policyWrite, if_pos]
  rw [hwanted, Option.any_some, bne_iff_ne]
  exact fun hflag => hne (flag_eq_some.1 hflag)

/-- When `enabled` holds, some requested flag differs only if `loggingEnabled` was requested. -/
theorem policyWrite_of_logging {record : SortedMap Text Json} {wanted : Bool}
    (h : ¬FlagDiffers record "enabled".toList changes.enabled) (hlogging : changes.loggingEnabled = some wanted) :
    policyWrite changes raw record = some (.patch, .logging wanted) := by
  rw [policyWrite, if_neg, hlogging]
  · rfl
  · intro hchanges
    obtain ⟨w, hw, hbne⟩ := (Option.any_eq_true ..).1 hchanges
    exact h ⟨w, hw, fun hrecord => bne_iff_ne.1 hbne (flag_eq_some.2 hrecord)⟩

end

section
variable {client : IntegrationClient} {input : FirewallPoliciesUpdateInput} {answers : PolicyAnswers}
  {site : Text} {raw : SortedMap Text Text} {bytes : Bytes}

theorem policySnapshot_endpoint {policy : Text} {answer : Except ApiError (SortedMap Text Text × Bytes)}
    {snapshot : SortedMap Text Text × Bytes} (h : policySnapshot client site policy answer = .ok snapshot) :
    (∃ url, policyEndpoint client site policy = .ok url) ∧ answer = .ok snapshot := by
  unfold policySnapshot at h
  split at h
  · cases h
  · rename_i url hurl
    exact ⟨⟨url, hurl⟩, h⟩

/-- A call whose checks pass is a preview, a request that holds already, or a submission. -/
theorem firewallPoliciesUpdate_cases
    (hrequest : input.changes.enabled ≠ none ∨ input.changes.loggingEnabled ≠ none)
    (hzone : answers.zoneApi = .ok ()) (hsite : answers.siteId = .ok site)
    (hread : policySnapshot client site input.policy answers.before = .ok (raw, bytes))
    (hid : ((parsedRecord client.fromStr raw).find? "id".toList).bind Json.asStr = some input.policy) :
    (∃ output, firewallPoliciesUpdate client input answers = .unsent (.ok output) ∧
      ¬(input.confirm = some true ∧ Differs (parsedRecord client.fromStr raw) input.changes)) ∨
    (∃ response warnings, firewallPoliciesUpdate client input answers =
        policySubmit client input answers site raw response warnings ∧
      input.confirm = some true ∧ Differs (parsedRecord client.fromStr raw) input.changes) := by
  unfold firewallPoliciesUpdate
  simp only [requestedFlags_nonempty hrequest, hzone, hsite, hread, hid, ne_eq, not_true_eq_false, if_false,
    Bool.false_eq_true]
  by_cases hconfirm : input.confirm = some true
  · rw [if_neg (not_not.2 hconfirm)]
    by_cases hholds : ((requestedFlags input.changes).entries.all fun entry =>
        (parsedRecord client.fromStr raw).find? entry.1 = some entry.2) = true
    · rw [if_pos hholds]
      exact Or.inl ⟨_, rfl, fun h => holds_iff_not_differs.1 hholds h.2⟩
    · rw [if_neg hholds]
      exact Or.inr ⟨_, _, rfl, hconfirm, not_not.1 fun h => hholds (holds_iff_not_differs.2 h)⟩
  · rw [if_pos hconfirm]
    exact Or.inl ⟨_, rfl, fun h => hconfirm h.1⟩

theorem policySubmit_of_write {response : Text} {warnings : List Text} {url : Url} {method : Method} {body : PolicyBody}
    (hurl : policyEndpoint client site input.policy = .ok url)
    (hwrite : policyWrite input.changes raw (parsedRecord client.fromStr raw) = some (method, body)) :
    (policySubmit client input answers site raw response warnings).writes = [⟨method, url, body⟩] ∧
      (policySubmit client input answers site raw response warnings).outcome ≠ .panicked := by
  unfold policySubmit
  simp only [hwrite, hurl]
  exact ⟨trivial, fun h => by cases h⟩

/-- **Which write is sent, and exactly what it carries.** -/
theorem policy_update_frame (client : IntegrationClient) (input : FirewallPoliciesUpdateInput)
    (answers : PolicyAnswers) (site : Text) (raw : SortedMap Text Text) (bytes : Bytes)
    (hrequest : input.changes.enabled ≠ none ∨ input.changes.loggingEnabled ≠ none)
    (hzone : answers.zoneApi = .ok ()) (hsite : answers.siteId = .ok site)
    (hread : policySnapshot client site input.policy answers.before = .ok (raw, bytes))
    (hid : ((parsedRecord client.fromStr raw).find? "id".toList).bind Json.asStr = some input.policy) :
    (firewallPoliciesUpdate client input answers).outcome ≠ .panicked ∧
    (¬(input.confirm = some true ∧ Differs (parsedRecord client.fromStr raw) input.changes) →
      (firewallPoliciesUpdate client input answers).writes = []) ∧
    (input.confirm = some true → Differs (parsedRecord client.fromStr raw) input.changes →
      ∃ url, policyEndpoint client site input.policy = .ok url ∧
        (FlagDiffers (parsedRecord client.fromStr raw) "enabled".toList input.changes.enabled →
          ∃ sent, (firewallPoliciesUpdate client input answers).writes = [⟨.put, url, .record sent⟩] ∧
            Resent input.changes raw sent) ∧
        (¬FlagDiffers (parsedRecord client.fromStr raw) "enabled".toList input.changes.enabled →
          ∃ wanted, input.changes.loggingEnabled = some wanted ∧
            (firewallPoliciesUpdate client input answers).writes = [⟨.patch, url, .logging wanted⟩])) := by
  obtain ⟨⟨url, hurl⟩, -⟩ := policySnapshot_endpoint hread
  rcases firewallPoliciesUpdate_cases hrequest hzone hsite hread hid with
    ⟨output, hrun, hquiet⟩ | ⟨response, warnings, hrun, hconfirm, hdiffers⟩
  · rw [hrun]
    exact ⟨fun h => (by cases h), fun _ => rfl, fun hconfirm hdiffers => absurd ⟨hconfirm, hdiffers⟩ hquiet⟩
  · rw [hrun]
    refine ⟨?_, fun hquiet => absurd ⟨hconfirm, hdiffers⟩ hquiet, fun _ _ => ⟨url, hurl, ?_, ?_⟩⟩
    · by_cases henabled : FlagDiffers (parsedRecord client.fromStr raw) "enabled".toList input.changes.enabled
      · exact (policySubmit_of_write hurl (policyWrite_of_enabled henabled)).2
      · obtain ⟨wanted, hwanted, -⟩ := hdiffers.resolve_left henabled
        exact (policySubmit_of_write hurl (policyWrite_of_logging henabled hwanted)).2
    · intro henabled
      exact ⟨_, (policySubmit_of_write hurl (policyWrite_of_enabled henabled)).1, resent_extendWith⟩
    · intro henabled
      obtain ⟨wanted, hwanted, -⟩ := hdiffers.resolve_left henabled
      exact ⟨wanted, hwanted, (policySubmit_of_write hurl (policyWrite_of_logging henabled hwanted)).1⟩

end

/-! ## The verdict -/

section
variable {client : IntegrationClient} {input : FirewallPoliciesUpdateInput} {answers : PolicyAnswers}
  {changes : FirewallPolicyChanges} {raw : SortedMap Text Text}

/-- A controller that does exactly what the body says. -/
def PolicyBody.apply (raw : SortedMap Text Text) : PolicyBody → SortedMap Text Text
  | .record sent => sent
  | .logging loggingEnabled => raw.insert "loggingEnabled".toList (Json.bool loggingEnabled).write

def FirewallPoliciesUpdateOutput.report (output : FirewallPoliciesUpdateOutput) : Report :=
  ⟨output.unexpectedChanges, output.verified, output.readbackError⟩

/-- The projection of a record with the addressed id. -/
def policyShown (client : IntegrationClient) (policy : Text) (raw : SortedMap Text Text) : Option Json :=
  let record := parsedRecord client.fromStr raw
  if (record.find? "id".toList).bind Json.asStr = some policy then some (policyProjection record) else none

/-- Both flags under their one name. -/
def policyRows (changes : FirewallPolicyChanges) : List FieldRow :=
  [⟨"enabled".toList, "enabled".toList, changes.enabled.map .bool⟩,
    ⟨"loggingEnabled".toList, "loggingEnabled".toList, changes.loggingEnabled.map .bool⟩]

theorem policy_columns : Columns (policyRows changes) (requestedFlags changes) (requestedFlags changes) POLICY_WIRE_NAMES where
  requested := rfl
  body := rfl
  wireNames := rfl
  fields_nodup := by unfold policyRows; exact (by decide : ["enabled".toList, "loggingEnabled".toList].Nodup)
  wires_nodup := by unfold policyRows; exact (by decide : ["enabled".toList, "loggingEnabled".toList].Nodup)

/-- A requested row is one flag with its boolean. -/
theorem policyRows_mem {field property : Text} {wanted : Json} (h : ⟨field, property, some wanted⟩ ∈ policyRows changes) :
    property = field ∧ ∃ b, wanted = .bool b ∧
      (field = "enabled".toList ∧ changes.enabled = some b ∨ field = "loggingEnabled".toList ∧ changes.loggingEnabled = some b) := by
  unfold policyRows at h
  rw [List.mem_cons, List.mem_singleton] at h
  rcases h with h | h
  all_goals
    injection h with hfield hwire hvalue
    obtain ⟨b, hb, rfl⟩ := Option.map_eq_some_iff.1 hvalue.symm
  · exact ⟨hwire.trans hfield.symm, b, rfl, Or.inl ⟨hfield, hb⟩⟩
  · exact ⟨hwire.trans hfield.symm, b, rfl, Or.inr ⟨hfield, hb⟩⟩

theorem policyProjection_get {record : SortedMap Text Json} {field : Text}
    (h : field = "enabled".toList ∨ field = "loggingEnabled".toList) :
    (policyProjection record).get field = some (optionalBool (flag record field)) := by
  rcases h with rfl | rfl <;> rfl

/-- A projected flag is that boolean exactly when the record's parsed property is. -/
theorem policyProjection_eq {record : SortedMap Text Json} {field : Text} {b : Bool}
    (h : field = "enabled".toList ∨ field = "loggingEnabled".toList) :
    ((policyProjection record).get field).getD .null = .bool b ↔ record.find? field = some (.bool b) := by
  rw [policyProjection_get h, Option.getD_some, ← flag_eq_some]
  cases flag record field <;> simp [optionalBool]

theorem find?_parsedRecord (fromStr : Text → Option Json) (property : Text) :
    (parsedRecord fromStr raw).find? property = (raw.find? property).bind fromStr :=
  SortedMap.find?_filterMap ..

/-- What a call that sent a write went through. -/
theorem policy_write_inv {write : PolicyRequest} {status : Nat} {response : Bytes}
    (h : write ∈ (firewallPoliciesUpdate client input answers).writes) (hwrite : answers.write = .ok (status, response)) :
    ∃ site raw bytes written, answers.before = .ok (raw, bytes) ∧
      policyEndpoint client site input.policy = .ok write.url ∧
      ((parsedRecord client.fromStr raw).find? "id".toList).bind Json.asStr = some input.policy ∧
      policyWrite input.changes raw (parsedRecord client.fromStr raw) = some (write.method, write.body) ∧
      FirewallPoliciesUpdateOutput.report written = ⟨none, none, none⟩ ∧
      (firewallPoliciesUpdate client input answers).outcome =
        .returned (.ok (policyReadback client input site raw written answers.after)) := by
  generalize hrun : firewallPoliciesUpdate client input answers = run at h ⊢
  unfold firewallPoliciesUpdate at hrun
  dsimp only at hrun
  split at hrun
  · rw [← hrun] at h; cases h
  split at hrun
  · rw [← hrun] at h; cases h
  split at hrun
  · rw [← hrun] at h; cases h
  rename_i site _
  split at hrun
  · rw [← hrun] at h; cases h
  rename_i raw bytes hread
  obtain ⟨-, hbefore⟩ := policySnapshot_endpoint hread
  split at hrun
  · rw [← hrun] at h; cases h
  rename_i hid
  split at hrun
  · rw [← hrun] at h; cases h
  split at hrun
  · rw [← hrun] at h; cases h
  unfold policySubmit at hrun
  dsimp only at hrun
  split at hrun
  · rw [← hrun] at h; cases h
  rename_i method body hbody
  split at hrun
  · rw [← hrun] at h; cases h
  rename_i url hurl
  rw [← hrun] at h ⊢
  cases List.mem_singleton.1 h
  rw [hwrite]
  refine ⟨site, raw, bytes, _, hbefore, hurl, not_not.1 hid, hbody, ?_, rfl⟩
  rfl

theorem policyWrite_cases {record : SortedMap Text Json} {method : Method} {body : PolicyBody}
    (h : policyWrite changes raw record = some (method, body)) :
    body = .record (raw.extendWith Json.write (requestedFlags changes)) ∨
    ∃ wanted, changes.loggingEnabled = some wanted ∧ body = .logging wanted ∧
      ∀ b, changes.enabled = some b → flag record "enabled".toList = some b := by
  unfold policyWrite at h
  dsimp only at h
  split at h
  · cases h
    exact Or.inl rfl
  · rename_i hsame
    obtain ⟨wanted, hwanted, heq⟩ := Option.map_eq_some_iff.1 h
    cases heq
    refine Or.inr ⟨wanted, hwanted, rfl, fun b hb => ?_⟩
    rw [hb, Option.any_some, bne_iff_ne, not_not] at hsame
    exact hsame

/-- The body sent, applied exactly, shows every requested flag and moves nothing else. -/
theorem policy_applied (hliteral : ∀ b, client.fromStr (Json.bool b).write = some (.bool b))
    {method : Method} {body : PolicyBody}
    (hid : ((parsedRecord client.fromStr raw).find? "id".toList).bind Json.asStr = some input.policy)
    (hbody : policyWrite input.changes raw (parsedRecord client.fromStr raw) = some (method, body)) :
    ∃ shown, policyShown client input.policy (body.apply raw) = some shown ∧ Holds (requestedFlags input.changes) shown ∧
      ∀ property, (requestedFlags input.changes).find? property = none →
        raw.find? property = (body.apply raw).find? property := by
  have hothers : ∀ property, (requestedFlags input.changes).find? property = none →
      raw.find? property = (body.apply raw).find? property := by
    intro property hnone
    rcases policyWrite_cases hbody with rfl | ⟨wanted, hlogging, rfl, -⟩
    · rw [PolicyBody.apply, SortedMap.find?_extendWith, hnone]
      rfl
    · rw [PolicyBody.apply, SortedMap.find?_insert, if_neg]
      rintro rfl
      rw [find?_requestedFlags_loggingEnabled, hlogging] at hnone
      cases hnone
  have hflags : ∀ field b, (requestedFlags input.changes).find? field = some (.bool b) →
      (parsedRecord client.fromStr (body.apply raw)).find? field = some (.bool b) := by
    intro field b hrequested
    rcases policyWrite_cases hbody with rfl | ⟨wanted, hlogging, rfl, henabled⟩
    · rw [find?_parsedRecord, PolicyBody.apply, SortedMap.find?_extendWith, hrequested]
      exact hliteral b
    · rw [find?_parsedRecord, PolicyBody.apply, SortedMap.find?_insert]
      split
      · rename_i hfield
        rw [hfield, find?_requestedFlags_loggingEnabled, hlogging] at hrequested
        cases hrequested
        exact hliteral _
      · -- the other flag was not sent because it holds
        rename_i hfield
        rw [find?_requestedFlags, if_neg hfield] at hrequested
        split at hrequested
        · rename_i hfield'
          obtain ⟨_, hb, heq⟩ := Option.map_eq_some_iff.1 hrequested
          cases heq
          rw [hfield', ← find?_parsedRecord]
          exact flag_eq_some.1 (henabled b hb)
        · cases hrequested
  have hkept : (parsedRecord client.fromStr (body.apply raw)).find? "id".toList =
      (parsedRecord client.fromStr raw).find? "id".toList := by
    have hnone : (requestedFlags input.changes).find? "id".toList = none := by
      rw [find?_requestedFlags, if_neg (by decide), if_neg (by decide)]
    rw [find?_parsedRecord, find?_parsedRecord, hothers _ hnone]
  refine ⟨policyProjection (parsedRecord client.fromStr (body.apply raw)), ?_, ?_, hothers⟩
  · rw [policyShown, hkept, if_pos hid]
  · intro field wanted hwanted
    obtain ⟨property, hrow⟩ := policy_columns.find?_requested.1 hwanted
    obtain ⟨-, b, rfl, hfield⟩ := policyRows_mem hrow
    exact (policyProjection_eq (hfield.imp And.left And.left)).2 (hflags field b hwanted)

/-- A readback that is answered is refused, or judged. -/
theorem policyReadback_report {site : Text} {written : FirewallPoliciesUpdateOutput} {after : SortedMap Text Text}
    {bytes : Bytes} {url : Url} (hurl : policyEndpoint client site input.policy = .ok url)
    (hwritten : written.report = ⟨none, none, none⟩) :
    (policyShown client input.policy after = none ∧
      ∃ error, (policyReadback client input site raw written (.answered (.ok (after, bytes)))).report =
        ⟨none, none, some error⟩) ∨
    (∃ shown, policyShown client input.policy after = some shown ∧
      (policyReadback client input site raw written (.answered (.ok (after, bytes)))).report =
        ⟨some (judge (requestedFlags input.changes) POLICY_WIRE_NAMES (policyProjection (parsedRecord client.fromStr raw))
            shown (fromRawRecord raw) (fromRawRecord after)).unexpectedChanges,
          some (judge (requestedFlags input.changes) POLICY_WIRE_NAMES (policyProjection (parsedRecord client.fromStr raw))
            shown (fromRawRecord raw) (fromRawRecord after)).verified, none⟩) := by
  obtain ⟨_, _, _, _, _, _, _, _, unexpectedChanges, verified, readbackError, _⟩ := written
  cases hwritten
  have hread : policySnapshot client site input.policy (.ok (after, bytes)) = .ok (after, bytes) := by
    rw [policySnapshot, hurl]
  unfold policyReadback policyShown
  simp only [hread]
  by_cases hid : ((parsedRecord client.fromStr after).find? "id".toList).bind Json.asStr = some input.policy
  · rw [if_pos hid, if_neg (not_not.2 hid)]
    exact Or.inr ⟨_, rfl, rfl⟩
  · rw [if_neg hid, if_pos hid]
    exact Or.inl ⟨rfl, _, rfl⟩

/-- **A readback behind an accepted policy write is judged.** -/
theorem policy_judged (hliteral : ∀ b, client.fromStr (Json.bool b).write = some (.bool b))
    {write : PolicyRequest} {status : Nat} {response bytes afterBytes : Bytes} {after : SortedMap Text Text}
    (hsent : write ∈ (firewallPoliciesUpdate client input answers).writes) (hbefore : answers.before = .ok (raw, bytes))
    (hwrite : answers.write = .ok (status, response)) (hafter : answers.after = .answered (.ok (after, afterBytes))) :
    ∃ output, (firewallPoliciesUpdate client input answers).outcome = .returned (.ok output) ∧
      Judged (requestedFlags input.changes) (requestedFlags input.changes) client.fromStr raw after (write.body.apply raw)
        (policyShown client input.policy after) output.report := by
  obtain ⟨site, raw', bytes', written, hbefore', hurl, hid, hbody, hwritten, houtcome⟩ := policy_write_inv hsent hwrite
  cases hbefore.symm.trans hbefore'
  refine ⟨_, houtcome, ?_⟩
  rw [hafter]
  have hreport := @policyReadback_report client input raw site written after afterBytes _ hurl hwritten
  refine judged_of_columns policy_columns (policyProjection (parsedRecord client.fromStr raw)) (fromRawRecord raw)
    (fromRawRecord after) (fun property => ?_) (fun hnone => ?_) (fun shown hshown => ?_)
    (fun shown hshown field property wanted hrow hholds => ?_) (fun heq => ?_)
  · rw [find?_fromRawRecord, find?_fromRawRecord]
    exact (Option.map_injective fun a b h => by cases h; rfl).eq_iff
  · rcases hreport with ⟨-, error, heq⟩ | ⟨shown, hshown, -⟩
    · rw [heq]
      exact ⟨rfl, by simp⟩
    · cases hnone.symm.trans hshown
  · rcases hreport with ⟨hnone, -⟩ | ⟨shown', hshown', heq⟩
    · cases hnone.symm.trans hshown
    · cases hshown.symm.trans hshown'
      rw [heq]
      exact ⟨rfl, rfl⟩
  · obtain ⟨rfl, b, rfl, hfield⟩ := policyRows_mem hrow
    have hprojection : shown = policyProjection (parsedRecord client.fromStr after) := by
      unfold policyShown at hshown
      dsimp only at hshown
      split at hshown
      · exact (Option.some.inj hshown).symm
      · cases hshown
    rw [hprojection, policyProjection_eq (hfield.imp And.left And.left), find?_parsedRecord] at hholds
    exact hholds
  · rw [heq]
    exact policy_applied hliteral hid hbody

end

/-! ## A policy -/

/-- Parses the literals and the one string of the sample. -/
def sampleFromStr (text : Text) : Option Json :=
  if text = "true".toList then some (.bool true)
  else if text = "false".toList then some (.bool false)
  else if text = "\"p1\"".toList then some (.string "p1".toList)
  else none

def sampleIntegration : IntegrationClient := ⟨⟨false, [], []⟩, urlPush, fun _ => [], sampleFromStr⟩

/-- An evaluated policy, with one property that does not parse. -/
def samplePolicy : SortedMap Text Text :=
  ((SortedMap.empty.insert "enabled".toList "true".toList).insert "id".toList "\"p1\"".toList).insert
    "x".toList "\"\\ud800\"".toList

def sampleAnswers : PolicyAnswers :=
  ⟨.ok (), .ok "default".toList, .ok (samplePolicy, []), .ok (200, []), .skipped⟩

def disableInput : FirewallPoliciesUpdateInput := ⟨"p1".toList, ⟨some false, some true⟩, some true⟩

theorem policy_update_frame_disable : ∃ url sent,
    (firewallPoliciesUpdate sampleIntegration disableInput sampleAnswers).writes = [⟨.put, url, .record sent⟩] ∧
      Resent disableInput.changes samplePolicy sent := by
  have henabled : FlagDiffers (parsedRecord sampleFromStr samplePolicy) "enabled".toList disableInput.changes.enabled :=
    ⟨false, rfl, by decide +kernel⟩
  obtain ⟨url, -, hput, -⟩ := (policy_update_frame sampleIntegration disableInput sampleAnswers "default".toList
    samplePolicy [] (Or.inl (by decide)) rfl rfl (by rfl) (by decide +kernel)).2.2 rfl (Or.inl henabled)
  obtain ⟨sent, hsent⟩ := hput henabled
  exact ⟨url, sent, hsent⟩

end UnifiMcp

import UnifiMcp.Mcp.FirewallPolicyRequest
import UnifiMcp.Mcp.LegacyWrite
import UnifiMcp.Mcp.Mutation
import UnifiMcp.Mcp.Paging
import UnifiMcp.Mcp.SiteIdentity
/-! # Writing network policies (unifi-mcp/src/tools.rs:8292-8666)

Policies, zones and lists are created, replaced or deleted one at a time; the two priority orders are replaced whole.
Without `confirm` a call shows what it would send. With it the request goes out once, and what the controller answered
is reported with a readback: skipped near the deadline, given up in time, or compared with what was asked for.

* `runs_writeOnce_iff` — the shape of every confirmed write.
* `policyWritePlan_writes` — a plan holds what its operation needs. -/
namespace UnifiMcp.Integration
open Text Dialogue Timed

/-- A tool call: its readbacks run under a deadline. -/
abbrev Tool (α : Type) := Dialogue (Timed Ask) (Timed.Answer Ask.Reply) α

/-- `Runtime::Network` and the time a request may take (handler.rs:43-55). -/
structure Runtime where
  integration : Client
  legacySite : Text
  requestTimeout : Nat

/-! ## One write and its readback -/

def READBACK_BUDGET : Nat := 5000

def RESPONSE_RESERVE : Nat := 500

/-- The time left for a readback (tools.rs:8341, 8443, 8570, 8627, 10106, 10183, 10262): each of these tools keeps the
same reserve and the same budget. -/
def readbackBudget (requestTimeout elapsed : Nat) : Nat :=
  min (requestTimeout - elapsed - RESPONSE_RESERVE) READBACK_BUDGET

/-- The readback behind an accepted write (tools.rs:8580). -/
def readBack {α : Type} (rt : Runtime) (readback : Talk (Except ApiError α)) : Tool (Readback ApiError α) :=
  (Dialogue.put (Timed.free Ask.elapsed) : Tool Nat).bind fun elapsed =>
    if readbackBudget rt.requestTimeout elapsed = 0 then .done .skipped
    else readback.timeout.map fun ended => match ended with
      | none => .timedOut
      | some answer => .answered answer

/-- `.map_err(api_error)`. -/
def mapError {α : Type} : Except ApiError α → Except McpError α
  | .ok value => .ok value
  | .error error => .error (apiError error)

/-- A confirmed write (tools.rs:8549): the site, the request, and what is made of the answer. -/
def writeOnce {α β : Type} (rt : Runtime) (write : Text → Talk (Except ApiError α)) (report : Text → α → Tool β) :
    Tool (Except McpError β) :=
  (siteId rt.integration rt.legacySite).untimed.tryBind fun site =>
    ((write site).untimed.map mapError).tryBind fun accepted => (report site accepted).map .ok

abbrev ToolLog := List (Exchange (Timed.Answer Ask.Reply))

section
variable {rt : Runtime} {log : ToolLog}

/-- A readback follows a look at the clock: it is skipped, given up, or answered. -/
theorem runs_readBack_iff {α : Type} {readback : Talk (Except ApiError α)} {ended : Readback ApiError α} :
    Runs (readBack rt readback) log ended ↔ ∃ elapsed rest, log = ⟨.free .elapsed, elapsed⟩ :: rest ∧
      ((readbackBudget rt.requestTimeout elapsed = 0 ∧ rest = [] ∧ ended = .skipped) ∨
        (readbackBudget rt.requestTimeout elapsed ≠ 0 ∧
          ((∃ plain answer, rest = plain.map intime ∧ Runs readback plain answer ∧ ended = .answered answer) ∨
            ∃ plain question next, rest = plain.map intime ++ [⟨.due question, none⟩] ∧
              Reaches readback plain (.ask question next) ∧ ended = .timedOut))) := by
  have hbehind : ∀ elapsed rest, Runs (if readbackBudget rt.requestTimeout elapsed = 0 then Dialogue.done .skipped
      else readback.timeout.map fun ended => match ended with
        | none => .timedOut
        | some answer => .answered answer : Tool (Readback ApiError α)) rest ended ↔
      (readbackBudget rt.requestTimeout elapsed = 0 ∧ rest = [] ∧ ended = .skipped) ∨
        (readbackBudget rt.requestTimeout elapsed ≠ 0 ∧
          ((∃ plain answer, rest = plain.map intime ∧ Runs readback plain answer ∧ ended = .answered answer) ∨
            ∃ plain question next, rest = plain.map intime ++ [⟨.due question, none⟩] ∧
              Reaches readback plain (.ask question next) ∧ ended = .timedOut)) := by
    intro elapsed rest
    generalize readbackBudget rt.requestTimeout elapsed = budget
    by_cases hbudget : budget = 0
    · simp [hbudget]
    · rw [if_neg hbudget, runs_map_iff]
      constructor
      · rintro ⟨inner, hinner, rfl⟩
        obtain ⟨plain, answer, rfl, hplain, rfl⟩ | ⟨plain, question, next, rfl, hplain, rfl⟩ := runs_timeout_iff.1 hinner
        · exact Or.inr ⟨hbudget, Or.inl ⟨plain, answer, rfl, hplain, rfl⟩⟩
        · exact Or.inr ⟨hbudget, Or.inr ⟨plain, question, next, rfl, hplain, rfl⟩⟩
      · rintro (⟨hzero, -⟩ | ⟨-, ⟨plain, answer, rfl, hplain, rfl⟩ | ⟨plain, question, next, rfl, hplain, rfl⟩⟩)
        · exact absurd hzero hbudget
        · exact ⟨some answer, runs_timeout_iff.2 (Or.inl ⟨plain, answer, rfl, hplain, rfl⟩), rfl⟩
        · exact ⟨none, runs_timeout_iff.2 (Or.inr ⟨plain, question, next, rfl, hplain, rfl⟩), rfl⟩
  rw [readBack, runs_bind_iff]
  constructor
  · rintro ⟨clock, rest, elapsed, rfl, hclock, hrest⟩
    obtain rfl := runs_put_iff.1 hclock
    exact ⟨elapsed, rest, rfl, (hbehind elapsed rest).1 hrest⟩
  · rintro ⟨elapsed, rest, rfl, hrest⟩
    exact ⟨[⟨.free .elapsed, elapsed⟩], rest, elapsed, rfl, runs_put_iff.2 rfl, (hbehind elapsed rest).2 hrest⟩

theorem runs_mapError_iff {α : Type} {d : Talk (Except ApiError α)} {r : Except McpError α} :
    Runs (d.untimed.map mapError) log r ↔ ∃ plain answer, log = plain.map freely ∧ Runs d plain answer ∧
      r = mapError answer := by
  simp only [runs_map_iff, runs_untimed_iff]
  constructor
  · rintro ⟨answer, ⟨plain, rfl, hplain⟩, rfl⟩
    exact ⟨plain, answer, rfl, hplain, rfl⟩
  · rintro ⟨plain, answer, rfl, hplain, rfl⟩
    exact ⟨answer, ⟨plain, rfl, hplain⟩, rfl⟩

/-- **The shape of a confirmed write**: the site, the request, the report; an error ends it. -/
theorem runs_writeOnce_iff {α β : Type} {write : Text → Talk (Except ApiError α)} {report : Text → α → Tool β}
    {r : Except McpError β} : Runs (writeOnce rt write report) log r ↔
    (∃ first error, log = first.map freely ∧ Runs (siteId rt.integration rt.legacySite) first (.error error) ∧
      r = .error error) ∨
    ∃ first site, Runs (siteId rt.integration rt.legacySite) first (.ok site) ∧
      ((∃ sending error, log = first.map freely ++ sending.map freely ∧ Runs (write site) sending (.error error) ∧
          r = .error (apiError error)) ∨
        ∃ sending accepted rest output, log = first.map freely ++ (sending.map freely ++ rest) ∧
          Runs (write site) sending (.ok accepted) ∧ Runs (report site accepted) rest output ∧ r = .ok output) := by
  rw [writeOnce, runs_tryBind_iff]
  constructor
  · rintro (⟨error, hsite, rfl⟩ | ⟨before, rest, site, rfl, hsite, hrest⟩)
    · obtain ⟨first, rfl, hfirst⟩ := runs_untimed_iff.1 hsite
      exact Or.inl ⟨first, error, rfl, hfirst, rfl⟩
    obtain ⟨first, rfl, hfirst⟩ := runs_untimed_iff.1 hsite
    refine Or.inr ⟨first, site, hfirst, ?_⟩
    obtain ⟨error, hwrite, rfl⟩ | ⟨middle, more, accepted, rfl, hwrite, hmore⟩ := runs_tryBind_iff.1 hrest
    · obtain ⟨sending, answer, rfl, hsending, hanswer⟩ := runs_mapError_iff.1 hwrite
      cases answer with
      | ok value => cases hanswer
      | error original =>
        cases hanswer
        exact Or.inl ⟨sending, original, rfl, hsending, rfl⟩
    · obtain ⟨sending, answer, rfl, hsending, hanswer⟩ := runs_mapError_iff.1 hwrite
      cases answer with
      | error original => cases hanswer
      | ok value =>
        cases hanswer
        obtain ⟨output, houtput, rfl⟩ := runs_map_iff.1 hmore
        exact Or.inr ⟨sending, accepted, more, output, rfl, hsending, houtput, rfl⟩
  · rintro (⟨first, error, rfl, hfirst, rfl⟩ | ⟨first, site, hfirst, ⟨sending, error, rfl, hsending, rfl⟩ |
      ⟨sending, accepted, rest, output, rfl, hsending, houtput, rfl⟩⟩)
    · exact Or.inl ⟨error, runs_untimed_iff.2 ⟨first, rfl, hfirst⟩, rfl⟩
    · refine Or.inr ⟨_, _, site, rfl, runs_untimed_iff.2 ⟨first, rfl, hfirst⟩, runs_tryBind_iff.2 (Or.inl ?_)⟩
      exact ⟨apiError error, runs_mapError_iff.2 ⟨sending, _, rfl, hsending, rfl⟩, rfl⟩
    · refine Or.inr ⟨_, _, site, rfl, runs_untimed_iff.2 ⟨first, rfl, hfirst⟩, runs_tryBind_iff.2 (Or.inr ?_)⟩
      exact ⟨_, rest, accepted, rfl, runs_mapError_iff.2 ⟨sending, _, rfl, hsending, rfl⟩,
        runs_map_iff.2 ⟨output, houtput, rfl⟩⟩

end

/-! ## Policies, zones and lists -/

/-- `NetworkPolicyKind::collection` (tools.rs:2675). -/
def collectionOf : NetworkPolicyKind → NetworkPolicyCollection
  | .aclRules => .aclRules
  | .firewallZones => .firewallZones
  | .firewallPolicies => .firewallPolicies
  | .dnsPolicies => .dnsPolicies
  | .trafficMatchingLists => .trafficMatchingLists

/-- The three shapes that `policy_write_plan` lets through, so that no `expect` behind it fails. -/
inductive PolicyChange where
  | create (body : Json)
  | update (id : Text) (body : Json)
  | delete (id : Text)

namespace PolicyChange

def operation : PolicyChange → LegacyWrite.NetworkPolicyWriteOperation
  | create _ => .create
  | update _ _ => .update
  | delete _ => .delete

def id : PolicyChange → Option Text
  | create _ => none
  | update id _ => some id
  | delete id => some id

def requested : PolicyChange → Option Json
  | create body => some body
  | update _ body => some body
  | delete _ => none

/-- The `consequence` of the preview (tools.rs:8516). -/
def consequence : PolicyChange → Text
  | create _ => "create another policy, zone, or list".toList
  | update _ _ => "replace the named policy, zone, or list".toList
  | delete _ => "delete the named policy, zone, or list and change rules that depend on it".toList

end PolicyChange

/-- `NetworkPolicyWritePlan` (tools.rs:3065). -/
structure NetworkPolicyWritePlan where
  kind : NetworkPolicyKind
  change : PolicyChange
  confirm : Bool

/-- The `valid_shape` match (tools.rs:3080). -/
def changeOf : LegacyWrite.NetworkPolicyWriteOperation → Option Text → Option Json → Option PolicyChange
  | .create, none, some body => some (.create body)
  | .update, some id, some body => some (.update id body)
  | .delete, some id, none => some (.delete id)
  | _, _, _ => none

/-- The ids that are refused (tools.rs:3091). -/
def refusedId (id : Text) : Bool := (trim id).isEmpty || 256 < byteLen id || id == ['.'] || id == ['.', '.']

/-- `policy_write_plan` (tools.rs:3073). -/
def policyWritePlan (kind : NetworkPolicyKind) (operation : LegacyWrite.NetworkPolicyWriteOperation) (id : Option Text)
    (requested : Option Json) (confirm : Bool) : Except McpError NetworkPolicyWritePlan :=
  match changeOf operation id requested with
  | none => .error (.invalidParams ("create requires a request body and no id; update requires both; delete requires ".toList ++
      "an id and no request body".toList))
  | some change =>
    if id.any refusedId then .error (.invalidParams "id must be a nonempty id of at most 256 bytes".toList)
    else if requested.any fun body => LegacyWrite.MAXIMUM_POLICY_REQUEST_BYTES < byteLen body.write then
      .error (.invalidParams "policy request exceeds the 1 MiB request bound".toList)
    else .ok ⟨kind, change, confirm⟩

/-- A plan holds exactly what was asked for, and what its operation needs. -/
theorem policyWritePlan_writes {kind : NetworkPolicyKind} {operation : LegacyWrite.NetworkPolicyWriteOperation}
    {id : Option Text} {requested : Option Json} {confirm : Bool} {plan : NetworkPolicyWritePlan}
    (h : policyWritePlan kind operation id requested confirm = .ok plan) :
    plan.kind = kind ∧ plan.confirm = confirm ∧ plan.change.operation = operation ∧ plan.change.id = id ∧
      plan.change.requested = requested ∧ ∀ i, id = some i → refusedId i = false := by
  unfold policyWritePlan at h
  cases hchange : changeOf operation id requested with
  | none =>
    rw [hchange] at h
    cases h
  | some change =>
    rw [hchange] at h
    simp only at h
    split_ifs at h with hid hbody
    cases h
    have hshape : change.operation = operation ∧ change.id = id ∧ change.requested = requested := by
      unfold changeOf at hchange
      split at hchange <;> cases hchange <;> exact ⟨rfl, rfl, rfl⟩
    refine ⟨rfl, rfl, hshape.1, hshape.2.1, hshape.2.2, ?_⟩
    rintro i rfl
    simpa using hid

/-- `NetworkPolicyWriteOutput` (tools.rs:3030), before large fields move to content blocks; `kind` as it is written. -/
structure NetworkPolicyWriteOutput where
  kind : Text
  operation : LegacyWrite.NetworkPolicyWriteOperation
  consequence : Text
  id : Option Text
  requested : Option Json
  submitted : Bool
  responseStatus : Option Nat
  responseBody : Option Text
  accepted : Option Json
  after : Option Json
  verified : Option Bool
  verifiedAbsent : Option Bool
  readbackError : Option Text

def kindName : NetworkPolicyKind → Text
  | .aclRules => "aclRules".toList
  | .firewallZones => "firewallZones".toList
  | .firewallPolicies => "firewallPolicies".toList
  | .dnsPolicies => "dnsPolicies".toList
  | .trafficMatchingLists => "trafficMatchingLists".toList

/-- What a call shows before anything is sent. -/
def NetworkPolicyWritePlan.preview (plan : NetworkPolicyWritePlan) : NetworkPolicyWriteOutput :=
  { kind := kindName plan.kind, operation := plan.change.operation, consequence := plan.change.consequence,
    id := plan.change.id, requested := plan.change.requested, submitted := false, responseStatus := none,
    responseBody := none, accepted := none, after := none, verified := none, verifiedAbsent := none,
    readbackError := none }

/-- `record.get("id").and_then(Value::as_str)`. -/
def recordId (record : Json) : Option Text := (record.get "id".toList).bind Json.asStr

/-- The comparison of a readback (tools.rs:8596-8607). -/
def policyVerified (kind : NetworkPolicyKind) (requested accepted after : Json) (id : Text) : Bool :=
  recordId after == some id && recordId accepted == some id &&
    if kind = .firewallPolicies then FirewallPolicy.policyMatches requested after else requestedJsonMatches requested after

/-- What the readback of a written record adds to the report (tools.rs:8591-8617). -/
def recordReport (kind : NetworkPolicyKind) (requested accepted : Json) (id : Text) (output : NetworkPolicyWriteOutput) :
    Readback ApiError Json → NetworkPolicyWriteOutput
  | .skipped => { output with readbackError := some "policy readback skipped near request deadline".toList }
  | .timedOut => { output with readbackError := some "policy readback timed out".toList }
  | .answered (.error error) => { output with readbackError := some error.display }
  | .answered (.ok after) =>
    { output with verified := some (policyVerified kind requested accepted after id), after := some after }

/-- What the readback of a deletion adds (tools.rs:8647-8661). -/
def absenceReport (output : NetworkPolicyWriteOutput) : Readback ApiError Json → NetworkPolicyWriteOutput
  | .skipped => { output with readbackError := some "policy readback skipped near request deadline".toList }
  | .timedOut => { output with readbackError := some "policy readback timed out".toList }
  | .answered (.ok after) => { output with after := some after, verifiedAbsent := some false }
  | .answered (.error error) =>
    let output := { output with readbackError := some error.display }
    match error with
    | .status 404 _ => { output with verifiedAbsent := some true }
    | _ => output

/-- The report of an accepted record (tools.rs:8558-8622). -/
def recordWritten (rt : Runtime) (plan : NetworkPolicyWritePlan) (requested : Json) (site : Text) :
    Json × Nat × Bytes → Tool NetworkPolicyWriteOutput
  | (accepted, status, _) =>
    let id := plan.change.id.or (recordId accepted)
    let output := { plan.preview with submitted := true, responseStatus := some status, accepted := some accepted, id }
    match id with
    | none => .done { output with readbackError := some "accepted policy record had no id for readback".toList }
    | some id => (readBack rt (rt.integration.networkPolicyDetail site (collectionOf plan.kind) id)).map
        (recordReport plan.kind requested accepted id output)

/-- The report of an accepted deletion (tools.rs:8626-8662). -/
def recordDeleted (rt : Runtime) (plan : NetworkPolicyWritePlan) (id site : Text) :
    Nat × Bytes → Tool NetworkPolicyWriteOutput
  | (status, body) =>
    let output := { plan.preview with
      submitted := true, responseStatus := some status,
      responseBody := some (fromControllerBytes rt.integration.codecs.base64 body) }
    (readBack rt (rt.integration.networkPolicyDetail site (collectionOf plan.kind) id)).map (absenceReport output)

/-- `network_policy_write` (tools.rs:8508). -/
def networkPolicyWrite (rt : Runtime) (plan : NetworkPolicyWritePlan) : Tool (Except McpError NetworkPolicyWriteOutput) :=
  if !plan.confirm then .done (.ok plan.preview)
  else match plan.change with
    | .create body =>
      writeOnce rt (fun site => rt.integration.networkPolicyCreate site (collectionOf plan.kind) body)
        (recordWritten rt plan body)
    | .update id body =>
      writeOnce rt (fun site => rt.integration.networkPolicyUpdate site (collectionOf plan.kind) id body)
        (recordWritten rt plan body)
    | .delete id =>
      writeOnce rt (fun site => rt.integration.networkPolicyDelete site (collectionOf plan.kind) id)
        (recordDeleted rt plan id)

/-! ## Priority orders -/

mutual

/-- `Value`'s `PartialEq`: objects are compared as maps. -/
def valueEq : Json → Json → Bool
  | .array as, other => match other with
    | .array bs => itemsEq as bs
    | _ => false
  | .object as, other => match other with
    | .object bs => as.length == bs.length && membersEq as other
    | _ => false
  | leaf, other => leaf == other

def itemsEq : List Json → List Json → Bool
  | [], others => others.isEmpty
  | a :: as, others => match others with
    | b :: bs => valueEq a b && itemsEq as bs
    | [] => false

def membersEq : List (Text × Json) → Json → Bool
  | [], _ => true
  | (name, a) :: as, other => (match other.get name with
    | some b => valueEq a b
    | none => false) && membersEq as other

end

/-- `Option<&Value> == Option<&Value>` on one member. -/
def sameMember (name : Text) (record requested : Json) : Bool :=
  match record.get name, requested.get name with
  | some found, some wanted => valueEq wanted found
  | none, none => true
  | _, _ => false

/-- What the two order tools differ in: the kind, the consequence, the compared member and the texts of a readback that
does not come. -/
structure OrderKind where
  kind : Text
  consequence : Text
  field : Text
  bound : Text
  skipped : Text
  timedOut : Text

/-- `acl_rules_ordering_configure`'s (tools.rs:8401). -/
def ACL_ORDER : OrderKind :=
  ⟨"aclRules".toList, "replace the priority order of the site's ACL rules".toList, "orderedAclRuleIds".toList,
    "ACL ordering request exceeds the 1 MiB request bound".toList, "ACL ordering readback skipped near request deadline".toList,
    "ACL ordering readback timed out".toList⟩

/-- `firewall_policies_ordering_configure`'s (tools.rs:8292). -/
def FIREWALL_ORDER : OrderKind :=
  ⟨"firewallPolicies".toList, "replace the priority order of the site's user-defined firewall policies".toList,
    "orderedFirewallPolicyIds".toList, "firewall policy ordering request exceeds the 1 MiB request bound".toList,
    "firewall policy ordering readback skipped near request deadline".toList,
    "firewall policy ordering readback timed out".toList⟩

def OrderKind.preview (kind : OrderKind) (requested : Json) : NetworkPolicyWriteOutput :=
  { kind := kind.kind, operation := .update, consequence := kind.consequence, id := none, requested := some requested,
    submitted := false, responseStatus := none, responseBody := none, accepted := none, after := none, verified := none,
    verifiedAbsent := none, readbackError := none }

/-- What the readback of an order adds (tools.rs:8459-8482). -/
def orderReport (kind : OrderKind) (requested accepted : Json) (output : NetworkPolicyWriteOutput) :
    Readback ApiError Json → NetworkPolicyWriteOutput
  | .skipped => { output with readbackError := some kind.skipped }
  | .timedOut => { output with readbackError := some kind.timedOut }
  | .answered (.error error) => { output with readbackError := some error.display }
  | .answered (.ok after) =>
    { output with
      verified := some (sameMember kind.field after requested && sameMember kind.field accepted requested)
      after := some after }

/-- Both order tools, over the route they replace and read. -/
def orderConfigure (rt : Runtime) (kind : OrderKind) (requested : Json)
    (replace : Text → Talk (Except ApiError (Json × Nat × Bytes))) (read : Text → Talk (Except ApiError Json))
    (confirm : Bool) : Tool (Except McpError NetworkPolicyWriteOutput) :=
  if LegacyWrite.MAXIMUM_POLICY_REQUEST_BYTES < byteLen requested.write then .done (.error (.invalidParams kind.bound))
  else if !confirm then .done (.ok (kind.preview requested))
  else writeOnce rt replace fun site accepted =>
    let output := { kind.preview requested with
      submitted := true, responseStatus := some accepted.2.1, accepted := some accepted.1 }
    (readBack rt (read site)).map (orderReport kind requested accepted.1 output)

/-- `acl_rules_ordering_configure` (tools.rs:8401). -/
def aclRulesOrderingConfigure (rt : Runtime) (ids : List Text) (confirm : Bool) :
    Tool (Except McpError NetworkPolicyWriteOutput) :=
  orderConfigure rt ACL_ORDER (aclOrderingBody ids) (fun site => rt.integration.replaceAclRuleOrdering site ids)
    rt.integration.aclRuleOrdering confirm

/-- `firewall_policies_ordering_configure` (tools.rs:8292). -/
def firewallPoliciesOrderingConfigure (rt : Runtime) (before after : List Text) (confirm : Bool) :
    Tool (Except McpError NetworkPolicyWriteOutput) :=
  orderConfigure rt FIREWALL_ORDER (firewallOrderingBody before after)
    (fun site => rt.integration.replaceFirewallPolicyOrdering site before after)
    rt.integration.firewallPolicyOrdering confirm

end UnifiMcp.Integration

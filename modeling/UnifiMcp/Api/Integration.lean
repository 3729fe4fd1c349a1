import UnifiMcp.Api.LegacyClient
import UnifiMcp.Lib.Dialogue
import UnifiMcp.Mcp.Scan
/-! # The Network Integration client (unifi-api/src/client.rs)

Each method is a dialogue: it builds its address, sends its requests and reads the answers. A read is repeated once
behind a short `Retry-After`; a write is sent once.

* `runs_get` — a read ends with what its last answer holds.
* `runs_submit_iff` — a write is one exchange, or none when its address is refused. -/
namespace UnifiMcp.Integration
open Text Dialogue

/-! ## What a call waits for -/

/-- `reqwest::Method`. -/
inductive Method where
  | get
  | post
  | put
  | delete
deriving DecidableEq

/-- A request: the key header is the same on all. -/
structure Request where
  method : Method
  url : Url
  body : Option Json
deriving DecidableEq

/-- What a tool call asks of the world around it: an answer from the controller, a pause, the time since it started,
and the cell that keeps the site identity (handler.rs:53): to enter it, to fill it, and to leave it empty. -/
inductive Ask where
  | send (request : Request)
  | sleep (delay : Nat)
  | elapsed
  | enter
  | fill (site : Text)
  | leave
deriving DecidableEq

/-- On entering, the cell's value, or none: then the caller holds the permit to fill it. -/
@[reducible] def Ask.Reply : Ask → Type
  | .send _ => Answer
  | .sleep _ => Unit
  | .elapsed => Nat
  | .enter => Option Text
  | .fill _ => Unit
  | .leave => Unit

abbrev Talk (α : Type) := Dialogue Ask Ask.Reply α

/-! ## Records -/

/-- `SiteSummary` (models.rs:49). -/
structure SiteSummary where
  id : Text
  internalReference : Option Text
deriving DecidableEq

/-- `Voucher` (models.rs:202), as a creation answers. -/
structure Voucher where
  id : Option Text
  code : Option Text
deriving DecidableEq

/-- `VoucherDetails` (models.rs:214). -/
structure VoucherDetails where
  id : Text
  code : Text
  name : Text
  expired : Bool
  authorizedGuestCount : Nat
deriving DecidableEq

/-- `VoucherCreate` (models.rs:233). -/
structure VoucherCreate where
  name : Text
  count : Nat
  timeLimitMinutes : Nat
  authorizedGuestLimit : Option Nat
  dataUsageLimitMBytes : Option Nat
  rxRateLimitKbps : Option Nat
  txRateLimitKbps : Option Nat

/-- The request body as it is written; an absent limit is left out. -/
def VoucherCreate.body (request : VoucherCreate) : Json :=
  let limit := fun (name : Text) (value : Option Nat) => (value.map fun n => (name, Json.number (dec n))).toList
  .object ([("name".toList, .string request.name), ("count".toList, .number (dec request.count)),
      ("timeLimitMinutes".toList, .number (dec request.timeLimitMinutes))] ++
    limit "authorizedGuestLimit".toList request.authorizedGuestLimit ++
    limit "dataUsageLimitMBytes".toList request.dataUsageLimitMBytes ++
    limit "rxRateLimitKbps".toList request.rxRateLimitKbps ++ limit "txRateLimitKbps".toList request.txRateLimitKbps)

/-! ## The client -/

/-- `IntegrationClient` (client.rs:83), with the third-party functions it rests on: `refusal` is the text of
`serde_json`'s error, the readers are its derived ones. -/
structure Client where
  base : Url
  codecs : Codecs
  refusal : Bytes → Text
  readSites : Bytes → Except Text (Page SiteSummary)
  readVoucher : Bytes → Except Text VoucherDetails
  readVouchers : Bytes → Except Text (Page Json)
  readCreated : Bytes → Except Text (List Voucher)

namespace Client

variable (c : Client)

/-- `endpoint` (client.rs:1524). -/
def endpoint (segments : List Text) (query : List (Text × Text)) : Except ApiError Url :=
  buildUrl c.codecs.pathPush c.base
    (["proxy".toList, "network".toList, "integration".toList, "v1".toList] ++ segments) query

/-- `bounded_error_message`, in the error it is for (client.rs:1539). -/
def statusError (response : Response) : ApiError :=
  match readBoundedBody response with
  | .ok bytes => .status response.status (fromControllerBytes c.codecs.base64 bytes)
  | .error error => error

/-- The classification in `send` (client.rs:1530-1545). -/
def received : Answer → Except ApiError Response
  | .failed detail => .error (sendError detail)
  | .response response =>
    if isSuccess response.status then .ok response
    else if response.status = TOO_MANY_REQUESTS then .error (rateLimitedError c.codecs response)
    else .error (c.statusError response)

/-- `send` (client.rs:1530). -/
def send (request : Request) : Talk (Except ApiError Response) :=
  (Dialogue.put (Ask.send request) : Talk Answer).map c.received

/-- A body of the expected type, with its bytes (client.rs:1319). -/
def decoded {α : Type} (decode : Bytes → Except Text α) (response : Response) : Except ApiError (α × Bytes) :=
  match readBoundedBody response with
  | .error error => .error error
  | .ok bytes => match decode bytes with
    | .ok value => .ok (value, bytes)
    | .error refusal => .error (decodeFailure c.codecs.base64 refusal bytes)

/-- The one repetition of a read (client.rs:1307-1318). -/
def retried (request : Request) : Except ApiError Response → Talk (Except ApiError Response)
  | .error (.rateLimited (some delay) message) =>
    if delay ≤ Legacy.MAXIMUM_RETRY_AFTER then (Dialogue.put (Ask.sleep delay) : Talk Unit).bind fun _ => c.send request
    else .done (.error (.rateLimited (some delay) message))
  | first => .done first

/-- `get_json_with_response` (client.rs:1299). -/
def getJsonWithResponse {α : Type} (decode : Bytes → Except Text α) (segments : List Text)
    (query : List (Text × Text)) : Talk (Except ApiError (α × Bytes)) :=
  match c.endpoint segments query with
  | .error error => .done (.error error)
  | .ok url => ((c.send ⟨.get, url, none⟩).bind (c.retried ⟨.get, url, none⟩)).map fun response =>
    response.bind (c.decoded decode)

/-- `get_json` (client.rs:1289). -/
def getJson {α : Type} (decode : Bytes → Except Text α) (segments : List Text) (query : List (Text × Text)) :
    Talk (Except ApiError α) :=
  (c.getJsonWithResponse decode segments query).map (·.map Prod.fst)

/-- A whole body with its status. -/
def accepted (response : Response) : Except ApiError (Nat × Bytes) :=
  (readBoundedBody response).map fun bytes => (response.status, bytes)

/-- A request that is sent once (client.rs:1325, 1338, 571, 706, 1155, 1246). -/
def submit (method : Method) (segments : List Text) (query : List (Text × Text)) (body : Option Json) :
    Talk (Except ApiError (Nat × Bytes)) :=
  match c.endpoint segments query with
  | .error error => .done (.error error)
  | .ok url => (c.send ⟨method, url, body⟩).map (·.bind accepted)

/-- `serde_json::from_slice` to a value. -/
def readValue (bytes : Bytes) : Except Text Json :=
  match c.codecs.fromSlice bytes with
  | some value => .ok value
  | none => .error (c.refusal bytes)

/-- The body of an accepted write, read as a type. -/
def readAccepted {α : Type} (decode : Bytes → Except Text α) : Nat × Bytes → Except ApiError (α × Nat × Bytes)
  | (status, bytes) => match decode bytes with
    | .ok value => .ok (value, status, bytes)
    | .error refusal => .error (decodeFailure c.codecs.base64 refusal bytes)

end Client

/-! ## Routes -/

/-- `NetworkPolicyCollection` (client.rs:68). -/
inductive NetworkPolicyCollection where
  | aclRules
  | firewallZones
  | firewallPolicies
  | dnsPolicies
  | trafficMatchingLists
deriving DecidableEq

def NetworkPolicyCollection.path : NetworkPolicyCollection → List Text
  | .aclRules => ["acl-rules".toList]
  | .dnsPolicies => ["dns".toList, "policies".toList]
  | .firewallZones => ["firewall".toList, "zones".toList]
  | .firewallPolicies => ["firewall".toList, "policies".toList]
  | .trafficMatchingLists => ["traffic-matching-lists".toList]

/-- The segments behind a site. -/
def onSite (site : Text) (rest : List Text) : List Text := "sites".toList :: site :: rest

/-- `policy_segments` (client.rs:1548). -/
def policySegments (site : Text) (collection : NetworkPolicyCollection) (id : Option Text) : List Text :=
  onSite site (collection.path ++ id.toList)

def ACL_ORDERING : List Text := ["acl-rules".toList, "ordering".toList]

def FIREWALL_ORDERING : List Text := ["firewall".toList, "policies".toList, "ordering".toList]

def VOUCHERS : List Text := ["hotspot".toList, "vouchers".toList]

/-- `json!({"orderedAclRuleIds": ...})`. -/
def aclOrderingBody (ids : List Text) : Json := .object [("orderedAclRuleIds".toList, .array (ids.map .string))]

/-- `json!({"orderedFirewallPolicyIds": ...})`. -/
def firewallOrderingBody (before after : List Text) : Json :=
  .object [("orderedFirewallPolicyIds".toList, .object [("afterSystemDefined".toList, .array (after.map .string)),
    ("beforeSystemDefined".toList, .array (before.map .string))])]

/-- `page_query` (client.rs:1569). -/
def pageQuery (page : PageRequest) : List (Text × Text) :=
  [("offset".toList, dec page.offset), ("limit".toList, dec page.limit)]

namespace Client

variable (c : Client)

/-! ## Policies -/

/-- `network_policy_detail` (client.rs:554). -/
def networkPolicyDetail (site : Text) (collection : NetworkPolicyCollection) (id : Text) : Talk (Except ApiError Json) :=
  c.getJson c.readValue (policySegments site collection (some id)) []

/-- `network_policy_record_write` (client.rs:707). -/
def networkPolicyRecordWrite (method : Method) (site : Text) (collection : NetworkPolicyCollection) (id : Option Text)
    (body : Json) : Talk (Except ApiError (Json × Nat × Bytes)) :=
  (c.submit method (policySegments site collection id) [] (some body)).map (·.bind (c.readAccepted c.readValue))

/-- `network_policy_create` (client.rs:582). -/
def networkPolicyCreate (site : Text) (collection : NetworkPolicyCollection) (body : Json) :
    Talk (Except ApiError (Json × Nat × Bytes)) :=
  c.networkPolicyRecordWrite .post site collection none body

/-- `network_policy_update` (client.rs:599). -/
def networkPolicyUpdate (site : Text) (collection : NetworkPolicyCollection) (id : Text) (body : Json) :
    Talk (Except ApiError (Json × Nat × Bytes)) :=
  c.networkPolicyRecordWrite .put site collection (some id) body

/-- `network_policy_delete` (client.rs:617). -/
def networkPolicyDelete (site : Text) (collection : NetworkPolicyCollection) (id : Text) :
    Talk (Except ApiError (Nat × Bytes)) :=
  c.submit .delete (policySegments site collection (some id)) [] none

/-- `acl_rule_ordering` (client.rs:635). -/
def aclRuleOrdering (site : Text) : Talk (Except ApiError Json) := c.getJson c.readValue (onSite site ACL_ORDERING) []

/-- `replace_acl_rule_ordering` (client.rs:647). -/
def replaceAclRuleOrdering (site : Text) (ids : List Text) : Talk (Except ApiError (Json × Nat × Bytes)) :=
  (c.submit .put (onSite site ACL_ORDERING) [] (some (aclOrderingBody ids))).map (·.bind (c.readAccepted c.readValue))

/-- `firewall_policy_ordering` (client.rs:671). -/
def firewallPolicyOrdering (site : Text) : Talk (Except ApiError Json) :=
  c.getJson c.readValue (onSite site FIREWALL_ORDERING) []

/-- `replace_firewall_policy_ordering` (client.rs:682). -/
def replaceFirewallPolicyOrdering (site : Text) (before after : List Text) : Talk (Except ApiError (Json × Nat × Bytes)) :=
  (c.submit .put (onSite site FIREWALL_ORDERING) [] (some (firewallOrderingBody before after))).map
    (·.bind (c.readAccepted c.readValue))

/-! ## Sites and vouchers -/

/-- `sites` (client.rs:217). -/
def sites (page : PageRequest) : Talk (Except ApiError (Page SiteSummary)) :=
  c.getJson c.readSites ["sites".toList] (pageQuery page)

/-- `voucher_with_response` (client.rs:1190); the response is kept as its message. -/
def voucherWithResponse (site id : Text) : Talk (Except ApiError (VoucherDetails × Bytes)) :=
  c.getJsonWithResponse c.readVoucher (onSite site (VOUCHERS ++ [id])) []

/-- `voucher_records` (client.rs:1131). -/
def voucherRecords (site : Text) (page : PageRequest) (filter : Option Text) :
    Talk (Except ApiError (Page Json × Bytes)) :=
  c.getJsonWithResponse c.readVouchers (onSite site VOUCHERS)
    (pageQuery page ++ (filter.map fun filter => ("filter".toList, filter)).toList)

/-- `delete_matching_vouchers` (client.rs:1152). -/
def deleteMatchingVouchers (site filter : Text) : Talk (Except ApiError (Nat × Bytes)) :=
  c.submit .delete (onSite site VOUCHERS) [("filter".toList, filter)] none

/-- `create_vouchers_with_response` (client.rs:1222). -/
def createVouchersWithResponse (site : Text) (request : VoucherCreate) :
    Talk (Except ApiError (List Voucher × Nat × Bytes)) :=
  (c.submit .post (onSite site VOUCHERS) [] (some request.body)).map (·.bind (c.readAccepted c.readCreated))

/-- `delete_voucher` (client.rs:1241). -/
def deleteVoucher (site id : Text) : Talk (Except ApiError (Nat × Bytes)) :=
  c.submit .delete (onSite site (VOUCHERS ++ [id])) [] none

end Client

/-! ## Runs -/

abbrev Log := List (Exchange Ask.Reply)

/-- A request with its answer. -/
def sent (request : Request) (answer : Answer) : Exchange Ask.Reply := ⟨.send request, answer⟩

namespace Client

variable {c : Client} {log : Log}

theorem runs_send_iff {request : Request} {r : Except ApiError Response} :
    Runs (c.send request) log r ↔ ∃ answer, log = [sent request answer] ∧ r = c.received answer := by
  rw [send, runs_map_iff]
  constructor
  · rintro ⟨answer, h, rfl⟩
    exact ⟨answer, runs_put_iff.1 h, rfl⟩
  · rintro ⟨answer, rfl, rfl⟩
    exact ⟨answer, runs_put_iff.2 rfl, rfl⟩

/-- **A write is one exchange**, or none when its address is refused. -/
theorem runs_submit_iff {method : Method} {segments : List Text} {query : List (Text × Text)} {body : Option Json}
    {r : Except ApiError (Nat × Bytes)} : Runs (c.submit method segments query body) log r ↔
      (∃ error, c.endpoint segments query = .error error ∧ log = [] ∧ r = .error error) ∨
      ∃ url answer, c.endpoint segments query = .ok url ∧ log = [sent ⟨method, url, body⟩ answer] ∧
        r = (c.received answer).bind accepted := by
  rw [submit]
  cases hurl : c.endpoint segments query with
  | error error => simp
  | ok url =>
    simp only [runs_map_iff, runs_send_iff]
    constructor
    · rintro ⟨r, ⟨answer, hlog, rfl⟩, rfl⟩
      exact Or.inr ⟨url, answer, rfl, hlog, rfl⟩
    · rintro (⟨error, herror, -⟩ | ⟨url', answer, hok, hlog, rfl⟩)
      · cases herror
      · cases hok
        exact ⟨_, ⟨answer, hlog, rfl⟩, rfl⟩

/-- What a read exchanges before its last answer: nothing, or one rate limit and the pause it asks for. -/
def Preamble (c : Client) (request : Request) (before : Log) : Prop :=
  before = [] ∨ ∃ answer delay message, c.received answer = .error (.rateLimited (some delay) message) ∧
    delay ≤ Legacy.MAXIMUM_RETRY_AFTER ∧ before = [sent request answer, ⟨.sleep delay, ()⟩]

theorem runs_retried {request : Request} {first r : Except ApiError Response} (h : Runs (c.retried request first) log r) :
    (log = [] ∧ r = first) ∨ ∃ delay message answer, first = .error (.rateLimited (some delay) message) ∧
      delay ≤ Legacy.MAXIMUM_RETRY_AFTER ∧ log = [⟨.sleep delay, ()⟩, sent request answer] ∧ r = c.received answer := by
  unfold retried at h
  split at h
  · rename_i delay message
    by_cases hdelay : delay ≤ Legacy.MAXIMUM_RETRY_AFTER
    · rw [if_pos hdelay, runs_bind_iff] at h
      obtain ⟨first, rest, u, rfl, hsleep, hsend⟩ := h
      obtain rfl := runs_put_iff.1 hsleep
      obtain ⟨answer, rfl, rfl⟩ := runs_send_iff.1 hsend
      exact Or.inr ⟨delay, message, answer, rfl, hdelay, rfl, rfl⟩
    · rw [if_neg hdelay] at h
      exact Or.inl (runs_done_iff.1 h)
  · exact Or.inl (runs_done_iff.1 h)

/-- **A read ends with what its last answer holds**: it repeats at most once. -/
theorem runs_get {α : Type} {decode : Bytes → Except Text α} {segments : List Text} {query : List (Text × Text)}
    {r : Except ApiError (α × Bytes)} (h : Runs (c.getJsonWithResponse decode segments query) log r) :
    (∃ error, c.endpoint segments query = .error error ∧ log = [] ∧ r = .error error) ∨
    ∃ url before answer, c.endpoint segments query = .ok url ∧ c.Preamble ⟨.get, url, none⟩ before ∧
      log = before ++ [sent ⟨.get, url, none⟩ answer] ∧ r = (c.received answer).bind (c.decoded decode) := by
  rw [getJsonWithResponse] at h
  cases hurl : c.endpoint segments query with
  | error error =>
    rw [hurl] at h
    obtain ⟨rfl, rfl⟩ := runs_done_iff.1 h
    exact Or.inl ⟨error, rfl, rfl, rfl⟩
  | ok url =>
    rw [hurl] at h
    obtain ⟨response, hresponse, rfl⟩ := runs_map_iff.1 h
    obtain ⟨first, rest, result, rfl, hfirst, hrest⟩ := runs_bind_iff.1 hresponse
    obtain ⟨answer, rfl, rfl⟩ := runs_send_iff.1 hfirst
    obtain ⟨rfl, rfl⟩ | ⟨delay, message, again, hlimited, hdelay, rfl, rfl⟩ := runs_retried hrest
    · exact Or.inr ⟨url, [], answer, rfl, Or.inl rfl, rfl, rfl⟩
    · exact Or.inr ⟨url, _, again, rfl, Or.inr ⟨answer, delay, message, hlimited, hdelay, rfl⟩, rfl, rfl⟩

theorem runs_getJson {α : Type} {decode : Bytes → Except Text α} {segments : List Text} {query : List (Text × Text)}
    {r : Except ApiError α} (h : Runs (c.getJson decode segments query) log r) :
    (∃ error, c.endpoint segments query = .error error ∧ log = [] ∧ r = .error error) ∨
    ∃ url before answer, c.endpoint segments query = .ok url ∧ c.Preamble ⟨.get, url, none⟩ before ∧
      log = before ++ [sent ⟨.get, url, none⟩ answer] ∧
      r = ((c.received answer).bind (c.decoded decode)).map Prod.fst := by
  obtain ⟨whole, hwhole, rfl⟩ := runs_map_iff.1 h
  obtain ⟨error, herror, rfl, rfl⟩ | ⟨url, before, answer, hurl, hbefore, rfl, rfl⟩ := runs_get hwhole
  · exact Or.inl ⟨error, herror, rfl, rfl⟩
  · exact Or.inr ⟨url, before, answer, hurl, hbefore, rfl, rfl⟩

/-! ## How often a request goes out -/

end Client

def Ask.isSend : Ask → Bool
  | .send _ => true
  | _ => false

/-- The request that changes something at the controller. -/
def Ask.mutation : Ask → Option Request
  | .send request => if request.method = .get then none else some request
  | _ => none

def Ask.isMutation (ask : Ask) : Bool := ask.mutation.isSome

namespace Client

variable {c : Client}

/-- **A read is at most two requests**, however it ends. -/
theorem get_atMost_two {α : Type} {decode : Bytes → Except Text α} {segments : List Text} {query : List (Text × Text)} :
    AtMost Ask.isSend 2 (c.getJsonWithResponse decode segments query) := by
  have hsend : ∀ request, AtMost Ask.isSend 1 (c.send request) := fun request =>
    AtMost.map _ AtMost.put
  rw [getJsonWithResponse]
  cases c.endpoint segments query with
  | error error => exact .done
  | ok url =>
    have hretried : ∀ first, AtMost Ask.isSend 1 (c.retried ⟨.get, url, none⟩ first) := by
      intro first
      unfold retried
      split
      · split
        · exact AtMost.bind (m := 0) (n := 1) (AtMost.put_other rfl) fun _ => hsend _
        · exact .done
      · exact .done
    exact AtMost.map _ (AtMost.bind (m := 1) (n := 1) (hsend _) hretried)

/-- A read changes nothing. -/
theorem guarded_get {α : Type} {decode : Bytes → Except Text α} {segments : List Text} {query : List (Text × Text)}
    {rule : Log → Ask → Prop} {before : Log} (hsleep : ∀ log delay, rule log (.sleep delay))
    (hsend : ∀ log url, c.endpoint segments query = .ok url → rule log (.send ⟨.get, url, none⟩)) :
    Guarded rule before (c.getJsonWithResponse decode segments query) := by
  rw [getJsonWithResponse]
  cases hurl : c.endpoint segments query with
  | error error => exact .done
  | ok url =>
    refine Guarded.map _ (Guarded.bind (Guarded.map _ (guarded_put (hsend _ url hurl))) fun log first _ => ?_)
    unfold retried
    split
    · split
      · exact Guarded.bind (guarded_put (hsleep _ _)) fun _ _ _ => Guarded.map _ (guarded_put (hsend _ url hurl))
      · exact .done
    · exact .done

theorem guarded_submit {method : Method} {segments : List Text} {query : List (Text × Text)} {body : Option Json}
    {rule : Log → Ask → Prop} {before : Log}
    (hsend : ∀ url, c.endpoint segments query = .ok url → rule before (.send ⟨method, url, body⟩)) :
    Guarded rule before (c.submit method segments query body) := by
  rw [submit]
  cases hurl : c.endpoint segments query with
  | error error => exact .done
  | ok url => exact Guarded.map _ (Guarded.map _ (guarded_put (hsend url hurl)))

end Client

end UnifiMcp.Integration

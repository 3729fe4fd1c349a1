import UnifiMcp.Lib.Pool
import UnifiMcp.Mcp.Vouchers
/-! # Calls side by side (unifi-mcp/src/handler.rs)

Policy writes, order replacements and voucher writes run at once over one cell that keeps the site identity. Each is a
dialogue with the controller; a call that runs out of time is dropped where it stands. The other tools of the Network
server are not among the calls.

* `guarded_run` — the rule every question of a call obeys: where it goes, and when it may change something. -/
namespace UnifiMcp.Integration
open Text Dialogue Timed

/-! ## Calls -/

/-- The calls of ten tools: policies of the five kinds written, both orders replaced, vouchers created and revoked. -/
inductive ToolCall where
  | policyWrite (plan : NetworkPolicyWritePlan)
  | aclOrder (ids : List Text) (confirm : Bool)
  | firewallOrder (before after : List Text) (confirm : Bool)
  | vouchersCreate (input : VouchersCreateInput)
  | vouchersRevoke (voucher : Text) (confirm : Bool)
  | vouchersRevokeMatching (input : VouchersRevokeMatchingInput)

inductive ToolOutput where
  | policy (output : NetworkPolicyWriteOutput)
  | created (output : VouchersCreateOutput)
  | revoked (output : VoucherRevokeOutput)
  | revokedMatching (output : VouchersRevokeMatchingOutput)

namespace ToolCall

/-- The dispatch of `call` (tools.rs:5009). -/
def run (rt : Runtime) : ToolCall → Tool (Except McpError ToolOutput)
  | policyWrite plan => (networkPolicyWrite rt plan).map (·.map .policy)
  | aclOrder ids confirm => (aclRulesOrderingConfigure rt ids confirm).map (·.map .policy)
  | firewallOrder before after confirm => (firewallPoliciesOrderingConfigure rt before after confirm).map (·.map .policy)
  | vouchersCreate input => (Integration.vouchersCreate rt input).map (·.map .created)
  | vouchersRevoke voucher confirm => (Integration.vouchersRevoke rt voucher confirm).map (·.map .revoked)
  | vouchersRevokeMatching input => (Integration.vouchersRevokeMatching rt input).map (·.map .revokedMatching)

def confirmed : ToolCall → Bool
  | policyWrite plan => plan.confirm
  | aclOrder _ confirm => confirm
  | firewallOrder _ _ confirm => confirm
  | vouchersCreate input => input.confirm.getD false
  | vouchersRevoke _ confirm => confirm
  | vouchersRevokeMatching input => input.confirm

end ToolCall

/-- A request under the site, when its address is accepted. -/
def Client.request (c : Client) (method : Method) (segments : List Text) (query : List (Text × Text)) (body : Option Json) :
    Option Request :=
  match c.endpoint segments query with
  | .ok url => some ⟨method, url, body⟩
  | .error _ => none

/-- What a call is for: the one request that changes something at the controller. -/
def ToolCall.mutation (c : Client) (site : Text) : ToolCall → Option Request
  | policyWrite plan => match plan.change with
    | .create body => c.request .post (policySegments site (collectionOf plan.kind) none) [] (some body)
    | .update id body => c.request .put (policySegments site (collectionOf plan.kind) (some id)) [] (some body)
    | .delete id => c.request .delete (policySegments site (collectionOf plan.kind) (some id)) [] none
  | aclOrder ids _ => c.request .put (onSite site ACL_ORDERING) [] (some (aclOrderingBody ids))
  | firewallOrder before after _ => c.request .put (onSite site FIREWALL_ORDERING) [] (some (firewallOrderingBody before after))
  | vouchersCreate input => match voucherBatch input with
    | .ok batch => c.request .post (onSite site VOUCHERS) [] (some batch.request.body)
    | .error _ => none
  | vouchersRevoke voucher _ => c.request .delete (onSite site (VOUCHERS ++ [trim voucher])) [] none
  | vouchersRevokeMatching input => c.request .delete (onSite site VOUCHERS) [("filter".toList, input.filter)] none

/-! ## Where a call stands -/

/-- What a call knows of the cell: nothing, that it holds the permit, or the site. -/
inductive Place where
  | outside
  | holding
  | inside (site : Text)
deriving DecidableEq

def Place.after : Place → Exchange (Timed.Answer Ask.Reply) → Place
  | _, ⟨.free .enter, some site⟩ => .inside site
  | _, ⟨.free .enter, none⟩ => .holding
  | _, ⟨.free (.fill site), _⟩ => .inside site
  | _, ⟨.free .leave, _⟩ => .outside
  | place, _ => place

def place (log : ToolLog) : Place := log.foldl Place.after .outside

def Ask.isCell : Ask → Bool
  | .enter => true
  | .fill _ => true
  | .leave => true
  | _ => false

theorem place_snoc (log : ToolLog) (x : Exchange (Timed.Answer Ask.Reply)) : place (log ++ [x]) = (place log).after x := by
  rw [place, List.foldl_append]
  rfl

theorem after_of_not_isCell {x : Exchange (Timed.Answer Ask.Reply)} (h : x.1.question.isCell = false) (p : Place) :
    p.after x = p := by
  rcases x with ⟨q | q, a⟩
  · cases q with
    | enter => cases h
    | fill site => cases h
    | leave => cases h
    | send request => rfl
    | sleep delay => rfl
    | elapsed => rfl
  · rfl

/-- Exchanges that leave the cell alone leave the place. -/
theorem place_append {before log : ToolLog} (h : ∀ x ∈ log, x.1.question.isCell = false) :
    place (before ++ log) = place before := by
  induction log generalizing before with
  | nil => rw [List.append_nil]
  | cons x log ih =>
    rw [← List.singleton_append, ← List.append_assoc, ih fun y hy => h y (List.mem_cons_of_mem _ hy), place_snoc,
      after_of_not_isCell (h x List.mem_cons_self)]

/-- The page in the log that names the site was answered to this call. -/
def FoundBefore (rt : Runtime) (log : ToolLog) (site : Text) : Prop :=
  ∃ scan : Log, (∀ x ∈ scan, freely x ∈ log) ∧ FoundIn rt.integration rt.legacySite scan site

def OnCatalog (c : Client) (request : Request) : Prop :=
  request.method = .get ∧ ∃ page, c.endpoint ["sites".toList] (pageQuery page) = .ok request.url

def OnSite (c : Client) (site : Text) (request : Request) : Prop :=
  ∃ rest query, c.endpoint (onSite site rest) query = .ok request.url

/-- The rule of a call: a change is confirmed, the first, and the one the call is for; every request goes to the catalog
or to the site the call knows; the cell is entered from outside, and filled or left by the holder of its permit. -/
structure Obeys (rt : Runtime) (call : ToolCall) (log : ToolLog) (q : Timed Ask) : Prop where
  changes : ∀ request, q.question.mutation = some request → q = .free (.send request) ∧ call.confirmed = true ∧
    (∀ x ∈ log, x.1.question.isMutation = false) ∧
    ∃ site, place log = .inside site ∧ call.mutation rt.integration site = some request
  addressed : ∀ request, q.question = .send request → OnCatalog rt.integration request ∨
    ∃ site, place log = .inside site ∧ OnSite rt.integration site request
  cell : q.question.isCell = true → (q = .free .enter ∧ place log = .outside) ∨
    (place log = .holding ∧ (q = .free .leave ∨ ∃ site, q = .free (.fill site) ∧ FoundBefore rt log site))

/-! ## Questions that change nothing -/

/-- A look at the clock, a pause, or a read of the site. -/
def Quiet (c : Client) (site : Text) (q : Ask) : Prop :=
  q = .elapsed ∨ (∃ delay, q = .sleep delay) ∨
    ∃ url rest query, q = .send ⟨.get, url, none⟩ ∧ c.endpoint (onSite site rest) query = .ok url

theorem Quiet.isCell {c : Client} {site : Text} {q : Ask} (h : Quiet c site q) : q.isCell = false := by
  obtain rfl | ⟨delay, rfl⟩ | ⟨url, rest, query, rfl, -⟩ := h <;> rfl

theorem Quiet.isMutation {c : Client} {site : Text} {q : Ask} (h : Quiet c site q) : q.isMutation = false := by
  obtain rfl | ⟨delay, rfl⟩ | ⟨url, rest, query, rfl, -⟩ := h <;> rfl

theorem not_mutation {q : Ask} (h : q.isMutation = false) (request : Request) : q.mutation ≠ some request := by
  intro hsome
  rw [Ask.isMutation, hsome] at h
  cases h

section
variable {rt : Runtime} {call : ToolCall} {site : Text} {before : ToolLog}

theorem obeys_quiet {q : Timed Ask} (hplace : place before = .inside site) (h : Quiet rt.integration site q.question) :
    Obeys rt call before q where
  changes := fun request hrequest => absurd hrequest (not_mutation h.isMutation request)
  addressed := by
    intro request hrequest
    refine Or.inr ⟨site, hplace, ?_⟩
    obtain heq | ⟨delay, heq⟩ | ⟨url, rest, query, heq, hurl⟩ := h
    · rw [heq] at hrequest
      cases hrequest
    · rw [heq] at hrequest
      cases hrequest
    · rw [heq] at hrequest
      cases hrequest
      exact ⟨rest, query, hurl⟩
  cell := fun hcell => absurd hcell (by rw [h.isCell]; exact Bool.false_ne_true)

/-- Quiet questions on the known site are within the rule. -/
theorem guarded_of_quiet {α : Type} {d : Tool α} {past : ToolLog} (hplace : place before = .inside site)
    (h : Guarded (fun _ q => Quiet rt.integration site q.question) past d) : Guarded (Obeys rt call) before d := by
  induction d generalizing before past with
  | done r => exact .done
  | ask q next ih =>
    refine .ask (obeys_quiet hplace h.here) fun a => ih a ?_ (h.there a)
    rw [place_snoc, after_of_not_isCell (x := ⟨q, a⟩) h.here.isCell, hplace]

/-- A read of the site. -/
theorem quiet_get {α : Type} {decode : Bytes → Except Text α} {rest : List Text} {query : List (Text × Text)} {past : Log} :
    Guarded (fun _ q => Quiet rt.integration site q) past
      (rt.integration.getJsonWithResponse decode (onSite site rest) query) :=
  Client.guarded_get (fun _ delay => Or.inr (Or.inl ⟨delay, rfl⟩))
    fun _ url hurl => Or.inr (Or.inr ⟨url, rest, query, rfl, hurl⟩)

theorem quiet_untimed {α : Type} {d : Talk α} (h : Guarded (fun _ q => Quiet rt.integration site q) [] d) :
    Guarded (fun _ q => Quiet rt.integration site q.question) [] d.untimed :=
  guarded_untimed _ h fun _ _ hq => hq

theorem quiet_timeout {α : Type} {d : Talk α} (h : Guarded (fun _ q => Quiet rt.integration site q) [] d) {past : ToolLog} :
    Guarded (fun _ q => Quiet rt.integration site q.question) past d.timeout :=
  guarded_timeout _ h fun _ _ hq => hq

theorem quiet_clock {past : ToolLog} :
    Guarded (fun _ q => Quiet rt.integration site q.question) past (Dialogue.put (Timed.free Ask.elapsed) : Tool Nat) :=
  guarded_put (Or.inl rfl)

theorem quiet_readBack {α : Type} {readback : Talk (Except ApiError α)} {past : ToolLog}
    (h : Guarded (fun _ q => Quiet rt.integration site q) [] readback) :
    Guarded (fun _ q => Quiet rt.integration site q.question) past (readBack rt readback) := by
  rw [readBack]
  refine Guarded.bind quiet_clock fun log elapsed _ => ?_
  generalize readbackBudget rt.requestTimeout elapsed = budget
  split
  · exact .done
  · exact (quiet_timeout h).map _

theorem quiet_verifyVouchers {deadline : Nat} {vouchers : List Voucher} {ids : List Text} {result : VoucherVerification}
    {past : ToolLog} : Guarded (fun _ q => Quiet rt.integration site q.question) past
      (verifyVouchers rt site deadline vouchers ids result) := by
  induction vouchers generalizing ids result past with
  | nil => exact .done
  | cons voucher rest ih =>
    rcases voucher with ⟨id | id, code⟩
    · exact ih
    rcases code with - | code
    · exact ih
    rw [verifyVouchers]
    refine Guarded.bind quiet_clock fun log now _ => ?_
    split
    · exact .done
    · refine Guarded.bind (quiet_timeout quiet_get) fun log readback _ => ?_
      cases readback with
      | none => exact .done
      | some answer => exact ih

/-! ## The site -/

theorem place_freely {before log : Log} (h : ∀ x ∈ log, x.1.isCell = false) :
    place ((before ++ log).map freely) = place (before.map freely) := by
  rw [List.map_append]
  refine place_append fun x hx => ?_
  obtain ⟨y, hy, rfl⟩ := List.mem_map.1 hx
  exact h y hy

theorem obeys_sleep {log : ToolLog} {delay : Nat} : Obeys rt call log (.free (.sleep delay)) :=
  ⟨fun _ h => (by cases h), fun _ h => (by cases h), fun h => (by cases h)⟩

theorem obeys_catalog {log : ToolLog} {url : Url} {page : PageRequest}
    (h : rt.integration.endpoint ["sites".toList] (pageQuery page) = .ok url) :
    Obeys rt call log (.free (.send ⟨.get, url, none⟩)) where
  changes := fun _ h => by cases h
  addressed := by
    intro request hrequest
    cases hrequest
    exact Or.inl ⟨rfl, page, h⟩
  cell := fun h => by cases h

theorem scan_isCell {scan : Log} {r : Except McpError Text} (h : Runs (scanSites rt.integration rt.legacySite 0 none) scan r) :
    ∀ x ∈ scan, x.1.isCell = false :=
  (@guarded_scan _ _ _ _ (fun _ q => q.isCell = false) [] (fun _ _ => rfl) fun _ _ _ _ => rfl).forall_mem h

theorem scan_isMutation {scan : Log} {r : Except McpError Text}
    (h : Runs (scanSites rt.integration rt.legacySite 0 none) scan r) : ∀ x ∈ scan, x.1.isMutation = false :=
  (@guarded_scan _ _ _ _ (fun _ q => q.isMutation = false) [] (fun _ _ => rfl) fun _ _ _ _ => rfl).forall_mem h

/-- Finding the site is within the rule. -/
theorem guarded_siteId : Guarded (Obeys rt call) [] (siteId rt.integration rt.legacySite).untimed := by
  refine guarded_untimed (fun log q => Obeys rt call (log.map freely) (.free q)) (?_ : Guarded _ [] _) fun _ _ h => h
  refine Guarded.bind (guarded_put ⟨fun _ h => (by cases h), fun _ h => (by cases h), fun _ => Or.inl ⟨rfl, rfl⟩⟩) ?_
  intro first kept hfirst
  obtain rfl := runs_put_iff.1 hfirst
  cases kept with
  | some site => exact .done
  | none =>
    refine Guarded.bind (guarded_scan (fun _ _ => obeys_sleep) fun _ _ _ hurl => obeys_catalog hurl) ?_
    intro scan found hscan
    have hplace : place (([⟨.enter, none⟩] ++ scan : Log).map freely) = .holding := by
      rw [place_freely (scan_isCell hscan)]
      rfl
    cases found with
    | ok site =>
      refine Guarded.bind (guarded_put ⟨fun _ h => (by cases h), fun _ h => (by cases h), fun _ => ?_⟩) fun _ _ _ => .done
      refine Or.inr ⟨hplace, Or.inr ⟨site, rfl, scan, fun x hx => ?_, scanSites_found hscan⟩⟩
      exact List.mem_map_of_mem (List.mem_append_right _ hx)
    | error error =>
      exact Guarded.bind (guarded_put ⟨fun _ h => (by cases h), fun _ h => (by cases h),
        fun _ => Or.inr ⟨hplace, Or.inl rfl⟩⟩) fun _ _ _ => .done

/-- Behind it the call knows the site, and has changed nothing. -/
theorem settled_siteId {log : ToolLog} (h : Runs (siteId rt.integration rt.legacySite).untimed log (.ok site)) :
    place log = .inside site ∧ ∀ x ∈ log, x.1.question.isMutation = false := by
  obtain ⟨plain, rfl, hplain⟩ := runs_untimed_iff.1 h
  obtain rfl | ⟨scan, rfl, hscan⟩ := runs_siteId_ok_iff.1 hplain
  · refine ⟨rfl, fun x hx => ?_⟩
    obtain rfl := List.mem_singleton.1 hx
    rfl
  · constructor
    · rw [← List.cons_append, List.map_append, List.map_singleton, place_snoc]
      rfl
    · intro x hx
      obtain ⟨y, hy, rfl⟩ := List.mem_map.1 hx
      obtain rfl | hy := List.mem_cons.1 hy
      · rfl
      · obtain hy | hy := List.mem_append.1 hy
        · exact scan_isMutation hscan y hy
        · obtain rfl := List.mem_singleton.1 hy
          rfl

/-! ## The write -/

/-- The one change of a call is within the rule, on the site it knows and with no change before it. -/
theorem guarded_submit_of {method : Method} {rest : List Text} {query : List (Text × Text)} {body : Option Json}
    (hconfirmed : call.confirmed = true) (hplace : place before = .inside site)
    (hunchanged : ∀ x ∈ before, x.1.question.isMutation = false)
    (hmutation : call.mutation rt.integration site = rt.integration.request method (onSite site rest) query body) :
    Guarded (Obeys rt call) before (rt.integration.submit method (onSite site rest) query body).untimed := by
  refine guarded_untimed (fun log q => Obeys rt call (before ++ log.map freely) (.free q)) (?_ : Guarded _ [] _)
    fun _ _ h => h
  refine Client.guarded_submit fun url hurl => ?_
  rw [List.map_nil, List.append_nil]
  refine ⟨fun request hrequest => ?_, fun request hrequest => ?_, fun h => (by cases h)⟩
  · have hsend : request = ⟨method, url, body⟩ := by
      simp only [Timed.question, Ask.mutation] at hrequest
      split at hrequest
      · cases hrequest
      · exact (Option.some.inj hrequest).symm
    subst hsend
    refine ⟨rfl, hconfirmed, hunchanged, site, hplace, ?_⟩
    rw [hmutation, Client.request, hurl]
  · cases hrequest
    exact Or.inr ⟨site, hplace, rest, query, hurl⟩

theorem quiet_log {α : Type} {d e : Tool α} {log : ToolLog}
    (h : Guarded (fun _ q => Quiet rt.integration site q.question) [] d) (hd : Reaches d log e) :
    (∀ x ∈ log, x.1.question.isCell = false) ∧ ∀ x ∈ log, x.1.question.isMutation = false :=
  ⟨fun x hx => (h.forall_mem hd x hx).isCell, fun x hx => (h.forall_mem hd x hx).isMutation⟩

theorem submit_isCell {method : Method} {segments : List Text} {query : List (Text × Text)} {body : Option Json}
    {log : ToolLog} {r : Except ApiError (Nat × Bytes)}
    (h : Runs (rt.integration.submit method segments query body).untimed log r) : ∀ x ∈ log, x.1.question.isCell = false :=
  (guarded_untimed (fun _ q => q.isCell = false) (Client.guarded_submit fun _ _ => rfl : Guarded _ [] _)
    fun _ _ hq => hq : Guarded (fun _ q => q.question.isCell = false) [] _).forall_mem h

theorem mem_append_isMutation {first second : ToolLog} (hfirst : ∀ x ∈ first, x.1.question.isMutation = false)
    (hsecond : ∀ x ∈ second, x.1.question.isMutation = false) :
    ∀ x ∈ first ++ second, x.1.question.isMutation = false := by
  intro x hx
  obtain hx | hx := List.mem_append.1 hx
  · exact hfirst x hx
  · exact hsecond x hx

/-- A call that starts at the site is within the rule when what it does there is. -/
theorem guarded_onSite {α : Type} {f : Text → Tool (Except McpError α)}
    (hf : ∀ site before, place before = .inside site → (∀ x ∈ before, x.1.question.isMutation = false) →
      Guarded (Obeys rt call) before (f site)) :
    Guarded (Obeys rt call) [] ((siteId rt.integration rt.legacySite).untimed.tryBind f) := by
  refine Guarded.tryBind guarded_siteId fun log site hlog => ?_
  obtain ⟨hplace, hunchanged⟩ := settled_siteId hlog
  exact hf site ([] ++ log) hplace hunchanged

/-- The write on a known site, and what is read behind it. -/
theorem guarded_submitted {α β : Type} {method : Method} {rest : List Text} {query : List (Text × Text)} {body : Option Json}
    {read : Except ApiError (Nat × Bytes) → Except McpError α} {report : α → Tool (Except McpError β)}
    (hconfirmed : call.confirmed = true) (hplace : place before = .inside site)
    (hunchanged : ∀ x ∈ before, x.1.question.isMutation = false)
    (hmutation : call.mutation rt.integration site = rt.integration.request method (onSite site rest) query body)
    (hreport : ∀ accepted, Guarded (fun _ q => Quiet rt.integration site q.question) [] (report accepted)) :
    Guarded (Obeys rt call) before
      (((rt.integration.submit method (onSite site rest) query body).untimed.map read).tryBind report) := by
  refine Guarded.tryBind ((guarded_submit_of hconfirmed hplace hunchanged hmutation).map _) fun log accepted hlog => ?_
  obtain ⟨answer, hanswer, -⟩ := runs_map_iff.1 hlog
  refine guarded_of_quiet ?_ (hreport accepted)
  rw [place_append (submit_isCell hanswer), hplace]

/-- A read on a known site before the write. -/
theorem guarded_read {α β γ : Type} {d : Talk α} {read : α → Except McpError β} {f : β → Tool (Except McpError γ)}
    (hplace : place before = .inside site) (hunchanged : ∀ x ∈ before, x.1.question.isMutation = false)
    (hd : Guarded (fun _ q => Quiet rt.integration site q) [] d)
    (hf : ∀ later a, place later = .inside site → (∀ x ∈ later, x.1.question.isMutation = false) →
      Guarded (Obeys rt call) later (f a)) :
    Guarded (Obeys rt call) before ((d.untimed.map read).tryBind f) := by
  refine Guarded.tryBind (guarded_of_quiet hplace ((quiet_untimed hd).map _)) fun log a hlog => ?_
  obtain ⟨answer, hanswer, -⟩ := runs_map_iff.1 hlog
  obtain ⟨hcell, hquiet⟩ := quiet_log (quiet_untimed hd) hanswer
  exact hf _ a (by rw [place_append hcell, hplace]) (mem_append_isMutation hunchanged hquiet)

theorem map_map {α β γ : Type} {Q : Type} {A : Q → Type} (d : Dialogue Q A α) (f : α → β) (g : β → γ) :
    (d.map f).map g = d.map fun a => g (f a) := by
  rw [Dialogue.map, Dialogue.map, bind_assoc]
  rfl

/-- A confirmed write whose request is the one the call is for. -/
theorem guarded_writeOnce {α β : Type} {method : Method} {rest : List Text} {query : List (Text × Text)} {body : Option Json}
    {read : Except ApiError (Nat × Bytes) → Except ApiError α} {report : Text → α → Tool β}
    (hconfirmed : call.confirmed = true)
    (hmutation : ∀ site, call.mutation rt.integration site = rt.integration.request method (onSite site rest) query body)
    (hreport : ∀ site accepted, Guarded (fun _ q => Quiet rt.integration site q.question) [] (report site accepted)) :
    Guarded (Obeys rt call) []
      (writeOnce rt (fun site => (rt.integration.submit method (onSite site rest) query body).map read) report) := by
  refine guarded_onSite fun site before hplace hunchanged => ?_
  rw [untimed_map, map_map]
  exact guarded_submitted hconfirmed hplace hunchanged (hmutation site) fun accepted => (hreport site accepted).map _

end

/-! ## Every call is within its rule -/

section
variable {rt : Runtime}

theorem map_id {α : Type} {Q : Type} {A : Q → Type} (d : Dialogue Q A α) : (d.map fun r => r) = d := by
  rw [Dialogue.map]
  induction d with
  | done r => rfl
  | ask q next ih => simp only [ask_bind, ih]

theorem quiet_detail {site id : Text} {collection : NetworkPolicyCollection} :
    Guarded (fun _ q => Quiet rt.integration site q) [] (rt.integration.networkPolicyDetail site collection id) :=
  quiet_get.map _

theorem quiet_recordWritten {plan : NetworkPolicyWritePlan} {body : Json} {site : Text} {accepted : Json × Nat × Bytes} :
    Guarded (fun _ q => Quiet rt.integration site q.question) [] (recordWritten rt plan body site accepted) := by
  obtain ⟨record, status, bytes⟩ := accepted
  simp only [recordWritten]
  split
  · exact .done
  · exact (quiet_readBack quiet_detail).map _

theorem guarded_policyWrite (plan : NetworkPolicyWritePlan) :
    Guarded (Obeys rt (.policyWrite plan)) [] (networkPolicyWrite rt plan) := by
  rw [networkPolicyWrite]
  cases hconfirm : plan.confirm with
  | false => exact .done
  | true =>
    simp only [Bool.not_true, Bool.false_eq_true, if_false]
    split
    · rename_i body hchange
      exact guarded_writeOnce hconfirm (fun site => by rw [ToolCall.mutation, hchange]; rfl) fun _ _ => quiet_recordWritten
    · rename_i id body hchange
      exact guarded_writeOnce hconfirm (fun site => by rw [ToolCall.mutation, hchange]; rfl) fun _ _ => quiet_recordWritten
    · rename_i id hchange
      have hwrite := @guarded_writeOnce rt (.policyWrite plan) _ _ .delete ((collectionOf plan.kind).path ++ [id]) [] none
        (fun r => r) (recordDeleted rt plan id) hconfirm (fun site => by rw [ToolCall.mutation, hchange]; rfl)
        fun site accepted => (quiet_readBack quiet_detail).map _
      simp only [map_id] at hwrite
      exact hwrite

theorem guarded_order {call : ToolCall} {kind : OrderKind} {requested : Json} {rest readRest : List Text} {confirm : Bool}
    (hconfirmed : call.confirmed = confirm)
    (hmutation : ∀ site, call.mutation rt.integration site =
      rt.integration.request .put (onSite site rest) [] (some requested)) :
    Guarded (Obeys rt call) [] (orderConfigure rt kind requested
      (fun site => (rt.integration.submit .put (onSite site rest) [] (some requested)).map
        (·.bind (rt.integration.readAccepted rt.integration.readValue)))
      (fun site => rt.integration.getJson rt.integration.readValue (onSite site readRest) []) confirm) := by
  rw [orderConfigure]
  split
  · exact .done
  · cases confirm with
    | false => exact .done
    | true =>
      exact guarded_writeOnce hconfirmed hmutation fun site accepted => (quiet_readBack (quiet_get.map _)).map _

theorem quiet_created {batch : VoucherBatch} {site : Text} {accepted : List Voucher × Nat × Bytes} :
    Guarded (fun _ q => Quiet rt.integration site q.question) [] (created rt batch site accepted) := by
  obtain ⟨vouchers, status, body⟩ := accepted
  refine Guarded.map _ ?_
  exact Guarded.bind quiet_clock fun _ _ _ => Guarded.bind quiet_clock fun _ _ _ => quiet_verifyVouchers

theorem guarded_vouchersCreate (input : VouchersCreateInput) :
    Guarded (Obeys rt (.vouchersCreate input)) [] (vouchersCreate rt input) := by
  rw [vouchersCreate]
  cases hbatch : voucherBatch input with
  | error error => exact .done
  | ok batch =>
    simp only
    split
    · exact .done
    · cases hconfirm : input.confirm.getD false with
      | false => exact .done
      | true =>
        exact guarded_writeOnce hconfirm (fun site => by rw [ToolCall.mutation, hbatch]) fun _ _ => quiet_created

theorem guarded_vouchersRevoke (voucher : Text) (confirm : Bool) :
    Guarded (Obeys rt (.vouchersRevoke voucher confirm)) [] (vouchersRevoke rt voucher confirm) := by
  rw [vouchersRevoke]
  cases hid : voucherId voucher with
  | error error => exact .done
  | ok id =>
    obtain rfl := trim_of_voucherId hid
    refine guarded_onSite fun site before hplace hunchanged => ?_
    refine guarded_read hplace hunchanged quiet_get fun later found hplace hunchanged => ?_
    obtain ⟨found, bytes⟩ := found
    simp only
    split
    · exact .done
    · cases confirm with
      | false => exact .done
      | true => exact guarded_submitted rfl hplace hunchanged rfl fun _ => (quiet_readBack quiet_get).map _

theorem guarded_vouchersRevokeMatching (input : VouchersRevokeMatchingInput) :
    Guarded (Obeys rt (.vouchersRevokeMatching input)) [] (vouchersRevokeMatching rt input) := by
  rw [vouchersRevokeMatching]
  split
  · exact .done
  · refine guarded_onSite fun site before hplace hunchanged => ?_
    refine guarded_read hplace hunchanged quiet_get fun later found hplace hunchanged => ?_
    obtain ⟨found, bytes⟩ := found
    simp only
    split
    · exact .done
    · cases hconfirm : input.confirm with
      | false => exact .done
      | true => exact guarded_submitted hconfirm hplace hunchanged rfl fun _ => (quiet_readBack quiet_get).map _

/-- **Every question of every call obeys its rule.** -/
theorem guarded_run (call : ToolCall) : Guarded (Obeys rt call) [] (call.run rt) := by
  cases call with
  | policyWrite plan => exact (guarded_policyWrite plan).map _
  | aclOrder ids confirm =>
    have horder := @guarded_order rt (.aclOrder ids confirm) ACL_ORDER (aclOrderingBody ids) ACL_ORDERING ACL_ORDERING
      confirm (by rw [ToolCall.confirmed]) fun site => by rw [ToolCall.mutation]
    rw [ToolCall.run, aclRulesOrderingConfigure]
    exact horder.map _
  | firewallOrder before after confirm =>
    have horder := @guarded_order rt (.firewallOrder before after confirm) FIREWALL_ORDER (firewallOrderingBody before after)
      FIREWALL_ORDERING FIREWALL_ORDERING confirm (by rw [ToolCall.confirmed]) fun site => by rw [ToolCall.mutation]
    rw [ToolCall.run, firewallPoliciesOrderingConfigure]
    exact horder.map _
  | vouchersCreate input => exact (guarded_vouchersCreate input).map _
  | vouchersRevoke voucher confirm => exact (guarded_vouchersRevoke voucher confirm).map _
  | vouchersRevokeMatching input => exact (guarded_vouchersRevokeMatching input).map _

/-- A call that knows the site stays there: it has no business with the cell any more. -/
theorem inside_stays {call : ToolCall} {α : Type} {d e : Tool α} {before log : ToolLog} {site : Text}
    (h : Guarded (Obeys rt call) before d) (hplace : place before = .inside site) (hd : Reaches d log e) :
    place (before ++ log) = .inside site := by
  induction hd generalizing before with
  | refl d => rw [List.append_nil, hplace]
  | @step q next a log e hd ih =>
    have hcell : q.question.isCell = false := by
      cases hq : q.question.isCell with
      | false => rfl
      | true =>
        obtain ⟨-, hout⟩ | ⟨hhold, -⟩ := h.here.cell hq
        · rw [hplace] at hout
          cases hout
        · rw [hplace] at hhold
          cases hhold
    have hnext : place (before ++ [⟨q, a⟩]) = .inside site := by rw [place_snoc, after_of_not_isCell hcell, hplace]
    simpa using ih (h.there a) hnext

/-- What a question of a call obeyed when it was put, in terms of where the call stands now. -/
theorem run_asked {call : ToolCall} {log : ToolLog} {e : Tool (Except McpError ToolOutput)}
    (hd : Reaches (call.run rt) log e) {q : Timed Ask} (hq : q ∈ asked log e) :
    (∀ request, q.question.mutation = some request → q = .free (.send request) ∧ call.confirmed = true ∧
      ∃ site, place log = .inside site ∧ call.mutation rt.integration site = some request) ∧
    ∀ request, q.question = .send request → OnCatalog rt.integration request ∨
      ∃ site, place log = .inside site ∧ OnSite rt.integration site request := by
  obtain ⟨first, rest, rfl, hobeys⟩ := (guarded_run call).put hd hq
  obtain ⟨m, hfirst, hrest⟩ := hd.split
  have hguarded := (guarded_run call).reaches hfirst
  rw [List.nil_append] at hobeys hguarded
  constructor
  · intro request hrequest
    obtain ⟨hfree, hconfirmed, -, site, hplace, hmutation⟩ := hobeys.changes request hrequest
    exact ⟨hfree, hconfirmed, site, inside_stays hguarded hplace hrest, hmutation⟩
  · intro request hrequest
    obtain hcatalog | ⟨site, hplace, hsite⟩ := hobeys.addressed request hrequest
    · exact Or.inl hcatalog
    · exact Or.inr ⟨site, inside_stays hguarded hplace hrest, hsite⟩

/-- No run of a call, cut off or not, puts two changes on the wire. -/
theorem run_changes_once {call : ToolCall} {log : ToolLog} {e : Tool (Except McpError ToolOutput)}
    (hd : Reaches (call.run rt) log e) : ((asked log e).filter fun q => q.question.isMutation).length ≤ 1 := by
  refine Guarded.atMostOne ((guarded_run call).mono fun log q hobeys hkind => ?_) hd
  obtain ⟨request, hrequest⟩ := Option.isSome_iff_exists.1 hkind
  obtain ⟨-, -, hunchanged, -⟩ := hobeys.changes request hrequest
  exact hunchanged

end

/-! ## One deletion -/

def deletionPlan : NetworkPolicyWritePlan := ⟨.dnsPolicies, .delete "p1".toList, true⟩

def deletion : ToolCall := .policyWrite deletionPlan

/-- The address of the deleted record. -/
def recordAddress (method : Method) : Request :=
  underRoot method (policySegments "home".toList .dnsPolicies (some "p1".toList)) [] none

/-- The site is found, the record deleted, and its readback does not come in time. -/
def lateDeletion : ToolLog :=
  consoleSite.map freely ++ ([sent (recordAddress .delete) accepted].map freely ++
    [⟨.free .elapsed, 29000⟩, ⟨.due (.send (recordAddress .get)), none⟩])

def lateOutput : NetworkPolicyWriteOutput :=
  { deletionPlan.preview with
    submitted := true, responseStatus := some 200, responseBody := some []
    readbackError := some "policy readback timed out".toList }

theorem late_deletion : Runs (deletion.run consoleRuntime) lateDeletion (.ok (.policy lateOutput)) := by
  have hreadback : Runs (readBack consoleRuntime (consoleClient.networkPolicyDetail "home".toList .dnsPolicies "p1".toList))
      [⟨.free .elapsed, 29000⟩, ⟨.due (.send (recordAddress .get)), none⟩] .timedOut :=
    runs_readBack_iff.2 ⟨29000, _, rfl, Or.inr ⟨by decide, Or.inr ⟨[], _, _, rfl, .refl _, rfl⟩⟩⟩
  have hwrite : Runs (writeOnce consoleRuntime (fun site => consoleClient.networkPolicyDelete site .dnsPolicies "p1".toList)
      (recordDeleted consoleRuntime deletionPlan "p1".toList)) lateDeletion (.ok lateOutput) :=
    runs_writeOnce_iff.2 (Or.inr ⟨consoleSite, "home".toList, console_site, Or.inr ⟨[sent (recordAddress .delete) accepted],
      (200, []), _, lateOutput, rfl, .step (.refl _), runs_map_iff.2 ⟨.timedOut, hreadback, rfl⟩, rfl⟩⟩)
  exact runs_map_iff.2 ⟨.ok lateOutput, hwrite, rfl⟩

end UnifiMcp.Integration

import UnifiMcp.Mcp.NetworkServer
/-! # The calls under interleaving (unifi-mcp/src/handler.rs:202, 298)

Any number of `ToolCall`s come in; no more run at once than there are permits, and each may be dropped at any question.
They share the cell of the site identity: one call at a time holds its permit, and only a success is kept.

* `server_consistent` — what the cell and the calls know of each other, in every state of every run.
* `one_site`, `changes_confirmed`, `server_progress` — the results for all of them. -/
namespace UnifiMcp.Integration
open Text Dialogue Timed

/-! ## The cell -/

/-- `OnceCell<String>`: its value, and the call that holds the permit to fill it. -/
structure SiteCell where
  value : Option Text
  holder : Option Nat
deriving DecidableEq

/-- `get_or_try_init`: a kept value is read at once; the permit is given to one call while there is no value. -/
def SiteCell.serve (s : SiteCell) (index : Nat) : (q : Timed Ask) → Timed.Answer Ask.Reply q → Option SiteCell
  | .free .enter, some site => if s.value = some site then some s else none
  | .free .enter, none => if s.value = none ∧ s.holder = none then some { s with holder := some index } else none
  | .free (.fill site), _ => if s.holder = some index then some ⟨some site, none⟩ else none
  | .free .leave, _ => if s.holder = some index then some { s with holder := none } else none
  | _, _ => some s

/-- A dropped call gives its permit back. -/
def SiteCell.abandon (s : SiteCell) (index : Nat) : SiteCell := if s.holder = some index then { s with holder := none } else s

def cellService : Service (Timed Ask) (Timed.Answer Ask.Reply) SiteCell := ⟨⟨none, none⟩, SiteCell.serve, SiteCell.abandon⟩

abbrev NetworkCall := Pool.Call ToolCall (Timed Ask) (Timed.Answer Ask.Reply) (Except McpError ToolOutput)

abbrev Server := Pool ToolCall (Timed Ask) (Timed.Answer Ask.Reply) (Except McpError ToolOutput) SiteCell

/-- `call_tool` (handler.rs:298) over `room` permits, for these calls. -/
def server (rt : Runtime) (room : Nat) : Machine Server (Pool.Event ToolCall (Timed.Answer Ask.Reply)) :=
  Pool.machine cellService (ToolCall.run rt) room

theorem serve_of_not_isCell {s : SiteCell} {index : Nat} {q : Timed Ask} (a : Timed.Answer Ask.Reply q)
    (h : q.question.isCell = false) : s.serve index q a = some s := by
  rcases q with q | q
  · cases q with
    | enter => cases h
    | fill site => cases h
    | leave => cases h
    | send request => rfl
    | sleep delay => rfl
    | elapsed => rfl
  · rfl

/-! ## What the cell and the calls know of each other -/

structure Consistent (rt : Runtime) (s : Server) : Prop where
  own : Pool.OwnRuns (ToolCall.run rt) s
  settled : s.shared.value ≠ none → s.shared.holder = none
  inside : ∀ (i : Nat) (call : NetworkCall), s.calls[i]? = some call →
    ∀ site, place call.log = .inside site → s.shared.value = some site
  holding : ∀ (i : Nat) (call : NetworkCall), s.calls[i]? = some call →
    place call.log = .holding → call.dropped = false → s.shared.holder = some i
  holder : ∀ i, s.shared.holder = some i →
    ∃ call : NetworkCall, s.calls[i]? = some call ∧ call.dropped = false ∧ place call.log = .holding
  found : ∀ site, s.shared.value = some site →
    ∃ (i : Nat) (call : NetworkCall), s.calls[i]? = some call ∧ FoundBefore rt call.log site

section
variable {rt : Runtime} {room : Nat} {s t : Server}

/-- A question that waits obeys the rule of its call. -/
theorem obeys_of_own {call : NetworkCall} {q : Timed Ask} {more : Timed.Answer Ask.Reply q → Tool (Except McpError ToolOutput)}
    (hreach : Reaches (call.input.run rt) call.log call.rest) (hrest : call.rest = .ask q more) :
    Obeys rt call.input call.log q := by
  rw [hrest] at hreach
  exact ((guarded_run call.input).reaches hreach).here

theorem FoundBefore.snoc {log : ToolLog} {site : Text} (h : FoundBefore rt log site)
    (x : Exchange (Timed.Answer Ask.Reply)) : FoundBefore rt (log ++ [x]) site := by
  obtain ⟨scan, hscan, hfound⟩ := h
  exact ⟨scan, fun y hy => List.mem_append_left _ (hscan y hy), hfound⟩

/-- A call that goes on with an answer: what of the cell's invariant follows from the new cell and the new place. -/
theorem consistent_answer (h : Consistent rt s) {index : Nat} {call next : NetworkCall} {cell : SiteCell}
    (hcall : s.calls[index]? = some call) (hdropped : next.dropped = false)
    (hown : Reaches (next.input.run rt) next.log next.rest)
    (hgrown : ∀ site, FoundBefore rt call.log site → FoundBefore rt next.log site)
    (hsettled : cell.value ≠ none → cell.holder = none)
    (hvalue : ∀ site, s.shared.value = some site → cell.value = some site)
    (hinside : ∀ site, place next.log = .inside site → cell.value = some site)
    (hholding : place next.log = .holding → cell.holder = some index)
    (hothers : ∀ j, j ≠ index → (s.shared.holder = some j ↔ cell.holder = some j))
    (hholder : cell.holder = some index → place next.log = .holding)
    (hfound : ∀ site, cell.value = some site → s.shared.value = some site ∨ FoundBefore rt next.log site) :
    Consistent rt ⟨cell, s.calls.set index next⟩ := by
  have hlt : index < s.calls.length := (List.getElem?_eq_some_iff.1 hcall).1
  refine ⟨fun i other hother => ?_, hsettled, fun i other hother site hplace => ?_, fun i other hother hplace hlive => ?_,
    fun i hi => ?_, fun site hsite => ?_⟩
  · obtain ⟨-, rfl⟩ | ⟨-, hother⟩ := Pool.getElem?_set_some hother
    · exact hown
    · exact h.own i other hother
  · obtain ⟨-, rfl⟩ | ⟨-, hother⟩ := Pool.getElem?_set_some hother
    · exact hinside site hplace
    · exact hvalue site (h.inside i other hother site hplace)
  · obtain ⟨rfl, rfl⟩ | ⟨hne, hother⟩ := Pool.getElem?_set_some hother
    · exact hholding hplace
    · exact (hothers i hne).1 (h.holding i other hother hplace hlive)
  · by_cases hindex : i = index
    · subst hindex
      exact ⟨next, List.getElem?_set_self hlt, hdropped, hholder hi⟩
    · obtain ⟨other, hother, hlive⟩ := h.holder i ((hothers i hindex).2 hi)
      exact ⟨other, by rw [List.getElem?_set_ne (fun heq => hindex heq.symm), hother], hlive⟩
  · obtain hold | hnew := hfound site hsite
    · obtain ⟨i, other, hother, hbefore⟩ := h.found site hold
      by_cases hindex : i = index
      · subst hindex
        rw [hcall] at hother
        cases hother
        exact ⟨i, next, List.getElem?_set_self hlt, hgrown site hbefore⟩
      · exact ⟨i, other, by rw [List.getElem?_set_ne (fun heq => hindex heq.symm), hother], hbefore⟩
    · exact ⟨index, next, List.getElem?_set_self hlt, hnew⟩

theorem consistent_start (h : Consistent rt s) (input : ToolCall) :
    Consistent rt { s with calls := s.calls ++ [⟨input, [], input.run rt, false⟩] } := by
  have hkept : ∀ {i : Nat} {call : NetworkCall}, s.calls[i]? = some call →
      (s.calls ++ [(⟨input, [], input.run rt, false⟩ : NetworkCall)])[i]? = some call := by
    intro i call hcall
    rw [List.getElem?_append_left (List.getElem?_eq_some_iff.1 hcall).1, hcall]
  refine ⟨fun i call hcall => ?_, h.settled, fun i call hcall site hplace => ?_, fun i call hcall hplace hlive => ?_,
    fun i hi => ?_, fun site hsite => ?_⟩
  · obtain hcall | ⟨-, rfl⟩ := Pool.getElem?_snoc_some hcall
    · exact h.own i call hcall
    · exact .refl _
  · obtain hcall | ⟨-, rfl⟩ := Pool.getElem?_snoc_some hcall
    · exact h.inside i call hcall site hplace
    · cases hplace
  · obtain hcall | ⟨-, rfl⟩ := Pool.getElem?_snoc_some hcall
    · exact h.holding i call hcall hplace hlive
    · cases hplace
  · obtain ⟨call, hcall, hlive⟩ := h.holder i hi
    exact ⟨call, hkept hcall, hlive⟩
  · obtain ⟨i, call, hcall, hfound⟩ := h.found site hsite
    exact ⟨i, call, hkept hcall, hfound⟩

theorem abandon_value (cell : SiteCell) (index : Nat) : (cell.abandon index).value = cell.value := by
  unfold SiteCell.abandon
  split <;> rfl

/-- Only the permit of the dropped call is given back. -/
theorem abandon_holder {cell : SiteCell} {index j : Nat} : (cell.abandon index).holder = some j ↔
    cell.holder = some j ∧ j ≠ index := by
  unfold SiteCell.abandon
  by_cases h : cell.holder = some index
  · rw [if_pos h, h]
    simp only [Option.some.injEq, ne_eq]
    constructor
    · intro hnone
      cases hnone
    · rintro ⟨rfl, hne⟩
      exact absurd rfl hne
  · rw [if_neg h]
    refine ⟨fun hj => ⟨hj, ?_⟩, And.left⟩
    rintro rfl
    exact h hj

theorem consistent_drop (h : Consistent rt s) {index : Nat} {call : NetworkCall} (hcall : s.calls[index]? = some call) :
    Consistent rt ⟨s.shared.abandon index, s.calls.set index { call with dropped := true }⟩ := by
  have hlt : index < s.calls.length := (List.getElem?_eq_some_iff.1 hcall).1
  have hother : ∀ {i : Nat} {other : NetworkCall},
      (s.calls.set index { call with dropped := true })[i]? = some other →
      ∃ before, s.calls[i]? = some before ∧ before.log = other.log ∧ before.input = other.input ∧
        before.rest = other.rest ∧ (other.dropped = false → i ≠ index ∧ before = other) := by
    intro i other hi
    obtain ⟨rfl, rfl⟩ | ⟨hne, hi⟩ := Pool.getElem?_set_some hi
    · exact ⟨call, hcall, rfl, rfl, rfl, fun hfalse => (by cases hfalse)⟩
    · exact ⟨other, hi, rfl, rfl, rfl, fun _ => ⟨hne, rfl⟩⟩
  refine ⟨fun i other hi => ?_, fun hvalue => ?_, fun i other hi site hplace => ?_, fun i other hi hplace hlive => ?_,
    fun i hi => ?_, fun site hsite => ?_⟩
  · obtain ⟨before, hbefore, hlog, hinput, hrest, -⟩ := hother hi
    rw [← hlog, ← hinput, ← hrest]
    exact h.own i before hbefore
  · rw [abandon_value] at hvalue
    have hnone := h.settled hvalue
    unfold SiteCell.abandon
    split
    · rfl
    · exact hnone
  · obtain ⟨before, hbefore, hlog, -⟩ := hother hi
    rw [abandon_value]
    exact h.inside i before hbefore site (by rw [hlog, hplace])
  · obtain ⟨before, hbefore, -, -, -, hkept⟩ := hother hi
    obtain ⟨hne, rfl⟩ := hkept hlive
    exact abandon_holder.2 ⟨h.holding i before hbefore hplace hlive, hne⟩
  · obtain ⟨hheld, hne⟩ := abandon_holder.1 hi
    obtain ⟨other, hbefore, hlive⟩ := h.holder i hheld
    exact ⟨other, by rw [List.getElem?_set_ne (fun heq => hne heq.symm), hbefore], hlive⟩
  · rw [abandon_value] at hsite
    obtain ⟨i, other, hbefore, hfound⟩ := h.found site hsite
    by_cases hi : i = index
    · subst hi
      rw [hcall] at hbefore
      cases hbefore
      exact ⟨i, _, List.getElem?_set_self hlt, hfound⟩
    · exact ⟨i, other, by rw [List.getElem?_set_ne (fun heq => hi heq.symm), hbefore], hfound⟩

/-- An answer that the cell allows keeps the invariant: by the question it answers. -/
theorem consistent_serve (h : Consistent rt s) {index : Nat} {call : NetworkCall}
    {exchange : Exchange (Timed.Answer Ask.Reply)}
    {more : Timed.Answer Ask.Reply exchange.1 → Tool (Except McpError ToolOutput)} {cell : SiteCell}
    (hcall : s.calls[index]? = some call) (hdropped : call.dropped = false) (hrest : call.rest = .ask exchange.1 more)
    (hserve : s.shared.serve index exchange.1 exchange.2 = some cell) :
    Consistent rt ⟨cell, s.calls.set index { call with log := call.log ++ [exchange], rest := more exchange.2 }⟩ := by
  have hreach := h.own index call hcall
  have hobeys := obeys_of_own hreach hrest
  have hown : Reaches (call.input.run rt) (call.log ++ [exchange]) (more exchange.2) := by
    rw [hrest] at hreach
    exact hreach.snoc exchange.2
  have hgrown : ∀ site, FoundBefore rt call.log site → FoundBefore rt (call.log ++ [exchange]) site :=
    fun site hfound => hfound.snoc exchange
  have hplace := place_snoc call.log exchange
  by_cases hcell : exchange.1.question.isCell = true
  · obtain ⟨hq, houtside⟩ | ⟨hholds, hq | ⟨site, hq, hfound⟩⟩ := hobeys.cell hcell
    · rcases exchange with ⟨q, a⟩
      subst hq
      have hnot : s.shared.holder ≠ some index := by
        intro hheld
        obtain ⟨other, hother, -, hother'⟩ := h.holder index hheld
        rw [hcall] at hother
        cases hother
        rw [houtside] at hother'
        cases hother'
      cases a with
      | some site =>
        simp only [SiteCell.serve] at hserve
        split at hserve
        · rename_i hvalue
          cases hserve
          have hnew : place (call.log ++ [⟨.free .enter, some site⟩]) = .inside site := hplace
          refine consistent_answer h hcall hdropped hown hgrown h.settled (fun _ hv => hv) (fun site' hin => ?_)
            (fun hin => ?_) (fun _ _ => Iff.rfl) (fun hheld => absurd hheld hnot) fun _ hv => Or.inl hv
          · rw [hnew] at hin
            cases hin
            exact hvalue
          · rw [hnew] at hin
            cases hin
        · cases hserve
      | none =>
        simp only [SiteCell.serve] at hserve
        split at hserve
        · rename_i hfree
          cases hserve
          have hnew : place (call.log ++ [⟨.free .enter, none⟩]) = .holding := hplace
          refine consistent_answer h hcall hdropped hown hgrown (fun hv => absurd hfree.1 hv) (fun _ hv => hv)
            (fun site' hin => ?_) (fun _ => rfl) (fun j hj => ?_) (fun _ => hnew) fun _ hv => Or.inl hv
          · rw [hnew] at hin
            cases hin
          · rw [hfree.2]
            constructor
            · intro hnone
              cases hnone
            · intro hsome
              cases hsome
              exact absurd rfl hj
        · cases hserve
    all_goals
      have hheld : s.shared.holder = some index := h.holding index call hcall hholds hdropped
      have hempty : s.shared.value = none := by
        by_contra hvalue
        rw [h.settled hvalue] at hheld
        cases hheld
      have hothers : ∀ j, j ≠ index → (s.shared.holder = some j ↔ (none : Option Nat) = some j) := by
        intro j hj
        rw [hheld]
        exact iff_of_false (fun heq => hj (Option.some.inj heq).symm) fun hnone => (by cases hnone)
      rcases exchange with ⟨q, a⟩
      subst hq
      simp only [SiteCell.serve, if_pos hheld, Option.some.injEq] at hserve
      subst hserve
    · have hnew : place (call.log ++ [⟨.free .leave, a⟩]) = .outside := hplace
      refine consistent_answer h hcall hdropped hown hgrown (fun _ => rfl) (fun _ hv => hv) (fun site' hin => ?_)
        (fun hin => ?_) hothers (fun hnone => (by cases hnone)) fun _ hv => Or.inl hv
      · rw [hnew] at hin
        cases hin
      · rw [hnew] at hin
        cases hin
    · have hnew : place (call.log ++ [⟨.free (.fill site), a⟩]) = .inside site := hplace
      refine consistent_answer h hcall hdropped hown hgrown (fun _ => rfl) (fun site' hv => ?_) (fun site' hin => ?_)
        (fun hin => ?_) hothers (fun hnone => (by cases hnone)) fun site' hv => ?_
      · rw [hempty] at hv
        cases hv
      · rw [hnew] at hin
        cases hin
        rfl
      · rw [hnew] at hin
        cases hin
      · cases hv
        exact Or.inr (hgrown site hfound)
  · have hquiet : exchange.1.question.isCell = false := by simpa using hcell
    rw [serve_of_not_isCell exchange.2 hquiet] at hserve
    cases hserve
    rw [after_of_not_isCell hquiet] at hplace
    refine consistent_answer h hcall hdropped hown hgrown h.settled (fun _ hv => hv) (fun site hin => ?_) (fun hin => ?_)
      (fun _ _ => Iff.rfl) (fun hheld => ?_) fun _ hv => Or.inl hv
    · exact h.inside index call hcall site (by rw [← hplace, hin])
    · exact h.holding index call hcall (by rw [← hplace, hin]) hdropped
    · obtain ⟨other, hother, -, hholds⟩ := h.holder index hheld
      rw [hcall] at hother
      cases hother
      rw [hplace, hholds]

/-- **The cell and the calls agree in every state of every run.** -/
theorem server_consistent {es : List (Pool.Event ToolCall (Timed.Answer Ask.Reply))} (h : (server rt room).Reaches es s) :
    Consistent rt s := by
  refine (server rt room).run_invariant (I := Consistent rt) ?_ ?_ h
  · refine ⟨fun i call hcall => (by cases hcall), fun _ => rfl, fun i call hcall => (by cases hcall),
      fun i call hcall => (by cases hcall), fun i hi => (by cases hi), fun site hsite => (by cases hsite)⟩
  · intro s event t hs hstep
    obtain ⟨input, -, -, rfl⟩ | ⟨index, exchange, call, more, cell, -, hcall, hdropped, hrest, hserve, rfl⟩ |
      ⟨index, call, -, hcall, -, rfl⟩ := Pool.step_cases hstep
    · exact consistent_start hs input
    · exact consistent_serve hs hcall hdropped hrest hserve
    · exact consistent_drop hs hcall

/-! ## A deletion beside a revocation -/

def revocation : ToolCall := .vouchersRevoke "v1".toList false

def bothStarted : Server := ⟨⟨none, none⟩,
  [⟨deletion, [], deletion.run consoleRuntime, false⟩, ⟨revocation, [], revocation.run consoleRuntime, false⟩]⟩

theorem bothStarted_reached : (server consoleRuntime 2).Reaches [.start deletion, .start revocation] bothStarted := rfl

/-- The deletion goes on beside the revocation. -/
theorem bothStarted_answered {log : ToolLog} {rest : Tool (Except McpError ToolOutput)} {cell : SiteCell}
    (hd : Reaches (deletion.run consoleRuntime) log rest) (hserves : Pool.serves cellService Nat.zero ⟨none, none⟩ log = some cell) :
    (server consoleRuntime 2).Reaches ([.start deletion, .start revocation] ++ log.map (.answer Nat.zero))
      ⟨cell, [⟨deletion, log, rest, false⟩, ⟨revocation, [], revocation.run consoleRuntime, false⟩]⟩ := by
  have hcall : bothStarted.calls[Nat.zero]? = some ⟨deletion, [], deletion.run consoleRuntime, false⟩ := rfl
  rw [Machine.Reaches, Machine.runFrom_append, bothStarted_reached]
  exact Pool.runFrom_answers hcall rfl hd hserves

/-- The deletion is over, the revocation waits at the cell. -/
def deleted : Server := ⟨⟨some "home".toList, none⟩,
  [⟨deletion, lateDeletion, .done (.ok (.policy lateOutput)), false⟩, ⟨revocation, [], revocation.run consoleRuntime, false⟩]⟩

theorem deleted_reached : (server consoleRuntime 2).Reaches
    ([.start deletion, .start revocation] ++ lateDeletion.map (.answer Nat.zero)) deleted :=
  bothStarted_answered late_deletion rfl

/-! ## One site for all -/

/-- The call has put the request, also when it was dropped before the answer. -/
def Sends (call : NetworkCall) (request : Request) : Prop :=
  ∃ q ∈ asked call.log call.rest, q.question = .send request

/-- **All calls of a run work on one site**: besides the catalog, every request ever put goes to the site in the cell,
and that site is one which a page of the catalog named to some call. -/
theorem one_site {es : List (Pool.Event ToolCall (Timed.Answer Ask.Reply))} (h : (server rt room).Reaches es s) :
    (∀ call ∈ s.calls, ∀ request, Sends call request → OnCatalog rt.integration request) ∨
    ∃ site, s.shared.value = some site ∧ (∃ call ∈ s.calls, FoundBefore rt call.log site) ∧
      ∀ call ∈ s.calls, ∀ request, Sends call request →
        OnCatalog rt.integration request ∨ OnSite rt.integration site request := by
  have hconsistent := server_consistent h
  have haddressed : ∀ call ∈ s.calls, ∀ request, Sends call request → OnCatalog rt.integration request ∨
      ∃ site, s.shared.value = some site ∧ OnSite rt.integration site request := by
    rintro call hcall request ⟨q, hq, hrequest⟩
    obtain ⟨i, hi⟩ := List.mem_iff_getElem?.1 hcall
    obtain hcatalog | ⟨site, hplace, hsite⟩ := (run_asked (Pool.calls_reach h i call hi) hq).2 request hrequest
    · exact Or.inl hcatalog
    · exact Or.inr ⟨site, hconsistent.inside i call hi site hplace, hsite⟩
  cases hvalue : s.shared.value with
  | none =>
    left
    intro call hcall request hsends
    obtain hcatalog | ⟨site, hsome, -⟩ := haddressed call hcall request hsends
    · exact hcatalog
    · rw [hvalue] at hsome
      cases hsome
  | some site =>
    obtain ⟨i, call, hi, hfound⟩ := hconsistent.found site hvalue
    refine Or.inr ⟨site, rfl, ⟨call, List.mem_iff_getElem?.2 ⟨i, hi⟩, hfound⟩, fun call hcall request hsends => ?_⟩
    obtain hcatalog | ⟨other, hsome, hsite⟩ := haddressed call hcall request hsends
    · exact Or.inl hcatalog
    · rw [hvalue] at hsome
      cases hsome
      exact Or.inr hsite

theorem one_site_deleted :
    (∀ call ∈ deleted.calls, ∀ request, Sends call request → OnCatalog consoleClient request) ∨
    ∃ site, deleted.shared.value = some site ∧ (∃ call ∈ deleted.calls, FoundBefore consoleRuntime call.log site) ∧
      ∀ call ∈ deleted.calls, ∀ request, Sends call request → OnCatalog consoleClient request ∨ OnSite consoleClient site request :=
  one_site deleted_reached

/-! ## Changes -/

/-- The changes a call has put on the wire. -/
def changes (call : NetworkCall) : List Request := (asked call.log call.rest).filterMap fun q => q.question.mutation

theorem length_changes (call : NetworkCall) :
    (changes call).length = ((asked call.log call.rest).filter fun q => q.question.isMutation).length := by
  rw [changes, List.length_filterMap_eq_countP, List.countP_eq_length_filter]
  rfl

/-- **A call changes the controller at most once, only when confirmed, and by the request it is for** on the site in the
cell, however the calls interleave and wherever they are dropped. -/
theorem changes_confirmed {es : List (Pool.Event ToolCall (Timed.Answer Ask.Reply))} (h : (server rt room).Reaches es s)
    {call : NetworkCall} (hcall : call ∈ s.calls) :
    changes call = [] ∨ ∃ site request, changes call = [request] ∧ call.input.confirmed = true ∧
      s.shared.value = some site ∧ call.input.mutation rt.integration site = some request := by
  have hconsistent := server_consistent h
  obtain ⟨i, hi⟩ := List.mem_iff_getElem?.1 hcall
  have hreach := Pool.calls_reach h i call hi
  have honce : (changes call).length ≤ 1 := by
    rw [length_changes]
    exact run_changes_once hreach
  cases hchanges : changes call with
  | nil => exact Or.inl rfl
  | cons request more =>
    rw [hchanges, List.length_cons] at honce
    obtain rfl : more = [] := List.length_eq_zero_iff.1 (by omega)
    have hmem : request ∈ changes call := by
      rw [hchanges]
      exact List.mem_singleton_self request
    obtain ⟨q, hq, hrequest⟩ := List.mem_filterMap.1 hmem
    obtain ⟨-, hconfirmed, site, hplace, hmutation⟩ := (run_asked hreach hq).1 request hrequest
    exact Or.inr ⟨site, request, rfl, hconfirmed, hconsistent.inside i call hi site hplace, hmutation⟩

theorem changes_confirmed_deleted : ∃ call ∈ deleted.calls, changes call ≠ [] ∧ (changes call = [] ∨
    ∃ site request, changes call = [request] ∧ call.input.confirmed = true ∧ deleted.shared.value = some site ∧
      call.input.mutation consoleClient site = some request) :=
  ⟨_, List.mem_cons_self, by decide, changes_confirmed deleted_reached List.mem_cons_self⟩

/-! ## No call waits for ever -/

/-- The world can answer the question that call `i` waits at. -/
def CanAnswer (rt : Runtime) (room : Nat) (s : Server) (i : Nat) : Prop :=
  ∃ exchange t, (server rt room).step s (.answer i exchange) = some t

theorem canAnswer_of_serve {i : Nat} {call : NetworkCall} {q : Timed Ask}
    {more : Timed.Answer Ask.Reply q → Tool (Except McpError ToolOutput)} (hcall : s.calls[i]? = some call)
    (hdropped : call.dropped = false) (hrest : call.rest = .ask q more) {a : Timed.Answer Ask.Reply q} {cell : SiteCell}
    (hserve : s.shared.serve i q a = some cell) : CanAnswer rt room s i :=
  ⟨⟨q, a⟩, _, Pool.step_answer hcall hdropped hrest hserve⟩

/-- Every question but those to the cell can be answered at once. -/
theorem exists_reply {q : Timed Ask} (hq : q.question.isCell = false) : Nonempty (Timed.Answer Ask.Reply q) := by
  rcases q with q | q
  · cases q with
    | send request => exact ⟨.failed []⟩
    | sleep delay => exact ⟨()⟩
    | elapsed => exact ⟨Nat.zero⟩
    | enter => cases hq
    | fill site => cases hq
    | leave => cases hq
  · exact ⟨none⟩

/-- A call is over at once, or starts with the site. -/
def StartsAtSite (rt : Runtime) {α : Type} (d : Tool (Except McpError α)) : Prop :=
  (∃ r, d = .done r) ∨ ∃ f, d = (siteId rt.integration rt.legacySite).untimed.tryBind f

theorem StartsAtSite.map {α β : Type} {d : Tool (Except McpError α)} (h : StartsAtSite rt d) (g : α → β) :
    StartsAtSite rt (d.map (·.map g)) := by
  obtain ⟨r, rfl⟩ | ⟨f, rfl⟩ := h
  · exact Or.inl ⟨_, rfl⟩
  · refine Or.inr ⟨fun site => (f site).map (·.map g), ?_⟩
    rw [Dialogue.map, tryBind, bind_assoc, tryBind]
    congr 1
    funext answer
    cases answer <;> rfl

theorem startsAtSite_order {kind : OrderKind} {requested : Json} {replace : Text → Talk (Except ApiError (Json × Nat × Bytes))}
    {read : Text → Talk (Except ApiError Json)} {confirm : Bool} :
    StartsAtSite rt (orderConfigure rt kind requested replace read confirm) := by
  rw [orderConfigure]
  split
  · exact Or.inl ⟨_, rfl⟩
  · cases confirm
    · exact Or.inl ⟨_, rfl⟩
    · exact Or.inr ⟨_, rfl⟩

theorem startsAtSite_run (call : ToolCall) : StartsAtSite rt (call.run rt) := by
  cases call with
  | policyWrite plan =>
    refine StartsAtSite.map ?_ _
    rw [networkPolicyWrite]
    split
    · exact Or.inl ⟨_, rfl⟩
    · split <;> exact Or.inr ⟨_, rfl⟩
  | aclOrder ids confirm => exact startsAtSite_order.map _
  | firewallOrder before after confirm => exact startsAtSite_order.map _
  | vouchersCreate input =>
    refine StartsAtSite.map ?_ _
    rw [Integration.vouchersCreate]
    split
    · exact Or.inl ⟨_, rfl⟩
    · split
      · exact Or.inl ⟨_, rfl⟩
      · split
        · exact Or.inl ⟨_, rfl⟩
        · exact Or.inr ⟨_, rfl⟩
  | vouchersRevoke voucher confirm =>
    refine StartsAtSite.map ?_ _
    rw [Integration.vouchersRevoke]
    split
    · exact Or.inl ⟨_, rfl⟩
    · exact Or.inr ⟨_, rfl⟩
  | vouchersRevokeMatching input =>
    refine StartsAtSite.map ?_ _
    rw [Integration.vouchersRevokeMatching]
    split
    · exact Or.inl ⟨_, rfl⟩
    · exact Or.inr ⟨_, rfl⟩

/-- A scan that failed has given the permit back. -/
theorem place_of_error {log : ToolLog} {error : McpError}
    (h : Runs (siteId rt.integration rt.legacySite).untimed log (.error error)) : place log = .outside := by
  obtain ⟨plain, rfl, hplain⟩ := runs_untimed_iff.1 h
  obtain ⟨first, rest, kept, rfl, henter, hrest⟩ := runs_bind_iff.1 hplain
  cases kept with
  | some site => cases (runs_done_iff.1 hrest).2
  | none =>
    obtain ⟨scan, last, found, rfl, -, hlast⟩ := runs_bind_iff.1 hrest
    cases found with
    | ok site =>
      obtain ⟨fill, done, -, rfl, -, hdone⟩ := runs_bind_iff.1 hlast
      cases (runs_done_iff.1 hdone).2
    | error failed =>
      obtain ⟨leave, done, _, rfl, hleave, hdone⟩ := runs_bind_iff.1 hlast
      obtain rfl := runs_put_iff.1 hleave
      obtain ⟨rfl, -⟩ := runs_done_iff.1 hdone
      rw [List.append_nil, ← List.append_assoc, List.map_append, List.map_singleton, place_snoc]
      rfl

/-- A call that is over does not hold the permit. -/
theorem place_of_finished {input : ToolCall} {log : ToolLog} {r : Except McpError ToolOutput}
    (h : Runs (input.run rt) log r) : place log ≠ .holding := by
  intro hholding
  obtain ⟨r', hdone⟩ | ⟨f, hsite⟩ := @startsAtSite_run rt input
  · rw [hdone] at h
    obtain ⟨rfl, -⟩ := runs_done_iff.1 h
    cases hholding
  · have hguarded := @guarded_run rt input
    rw [hsite] at h hguarded
    obtain ⟨error, herror, -⟩ | ⟨first, rest, site, rfl, hfirst, hrest⟩ := runs_tryBind_iff.1 h
    · rw [place_of_error herror] at hholding
      cases hholding
    · have hreach : Reaches ((siteId rt.integration rt.legacySite).untimed.tryBind f) first (f site) :=
        reaches_bind_iff.2 (Or.inr ⟨first, [], .ok site, (List.append_nil first).symm, hfirst, .refl _⟩)
      have hstays := inside_stays (hguarded.reaches hreach) (settled_siteId hfirst).1 hrest
      rw [List.nil_append, hholding] at hstays
      cases hstays

/-- The holder of the permit never waits for the cell. -/
theorem canAnswer_of_holder (h : Consistent rt s) {j : Nat} (hj : s.shared.holder = some j) :
    (∃ call : NetworkCall, s.calls[j]? = some call ∧ call.running = true) ∧ CanAnswer rt room s j := by
  obtain ⟨call, hcall, hdropped, hholding⟩ := h.holder j hj
  have hreach := h.own j call hcall
  cases hrest : call.rest with
  | done r =>
    rw [hrest] at hreach
    exact absurd hholding (place_of_finished hreach)
  | ask q more =>
    refine ⟨⟨call, hcall, by simp [Pool.Call.running, hdropped, hrest, pending]⟩, ?_⟩
    by_cases hcell : q.question.isCell = true
    · obtain ⟨-, houtside⟩ | ⟨-, rfl | ⟨site, rfl, -⟩⟩ := (obeys_of_own hreach hrest).cell hcell
      · rw [hholding] at houtside
        cases houtside
      · exact canAnswer_of_serve hcall hdropped hrest (a := ()) (if_pos hj)
      · exact canAnswer_of_serve hcall hdropped hrest (a := ()) (if_pos hj)
    · have hquiet : q.question.isCell = false := by simpa using hcell
      obtain ⟨a⟩ := exists_reply hquiet
      exact canAnswer_of_serve hcall hdropped hrest (serve_of_not_isCell a hquiet)

/-- **No call waits for ever on another**: no more run than there is room for, and a running call can be answered, or it
waits at the cell while the call that scans for all of them runs and can be answered. -/
theorem server_progress {es : List (Pool.Event ToolCall (Timed.Answer Ask.Reply))} (h : (server rt room).Reaches es s) :
    s.running ≤ room ∧ ∀ (i : Nat) (call : NetworkCall), s.calls[i]? = some call → call.running = true →
      CanAnswer rt room s i ∨ (call.rest.pending = some (.free .enter) ∧
        ∃ (j : Nat) (scanning : NetworkCall), j ≠ i ∧ s.shared.holder = some j ∧ s.calls[j]? = some scanning ∧
          scanning.running = true ∧ CanAnswer rt room s j) := by
  have hconsistent := server_consistent h
  refine ⟨Pool.running_le h, fun i call hcall hrunning => ?_⟩
  obtain ⟨hdropped, hpending⟩ : call.dropped = false ∧ call.rest.pending.isSome = true := by
    simpa [Pool.Call.running] using hrunning
  cases hrest : call.rest with
  | done r =>
    rw [hrest] at hpending
    cases hpending
  | ask q more =>
    have hobeys := obeys_of_own (Pool.calls_reach h i call hcall) hrest
    by_cases hcell : q.question.isCell = true
    · obtain ⟨rfl, houtside⟩ | ⟨hholding, -⟩ := hobeys.cell hcell
      · cases hvalue : s.shared.value with
        | some site =>
          exact Or.inl (canAnswer_of_serve hcall hdropped hrest (a := some site) (if_pos hvalue))
        | none =>
          cases hholder : s.shared.holder with
          | none =>
            exact Or.inl (canAnswer_of_serve hcall hdropped hrest (a := none) (if_pos ⟨hvalue, hholder⟩))
          | some j =>
            obtain ⟨⟨scanning, hscanning, hlive⟩, hcan⟩ := @canAnswer_of_holder rt room s hconsistent j hholder
            refine Or.inr ⟨rfl, j, scanning, ?_, rfl, hscanning, hlive, hcan⟩
            rintro rfl
            obtain ⟨other, hother, -, hholding⟩ := hconsistent.holder j hholder
            rw [hcall] at hother
            cases hother
            rw [houtside] at hholding
            cases hholding
      · exact Or.inl (canAnswer_of_holder hconsistent (hconsistent.holding i call hcall hholding hdropped)).2
    · have hquiet : q.question.isCell = false := by simpa using hcell
      obtain ⟨a⟩ := exists_reply hquiet
      exact Or.inl (canAnswer_of_serve hcall hdropped hrest (serve_of_not_isCell a hquiet))

/-- The deletion holds the permit, the revocation waits at the cell. -/
theorem server_progress_waiting : ∃ s : Server, s.shared.holder = some Nat.zero ∧
    (s.running ≤ 2 ∧ ∀ (i : Nat) (call : NetworkCall), s.calls[i]? = some call → call.running = true →
      CanAnswer consoleRuntime 2 s i ∨ (call.rest.pending = some (.free .enter) ∧
        ∃ (j : Nat) (scanning : NetworkCall), j ≠ i ∧ s.shared.holder = some j ∧ s.calls[j]? = some scanning ∧
          scanning.running = true ∧ CanAnswer consoleRuntime 2 s j)) := by
  have hscanning : ∃ rest, Reaches (deletion.run consoleRuntime) [⟨.free .enter, none⟩] rest := ⟨_, .step (.refl _)⟩
  obtain ⟨rest, hrest⟩ := hscanning
  exact ⟨_, rfl, server_progress (bothStarted_answered hrest rfl)⟩

end

end UnifiMcp.Integration

import UnifiMcp.Lib.Dialogue
import UnifiMcp.Lib.Machine
/-!
# Pools of dialogues

Calls run side by side, each a dialogue started from its input, over one shared state. An answer may read and change
that state, and is held back while the state does not allow it. A call may be dropped at any question. No more calls
run than the pool has room for.

* `step_cases` — all an event can do.
* `calls_reach` — **each call's own log is a run of its own dialogue**, however the calls interleave.
* `running_le` — the room is kept.
* `runFrom_answers` — **the pool refuses no run of a call that its service allows**.
-/

universe u v w x y

open Dialogue

/-- A shared state that answers questions: the state behind an answer, or none while that answer cannot be given; and
the state behind a call that goes away. -/
structure Service (Q : Type u) (A : Q → Type v) (σ : Type w) where
  init : σ
  serve : σ → Nat → (question : Q) → A question → Option σ
  abandon : σ → Nat → σ

/-- One call: what it was started with, what it exchanged, and how it goes on. -/
structure Pool.Call (κ : Type x) (Q : Type u) (A : Q → Type v) (ρ : Type y) where
  input : κ
  log : List (Exchange A)
  rest : Dialogue Q A ρ
  dropped : Bool

/-- Neither finished nor dropped. -/
def Pool.Call.running {κ : Type x} {Q : Type u} {A : Q → Type v} {ρ : Type y} (call : Pool.Call κ Q A ρ) : Bool :=
  !call.dropped && call.rest.pending.isSome

structure Pool (κ : Type x) (Q : Type u) (A : Q → Type v) (ρ : Type y) (σ : Type w) where
  shared : σ
  calls : List (Pool.Call κ Q A ρ)

namespace Pool

variable {κ : Type x} {Q : Type u} {A : Q → Type v} {ρ : Type y} {σ : Type w}

inductive Event (κ : Type x) (A : Q → Type v) where
  | start (input : κ)
  | answer (index : Nat) (exchange : Exchange A)
  | drop (index : Nat)

def running (s : Pool κ Q A ρ σ) : Nat := (s.calls.filter Call.running).length

/-- A call goes on with an answer. -/
def Call.resume [DecidableEq Q] (call : Call κ Q A ρ) (exchange : Exchange A) : Option (Call κ Q A ρ) :=
  match call.rest with
  | .done _ => none
  | .ask question next =>
    if h : exchange.1 = question then
      some { call with log := call.log ++ [exchange], rest := next (h ▸ exchange.2) }
    else none

section
variable [DecidableEq Q] (service : Service Q A σ) (program : κ → Dialogue Q A ρ) (room : Nat)

def step (s : Pool κ Q A ρ σ) : Event κ A → Option (Pool κ Q A ρ σ)
  | .start input =>
    if s.running < room then some { s with calls := s.calls ++ [⟨input, [], program input, false⟩] } else none
  | .answer index exchange =>
    (s.calls[index]?).bind fun call =>
      if call.dropped then none
      else (Call.resume call exchange).bind fun next =>
        (service.serve s.shared index exchange.1 exchange.2).map fun shared => ⟨shared, s.calls.set index next⟩
  | .drop index =>
    (s.calls[index]?).bind fun call =>
      if call.running then
        some ⟨service.abandon s.shared index, s.calls.set index { call with dropped := true }⟩
      else none

/-- The pool as a machine. -/
def machine : Machine (Pool κ Q A ρ σ) (Event κ A) := ⟨⟨service.init, []⟩, step service program room⟩

end

theorem getElem?_set_some {calls : List (Call κ Q A ρ)} {index other : Nat} {next call : Call κ Q A ρ}
    (h : (calls.set index next)[other]? = some call) :
    (other = index ∧ call = next) ∨ (other ≠ index ∧ calls[other]? = some call) := by
  rw [List.getElem?_set] at h
  split at h
  · rename_i heq
    split at h
    · exact Or.inl ⟨heq.symm, (Option.some.inj h).symm⟩
    · cases h
  · rename_i hne
    exact Or.inr ⟨fun heq => hne heq.symm, h⟩

theorem getElem?_snoc_some {calls : List (Call κ Q A ρ)} {index : Nat} {last call : Call κ Q A ρ}
    (h : (calls ++ [last])[index]? = some call) :
    calls[index]? = some call ∨ (index = calls.length ∧ call = last) := by
  rw [List.getElem?_append] at h
  split at h
  · exact Or.inl h
  · rename_i hlen
    cases hindex : index - calls.length with
    | zero =>
      rw [hindex] at h
      exact Or.inr ⟨by omega, (Option.some.inj h).symm⟩
    | succ n =>
      rw [hindex] at h
      cases h

theorem filter_set_le {calls : List (Call κ Q A ρ)} {index : Nat} {call next : Call κ Q A ρ}
    (hcall : calls[index]? = some call) (hrunning : call.running = true) :
    ((calls.set index next).filter Call.running).length ≤ (calls.filter Call.running).length := by
  induction calls generalizing index with
  | nil => cases hcall
  | cons head tail ih =>
    cases index with
    | zero =>
      cases hcall
      rw [List.set_cons_zero, List.filter_cons, List.filter_cons, if_pos hrunning]
      split
      · simp
      · simp
    | succ index =>
      rw [List.set_cons_succ, List.filter_cons, List.filter_cons]
      split
      · simpa using ih hcall
      · exact ih hcall

theorem resume_eq_some [DecidableEq Q] {call next : Call κ Q A ρ} {exchange : Exchange A}
    (h : Call.resume call exchange = some next) : ∃ more, call.rest = .ask exchange.1 more ∧
      next = { call with log := call.log ++ [exchange], rest := more exchange.2 } := by
  unfold Call.resume at h
  split at h
  · cases h
  · rename_i question more hrest
    split at h
    · rename_i heq
      subst heq
      exact ⟨more, hrest, (Option.some.inj h).symm⟩
    · cases h

section
variable [DecidableEq Q] {service : Service Q A σ} {program : κ → Dialogue Q A ρ} {room : Nat}
  {s t : Pool κ Q A ρ σ}

/-- The log of each call is a run of its dialogue so far. -/
def OwnRuns (program : κ → Dialogue Q A ρ) (s : Pool κ Q A ρ σ) : Prop :=
  ∀ (index : Nat) (call : Call κ Q A ρ), s.calls[index]? = some call → Reaches (program call.input) call.log call.rest

/-- **All an event can do**: start a call, let one go on with an answer, or drop one. -/
theorem step_cases {event : Event κ A} (h : step service program room s event = some t) :
    (∃ input, event = .start input ∧ s.running < room ∧
      t = { s with calls := s.calls ++ [⟨input, [], program input, false⟩] }) ∨
    (∃ (index : Nat) (exchange : Exchange A) (call : Call κ Q A ρ) (more : A exchange.1 → Dialogue Q A ρ) (shared : σ),
      event = .answer index exchange ∧
      s.calls[index]? = some call ∧ call.dropped = false ∧ call.rest = .ask exchange.1 more ∧
      service.serve s.shared index exchange.1 exchange.2 = some shared ∧
      t = ⟨shared, s.calls.set index { call with log := call.log ++ [exchange], rest := more exchange.2 }⟩) ∨
    ∃ index call, event = .drop index ∧ s.calls[index]? = some call ∧ call.running = true ∧
      t = ⟨service.abandon s.shared index, s.calls.set index { call with dropped := true }⟩ := by
  cases event with
  | start input =>
    simp only [step] at h
    split at h
    · exact Or.inl ⟨input, rfl, by assumption, (Option.some.inj h).symm⟩
    · cases h
  | answer index exchange =>
    obtain ⟨call, hcall, h⟩ := Option.bind_eq_some_iff.1 h
    split at h
    · cases h
    · rename_i hdropped
      obtain ⟨next, hnext, h⟩ := Option.bind_eq_some_iff.1 h
      obtain ⟨shared, hshared, rfl⟩ := Option.map_eq_some_iff.1 h
      obtain ⟨more, hmore, rfl⟩ := resume_eq_some hnext
      exact Or.inr (Or.inl ⟨index, exchange, call, more, shared, rfl, hcall, by simpa using hdropped, hmore, hshared, rfl⟩)
  | drop index =>
    obtain ⟨call, hcall, h⟩ := Option.bind_eq_some_iff.1 h
    split at h
    · exact Or.inr (Or.inr ⟨index, call, rfl, hcall, by assumption, (Option.some.inj h).symm⟩)
    · cases h

/-- **Each call's own log is a run of its own dialogue**, however the calls interleave. -/
theorem calls_reach {es : List (Event κ A)} (h : (machine service program room).Reaches es s) : OwnRuns program s := by
  refine (machine service program room).run_invariant (I := OwnRuns program) ?_ ?_ h
  · intro index call hcall
    cases hcall
  · intro s event t hs hstep index call hcall
    obtain ⟨input, -, -, rfl⟩ | ⟨i, exchange, old, more, shared, -, hold, -, hrest, -, rfl⟩ |
      ⟨i, old, -, hold, -, rfl⟩ := step_cases hstep
    · obtain hcall | ⟨-, rfl⟩ := getElem?_snoc_some hcall
      · exact hs index call hcall
      · exact .refl _
    · obtain ⟨-, rfl⟩ | ⟨-, hcall⟩ := getElem?_set_some hcall
      · have hold := hs i old hold
        rw [hrest] at hold
        exact hold.snoc exchange.2
      · exact hs index call hcall
    · obtain ⟨-, rfl⟩ | ⟨-, hcall⟩ := getElem?_set_some hcall
      · exact hs i old hold
      · exact hs index call hcall

/-- **Never more calls run than there is room for.** -/
theorem running_le {es : List (Event κ A)} (h : (machine service program room).Reaches es s) : s.running ≤ room := by
  refine (machine service program room).run_invariant (I := fun s => s.running ≤ room) (Nat.zero_le _) ?_ h
  intro s event t hs hstep
  obtain ⟨input, -, hroom, rfl⟩ | ⟨i, exchange, old, more, shared, -, hold, hdropped, hrest, -, rfl⟩ |
    ⟨i, old, -, hold, hrunning, rfl⟩ := step_cases hstep
  · simp only [running, List.filter_append, List.length_append] at hroom ⊢
    have hone := List.length_filter_le Call.running [(⟨input, [], program input, false⟩ : Call κ Q A ρ)]
    simp only [List.length_singleton] at hone
    omega
  · have hrunning : old.running = true := by simp [Call.running, hdropped, hrest, pending]
    exact Nat.le_trans (filter_set_le hold hrunning) hs
  · exact Nat.le_trans (filter_set_le hold hrunning) hs

/-- An answer that the service allows. -/
theorem step_answer {index : Nat} {call : Call κ Q A ρ} {q : Q} {more : A q → Dialogue Q A ρ} {a : A q} {shared : σ}
    (hcall : s.calls[index]? = some call) (hdropped : call.dropped = false) (hrest : call.rest = .ask q more)
    (hserve : service.serve s.shared index q a = some shared) :
    (machine service program room).step s (.answer index ⟨q, a⟩) =
      some ⟨shared, s.calls.set index { call with log := call.log ++ [⟨q, a⟩], rest := more a }⟩ := by
  have hresume : Call.resume call ⟨q, a⟩ = some { call with log := call.log ++ [⟨q, a⟩], rest := more a } := by
    rw [Call.resume, hrest]
    simp
  simp only [machine, step, hcall, Option.bind_some, hdropped, hresume, hserve]
  rfl

/-- The service allows the answers of one call, one after the other. -/
def serves (service : Service Q A σ) (index : Nat) : σ → List (Exchange A) → Option σ
  | shared, [] => some shared
  | shared, x :: log => (service.serve shared index x.1 x.2).bind fun next => serves service index next log

/-- **The pool refuses no run of a call that its service allows.** -/
theorem runFrom_answers {index : Nat} {call : Call κ Q A ρ} {log : List (Exchange A)} {rest : Dialogue Q A ρ} {shared : σ}
    (hcall : s.calls[index]? = some call) (hdropped : call.dropped = false) (hd : Reaches call.rest log rest)
    (hserves : serves service index s.shared log = some shared) :
    (machine service program room).runFrom s (log.map (Event.answer index)) =
      some ⟨shared, s.calls.set index { call with log := call.log ++ log, rest }⟩ := by
  generalize hrest : call.rest = d at hd
  induction hd generalizing s call with
  | refl d =>
    cases hserves
    subst hrest
    rw [List.map_nil, Machine.runFrom_nil, List.append_nil, ← (List.getElem?_eq_some_iff.1 hcall).2, List.set_getElem_self]
  | @step q next a log e hd ih =>
    obtain ⟨mid, hmid, hserves⟩ := Option.bind_eq_some_iff.1 hserves
    have hstep : (machine service program room).step s (.answer index ⟨q, a⟩) =
        some ⟨mid, s.calls.set index { call with log := call.log ++ [⟨q, a⟩], rest := next a }⟩ :=
      step_answer hcall hdropped hrest hmid
    have hlt : index < s.calls.length := (List.getElem?_eq_some_iff.1 hcall).1
    have hgo := @ih ⟨mid, s.calls.set index { call with log := call.log ++ [⟨q, a⟩], rest := next a }⟩ _
      (List.getElem?_set_self hlt) hdropped hserves rfl
    rw [List.map_cons, Machine.runFrom_cons, hstep, Option.bind_some, hgo, List.set_set]
    simp

end

end Pool

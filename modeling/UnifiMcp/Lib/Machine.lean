/-!
# Guarded machines and their runs

A machine is an executable step function: `step s e = some t` when event `e` is enabled in
state `s` and leads to `t`, `none` when it is not. One definition serves to replay a concrete
run and to prove invariants over every run.

* `run_append` — a run splits at any point, so every state on the way is itself reached.
* `run_invariant` — what the initial state has and every step keeps, every run keeps.
* `run_invariant_along` — the same for the runs whose steps all meet a condition.
-/

universe u v

/-- A state machine over states `σ` and events `ε`. -/
structure Machine (σ : Type u) (ε : Type v) where
  init : σ
  step : σ → ε → Option σ

namespace Machine

variable {σ : Type u} {ε : Type v} (m : Machine σ ε)

/-- Replay `es` from `s`; `none` as soon as an event is not enabled. -/
def runFrom (s : σ) : List ε → Option σ
  | [] => some s
  | e :: es => (m.step s e).bind fun t => runFrom t es

/-- `s` is reached from the initial state by the events `es`. -/
def Reaches (es : List ε) (s : σ) : Prop := m.runFrom m.init es = some s

@[simp] theorem runFrom_nil (s : σ) : m.runFrom s [] = some s := rfl

theorem runFrom_cons (s : σ) (e : ε) (es : List ε) :
    m.runFrom s (e :: es) = (m.step s e).bind fun t => m.runFrom t es := rfl

theorem runFrom_cons_some {s u : σ} {e : ε} {es : List ε} (h : m.runFrom s (e :: es) = some u) :
    ∃ t, m.step s e = some t ∧ m.runFrom t es = some u := by
  rw [runFrom_cons] at h
  cases hs : m.step s e with
  | none => rw [hs] at h; cases h
  | some t => rw [hs] at h; exact ⟨t, rfl, h⟩

theorem runFrom_append (s : σ) (es fs : List ε) :
    m.runFrom s (es ++ fs) = (m.runFrom s es).bind fun t => m.runFrom t fs := by
  induction es generalizing s with
  | nil => rfl
  | cons e es ih =>
    rw [List.cons_append, runFrom_cons, runFrom_cons]
    cases m.step s e with
    | none => rfl
    | some t => exact ih t

/-- `C` holds of every step taken by the run of `es` from `s`. -/
def Along (C : σ → ε → Prop) (s : σ) : List ε → Prop
  | [] => True
  | e :: es => C s e ∧ ∀ t, m.step s e = some t → Along C t es

/-- **Runs keep what conditioned steps keep.** -/
theorem runFrom_invariant_along {C : σ → ε → Prop} {I : σ → Prop}
    (hstep : ∀ s e t, I s → C s e → m.step s e = some t → I t) :
    ∀ {es : List ε} {s u : σ}, I s → m.Along C s es → m.runFrom s es = some u → I u
  | [], _, _, hi, _, h => by cases h; exact hi
  | e :: es, s, u, hi, hc, h => by
    obtain ⟨t, hs, ht⟩ := m.runFrom_cons_some h
    exact runFrom_invariant_along hstep (hstep s e t hi hc.1 hs) (hc.2 t hs) ht

theorem run_invariant_along {C : σ → ε → Prop} {I : σ → Prop} (hinit : I m.init)
    (hstep : ∀ s e t, I s → C s e → m.step s e = some t → I t) {es : List ε} {s : σ}
    (hc : m.Along C m.init es) (h : m.Reaches es s) : I s :=
  m.runFrom_invariant_along hstep hinit hc h

theorem along_true (s : σ) (es : List ε) : m.Along (fun _ _ => True) s es := by
  induction es generalizing s with
  | nil => trivial
  | cons e es ih => exact ⟨trivial, fun t _ => ih t⟩

/-- A condition on the events alone. -/
theorem along_of_forall {C : ε → Prop} {s : σ} {es : List ε} (h : ∀ e ∈ es, C e) : m.Along (fun _ e => C e) s es := by
  induction es generalizing s with
  | nil => trivial
  | cons e es ih => exact ⟨h e List.mem_cons_self, fun t _ => ih fun e' he => h e' (List.mem_cons_of_mem _ he)⟩

/-- **Invariant rule.** -/
theorem run_invariant {I : σ → Prop} (hinit : I m.init)
    (hstep : ∀ s e t, I s → m.step s e = some t → I t) {es : List ε} {s : σ}
    (h : m.Reaches es s) : I s :=
  m.run_invariant_along hinit (fun s e t hi _ => hstep s e t hi) (m.along_true _ es) h

end Machine

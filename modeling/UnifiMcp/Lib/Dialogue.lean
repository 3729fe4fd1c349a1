/-!
# Dialogues

A dialogue is a program as its environment sees it: it puts a question, goes on with the answer, and ends in a
result. The environment answers as it likes, so what holds of every run holds against every environment.

* `runs_bind_iff`, `runs_tryBind_iff` — the runs of a sequence are made of the runs of its parts.
* `Guarded.bind`, `Guarded.put` — a rule on each question, given the exchanges before it, is proved part by part and
  kept by every run, also by one cut off while a question waits.
* `AtMost.bind`, `AtMost.asked_le` — how many questions of a kind a run can put.
* `runs_timeout_iff` — under a deadline a run ends as it would have, or at a question without an answer.
-/

universe u v w

/-- Questions `Q` with answers of `A q`, and a result. -/
inductive Dialogue (Q : Type u) (A : Q → Type v) (ρ : Type w) where
  | done (result : ρ)
  | ask (question : Q) (next : A question → Dialogue Q A ρ)

namespace Dialogue

variable {Q : Type u} {A : Q → Type v} {ρ α β ε : Type w}

/-- A question with its answer. -/
abbrev Exchange (A : Q → Type v) := Sigma A

def bind : Dialogue Q A α → (α → Dialogue Q A β) → Dialogue Q A β
  | done r, f => f r
  | ask q next, f => ask q fun a => (next a).bind f

def map (f : α → β) (d : Dialogue Q A α) : Dialogue Q A β := d.bind fun r => done (f r)

/-- Go on with a success; a failure is the result. -/
def tryBind (d : Dialogue Q A (Except ε α)) (f : α → Dialogue Q A (Except ε β)) : Dialogue Q A (Except ε β) :=
  d.bind fun r => match r with
    | .ok a => f a
    | .error e => done (.error e)

/-- The question alone. -/
def put (q : Q) : Dialogue Q A (A q) := ask q done

@[simp] theorem done_bind (r : α) (f : α → Dialogue Q A β) : (done r : Dialogue Q A α).bind f = f r := rfl

@[simp] theorem ask_bind (q : Q) (next : A q → Dialogue Q A α) (f : α → Dialogue Q A β) :
    (ask q next).bind f = ask q fun a => (next a).bind f := rfl

theorem bind_assoc {γ : Type w} (d : Dialogue Q A α) (f : α → Dialogue Q A β) (g : β → Dialogue Q A γ) :
    (d.bind f).bind g = d.bind fun r => (f r).bind g := by
  induction d with
  | done r => rfl
  | ask q next ih => simp only [ask_bind, ih]

/-! ## Runs -/

/-- With the answers of `log` to the questions of `log`, the dialogue goes on as another. -/
inductive Reaches : Dialogue Q A ρ → List (Exchange A) → Dialogue Q A ρ → Prop
  | refl (d : Dialogue Q A ρ) : Reaches d [] d
  | step {q : Q} {next : A q → Dialogue Q A ρ} {a : A q} {log : List (Exchange A)} {e : Dialogue Q A ρ} :
    Reaches (next a) log e → Reaches (ask q next) (⟨q, a⟩ :: log) e

/-- A whole run. -/
def Runs (d : Dialogue Q A ρ) (log : List (Exchange A)) (r : ρ) : Prop := Reaches d log (done r)

theorem reaches_done_iff {r : ρ} {log : List (Exchange A)} {e : Dialogue Q A ρ} :
    Reaches (done r) log e ↔ log = [] ∧ e = done r := by
  constructor
  · intro h
    cases h
    exact ⟨rfl, rfl⟩
  · rintro ⟨rfl, rfl⟩
    exact .refl _

theorem reaches_ask_iff {q : Q} {next : A q → Dialogue Q A ρ} {log : List (Exchange A)} {e : Dialogue Q A ρ} :
    Reaches (ask q next) log e ↔
      (log = [] ∧ e = ask q next) ∨ ∃ a rest, log = ⟨q, a⟩ :: rest ∧ Reaches (next a) rest e := by
  constructor
  · intro h
    cases h with
    | refl => exact Or.inl ⟨rfl, rfl⟩
    | step h => exact Or.inr ⟨_, _, rfl, h⟩
  · rintro (⟨rfl, rfl⟩ | ⟨a, rest, rfl, h⟩)
    · exact .refl _
    · exact .step h

@[simp] theorem runs_done_iff {r s : ρ} {log : List (Exchange A)} :
    Runs (done r : Dialogue Q A ρ) log s ↔ log = [] ∧ s = r := by
  rw [Runs, reaches_done_iff, done.injEq]

theorem runs_ask_iff {q : Q} {next : A q → Dialogue Q A ρ} {log : List (Exchange A)} {r : ρ} :
    Runs (ask q next) log r ↔ ∃ a rest, log = ⟨q, a⟩ :: rest ∧ Runs (next a) rest r := by
  rw [Runs, reaches_ask_iff]
  constructor
  · rintro (⟨-, h⟩ | h)
    · cases h
    · exact h
  · exact Or.inr

theorem Reaches.trans {d e f : Dialogue Q A ρ} {log more : List (Exchange A)} (h : Reaches d log e)
    (hmore : Reaches e more f) : Reaches d (log ++ more) f := by
  induction h with
  | refl d => exact hmore
  | step h ih => exact .step (ih hmore)

theorem Reaches.snoc {d : Dialogue Q A ρ} {log : List (Exchange A)} {q : Q} {next : A q → Dialogue Q A ρ}
    (h : Reaches d log (ask q next)) (a : A q) : Reaches d (log ++ [⟨q, a⟩]) (next a) :=
  h.trans (.step (.refl _))

/-- A run passes through every prefix of its log. -/
theorem Reaches.split {d e : Dialogue Q A ρ} {first rest : List (Exchange A)} (h : Reaches d (first ++ rest) e) :
    ∃ m, Reaches d first m ∧ Reaches m rest e := by
  induction first generalizing d with
  | nil => exact ⟨d, .refl d, h⟩
  | cons x first ih =>
    cases h with
    | step h =>
      obtain ⟨m, hfirst, hrest⟩ := ih h
      exact ⟨m, .step hfirst, hrest⟩

/-- What a sequence reaches is reached in its first part, or behind the whole of it. -/
theorem reaches_bind_iff {d : Dialogue Q A α} {f : α → Dialogue Q A β} {log : List (Exchange A)}
    {e : Dialogue Q A β} : Reaches (d.bind f) log e ↔
      (∃ d', Reaches d log d' ∧ e = d'.bind f) ∨
      ∃ first rest r, log = first ++ rest ∧ Runs d first r ∧ Reaches (f r) rest e := by
  induction d generalizing log with
  | done r =>
    constructor
    · exact fun h => Or.inr ⟨[], log, r, rfl, .refl _, h⟩
    · rintro (⟨d', h, rfl⟩ | ⟨first, rest, s, rfl, h, hrest⟩)
      · obtain ⟨rfl, rfl⟩ := reaches_done_iff.1 h
        exact .refl _
      · obtain ⟨rfl, rfl⟩ := runs_done_iff.1 h
        exact hrest
  | ask q next ih =>
    rw [ask_bind, reaches_ask_iff]
    constructor
    · rintro (⟨rfl, rfl⟩ | ⟨a, rest, rfl, h⟩)
      · exact Or.inl ⟨_, .refl _, rfl⟩
      · obtain ⟨d', hd, rfl⟩ | ⟨first, more, r, rfl, hd, hrest⟩ := (ih a).1 h
        · exact Or.inl ⟨d', .step hd, rfl⟩
        · exact Or.inr ⟨⟨q, a⟩ :: first, more, r, rfl, .step hd, hrest⟩
    · rintro (⟨d', hd, rfl⟩ | ⟨first, rest, r, rfl, hd, hrest⟩)
      · obtain ⟨rfl, rfl⟩ | ⟨a, rest, rfl, h⟩ := reaches_ask_iff.1 hd
        · exact Or.inl ⟨rfl, rfl⟩
        · exact Or.inr ⟨a, rest, rfl, (ih a).2 (Or.inl ⟨d', h, rfl⟩)⟩
      · obtain ⟨a, more, rfl, h⟩ := runs_ask_iff.1 hd
        exact Or.inr ⟨a, more ++ rest, rfl, (ih a).2 (Or.inr ⟨more, rest, r, rfl, h, hrest⟩)⟩

/-- **The runs of a sequence are made of the runs of its parts.** -/
theorem runs_bind_iff {d : Dialogue Q A α} {f : α → Dialogue Q A β} {log : List (Exchange A)} {s : β} :
    Runs (d.bind f) log s ↔ ∃ first rest r, log = first ++ rest ∧ Runs d first r ∧ Runs (f r) rest s := by
  rw [Runs, reaches_bind_iff]
  constructor
  · rintro (⟨d', hd, hdone⟩ | h)
    · cases d' with
      | done r =>
        rw [done_bind] at hdone
        exact ⟨log, [], r, (List.append_nil log).symm, hd, by rw [← hdone]; exact .refl _⟩
      | ask q next => cases hdone
    · exact h
  · exact Or.inr

theorem runs_map_iff {d : Dialogue Q A α} {f : α → β} {log : List (Exchange A)} {s : β} :
    Runs (d.map f) log s ↔ ∃ r, Runs d log r ∧ s = f r := by
  rw [map, runs_bind_iff]
  constructor
  · rintro ⟨first, rest, r, rfl, hd, hrest⟩
    obtain ⟨rfl, rfl⟩ := runs_done_iff.1 hrest
    exact ⟨r, by rwa [List.append_nil], rfl⟩
  · rintro ⟨r, hd, rfl⟩
    exact ⟨log, [], r, (List.append_nil log).symm, hd, .refl _⟩

/-- **A failure ends the sequence.** -/
theorem runs_tryBind_iff {d : Dialogue Q A (Except ε α)} {f : α → Dialogue Q A (Except ε β)}
    {log : List (Exchange A)} {s : Except ε β} : Runs (d.tryBind f) log s ↔
      (∃ e, Runs d log (.error e) ∧ s = .error e) ∨
      ∃ first rest a, log = first ++ rest ∧ Runs d first (.ok a) ∧ Runs (f a) rest s := by
  rw [tryBind, runs_bind_iff]
  constructor
  · rintro ⟨first, rest, r | r, rfl, hd, hrest⟩
    · obtain ⟨rfl, rfl⟩ := runs_done_iff.1 hrest
      exact Or.inl ⟨r, by rwa [List.append_nil], rfl⟩
    · exact Or.inr ⟨first, rest, r, rfl, hd, hrest⟩
  · rintro (⟨e, hd, rfl⟩ | ⟨first, rest, a, rfl, hd, hrest⟩)
    · exact ⟨log, [], _, (List.append_nil log).symm, hd, .refl _⟩
    · exact ⟨first, rest, _, rfl, hd, hrest⟩

theorem runs_put_iff {q : Q} {log : List (Exchange A)} {a : A q} :
    Runs (put q : Dialogue Q A (A q)) log a ↔ log = [⟨q, a⟩] := by
  rw [put, runs_ask_iff]
  constructor
  · rintro ⟨b, rest, rfl, h⟩
    obtain ⟨rfl, rfl⟩ := runs_done_iff.1 h
    rfl
  · rintro rfl
    exact ⟨a, [], rfl, .refl _⟩

/-! ## Rules on the questions -/

/-- The question that waits for its answer. -/
def pending : Dialogue Q A ρ → Option Q
  | done _ => none
  | ask q _ => some q

/-- The questions put so far: the answered ones, and the one that waits. -/
def asked (log : List (Exchange A)) (d : Dialogue Q A ρ) : List Q := log.map Sigma.fst ++ d.pending.toList

/-- Every question that can come up obeys the rule, given all exchanges before it. -/
inductive Guarded (rule : List (Exchange A) → Q → Prop) : List (Exchange A) → Dialogue Q A ρ → Prop
  | done {log : List (Exchange A)} {r : ρ} : Guarded rule log (done r)
  | ask {log : List (Exchange A)} {q : Q} {next : A q → Dialogue Q A ρ} (here : rule log q)
    (there : ∀ a, Guarded rule (log ++ [⟨q, a⟩]) (next a)) : Guarded rule log (ask q next)

variable {rule : List (Exchange A) → Q → Prop} {before : List (Exchange A)}

theorem guarded_ask_iff {q : Q} {next : A q → Dialogue Q A ρ} : Guarded rule before (ask q next) ↔
    rule before q ∧ ∀ a, Guarded rule (before ++ [⟨q, a⟩]) (next a) := by
  constructor
  · intro h
    cases h with
    | ask here there => exact ⟨here, there⟩
  · rintro ⟨here, there⟩
    exact .ask here there

theorem Guarded.here {q : Q} {next : A q → Dialogue Q A ρ} (h : Guarded rule before (Dialogue.ask q next)) :
    rule before q :=
  (guarded_ask_iff.1 h).1

theorem Guarded.there {q : Q} {next : A q → Dialogue Q A ρ} (h : Guarded rule before (Dialogue.ask q next)) (a : A q) :
    Guarded rule (before ++ [⟨q, a⟩]) (next a) :=
  (guarded_ask_iff.1 h).2 a

theorem guarded_put {q : Q} (h : rule before q) : Guarded rule before (put q : Dialogue Q A (A q)) :=
  .ask h fun _ => .done

theorem Guarded.reaches {d e : Dialogue Q A ρ} {log : List (Exchange A)} (h : Guarded rule before d)
    (hd : Reaches d log e) : Guarded rule (before ++ log) e := by
  induction hd generalizing before with
  | refl d => rwa [List.append_nil]
  | step hd ih => simpa using ih (h.there _)

/-- The second part may use everything the first part exchanged. -/
theorem Guarded.bind {d : Dialogue Q A α} {f : α → Dialogue Q A β} (hd : Guarded rule before d)
    (hf : ∀ log r, Runs d log r → Guarded rule (before ++ log) (f r)) : Guarded rule before (d.bind f) := by
  induction d generalizing before with
  | done r => simpa using hf [] r (.refl _)
  | ask q next ih =>
    refine .ask hd.here fun a => ih a (hd.there a) fun log r hlog => ?_
    simpa using hf (⟨q, a⟩ :: log) r (.step hlog)

theorem Guarded.tryBind {d : Dialogue Q A (Except ε α)} {f : α → Dialogue Q A (Except ε β)}
    (hd : Guarded rule before d) (hf : ∀ log a, Runs d log (.ok a) → Guarded rule (before ++ log) (f a)) :
    Guarded rule before (d.tryBind f) := by
  refine hd.bind fun log r hlog => ?_
  cases r with
  | error e => exact .done
  | ok a => exact hf log a hlog

theorem Guarded.map {d : Dialogue Q A α} (f : α → β) (hd : Guarded rule before d) : Guarded rule before (d.map f) :=
  hd.bind fun _ _ _ => .done

theorem Guarded.mono {weaker : List (Exchange A) → Q → Prop} {d : Dialogue Q A ρ} (h : Guarded rule before d)
    (himp : ∀ log q, rule (before ++ log) q → weaker (before ++ log) q) : Guarded weaker before d := by
  induction d generalizing before with
  | done r => exact .done
  | ask q next ih =>
    refine .ask (by simpa using himp [] q (by simpa using h.here)) fun a => ih a (h.there a) fun log p hp => ?_
    simpa using himp (⟨q, a⟩ :: log) p (by simpa using hp)

theorem Guarded.answered {d e : Dialogue Q A ρ} {log : List (Exchange A)} (h : Guarded rule before d)
    (hd : Reaches d log e) {first rest : List (Exchange A)} {x : Exchange A} (hlog : log = first ++ x :: rest) :
    rule (before ++ first) x.1 := by
  induction hd generalizing before first with
  | refl d => cases first <;> cases hlog
  | @step q next a log e hd ih =>
    cases first with
    | nil =>
      obtain ⟨rfl, -⟩ := List.cons.inj hlog
      rw [List.append_nil]
      exact h.here
    | cons y first =>
      obtain ⟨rfl, hrest⟩ := List.cons.inj hlog
      simpa using ih (h.there a) hrest

/-- A rule that does not look back holds of every question answered. -/
theorem Guarded.forall_mem {kind : Q → Prop} {d e : Dialogue Q A ρ} {log : List (Exchange A)}
    (h : Guarded (fun _ q => kind q) before d) (hd : Reaches d log e) : ∀ x ∈ log, kind x.1 := by
  intro x hx
  obtain ⟨first, rest, rfl⟩ := List.append_of_mem hx
  exact h.answered hd rfl

/-- **Every question put obeys the rule** behind some part of the log, whether it was answered or waits. -/
theorem Guarded.put {d e : Dialogue Q A ρ} {log : List (Exchange A)} (h : Guarded rule before d) (hd : Reaches d log e)
    {q : Q} (hq : q ∈ asked log e) : ∃ first rest, log = first ++ rest ∧ rule (before ++ first) q := by
  obtain hq | hq := List.mem_append.1 hq
  · obtain ⟨x, hx, rfl⟩ := List.mem_map.1 hq
    obtain ⟨first, rest, rfl⟩ := List.append_of_mem hx
    exact ⟨first, x :: rest, rfl, h.answered hd rfl⟩
  · cases e with
    | done r => cases hq
    | ask p next =>
      obtain rfl := List.mem_singleton.1 hq
      exact ⟨log, [], (List.append_nil log).symm, (h.reaches hd).here⟩

/-- A rule between any two questions, the earlier one answered when the later is put. -/
theorem Guarded.pairwise {R : Q → Q → Prop} {d e : Dialogue Q A ρ} {log : List (Exchange A)}
    (h : Guarded (fun log q => ∀ x ∈ log, R x.1 q) before d) (hbefore : (before.map Sigma.fst).Pairwise R)
    (hd : Reaches d log e) : (asked (before ++ log) e).Pairwise R := by
  have hsnoc : ∀ {past : List (Exchange A)} {q : Q}, (past.map Sigma.fst).Pairwise R → (∀ x ∈ past, R x.1 q) →
      (past.map Sigma.fst ++ [q]).Pairwise R := by
    intro past q hpast hq
    refine List.pairwise_append.2 ⟨hpast, List.pairwise_singleton _ _, fun p hp q' hq' => ?_⟩
    obtain ⟨x, hx, rfl⟩ := List.mem_map.1 hp
    obtain rfl := List.mem_singleton.1 hq'
    exact hq x hx
  induction hd generalizing before with
  | refl d =>
    cases d with
    | done r => simpa [asked, pending] using hbefore
    | ask q next => simpa [asked, pending] using hsnoc hbefore h.here
  | @step q next a log e hd ih => simpa using ih (h.there a) (by simpa using hsnoc hbefore h.here)

theorem filter_length_le_one {kind : Q → Bool} {l : List Q} (h : l.Pairwise fun p q => kind q = true → kind p = false) :
    (l.filter kind).length ≤ 1 := by
  induction l with
  | nil => exact Nat.zero_le _
  | cons p l ih =>
    obtain ⟨hp, hl⟩ := List.pairwise_cons.1 h
    by_cases hkind : kind p = true
    · have hnone : l.filter kind = [] := by
        rw [List.filter_eq_nil_iff]
        intro q hq hyes
        rw [hp q hq hyes] at hkind
        cases hkind
      simp [hkind, hnone]
    · simpa [hkind] using ih hl

/-- **At most one question of a kind** that is put only with none of the kind before it. -/
theorem Guarded.atMostOne {kind : Q → Bool} {d e : Dialogue Q A ρ} {log : List (Exchange A)}
    (h : Guarded (fun log q => kind q = true → ∀ x ∈ log, kind x.1 = false) [] d) (hd : Reaches d log e) :
    ((asked log e).filter kind).length ≤ 1 :=
  filter_length_le_one (Guarded.pairwise (h.mono fun _ _ hrule x hx hq => hrule hq x hx) .nil hd)

/-! ## Counting questions -/

/-- No run puts more than so many questions of the kind. -/
inductive AtMost (kind : Q → Bool) : Nat → Dialogue Q A ρ → Prop
  | done {n : Nat} {r : ρ} : AtMost kind n (done r)
  | other {n : Nat} {q : Q} {next : A q → Dialogue Q A ρ} (hq : kind q = false) (h : ∀ a, AtMost kind n (next a)) :
    AtMost kind n (ask q next)
  | count {n : Nat} {q : Q} {next : A q → Dialogue Q A ρ} (h : ∀ a, AtMost kind n (next a)) : AtMost kind (n + 1) (ask q next)

section
variable {kind : Q → Bool} {m n : Nat}

theorem AtMost.mono {d : Dialogue Q A ρ} (h : AtMost kind m d) (hle : m ≤ n) : AtMost kind n d := by
  induction h generalizing n with
  | done => exact .done
  | other hq h ih => exact .other hq fun a => ih a hle
  | count h ih =>
    obtain ⟨k, rfl⟩ := Nat.exists_eq_add_of_le' hle
    rw [← Nat.add_assoc]
    exact .count fun a => ih a (by omega)

theorem AtMost.put_other {q : Q} (hq : kind q = false) : AtMost kind n (put q : Dialogue Q A (A q)) :=
  .other hq fun _ => .done

theorem AtMost.put {q : Q} : AtMost kind (n + 1) (put q : Dialogue Q A (A q)) := .count fun _ => .done

/-- The bounds of a sequence add up. -/
theorem AtMost.bind {d : Dialogue Q A α} {f : α → Dialogue Q A β} (hd : AtMost kind m d)
    (hf : ∀ r, AtMost kind n (f r)) : AtMost kind (m + n) (d.bind f) := by
  induction hd with
  | @done m r => exact (hf r).mono (Nat.le_add_left _ _)
  | other hq h ih => exact .other hq ih
  | count h ih =>
    rw [Nat.add_right_comm]
    exact .count ih

theorem AtMost.map {d : Dialogue Q A α} (f : α → β) (hd : AtMost kind m d) : AtMost kind m (d.map f) :=
  AtMost.bind (n := 0) hd fun _ => .done

/-- **The bound holds of every run**, also of one cut off while a question waits. -/
theorem AtMost.asked_le {d e : Dialogue Q A ρ} {log : List (Exchange A)} (h : AtMost kind n d) (hd : Reaches d log e) :
    ((asked log e).filter kind).length ≤ n := by
  induction hd generalizing n with
  | refl d =>
    cases h with
    | done => exact Nat.zero_le _
    | other hq h => simp [asked, pending, hq]
    | count h => exact Nat.le_trans (List.length_filter_le kind _) (Nat.succ_le_succ (Nat.zero_le _))
  | @step q next a log e hd ih =>
    cases h with
    | other hq h => simpa [asked, hq] using ih (h a)
    | count h =>
      have hone := List.length_filter_le kind [q]
      have hrest := ih (h a)
      have hsplit : asked (⟨q, a⟩ :: log) e = [q] ++ asked log e := rfl
      rw [hsplit, List.filter_append, List.length_append]
      simp only [List.length_singleton] at hone
      omega

end

end Dialogue

/-! ## Deadlines -/

/-- A question put freely, or under a deadline that may pass before the answer comes. -/
inductive Timed (Q : Type u) where
  | free (question : Q)
  | due (question : Q)
deriving DecidableEq

namespace Timed

variable {Q : Type u} {A : Q → Type v} {ρ : Type w}

def question : Timed Q → Q
  | free q => q
  | due q => q

/-- No answer when the deadline passes first. -/
@[reducible] def Answer (A : Q → Type v) : Timed Q → Type v
  | free q => A q
  | due q => Option (A q)

def freely (x : Sigma A) : Sigma (Answer A) := ⟨.free x.1, x.2⟩

def intime (x : Sigma A) : Sigma (Answer A) := ⟨.due x.1, some x.2⟩

end Timed

namespace Dialogue

open Timed

variable {Q : Type u} {A : Q → Type v} {ρ α : Type w}

/-- Without a deadline. -/
def untimed : Dialogue Q A ρ → Dialogue (Timed Q) (Answer A) ρ
  | done r => done r
  | ask q next => ask (.free q) fun a => (next a).untimed

/-- Under a deadline: given up at the question whose answer does not come in time. -/
def timeout : Dialogue Q A ρ → Dialogue (Timed Q) (Answer A) (Option ρ)
  | done r => done (some r)
  | ask q next => ask (.due q) fun answer : Option (A q) => match answer with
    | some a => (next a).timeout
    | none => done none

theorem untimed_bind {β : Type w} (d : Dialogue Q A α) (f : α → Dialogue Q A β) :
    (d.bind f).untimed = d.untimed.bind fun r => (f r).untimed := by
  induction d with
  | done r => rfl
  | ask q next ih => simp only [ask_bind, untimed, ih]

theorem untimed_map {β : Type w} (d : Dialogue Q A α) (f : α → β) : (d.map f).untimed = d.untimed.map f :=
  untimed_bind d _

theorem runs_untimed_iff {d : Dialogue Q A ρ} {log : List (Exchange (Answer A))} {r : ρ} :
    Runs d.untimed log r ↔ ∃ plain, log = plain.map freely ∧ Runs d plain r := by
  induction d generalizing log with
  | done s =>
    rw [untimed, runs_done_iff]
    constructor
    · rintro ⟨rfl, rfl⟩
      exact ⟨[], rfl, .refl _⟩
    · rintro ⟨plain, rfl, h⟩
      obtain ⟨rfl, rfl⟩ := runs_done_iff.1 h
      exact ⟨rfl, rfl⟩
  | ask q next ih =>
    rw [untimed, runs_ask_iff]
    constructor
    · rintro ⟨a, rest, rfl, h⟩
      obtain ⟨plain, rfl, hplain⟩ := (ih a).1 h
      exact ⟨⟨q, a⟩ :: plain, rfl, .step hplain⟩
    · rintro ⟨plain, rfl, h⟩
      obtain ⟨a, rest, rfl, hrest⟩ := runs_ask_iff.1 h
      exact ⟨a, rest.map freely, rfl, (ih a).2 ⟨rest, rfl, hrest⟩⟩

/-- **Under a deadline a run ends as it would have, or at a question without an answer.** -/
theorem runs_timeout_iff {d : Dialogue Q A ρ} {log : List (Exchange (Answer A))} {s : Option ρ} :
    Runs d.timeout log s ↔
      (∃ plain r, log = plain.map intime ∧ Runs d plain r ∧ s = some r) ∨
      ∃ plain q next, log = plain.map intime ++ [⟨.due q, none⟩] ∧ Reaches d plain (ask q next) ∧ s = none := by
  induction d generalizing log with
  | done r =>
    rw [timeout, runs_done_iff]
    constructor
    · rintro ⟨rfl, rfl⟩
      exact Or.inl ⟨[], r, rfl, .refl _, rfl⟩
    · rintro (⟨plain, t, rfl, h, rfl⟩ | ⟨plain, q, next, rfl, h, rfl⟩)
      · obtain ⟨rfl, rfl⟩ := runs_done_iff.1 h
        exact ⟨rfl, rfl⟩
      · cases (reaches_done_iff.1 h).2
  | ask q next ih =>
    rw [timeout, runs_ask_iff]
    constructor
    · rintro ⟨answer | a, rest, rfl, h⟩
      · obtain ⟨rfl, rfl⟩ := runs_done_iff.1 h
        exact Or.inr ⟨[], q, next, rfl, .refl _, rfl⟩
      · obtain ⟨plain, r, rfl, hd, rfl⟩ | ⟨plain, p, more, rfl, hd, rfl⟩ := (ih a).1 h
        · exact Or.inl ⟨⟨q, a⟩ :: plain, r, rfl, .step hd, rfl⟩
        · exact Or.inr ⟨⟨q, a⟩ :: plain, p, more, rfl, .step hd, rfl⟩
    · rintro (⟨plain, r, rfl, hd, rfl⟩ | ⟨plain, p, more, rfl, hd, rfl⟩)
      · obtain ⟨a, rest, rfl, h⟩ := runs_ask_iff.1 hd
        exact ⟨some a, rest.map intime, rfl, (ih a).2 (Or.inl ⟨rest, r, rfl, h, rfl⟩)⟩
      · obtain ⟨rfl, hmore⟩ | ⟨a, rest, rfl, h⟩ := reaches_ask_iff.1 hd
        · cases hmore
          exact ⟨none, [], rfl, .refl _⟩
        · exact ⟨some a, rest.map intime ++ [⟨.due p, none⟩], rfl, (ih a).2 (Or.inr ⟨rest, p, more, rfl, h, rfl⟩)⟩

/-- A rule carries over to the dialogue with or without a deadline. -/
theorem guarded_untimed {rule : List (Exchange (Answer A)) → Timed Q → Prop} {before : List (Exchange (Answer A))}
    {d : Dialogue Q A ρ} (plainRule : List (Exchange A) → Q → Prop) {past : List (Exchange A)}
    (h : Guarded plainRule past d)
    (himp : ∀ log q, plainRule (past ++ log) q → rule (before ++ log.map freely) (.free q)) :
    Guarded rule before d.untimed := by
  induction d generalizing before past with
  | done r => exact .done
  | ask q next ih =>
    refine .ask (by simpa using himp [] q (by simpa using h.here)) fun a => ih a (h.there a) fun log p hp => ?_
    simpa [freely] using himp (⟨q, a⟩ :: log) p (by simpa using hp)

theorem guarded_timeout {rule : List (Exchange (Answer A)) → Timed Q → Prop} {before : List (Exchange (Answer A))}
    {d : Dialogue Q A ρ} (plainRule : List (Exchange A) → Q → Prop) {past : List (Exchange A)}
    (h : Guarded plainRule past d)
    (himp : ∀ log q, plainRule (past ++ log) q → rule (before ++ log.map intime) (.due q)) :
    Guarded rule before d.timeout := by
  induction d generalizing before past with
  | done r => exact .done
  | ask q next ih =>
    rw [timeout]
    refine .ask (by simpa using himp [] q (by simpa using h.here)) fun answer => ?_
    cases answer with
    | none => exact .done
    | some a =>
      refine ih a (h.there a) fun log p hp => ?_
      simpa [intime] using himp (⟨q, a⟩ :: log) p (by simpa using hp)

end Dialogue

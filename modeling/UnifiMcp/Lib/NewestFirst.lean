import Mathlib.Data.List.Basic
import Mathlib.Data.List.DropRight
/-!
# Lists kept newest first

Rows carry a time `key`. A source answers a bounded read with some `n` newest rows, newest
first, ties in any order (`Newest`). On such an answer the two edits a reader makes are
filters by time, and a filter by time on the answer is one on everything the source holds as
long as no row left out passes it.

* `take_findIdx_eq_filter` — cutting at the first row older than `s` keeps the rows from `s` on.
* `rdropWhile_eq_filter` — popping the oldest time off the end keeps the strictly newer rows.
* `Newest.filter_perm` — the filter on the answer against the filter on the source.
-/

namespace NewestFirst

universe u
variable {α : Type u} (key : α → Nat)

/-- Non-increasing times. -/
def Sorted (l : List α) : Prop := l.Pairwise fun a b => key b ≤ key a

/-- `rows` is a newest-first list of the `n` newest of `all` (all of them when there are fewer). -/
structure Newest (n : Nat) (all rows : List α) : Prop where
  sorted : Sorted key rows
  length : rows.length = min n all.length
  split : ∃ rest, (rows ++ rest).Perm all ∧ ∀ r ∈ rows, ∀ x ∈ rest, key x ≤ key r

variable {key} {l all rows : List α} {n s b : Nat}

theorem Sorted.filter (h : Sorted key l) (p : α → Bool) : Sorted key (l.filter p) := List.Pairwise.filter p h

theorem Sorted.append_iff {l₁ l₂ : List α} :
    Sorted key (l₁ ++ l₂) ↔ Sorted key l₁ ∧ Sorted key l₂ ∧ ∀ a ∈ l₁, ∀ c ∈ l₂, key c ≤ key a :=
  List.pairwise_append

/-- The last row is an oldest one. -/
theorem Sorted.last_le (h : Sorted key l) {x : α} (hx : l.getLast? = some x) : ∀ a ∈ l, key x ≤ key a := by
  obtain ⟨ys, rfl⟩ := List.getLast?_eq_some_iff.1 hx
  intro a ha
  rcases List.mem_append.1 ha with ha | ha
  · exact (Sorted.append_iff.1 h).2.2 a ha x (by simp)
  · rw [List.mem_singleton.1 ha]

theorem take_findIdx_eq_filter (h : Sorted key l) {i : Nat} (hi : l.findIdx? (fun a => key a < s) = some i) :
    l.take i = l.filter fun a => s ≤ key a := by
  induction l generalizing i with
  | nil => simp at hi
  | cons a l ih =>
    rw [Sorted, List.pairwise_cons] at h
    rw [List.findIdx?_cons] at hi
    by_cases ha : key a < s
    · -- everything behind `a` is at least as old
      simp [ha] at hi
      subst hi
      have hl : (a :: l).filter (fun a => s ≤ key a) = [] := by
        rw [List.filter_eq_nil_iff]
        intro x hx
        rcases List.mem_cons.1 hx with rfl | hx
        · simp; omega
        · have := h.1 x hx; simp; omega
      rw [hl, List.take_zero]
    · simp only [ha, decide_false, Bool.false_eq_true, if_false, Option.map_eq_some_iff] at hi
      obtain ⟨j, hj, rfl⟩ := hi
      rw [List.take_succ_cons, ih h.2 hj, List.filter_cons, if_pos (by simp; omega)]

theorem rdropWhile_eq_filter (h : Sorted key l) (hb : ∀ a ∈ l, b ≤ key a) :
    l.rdropWhile (fun a => key a = b) = l.filter fun a => b < key a := by
  induction l using List.reverseRecOn with
  | nil => rfl
  | append_singleton l x ih =>
    have hs := Sorted.append_iff.1 h
    rw [List.filter_append]
    by_cases hx : key x = b
    · rw [List.rdropWhile_concat_pos _ _ _ (by simpa using hx), ih hs.1 fun a ha => hb a (by simp [ha])]
      simp [hx]
    · -- `x` is the oldest row, so no row is as old as `b`
      have hbx := hb x (by simp)
      rw [List.rdropWhile_concat_neg _ _ _ (by simpa using hx), List.filter_cons, if_pos (by simp; omega),
        List.filter_nil, List.filter_eq_self.2]
      intro a ha
      have := hs.2.2 a ha x (by simp)
      simp; omega

namespace Newest

/-- A filter that drops every row the answer left out can be taken on the answer. -/
theorem filter_perm (h : Newest key n all rows) (p : α → Bool)
    (hp : ∀ x ∈ all, (∀ r ∈ rows, key x ≤ key r) → p x = false) :
    (rows.filter p).Perm (all.filter p) := by
  obtain ⟨rest, hperm, hle⟩ := h.split
  have hrest : rest.filter p = [] := by
    rw [List.filter_eq_nil_iff]
    intro x hx
    rw [hp x (hperm.subset (by simp [hx])) fun r hr => hle r hr x hx]
    simp
  have := hperm.filter p
  rwa [List.filter_append, hrest, List.append_nil] at this

theorem mem (h : Newest key n all rows) {r : α} (hr : r ∈ rows) : r ∈ all := by
  obtain ⟨rest, hperm, _⟩ := h.split
  exact hperm.subset (by simp [hr])

/-- A short answer is everything. -/
theorem perm_of_short (h : Newest key n all rows) (hlt : rows.length < n) : rows.Perm all := by
  obtain ⟨rest, hperm, _⟩ := h.split
  have hl := hperm.length_eq
  have hn := h.length
  rw [List.length_append] at hl
  have hnil : rest = [] := List.eq_nil_of_length_eq_zero (by omega)
  rwa [hnil, List.append_nil] at hperm

/-- `k` rows of one time in the answer are `k` rows of that time in the source. -/
theorem length_le_of_all_eq (h : Newest key n all rows) (hb : ∀ r ∈ rows, key r = b) :
    rows.length ≤ (all.filter fun a => key a = b).length := by
  obtain ⟨rest, hperm, _⟩ := h.split
  have hrows : rows.filter (fun a => key a = b) = rows := List.filter_eq_self.2 (by simpa using hb)
  have := (hperm.filter fun a => decide (key a = b)).length_eq
  rw [List.filter_append, hrows, List.length_append] at this
  omega

/-- A source kept newest first answers with its first `n` rows. -/
theorem take (h : Sorted key all) (n : Nat) : Newest key n all (all.take n) where
  sorted := List.Pairwise.sublist (List.take_sublist _ _) h
  length := List.length_take
  split := ⟨all.drop n, by rw [List.take_append_drop], by
    have := h
    rw [← List.take_append_drop n all] at this
    exact (Sorted.append_iff.1 this).2.2⟩

end Newest

end NewestFirst

import Mathlib.Data.List.TakeWhile
import Mathlib.Order.Lattice
/-!
# Going round a sorted list

`rotate cursor l` starts a sorted list behind the cursor and goes round. `Before cursor` is the
order that this makes.

* `rotate_sorted` — a rotated list is in that order.
* `clear_of_cursor`, `clear_of_taken` — when `t` was taken last or the cursor has not passed `u`
  since, what comes before `u` in the list comes between `t` and `u`; so `t` does not.
-/

namespace RoundRobin

variable {α : Type} [LinearOrder α]

/-- `x` comes before `y` on the way up from behind the cursor and round. -/
def Before (cursor : Option α) (x y : α) : Prop :=
  match cursor with
  | none => x < y
  | some c => (c < x ∧ y ≤ c) ∨ ((c < x ↔ c < y) ∧ x < y)

/-- `partition_point` of a sorted list, then `rotate_left`. -/
def rotate (cursor : Option α) (l : List α) : List α :=
  match cursor with
  | none => l
  | some c =>
    let split := (l.takeWhile (· ≤ c)).length
    l.drop split ++ l.take split

theorem rotate_some (c : α) (l : List α) :
    rotate (some c) l = l.dropWhile (· ≤ c) ++ l.takeWhile (· ≤ c) := by
  have hdrop : (l.takeWhile (· ≤ c) ++ l.dropWhile (· ≤ c)).drop (l.takeWhile (· ≤ c)).length =
      l.dropWhile (· ≤ c) := List.drop_left' rfl
  rw [List.takeWhile_append_dropWhile] at hdrop
  show l.drop (l.takeWhile (· ≤ c)).length ++ l.take (l.takeWhile (· ≤ c)).length = _
  rw [hdrop, ← List.prefix_iff_eq_take.1 (List.takeWhile_prefix _)]

@[simp] theorem mem_rotate {cursor : Option α} {l : List α} {x : α} : x ∈ rotate cursor l ↔ x ∈ l := by
  cases cursor with
  | none => rfl
  | some c =>
    rw [rotate_some, List.mem_append, or_comm, ← List.mem_append, List.takeWhile_append_dropWhile]

/-- Behind the leading members up to `c`, all are greater. -/
theorem lt_of_mem_dropWhile {c : α} {l : List α} (h : l.Pairwise (· < ·)) :
    ∀ x ∈ l.dropWhile (· ≤ c), c < x := by
  induction l with
  | nil => intro x hx; cases hx
  | cons y l ih =>
    obtain ⟨hy, hl⟩ := List.pairwise_cons.1 h
    intro x hx
    rw [List.dropWhile_cons] at hx
    split at hx
    · exact ih hl x hx
    · rename_i hyc
      have hyc : c < y := not_le.1 (by simpa using hyc)
      rcases List.mem_cons.1 hx with rfl | hx
      · exact hyc
      · exact lt_trans hyc (hy x hx)

/-- **A rotated list is in the order of its cursor.** -/
theorem rotate_sorted {cursor : Option α} {l : List α} (h : l.Pairwise (· < ·)) :
    (rotate cursor l).Pairwise (Before cursor) := by
  cases cursor with
  | none => exact h
  | some c =>
    have hgt := lt_of_mem_dropWhile (c := c) h
    have hle : ∀ x ∈ l.takeWhile (· ≤ c), x ≤ c := fun x hx => by simpa using List.mem_takeWhile_imp hx
    rw [rotate_some, List.pairwise_append]
    refine ⟨?_, ?_, fun x hx y hy => Or.inl ⟨hgt x hx, hle y hy⟩⟩
    · refine (h.sublist (List.dropWhile_sublist _)).imp_of_mem fun hx hy hxy => Or.inr ⟨?_, hxy⟩
      exact iff_of_true (hgt _ hx) (hgt _ hy)
    · refine (h.sublist (List.takeWhile_sublist _)).imp_of_mem fun hx hy hxy => Or.inr ⟨?_, hxy⟩
      exact iff_of_false (not_lt.2 (hle _ hx)) (not_lt.2 (hle _ hy))

/-! ## Arcs -/

/-- From `t`, itself comes last. -/
theorem not_before_self (t u : α) : ¬Before (some t) t u := by
  simp only [Before]
  grind

/-- From `e`, which lies between `t` and `u`, only what lies between `t` and `u` comes before `u`. -/
theorem before_nested {t e x u : α} (he : Before (some t) e u) (hx : Before (some e) x u) : Before (some t) x u := by
  simp only [Before] at *
  grind

/-- What comes behind `t`, and before `u` or with `u` before `t`, lies between `t` and `u`. -/
theorem before_of_after {cursor : Option α} {t x u : α} (hx : Before cursor t x)
    (hu : Before cursor x u ∨ Before cursor u t) : Before (some t) x u := by
  cases cursor <;> simp only [Before] at * <;> grind

/-! ## What is taken before `u` -/

/-- All that comes before `u` in the list lies between `t` and `u`. -/
def Clear (t u : α) (l : List α) : Prop := ∀ x ∈ l.takeWhile (· ≠ u), Before (some t) x u

theorem Clear.head {t u x : α} {l : List α} (h : Clear t u (x :: l)) (hx : x ≠ u) : Before (some t) x u :=
  h x (by simp [hx])

theorem Clear.tail {t u x : α} {l : List α} (h : Clear t u (x :: l)) (hx : x ≠ u) : Clear t u l :=
  fun y hy => h y (by rw [List.takeWhile_cons, if_pos (by simpa using hx)]; exact List.mem_cons_of_mem _ hy)

/-- What is in front of `u` in an ordered list, some of which is cut off. -/
theorem before_of_mem_takeWhile {cursor : Option α} {l cut : List α} {u x : α}
    (hs : (l ++ cut).Pairwise (Before cursor)) (hu : u ∈ l ++ cut) (hx : x ∈ l.takeWhile (· ≠ u)) :
    Before cursor x u := by
  induction l with
  | nil => cases hx
  | cons y l ih =>
    obtain ⟨hy, hl⟩ := List.pairwise_cons.1 hs
    by_cases hyu : y = u
    · simp [hyu] at hx
    · rw [List.takeWhile_cons, if_pos (by simpa using hyu)] at hx
      have hu' : u ∈ l ++ cut := (List.mem_cons.1 hu).resolve_left (Ne.symm hyu)
      rcases List.mem_cons.1 hx with rfl | hx
      · exact hy u hu'
      · exact ih hl hu' hx

/-- The cursor has not passed `u` since `t`. -/
theorem clear_of_cursor {t e u : α} {l cut : List α} (he : e = t ∨ Before (some t) e u)
    (hs : (l ++ cut).Pairwise (Before (some e))) (hu : u ∈ l ++ cut) : Clear t u l := by
  intro x hx
  have hxu := before_of_mem_takeWhile hs hu hx
  rcases he with rfl | he
  · exact hxu
  · exact before_nested he hxu

/-- `t` has just been taken from the list. -/
theorem clear_of_taken {cursor : Option α} {t u : α} {front l cut : List α} (hne : u ≠ t)
    (hs : (front ++ t :: (l ++ cut)).Pairwise (Before cursor)) (hu : u ∈ front ++ t :: (l ++ cut)) : Clear t u l := by
  intro x hx
  obtain ⟨-, htail, hcross⟩ := List.pairwise_append.1 hs
  obtain ⟨ht, hrest⟩ := List.pairwise_cons.1 htail
  have htx : Before cursor t x := ht x (List.mem_append_left _ (List.takeWhile_subset _ hx))
  refine before_of_after htx ?_
  rcases List.mem_append.1 hu with hu | hu
  · exact Or.inr (hcross u hu t List.mem_cons_self)
  · rcases List.mem_cons.1 hu with hu | hu
    · exact absurd hu hne
    · exact Or.inl (before_of_mem_takeWhile hrest hu hx)

end RoundRobin

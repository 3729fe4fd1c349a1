import Mathlib.Data.List.Basic
/-!
# Cutting and packing in order

`chunks n` cuts a list into parts of `n`, the last one shorter. `pack` fills batches in order and
starts a new one when the next item no longer fits.

* `flatten_chunks` — the parts give the list back.
* `flatten_pack`, `total_le_of_mem_pack` — so do the batches, and each is within the capacity.
* `pack_length_le_iff` — no cutting into batches within the capacity needs fewer.
-/

namespace Packing

/-! ## Parts of equal size -/

variable {α : Type}

/-- `slice::chunks`. -/
def chunks (n : Nat) (l : List α) : List (List α) :=
  (List.range ((l.length + n - 1) / n)).map fun k => (l.drop (k * n)).take n

theorem flatten_range_take (n : Nat) (l : List α) (m : Nat) :
    ((List.range m).map fun k => (l.drop (k * n)).take n).flatten = l.take (m * n) := by
  induction m with
  | zero => simp
  | succ m ih =>
    rw [List.range_succ, List.map_append, List.flatten_append, ih, Nat.succ_mul, List.take_add]
    simp

theorem flatten_chunks {n : Nat} (hn : 0 < n) (l : List α) : (chunks n l).flatten = l := by
  have h : l.length ≤ (l.length + n - 1) / n * n := by
    have hdiv := Nat.div_add_mod (l.length + n - 1) n
    have hmod := Nat.mod_lt (l.length + n - 1) hn
    rw [Nat.mul_comm] at hdiv
    omega
  rw [chunks, flatten_range_take, List.take_of_length_le h]

/-- The parts with their numbers. -/
theorem zipIdx_chunks (n : Nat) (l : List α) : (chunks n l).zipIdx =
    (List.range ((l.length + n - 1) / n)).map fun k => ((l.drop (k * n)).take n, k) := by
  apply List.ext_getElem
  · simp [chunks]
  · intro k _ _
    simp [chunks]

/-! ## Greedy packing -/

def total (size : α → Nat) : List α → Nat
  | [] => 0
  | x :: l => size x + total size l

variable {size : α → Nat} {cap : Nat}

theorem total_append (l r : List α) : total size (l ++ r) = total size l + total size r := by
  induction l with
  | nil => simp [total]
  | cons x l ih => simp only [List.cons_append, total, ih, Nat.add_assoc]

/-- Fill `batch`, then the next ones. An empty last batch is left out. -/
def pack (cap : Nat) (size : α → Nat) : List α → List α → List (List α)
  | batch, [] => if batch.isEmpty then [] else [batch]
  | batch, x :: l =>
    if cap < total size batch + size x then batch :: pack cap size [x] l else pack cap size (batch ++ [x]) l

theorem flatten_pack (batch l : List α) : (pack cap size batch l).flatten = batch ++ l := by
  induction l generalizing batch with
  | nil => cases batch <;> simp [pack]
  | cons x l ih =>
    rw [pack]
    split
    · simp [ih]
    · simp [ih]

/-- Every batch is within the capacity, when every item is. -/
theorem total_le_of_mem_pack {batch l b : List α} (hl : ∀ x ∈ l, size x ≤ cap) (hb : total size batch ≤ cap)
    (h : b ∈ pack cap size batch l) : total size b ≤ cap := by
  induction l generalizing batch with
  | nil =>
    cases batch with
    | nil => simp [pack] at h
    | cons y batch => simp only [pack, List.isEmpty_cons, Bool.false_eq_true, if_false, List.mem_singleton] at h; exact h ▸ hb
  | cons x l ih =>
    have hx : total size [x] = size x := by simp [total]
    rw [pack] at h
    split at h
    · rcases List.mem_cons.1 h with rfl | h
      · exact hb
      · exact ih (fun y hy => hl y (by simp [hy])) (by rw [hx]; exact hl x (by simp)) h
    · exact ih (fun y hy => hl y (by simp [hy])) (by rw [total_append, hx]; omega) h

/-- No batch is empty, when every item fits one and the first batch is begun or fits the first
item. -/
theorem ne_nil_of_mem_pack {batch l b : List α} (hl : ∀ x ∈ l, size x ≤ cap) (h : b ∈ pack cap size batch l) : b ≠ [] := by
  induction l generalizing batch with
  | nil =>
    cases batch with
    | nil => simp [pack] at h
    | cons y batch => simp only [pack, List.isEmpty_cons, Bool.false_eq_true, if_false, List.mem_singleton] at h; simp [h]
  | cons x l ih =>
    rw [pack] at h
    split at h
    · rename_i hover
      rcases List.mem_cons.1 h with rfl | h
      · rintro rfl
        have := hl x (by simp)
        simp [total] at hover
        omega
      · exact ih (fun y hy => hl y (by simp [hy])) h
    · exact ih (fun y hy => hl y (by simp [hy])) h

/-! ## Greedy packing is best -/

/-- How many further batches are begun when the current one holds `used`. -/
def further (cap : Nat) : Nat → List Nat → Nat
  | _, [] => 0
  | used, x :: l => if cap < used + x then further cap x l + 1 else further cap (used + x) l

theorem pack_length (batch l : List α) (hb : batch ≠ [] ∨ l ≠ []) (hl : ∀ x ∈ l, size x ≤ cap) :
    (pack cap size batch l).length = further cap (total size batch) (l.map size) + 1 := by
  induction l generalizing batch with
  | nil =>
    cases batch with
    | nil => simp at hb
    | cons y batch => simp [pack, further]
  | cons x l ih =>
    have hl' : ∀ y ∈ l, size y ≤ cap := fun y hy => hl y (by simp [hy])
    have hx : total size [x] = size x := by simp [total]
    rw [pack, List.map_cons, further]
    split
    · rw [List.length_cons, ih [x] (by simp) hl', hx]
    · rw [ih (batch ++ [x]) (by simp) hl', total_append, hx]

/-- A fuller batch never saves a later one, and is never off by more than one. -/
theorem further_mono (l : List Nat) : (∀ t t', t ≤ t' → further cap t l ≤ further cap t' l) ∧
    ∀ t t', further cap t l ≤ further cap t' l + 1 := by
  induction l with
  | nil => exact ⟨fun _ _ _ => Nat.le_refl _, fun _ _ => Nat.zero_le _⟩
  | cons x l ih =>
    obtain ⟨hmono, hone⟩ := ih
    constructor
    · intro t t' htt
      rw [further, further]
      split <;> split
      · exact Nat.le_refl _
      · omega
      · exact hone _ _
      · exact hmono _ _ (by omega)
    · intro t t'
      rw [further, further]
      split <;> split
      · omega
      · exact Nat.succ_le_succ (hmono _ _ (by omega))
      · have := hone (t + x) x
        omega
      · exact hone _ _

theorem further_append {g l : List Nat} {t : Nat} (h : t + total id g ≤ cap) :
    further cap t (g ++ l) = further cap (t + total id g) l := by
  induction g generalizing t with
  | nil => simp [total]
  | cons x g ih =>
    simp only [total, id] at h
    rw [List.cons_append, further, if_neg (by omega), ih (by omega), total, id, Nat.add_assoc]

/-- A cutting into groups within the capacity begins as many batches as the greedy one, or more. -/
theorem further_le_groups {groups : List (List Nat)} (hg : ∀ g ∈ groups, total id g ≤ cap) (t : Nat) :
    further cap t groups.flatten ≤ groups.length := by
  induction groups generalizing t with
  | nil => simp [further]
  | cons g groups ih =>
    have hcap := hg g (by simp)
    have h1 : further cap t (g ++ groups.flatten) ≤ further cap 0 (g ++ groups.flatten) + 1 :=
      (further_mono _).2 t 0
    rw [further_append (t := 0) (by omega)] at h1
    have h2 := ih (fun x hx => hg x (by simp [hx])) (0 + total id g)
    simp only [List.flatten_cons, List.length_cons]
    omega

/-- `sizes` can be cut in order into at most `n` groups within the capacity. -/
def CanPack (n cap : Nat) (sizes : List Nat) : Prop :=
  ∃ groups : List (List Nat), groups.flatten = sizes ∧ groups.length ≤ n ∧ ∀ g ∈ groups, total id g ≤ cap

theorem total_map (l : List α) : total id (l.map size) = total size l := by
  induction l with
  | nil => rfl
  | cons x l ih => simp only [List.map_cons, total, id, ih]

/-- **Greedy packing is best.** -/
theorem pack_length_le_iff {n : Nat} {l : List α} (hl : ∀ x ∈ l, size x ≤ cap) :
    (pack cap size [] l).length ≤ n ↔ CanPack n cap (l.map size) := by
  constructor
  · intro h
    refine ⟨(pack cap size [] l).map (List.map size), ?_, by simpa using h, ?_⟩
    · rw [← List.map_flatten, flatten_pack, List.nil_append]
    · intro g hg
      obtain ⟨b, hb, rfl⟩ := List.mem_map.1 hg
      rw [total_map]
      exact total_le_of_mem_pack hl (Nat.zero_le _) hb
  · rintro ⟨groups, hflat, hlen, hg⟩
    cases l with
    | nil => simp [pack]
    | cons x l =>
      rw [pack_length [] (x :: l) (by simp) hl, ← hflat]
      -- the first nonempty group shares the greedy one's first batch
      cases groups with
      | nil => simp at hflat
      | cons g groups =>
        have hcap := hg g (by simp)
        have hrest : ∀ b ∈ groups, total id b ≤ cap := fun b hb => hg b (by simp [hb])
        have hle := further_le_groups hrest (0 + total id g)
        rw [List.flatten_cons, total, further_append (by omega)]
        simp only [List.length_cons] at hlen
        omega

end Packing

import Mathlib.Data.List.Forall2
/-!
# A list through a function that may fail

* `mapM_eq_ok` — the results are those of the elements, in order.
* `mem_of_mapM` — each element has its result among them.
* `mapM_ok` — what never fails on the list is mapped over it.
-/

namespace Fallible

variable {α β ε : Type} {f : α → Except ε β}

theorem mapM_eq_ok : ∀ {l : List α} {ys : List β}, l.mapM f = .ok ys ↔ List.Forall₂ (fun a y => f a = .ok y) l ys
  | [], ys => by
    rw [List.mapM_nil, List.forall₂_nil_left_iff]
    exact ⟨fun h => (Except.ok.inj h).symm, fun h => h ▸ rfl⟩
  | a :: l, ys => by
    rw [List.mapM_cons]
    cases ha : f a with
    | error error =>
      refine ⟨fun h => (by cases h), fun h => ?_⟩
      cases h with
      | cons hy => rw [ha] at hy; cases hy
    | ok y =>
      cases hl : l.mapM f with
      | error error =>
        refine ⟨fun h => (by cases h), fun h => ?_⟩
        cases h with
        | cons hy hys => rw [mapM_eq_ok.2 hys] at hl; cases hl
      | ok rest =>
        constructor
        · intro h
          cases h
          exact .cons ha (mapM_eq_ok.1 hl)
        · intro h
          cases h with
          | cons hy hys =>
            rw [ha] at hy
            rw [mapM_eq_ok.2 hys] at hl
            cases hy
            cases hl
            rfl

theorem mem_of_mapM {l : List α} {ys : List β} (h : l.mapM f = .ok ys) {a : α} (ha : a ∈ l) : ∃ y ∈ ys, f a = .ok y := by
  have hall := mapM_eq_ok.1 h
  clear h
  induction hall with
  | nil => cases ha
  | cons hy _ ih =>
    rcases List.mem_cons.1 ha with rfl | ha
    · exact ⟨_, List.mem_cons_self, hy⟩
    · obtain ⟨y, hmem, hy⟩ := ih ha
      exact ⟨y, List.mem_cons_of_mem _ hmem, hy⟩

theorem mapM_ok {g : α → β} {l : List α} (h : ∀ a ∈ l, f a = .ok (g a)) : l.mapM f = .ok (l.map g) :=
  mapM_eq_ok.2 (List.forall₂_map_right_iff.2 (List.forall₂_same.2 h))

end Fallible

import Mathlib.Data.List.Basic
/-!
# Reading a list by offsets

A reader asks for the rows from an offset on, gets some of them and perhaps the offset to go on
with. Each request has a number, so two requests for one offset may be answered differently.

* `walk_covers_or` — if every answer covers its offset or is an error, following the offsets ends with
  the whole list, each row once and in order, or with the first error.
-/

namespace Offsets

/-- Rows from an offset on, and where to go on. -/
structure Part (α : Type) where
  rows : List α
  next : Option Nat

section
variable {α ε : Type}

/-- The part is a front of what `all` holds from `offset` on, nonempty unless nothing is left, and
goes on right behind its rows exactly when rows are left there. -/
structure Covers (all : List α) (offset : Nat) (part : Part α) : Prop where
  rows : part.rows = (all.drop offset).take part.rows.length
  next : part.next =
    if offset + part.rows.length < all.length then some (offset + part.rows.length) else none
  progress : offset < all.length → part.rows ≠ []

/-- Follow the offsets, for at most so many requests; `none` when they do not suffice, or when a
request is never answered. -/
def walk (answer : Nat → Nat → Option (Except ε (Part α))) : Nat → Nat → Nat → Option (Except ε (List α))
  | 0, _, _ => none
  | fuel + 1, request, offset =>
    match answer request offset with
    | none => none
    | some (.error error) => some (.error error)
    | some (.ok part) =>
      match part.next with
      | none => some (.ok part.rows)
      | some next => (walk answer fuel (request + 1) next).map fun rest => rest.map (part.rows ++ ·)

/-- The rows of a part and those behind it. -/
theorem Covers.append {all : List α} {offset : Nat} {part : Part α} (h : Covers all offset part) :
    part.rows ++ all.drop (offset + part.rows.length) = all.drop offset := by
  have hsplit := List.take_append_drop part.rows.length (all.drop offset)
  rw [← h.rows, List.drop_drop] at hsplit
  exact hsplit

/-- A last part is all that is left. -/
theorem Covers.last {all : List α} {offset : Nat} {part : Part α} (h : Covers all offset part)
    (hn : part.next = none) : part.rows = all.drop offset := by
  have hend : ¬offset + part.rows.length < all.length := by
    intro hlt
    have := h.next
    rw [if_pos hlt, hn] at this
    cases this
  rw [h.rows, List.take_of_length_le]
  rw [List.length_drop]
  omega

/-- **The walk gives what is left of the list, or the first error it meets.** By induction on the requests allowed; each
one that covers gets at least one row further. -/
theorem walk_covers_or {all : List α} {answer : Nat → Nat → Option (Except ε (Part α))} {Refused : Nat → Nat → ε → Prop}
    (h : ∀ request offset, offset ≤ all.length → (∃ part, answer request offset = some (.ok part) ∧ Covers all offset part) ∨
      ∃ error, answer request offset = some (.error error) ∧ Refused request offset error) :
    ∀ (fuel request offset : Nat), offset ≤ all.length → all.length < offset + fuel →
      walk answer fuel request offset = some (.ok (all.drop offset)) ∨
        ∃ request' offset' error, offset' ≤ all.length ∧ Refused request' offset' error ∧
          walk answer fuel request offset = some (.error error)
  | 0, _, _, hle, hfuel => by omega
  | fuel + 1, request, offset, hle, hfuel => by
    obtain ⟨part, hanswer, hcovers⟩ | ⟨error, hanswer, hrefused⟩ := h request offset hle
    · rw [walk, hanswer]
      cases hn : part.next with
      | none => exact Or.inl (by simp only [hn, hcovers.last hn])
      | some next =>
        have hcase := hcovers.next
        rw [hn] at hcase
        split at hcase
        · rename_i hlt
          cases hcase
          have hpos : 0 < part.rows.length := List.length_pos_of_ne_nil (hcovers.progress (by omega))
          simp only [hn]
          obtain hok | ⟨request', offset', error, hin, hrefused, herror⟩ :=
            walk_covers_or h fuel (request + 1) (offset + part.rows.length) (by omega) (by omega)
          · exact Or.inl (by simp only [hok, Option.map_some, Except.map, hcovers.append])
          · exact Or.inr ⟨request', offset', error, hin, hrefused, by simp only [herror, Option.map_some, Except.map]⟩
        · cases hcase
    · exact Or.inr ⟨request, offset, error, hle, hrefused, by rw [walk, hanswer]⟩

/-- The walk over answers that all cover. -/
theorem walk_covers {all : List α} {answer : Nat → Nat → Option (Except ε (Part α))}
    (h : ∀ request offset, offset ≤ all.length →
      ∃ part, answer request offset = some (.ok part) ∧ Covers all offset part)
    (fuel request offset : Nat) (hin : offset ≤ all.length) (hfuel : all.length < offset + fuel) :
    walk answer fuel request offset = some (.ok (all.drop offset)) := by
  obtain hok | ⟨_, _, _, _, hrefused, _⟩ :=
    @walk_covers_or _ _ all answer (fun _ _ _ => False) (fun request offset hin => Or.inl (h request offset hin)) fuel
      request offset hin hfuel
  · exact hok
  · exact hrefused.elim

end

end Offsets

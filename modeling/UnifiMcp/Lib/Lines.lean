import UnifiMcp.Lib.Text
/-!
# Lines of a byte stream

A line is everything up to a newline, and the newline. What follows the last newline is no line yet.

* `lines_append` — the first line of a stream, and the lines of the rest.
* `accepted_append` — what a reader takes that stops at the first line it refuses.
-/

namespace Text

def newline : UInt8 := 10

/-- The finished lines, each with its newline. -/
def lines : Bytes → List Bytes
  | [] => []
  | b :: rest =>
    if b = newline then [b] :: lines rest
    else match lines rest with
      | [] => []
      | line :: more => (b :: line) :: more

theorem lines_append {front : Bytes} (h : newline ∉ front) (rest : Bytes) :
    lines (front ++ newline :: rest) = (front ++ [newline]) :: lines rest := by
  induction front with
  | nil => simp [lines]
  | cons b front ih =>
    have hb : b ≠ newline := fun heq => h (heq ▸ List.mem_cons_self)
    have hfront := ih fun hmem => h (List.mem_cons_of_mem _ hmem)
    rw [List.cons_append, lines, if_neg hb, hfront]
    rfl

theorem lines_unfinished {front : Bytes} (h : newline ∉ front) : lines front = [] := by
  induction front with
  | nil => rfl
  | cons b front ih =>
    have hb : b ≠ newline := fun heq => h (heq ▸ List.mem_cons_self)
    rw [lines, if_neg hb, ih fun hmem => h (List.mem_cons_of_mem _ hmem)]

/-- The first line has all that precedes the newline. -/
theorem length_le_of_lines {front rest line : Bytes} {more : List Bytes} (h : newline ∉ front)
    (hlines : lines (front ++ rest) = line :: more) : front.length < line.length := by
  induction front generalizing line with
  | nil =>
    rw [List.nil_append] at hlines
    cases rest with
    | nil => cases hlines
    | cons b rest =>
      rw [lines] at hlines
      split at hlines
      · cases hlines
        exact Nat.zero_lt_succ _
      · split at hlines
        · cases hlines
        · cases hlines
          exact Nat.succ_pos _
  | cons b front ih =>
    have hb : b ≠ newline := fun heq => h (heq ▸ List.mem_cons_self)
    rw [List.cons_append, lines, if_neg hb] at hlines
    split at hlines
    · cases hlines
    · rename_i first others hrest
      cases hlines
      exact Nat.succ_lt_succ (ih (fun hmem => h (List.mem_cons_of_mem _ hmem)) hrest)

/-- Where the first newline is. -/
theorem newline_position (bytes : Bytes) :
    (bytes.findIdx? (· = newline) = none ∧ newline ∉ bytes) ∨
      ∃ front rest, bytes = front ++ newline :: rest ∧ newline ∉ front ∧
        bytes.findIdx? (· = newline) = some front.length := by
  induction bytes with
  | nil => exact Or.inl ⟨rfl, List.not_mem_nil⟩
  | cons b bytes ih =>
    by_cases hb : b = newline
    · exact Or.inr ⟨[], bytes, by rw [hb]; rfl, List.not_mem_nil, by rw [List.findIdx?_cons, hb]; rfl⟩
    · have hne : newline ≠ b := fun heq => hb heq.symm
      rcases ih with ⟨hnone, hmem⟩ | ⟨front, rest, rfl, hmem, hsome⟩
      · exact Or.inl ⟨by simp [List.findIdx?_cons, hb, hnone], by simp [hne, hmem]⟩
      · exact Or.inr ⟨b :: front, rest, rfl, by simp [hne, hmem], by simp [List.findIdx?_cons, hb, hsome]⟩

/-- What a reader takes that stops at the first line it refuses. -/
def accepted {α : Type} (accept : Bytes → Option α) : List Bytes → List α
  | [] => []
  | line :: more =>
    match accept line with
    | some message => message :: accepted accept more
    | none => []

end Text

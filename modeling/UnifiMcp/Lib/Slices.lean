import UnifiMcp.Lib.Text
/-!
# Slices by byte offsets

A text is searched and cut by byte offsets. A cut that is not between two characters has no result.

* `find_append` — the first occurrence of a character.
* `splitAtByte_append` — a cut where a part ends gives that part.
-/

namespace Text

/-- `str::find`: the byte offset of the first occurrence. -/
def find (c : Char) : Text → Option Nat
  | [] => none
  | d :: t => if d = c then some 0 else (find c t).map (d.utf8Size + ·)

/-- `(&t[..offset], &t[offset..])`. -/
def splitAtByte : Text → Nat → Option (Text × Text)
  | t, 0 => some ([], t)
  | [], _ + 1 => none
  | c :: t, offset + 1 =>
    if c.utf8Size ≤ offset + 1 then (splitAtByte t (offset + 1 - c.utf8Size)).map fun parts => (c :: parts.1, parts.2) else none

theorem find_append {c : Char} {front : Text} (h : c ∉ front) (rest : Text) :
    find c (front ++ c :: rest) = some (byteLen front) := by
  induction front with
  | nil => simp [find]
  | cons d front ih =>
    have hd : d ≠ c := fun heq => h (heq ▸ List.mem_cons_self)
    rw [List.cons_append, find, if_neg hd, ih fun hmem => h (List.mem_cons_of_mem _ hmem)]
    rfl

theorem find_eq_none {c : Char} {t : Text} (h : c ∉ t) : find c t = none := by
  induction t with
  | nil => rfl
  | cons d t ih =>
    have hd : d ≠ c := fun heq => h (heq ▸ List.mem_cons_self)
    rw [find, if_neg hd, ih fun hmem => h (List.mem_cons_of_mem _ hmem)]
    rfl

theorem splitAtByte_append (front rest : Text) : splitAtByte (front ++ rest) (byteLen front) = some (front, rest) := by
  induction front with
  | nil => cases rest <;> rfl
  | cons c front ih =>
    have hsize := c.utf8Size_pos
    obtain ⟨offset, hoffset⟩ : ∃ offset, byteLen (c :: front) = offset + 1 :=
      ⟨byteLen (c :: front) - 1, by rw [byteLen_cons]; omega⟩
    have hrest : offset + 1 - c.utf8Size = byteLen front := by
      rw [← hoffset, byteLen_cons]
      omega
    rw [hoffset, List.cons_append, splitAtByte, if_pos (by rw [← hoffset, byteLen_cons]; omega), hrest, ih]
    rfl

end Text

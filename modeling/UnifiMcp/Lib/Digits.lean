import Mathlib.Algebra.Order.Ring.Nat
import Mathlib.Tactic.Ring
import UnifiMcp.Lib.Text
/-!
# Decimal numerals

Digits as the number they stand for, and their lexicographic order.

* `natOf_cons`, `natOf_append` — the first digits weigh most.
* `natOf_lt`, `pow_le_natOf` — the length of a numeral bounds its number.
* `lexicographic_eq_compare` — **numerals of one length are ordered as their numbers are.**
-/

namespace Text

/-- All characters are decimal digits. -/
def Digits (t : Text) : Prop := ∀ c ∈ t, c.isDigit = true

def digit (c : Char) : Nat := c.toNat - 48

theorem Digits.tail {c : Char} {t : Text} (h : Digits (c :: t)) : Digits t := fun d hd => h d (List.mem_cons_of_mem _ hd)

theorem Digits.append {s t : Text} (hs : Digits s) (ht : Digits t) : Digits (s ++ t) := fun c hc =>
  (List.mem_append.1 hc).elim (hs c) (ht c)

theorem digits_dec (n : Nat) : Digits (dec n) := fun _ => isDigit_of_mem_dec

theorem digits_zeros (n : Nat) : Digits (List.replicate n '0') := by
  intro c hc
  rw [List.eq_of_mem_replicate hc]
  rfl

theorem digit_bounds {c : Char} (h : c.isDigit = true) : 48 ≤ c.toNat ∧ c.toNat ≤ 57 := by
  rw [Char.isDigit, Bool.and_eq_true, decide_eq_true_eq, decide_eq_true_eq] at h
  exact ⟨UInt32.le_iff_toNat_le.1 h.1, UInt32.le_iff_toNat_le.1 h.2⟩

theorem digit_lt {c : Char} (h : c.isDigit = true) : digit c < 10 := by
  have hbounds := digit_bounds h
  unfold digit
  omega

@[simp] theorem natOf_nil : natOf [] = 0 := rfl

theorem natOf_cons (c : Char) (t : Text) : natOf (c :: t) = digit c * 10 ^ t.length + natOf t := by
  rw [natOf, Nat.ofDigitChars_cons, Nat.ofDigitChars_eq_ofDigitChars_zero, natOf, digit, Nat.mul_zero, Nat.zero_add,
    Nat.mul_comm]
  rfl

theorem natOf_append (s t : Text) : natOf (s ++ t) = natOf s * 10 ^ t.length + natOf t := by
  rw [natOf, Nat.ofDigitChars_append, Nat.ofDigitChars_eq_ofDigitChars_zero, natOf, natOf, Nat.mul_comm]

theorem natOf_lt {t : Text} (h : Digits t) : natOf t < 10 ^ t.length := by
  induction t with
  | nil => exact Nat.one_pos
  | cons c t ih =>
    have hc : digit c + 1 ≤ 10 := digit_lt (h c List.mem_cons_self)
    have ht := ih h.tail
    calc natOf (c :: t) = digit c * 10 ^ t.length + natOf t := natOf_cons c t
      _ < digit c * 10 ^ t.length + 10 ^ t.length := Nat.add_lt_add_left ht _
      _ = (digit c + 1) * 10 ^ t.length := by ring
      _ ≤ 10 * 10 ^ t.length := Nat.mul_le_mul_right _ hc
      _ = 10 ^ (c :: t).length := by rw [List.length_cons, Nat.pow_succ, Nat.mul_comm]

/-- A numeral that does not start with zero. -/
theorem pow_le_natOf {c : Char} {t : Text} (h : c.isDigit = true) (hc : c ≠ '0') : 10 ^ t.length ≤ natOf (c :: t) := by
  have hpos : 1 ≤ digit c := by
    have hbounds := digit_bounds h
    have hne : c.toNat ≠ 48 := fun heq => hc (Char.toNat_inj.1 heq)
    unfold digit
    omega
  rw [natOf_cons]
  calc 10 ^ t.length = 1 * 10 ^ t.length := (Nat.one_mul _).symm
    _ ≤ digit c * 10 ^ t.length := Nat.mul_le_mul_right _ hpos
    _ ≤ digit c * 10 ^ t.length + natOf t := Nat.le_add_right ..

/-- Only zero is written with a leading zero. -/
theorem dec_head {n : Nat} (h : (dec n).head? = some '0') : (dec n).length = 1 := by
  induction n using Nat.strong_induction_on with
  | _ n ih =>
    by_cases hn : n < 10
    · rw [dec, Nat.toDigits_of_lt_base hn]
      rfl
    · have hsplit : dec n = dec (n / 10) ++ [Nat.digitChar (n % 10)] := Nat.toDigits_of_base_le (by decide) (by omega)
      have hne : dec (n / 10) ≠ [] := List.ne_nil_of_length_pos Nat.length_toDigits_pos
      rw [hsplit, List.head?_append_of_ne_nil _ hne] at h
      have hlength := ih (n / 10) (by omega) h
      -- a one-digit quotient that starts with zero is zero
      have hzero : n / 10 = 0 := by
        rw [← natOf_dec (n / 10)]
        obtain ⟨c, hc⟩ := List.length_eq_one_iff.1 hlength
        rw [hc] at h ⊢
        cases h
        rfl
      omega

/-! ## Zeros -/

theorem natOf_append_zeros (t : Text) (n : Nat) : natOf (t ++ List.replicate n '0') = natOf t * 10 ^ n := by
  rw [natOf, Nat.ofDigitChars_append, Nat.ofDigitChars_replicate_zero, Nat.mul_comm]
  rfl

theorem natOf_zeros_append (n : Nat) (t : Text) : natOf (List.replicate n '0' ++ t) = natOf t := by
  rw [natOf, Nat.ofDigitChars_append, Nat.ofDigitChars_replicate_zero, Nat.mul_zero]
  rfl

theorem eq_zeros {digits : Text} (h : ∀ c ∈ digits, c = '0') : digits = List.replicate digits.length '0' :=
  List.eq_replicate_of_mem h

/-- Leading zeros add nothing. -/
theorem natOf_dropWhile (digits : Text) : natOf (digits.dropWhile (· = '0')) = natOf digits := by
  have hzeros : digits.takeWhile (· = '0') = List.replicate (digits.takeWhile (· = '0')).length '0' :=
    eq_zeros fun c hc => by simpa using List.mem_takeWhile_imp hc
  calc natOf (digits.dropWhile (· = '0'))
      = natOf (digits.takeWhile (· = '0') ++ digits.dropWhile (· = '0')) := by rw [hzeros, natOf_zeros_append]
    _ = natOf digits := by rw [List.takeWhile_append_dropWhile]

theorem zero_of_dropWhile {digits : Text} (h : digits.dropWhile (· = '0') = []) : natOf digits = 0 := by
  rw [← natOf_dropWhile, h, natOf_nil]

/-! ## Order -/

/-- The order of two texts, character by character. -/
def lexicographic : Text → Text → Ordering
  | [], [] => .eq
  | [], _ :: _ => .lt
  | _ :: _, [] => .gt
  | c :: s, d :: t => (compare c.toNat d.toNat).then (lexicographic s t)

/-- Numerals of one length are the same when no character differs. -/
theorem eq_of_lexicographic : ∀ {s t : Text}, lexicographic s t = .eq → s = t
  | [], [], _ => rfl
  | [], _ :: _, h => by cases h
  | _ :: _, [], h => by cases h
  | c :: s, d :: t, h => by
    rw [lexicographic, Ordering.then_eq_eq, Nat.compare_eq_eq] at h
    rw [Char.toNat_inj.1 h.1, eq_of_lexicographic h.2]

/-- A greater first digit outweighs all that follow. -/
theorem natOf_lt_of_first {c d : Char} {s t : Text} (hlength : s.length = t.length) (hs : Digits s)
    (h : digit c < digit d) : natOf (c :: s) < natOf (d :: t) := by
  have hle : digit c + 1 ≤ digit d := h
  rw [natOf_cons, natOf_cons, ← hlength]
  calc digit c * 10 ^ s.length + natOf s < digit c * 10 ^ s.length + 10 ^ s.length := Nat.add_lt_add_left (natOf_lt hs) _
    _ = (digit c + 1) * 10 ^ s.length := by ring
    _ ≤ digit d * 10 ^ s.length := Nat.mul_le_mul_right _ hle
    _ ≤ digit d * 10 ^ s.length + natOf t := Nat.le_add_right ..

/-- **Numerals of one length are ordered as their numbers are.** -/
theorem lexicographic_eq_compare : ∀ {s t : Text}, s.length = t.length → Digits s → Digits t →
    lexicographic s t = compare (natOf s) (natOf t)
  | [], [], _, _, _ => rfl
  | [], _ :: _, hlength, _, _ => by cases hlength
  | _ :: _, [], hlength, _, _ => by cases hlength
  | c :: s, d :: t, hlength, hs, ht => by
    have hlength : s.length = t.length := Nat.succ.inj hlength
    have hc := digit_bounds (hs c List.mem_cons_self)
    have hd := digit_bounds (ht d List.mem_cons_self)
    rw [lexicographic]
    rcases Nat.lt_trichotomy c.toNat d.toNat with hlt | heq | hgt
    · have hless : digit c < digit d := by
        unfold digit
        omega
      rw [Nat.compare_eq_lt.2 hlt, Nat.compare_eq_lt.2 (natOf_lt_of_first hlength hs.tail hless)]
      rfl
    · have hsame : digit c = digit d := by
        unfold digit
        omega
      rw [Nat.compare_eq_eq.2 heq, natOf_cons, natOf_cons, hsame, hlength, lexicographic_eq_compare hlength hs.tail ht.tail]
      rcases Nat.lt_trichotomy (natOf s) (natOf t) with h | h | h
      · rw [Nat.compare_eq_lt.2 h, Nat.compare_eq_lt.2 (Nat.add_lt_add_left h _)]
        rfl
      · rw [h, Nat.compare_eq_eq.2 rfl, Nat.compare_eq_eq.2 rfl]
        rfl
      · rw [Nat.compare_eq_gt.2 h, Nat.compare_eq_gt.2 (Nat.add_lt_add_left h _)]
        rfl
    · have hless : digit d < digit c := by
        unfold digit
        omega
      rw [Nat.compare_eq_gt.2 hgt, Nat.compare_eq_gt.2 (natOf_lt_of_first hlength.symm ht.tail hless)]
      rfl

end Text

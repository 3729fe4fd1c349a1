import UnifiMcp.Lib.Digits
import UnifiMcp.Mcp.RequestedJson
/-! # JSON number texts (unifi-mcp/src/tools.rs)

A number keeps the text it was written with. `JsonNumber` is that text by its parts, with the value it
denotes; the functions that take a number apart find these parts.

* `parts_text` — sign, mantissa and exponent are found where they were written.
* `decimalValue_text` — **the decimal value of a text is the value it denotes.** -/
namespace UnifiMcp
open Text

/-- The exponent of a number: which letter, which sign, and the digits. -/
structure Exponent where
  upper : Bool
  /-- Whether the sign, if there is one, is a minus. -/
  sign : Option Bool
  digits : Text
  nonempty : digits ≠ []
  isDigits : Digits digits

/-- A number of the JSON grammar. -/
structure JsonNumber where
  negative : Bool
  int : Text
  frac : Option Text
  exp : Option Exponent
  int_nonempty : int ≠ []
  int_digits : Digits int
  /-- No leading zero. -/
  leading : int.head? = some '0' → int.length = 1
  frac_digits : ∀ f ∈ frac, f ≠ [] ∧ Digits f

namespace Exponent

def signText : Option Bool → Text
  | none => []
  | some true => ['-']
  | some false => ['+']

def text (e : Exponent) : Text := signText e.sign ++ e.digits

def value (e : Exponent) : Int := if e.sign = some true then -(natOf e.digits : Int) else natOf e.digits

def letter (e : Exponent) : Char := if e.upper then 'E' else 'e'

end Exponent

namespace JsonNumber

/-- The digits behind the point. -/
def fraction (n : JsonNumber) : Text := n.frac.getD []

def mantissa (n : JsonNumber) : Text := n.int ++ n.frac.elim [] fun f => '.' :: f

def exponentText (n : JsonNumber) : Text := n.exp.elim ['0'] Exponent.text

def exponent (n : JsonNumber) : Int := n.exp.elim 0 Exponent.value

def unsigned (n : JsonNumber) : Text := n.mantissa ++ n.exp.elim [] fun e => e.letter :: e.text

/-- The number as it is written. -/
def text (n : JsonNumber) : Text := (if n.negative then ['-'] else []) ++ n.unsigned

/-- The number it denotes: its integer part and its fraction, times a power of ten. -/
def value (n : JsonNumber) : ℚ :=
  (if n.negative then -1 else 1) * (natOf n.int + natOf n.fraction / 10 ^ n.fraction.length) * (10 : ℚ) ^ n.exponent

/-- All digits, without the point. -/
def digits (n : JsonNumber) : Text := n.int ++ n.fraction

theorem fraction_digits (n : JsonNumber) : Digits n.fraction := by
  unfold fraction
  cases hfrac : n.frac with
  | none => exact fun _ hc => (by cases hc)
  | some f => exact (n.frac_digits f hfrac).2

theorem digits_digits (n : JsonNumber) : Digits n.digits := n.int_digits.append n.fraction_digits

/-- The value by all digits and the place of the point. -/
theorem value_eq (n : JsonNumber) : n.value =
    (if n.negative then -1 else 1) * (natOf n.digits : ℚ) * (10 : ℚ) ^ (n.exponent - n.fraction.length) := by
  have hten : (10 : ℚ) ≠ 0 := by norm_num
  have hpow : (10 : ℚ) ^ n.fraction.length ≠ 0 := pow_ne_zero _ hten
  rw [value, digits, natOf_append, zpow_sub₀ hten, zpow_natCast]
  push_cast
  field_simp

/-! ## Finding the parts -/

theorem splitOnce_append {p : Char → Bool} {a : Text} {c : Char} (b : Text) (ha : ∀ d ∈ a, p d = false) (hc : p c = true) :
    splitOnce p (a ++ c :: b) = some (a, b) := by
  have hany : (a ++ c :: b).any p = true := List.any_eq_true.2 ⟨c, by simp, hc⟩
  have hnot : ∀ d ∈ a, (fun d => !p d) d = true := fun d hd => by simp [ha d hd]
  rw [splitOnce, if_pos hany, List.takeWhile_append_of_pos hnot, List.dropWhile_append_of_pos hnot,
    List.takeWhile_cons_of_neg (by simp [hc]), List.dropWhile_cons_of_neg (by simp [hc]), List.append_nil, List.tail_cons]

theorem splitOnce_none {p : Char → Bool} {a : Text} (ha : ∀ d ∈ a, p d = false) : splitOnce p a = none := by
  rw [splitOnce, if_neg]
  rw [List.any_eq_true]
  rintro ⟨d, hd, hp⟩
  rw [ha d hd] at hp
  cases hp

theorem not_digit_of {c : Char} (h : c.isDigit = false) {d : Char} (hd : d.isDigit = true) : d ≠ c := by
  rintro rfl
  rw [h] at hd
  cases hd

/-- A mantissa is made of digits and the point. -/
theorem mem_mantissa {n : JsonNumber} {c : Char} (h : c ∈ n.mantissa) : c.isDigit = true ∨ c = '.' := by
  rcases List.mem_append.1 h with h | h
  · exact Or.inl (n.int_digits c h)
  · cases hfrac : n.frac with
    | none =>
      rw [hfrac] at h
      cases h
    | some f =>
      rw [hfrac] at h
      rcases List.mem_cons.1 h with rfl | h
      · exact Or.inr rfl
      · exact Or.inl ((n.frac_digits f hfrac).2 c h)

theorem stripSign_text (n : JsonNumber) : stripSign n.text = (n.negative, n.unsigned) := by
  have hhead : n.unsigned.head? ≠ some '-' := by
    obtain ⟨c, t, hint⟩ := List.exists_cons_of_ne_nil n.int_nonempty
    have hc : c.isDigit = true := n.int_digits c (by rw [hint]; exact List.mem_cons_self)
    rw [unsigned, mantissa, hint]
    intro heq
    exact not_digit_of rfl hc (Option.some.inj heq)
  have hunsigned (t : Text) (ht : t.head? ≠ some '-') : stripSign t = (false, t) := by
    unfold stripSign
    split
    · exact absurd rfl ht
    · rfl
  unfold text
  cases n.negative with
  | true => rfl
  | false => exact hunsigned _ hhead

theorem splitExponent_unsigned (n : JsonNumber) : splitExponent n.unsigned = (n.mantissa, n.exponentText) := by
  have hmantissa : ∀ d ∈ n.mantissa, (decide (d = 'e') || decide (d = 'E')) = false := by
    intro d hd
    have hne : d ≠ 'e' ∧ d ≠ 'E' := by
      rcases mem_mantissa hd with h | rfl
      · exact ⟨not_digit_of rfl h, not_digit_of rfl h⟩
      · exact ⟨by decide, by decide⟩
    simp [hne.1, hne.2]
  unfold splitExponent unsigned exponentText
  cases n.exp with
  | none =>
    rw [Option.elim_none, Option.elim_none, List.append_nil, splitOnce_none hmantissa]
    rfl
  | some e =>
    have hletter : (decide (e.letter = 'e') || decide (e.letter = 'E')) = true := by
      unfold Exponent.letter
      cases e.upper <;> rfl
    rw [Option.elim_some, Option.elim_some, splitOnce_append _ hmantissa hletter]
    rfl

theorem int_no_point (n : JsonNumber) : ∀ d ∈ n.int, decide (d = '.') = false := fun d hd =>
  decide_eq_false (not_digit_of rfl (n.int_digits d hd))

theorem fractionalDigits_mantissa (n : JsonNumber) : fractionalDigits n.mantissa = n.fraction.length := by
  unfold fractionalDigits mantissa fraction
  cases n.frac with
  | none =>
    rw [Option.elim_none, List.append_nil, splitOnce_none n.int_no_point]
    rfl
  | some f =>
    rw [Option.elim_some, splitOnce_append f n.int_no_point (by decide)]
    rfl

theorem filter_mantissa (n : JsonNumber) : n.mantissa.filter (· ≠ '.') = n.digits := by
  have hkeep {t : Text} (ht : Digits t) : t.filter (· ≠ '.') = t :=
    List.filter_eq_self.2 fun c hc => decide_eq_true (not_digit_of rfl (ht c hc))
  unfold mantissa digits fraction
  rw [List.filter_append, hkeep n.int_digits]
  cases hfrac : n.frac with
  | none => rfl
  | some f =>
    have hpoint : ('.' :: f).filter (· ≠ '.') = f.filter (· ≠ '.') := rfl
    rw [Option.elim_some, hpoint, hkeep (n.frac_digits f hfrac).2]
    rfl

theorem readInt_exponentText (n : JsonNumber) : readInt n.exponentText = some n.exponent := by
  have hdigits {t : Text} (hne : t ≠ []) (ht : Digits t) (sign : Bool) :
      (if t ≠ [] ∧ t.all Char.isDigit then some (if sign then -(natOf t : Int) else natOf t) else none) =
        some (if sign then -(natOf t : Int) else natOf t) := if_pos ⟨hne, List.all_eq_true.2 ht⟩
  unfold exponentText exponent
  cases n.exp with
  | none => decide
  | some e =>
    obtain ⟨upper, sign, t, hne, ht⟩ := e
    show readInt (Exponent.signText sign ++ t) = some (if sign = some true then -(natOf t : Int) else natOf t)
    obtain ⟨c, s, hcons⟩ := List.exists_cons_of_ne_nil hne
    have hc : c.isDigit = true := ht c (by rw [hcons]; exact List.mem_cons_self)
    match sign with
    | some true => exact hdigits hne ht true
    | some false => exact hdigits hne ht false
    | none =>
      have hplus : c ≠ '+' := not_digit_of rfl hc
      have hminus : c ≠ '-' := not_digit_of rfl hc
      have hstrip : stripSign (c :: s) = (false, c :: s) := by
        unfold stripSign
        split
        · rename_i heq
          exact absurd (List.cons.inj heq).1 hminus
        · rfl
      have hread : readInt (c :: s) = if c :: s ≠ [] ∧ (c :: s).all Char.isDigit then
          some (if (stripSign (c :: s)).1 then -(natOf (stripSign (c :: s)).2 : Int) else natOf (stripSign (c :: s)).2) else none := by
        unfold readInt
        split
        rename_i negative digits heq
        split at heq
        · rename_i hsigned
          exact absurd (List.cons.inj hsigned).1 hplus
        · rw [hstrip] at heq ⊢
          cases heq
          rfl
      rw [hcons] at hne ht ⊢
      show readInt (c :: s) = _
      rw [hread, hstrip, if_pos ⟨hne, List.all_eq_true.2 ht⟩]
      rfl

/-- **The decimal value of a text is the value it denotes.** -/
theorem decimalValue_text (n : JsonNumber) : decimalValue n.text = some n.value := by
  unfold decimalValue
  rw [stripSign_text]
  dsimp only
  rw [splitExponent_unsigned]
  dsimp only
  rw [filter_mantissa, readInt_exponentText, fractionalDigits_mantissa, value_eq, Option.map_some]
  split
  · rename_i hzero
    simp [hzero]
  · rfl

end JsonNumber

end UnifiMcp

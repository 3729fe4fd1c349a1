import UnifiMcp.Mcp.NumberRange
/-! # Equal numbers, equal values (unifi-mcp/src/tools.rs)

`numbers_equivalent` compares the sign, the significant digits and the exponent. The significant digits
start and end with a digit that is not zero, so a value has one such triple.

* `numbersEquivalent_of_value` — **numbers of one value are equivalent** while their exponents fit `i128`.
* `requested_json_matches_exact` — what the comparison of two values decides, and that it does not depend
  on how they are written. -/
namespace UnifiMcp
open Text

/-! ## One numeral for a number -/

namespace Significant

variable {s t : Text}

theorem length_le (hs : Significant s) (ht : Significant t) (h : natOf s = natOf t) : s.length ≤ t.length := by
  by_contra hlonger
  have hscaled := ht.scaled_lt hs (e := 0) (f := 0) (by omega)
  rw [h] at hscaled
  exact lt_irrefl _ hscaled

/-- A number has one numeral without a leading zero. -/
theorem natOf_inj (hs : Significant s) (ht : Significant t) (h : natOf s = natOf t) : s = t := by
  refine eq_of_lexicographic ?_
  rw [lexicographic_eq_compare (Nat.le_antisymm (hs.length_le ht h) (ht.length_le hs h.symm)) hs.isDigits ht.isDigits, h]
  exact Nat.compare_eq_eq.2 rfl

theorem natOf_pos (hs : Significant s) : 0 < natOf s := by
  have hpos : (0 : ℚ) < natOf s := (zpow_pos (by norm_num) _).trans_le hs.bounds.1
  exact_mod_cast hpos

end Significant

/-- A numeral that neither starts nor ends with a zero. -/
structure TrimmedDigits (digits : Text) : Prop where
  significant : Significant digits
  last : digits.getLast? ≠ some '0'

namespace TrimmedDigits

variable {s t : Text} {e f : Int}

/-- Ten does not divide it. -/
theorem not_dvd (hs : TrimmedDigits s) : ¬ 10 ∣ natOf s := by
  obtain ⟨front, c, rfl⟩ := (List.eq_nil_or_concat' s).resolve_left hs.significant.nonempty
  have hc : c.isDigit = true := hs.significant.isDigits c (by simp)
  have hlt := digit_lt hc
  have hne : digit c ≠ 0 := by
    have hbounds := digit_bounds hc
    have hzero : c.toNat ≠ '0'.toNat := fun heq => hs.last (by rw [List.getLast?_concat, Char.toNat_inj.1 heq])
    have hcode : '0'.toNat = 48 := rfl
    unfold digit
    omega
  have hsplit : natOf (front ++ [c]) = natOf front * 10 + digit c := by
    rw [natOf_append, natOf_cons]
    simp
  rw [hsplit]
  omega

theorem exponent_le (hs : TrimmedDigits s) (h : (natOf s : ℚ) * 10 ^ e = natOf t * 10 ^ f) : f ≤ e := by
  by_contra hless
  obtain ⟨k, hk⟩ : ∃ k : Nat, f = e + 1 + k := ⟨(f - e - 1).toNat, by omega⟩
  have hten : (10 : ℚ) ≠ 0 := by norm_num
  have hscale : (10 : ℚ) ^ e ≠ 0 := zpow_ne_zero _ hten
  rw [hk, zpow_add₀ hten, zpow_add₀ hten, zpow_one, zpow_natCast] at h
  have hcast : (natOf s : ℚ) = ((10 * (natOf t * 10 ^ k) : Nat) : ℚ) := by
    push_cast
    refine mul_right_cancel₀ hscale (h.trans ?_)
    ring
  exact hs.not_dvd ⟨_, Nat.cast_injective hcast⟩

/-- **A value has one trimmed numeral and one exponent.** -/
theorem unique (hs : TrimmedDigits s) (ht : TrimmedDigits t) (h : (natOf s : ℚ) * 10 ^ e = natOf t * 10 ^ f) : s = t ∧ e = f := by
  obtain rfl : e = f := Int.le_antisymm (ht.exponent_le h.symm) (hs.exponent_le h)
  have hscale : (10 : ℚ) ^ e ≠ 0 := zpow_ne_zero _ (by norm_num)
  exact ⟨hs.significant.natOf_inj ht.significant (Nat.cast_injective (mul_right_cancel₀ hscale h)), rfl⟩

end TrimmedDigits

theorem trimmed_trimZeros {digits : Text} (h : Digits digits) (hne : trimZeros digits ≠ []) : TrimmedDigits (trimZeros digits) := by
  have hprefix : trimZeros digits <+: digits.dropWhile (· = '0') := List.rdropWhile_prefix ..
  have hdrop : digits.dropWhile (· = '0') ≠ [] := fun hnil => hne (by rw [trimZeros, hnil]; rfl)
  refine ⟨⟨fun c hc => h c ((List.dropWhile_sublist _).mem (List.IsPrefix.subset hprefix hc)), hne, fun hhead => ?_⟩, fun hlast => ?_⟩
  · obtain ⟨rest, hrest⟩ := hprefix
    refine (significant_dropWhile h hdrop).head ?_
    rw [← hrest, List.head?_append_of_ne_nil _ hne, hhead]
  · have hnot := List.rdropWhile_last_not (fun c : Char => decide (c = '0')) (digits.dropWhile (· = '0')) hne
    rw [List.getLast?_eq_some_getLast hne] at hlast
    exact hnot (decide_eq_true (Option.some.inj hlast))

/-! ## The parts of a number -/

def FitsI128 (n : Int) : Prop := -I128_MAX - 1 ≤ n ∧ n ≤ I128_MAX

instance (n : Int) : Decidable (FitsI128 n) := inferInstanceAs (Decidable (_ ∧ _))

namespace JsonNumber

def trailingZeros (n : JsonNumber) : Nat := n.digits.length - (n.digits.rdropWhile (· = '0')).length

/-- The exponents that the comparison computes fit. -/
structure Within (n : JsonNumber) : Prop where
  exponent : FitsI128 n.exponent
  shifted : FitsI128 (n.exponent - n.fraction.length)
  total : FitsI128 (n.exponent - n.fraction.length + n.trailingZeros)

/-- What `decimal_parts` makes of the text. -/
theorem decimalParts_text (n : JsonNumber) (h : n.Within) : decimalParts n.text =
    some (if trimZeros n.digits = [] then (false, [], 0)
      else (n.negative, trimZeros n.digits, n.exponent - n.fraction.length + n.trailingZeros)) := by
  unfold decimalParts
  rw [stripSign_text]
  dsimp only
  rw [splitExponent_unsigned]
  dsimp only
  rw [filter_mantissa, readInt_exponentText, fractionalDigits_mantissa]
  split
  · rfl
  · have hexponent : checkedI128 n.exponent = some n.exponent := if_pos h.exponent
    have hshifted : checkedI128 (n.exponent - n.fraction.length) = some (n.exponent - n.fraction.length) := if_pos h.shifted
    have htotal : checkedI128 (n.exponent - n.fraction.length + n.trailingZeros) =
      some (n.exponent - n.fraction.length + n.trailingZeros) := if_pos h.total
    rw [Option.bind_some, hexponent, Option.bind_some, hshifted, Option.bind_some]
    exact congrArg (Option.map _) htotal

theorem value_of_trimZeros (n : JsonNumber) (h : trimZeros n.digits ≠ []) : n.value =
    (if n.negative then -1 else 1) *
      (natOf (trimZeros n.digits) * (10 : ℚ) ^ (n.exponent - n.fraction.length + n.trailingZeros)) := by
  have hten : (10 : ℚ) ≠ 0 := by norm_num
  rw [value_eq, natOf_trimZeros h, zpow_add₀ hten, zpow_natCast, trailingZeros]
  push_cast
  ring

theorem scaled_pos (n : JsonNumber) (h : trimZeros n.digits ≠ []) :
    (0 : ℚ) < natOf (trimZeros n.digits) * (10 : ℚ) ^ (n.exponent - n.fraction.length + n.trailingZeros) :=
  mul_pos (by exact_mod_cast (trimmed_trimZeros n.digits_digits h).significant.natOf_pos) (zpow_pos (by norm_num) _)

theorem trimZeros_nil_iff (n : JsonNumber) : trimZeros n.digits = [] ↔ n.value = 0 := by
  constructor
  · intro h
    rw [value_eq, natOf_of_trimZeros_nil h]
    simp
  · intro h
    by_contra hne
    have hpos := n.scaled_pos hne
    rw [n.value_of_trimZeros hne] at h
    split at h <;> linarith

/-- **Numbers of one value are equivalent.** -/
theorem numbersEquivalent_of_value (a b : JsonNumber) (ha : a.Within) (hb : b.Within) (h : a.value = b.value) :
    numbersEquivalent a.text b.text = true := by
  have hparts : decimalParts a.text = decimalParts b.text := by
    rw [a.decimalParts_text ha, b.decimalParts_text hb]
    by_cases hanil : trimZeros a.digits = []
    · have hbnil := b.trimZeros_nil_iff.2 (h ▸ a.trimZeros_nil_iff.1 hanil)
      rw [if_pos hanil, if_pos hbnil]
    · have hbnil : trimZeros b.digits ≠ [] := fun hnil => hanil (a.trimZeros_nil_iff.2 (h ▸ b.trimZeros_nil_iff.1 hnil))
      have hapos := a.scaled_pos hanil
      have hbpos := b.scaled_pos hbnil
      rw [a.value_of_trimZeros hanil, b.value_of_trimZeros hbnil] at h
      -- the sign of the value is the sign of the text
      obtain ⟨hsign, hscaled⟩ : a.negative = b.negative ∧
          (natOf (trimZeros a.digits) : ℚ) * (10 : ℚ) ^ (a.exponent - a.fraction.length + a.trailingZeros) =
            natOf (trimZeros b.digits) * (10 : ℚ) ^ (b.exponent - b.fraction.length + b.trailingZeros) := by
        cases hna : a.negative <;> cases hnb : b.negative <;> rw [hna, hnb] at h <;>
          simp only [if_true, Bool.false_eq_true, if_false] at h
        · exact ⟨rfl, by linarith⟩
        · linarith
        · linarith
        · exact ⟨rfl, by linarith⟩
      obtain ⟨hdigits, hexponent⟩ := (trimmed_trimZeros a.digits_digits hanil).unique (trimmed_trimZeros b.digits_digits hbnil) hscaled
      rw [if_neg hanil, if_neg hbnil, hsign, hdigits, hexponent]
  unfold numbersEquivalent
  split
  · rfl
  · rw [hparts, b.decimalParts_text hb]
    exact decide_eq_true rfl

theorem value_of_numbersEquivalent {a b : JsonNumber} (h : numbersEquivalent a.text b.text = true) : a.value = b.value := by
  have hvalue := decimalValue_of_equivalent h
  rw [a.decimalValue_text, b.decimalValue_text] at hvalue
  exact Option.some.inj hvalue

end JsonNumber

theorem numbersEquivalent_trans {a b c : Text} (hab : numbersEquivalent a b = true) (hbc : numbersEquivalent b c = true) :
    numbersEquivalent a c = true := by
  by_cases hsame : a = b
  · rwa [hsame]
  · by_cases hsame' : b = c
    · rwa [← hsame']
    · unfold numbersEquivalent at hab hbc ⊢
      rw [if_neg hsame] at hab
      rw [if_neg hsame'] at hbc
      split
      · rfl
      · split at hab
        · rename_i x y hx hy
          rw [hy] at hbc
          split at hbc
          · rename_i y' z hy' hz
            cases hy'
            rw [hx, hz]
            exact decide_eq_true ((of_decide_eq_true hab).trans (of_decide_eq_true hbc))
          · cases hbc
        · cases hab

/-! ## Values -/

/-- The texts are numbers of one value. -/
def SameNumber (a b : Text) : Prop := ∃ m n : JsonNumber, m.text = a ∧ n.text = b ∧ m.value = n.value

/-- As `SameNumber`, with exponents that the comparison can hold. -/
def Respelled (a b : Text) : Prop := ∃ m n : JsonNumber, m.text = a ∧ n.text = b ∧ m.value = n.value ∧ m.Within ∧ n.Within

def IsNumber (t : Text) : Prop := ∃ n : JsonNumber, n.text = t

def IsWithin (t : Text) : Prop := ∃ n : JsonNumber, n.text = t ∧ n.Within

/-! ## What the comparison decides -/

theorem requestedJsonMatches_refl {value : Json} (h : value.Distinct) : requestedJsonMatches value value = true :=
  (requestedJsonMatches_iff value value h).2 (Json.Carries.refl numbersEquivalent_refl value)

theorem requestedJsonMatches_trans {a b c : Json} (ha : a.Distinct) (hb : b.Distinct) (hab : requestedJsonMatches a b = true)
    (hbc : requestedJsonMatches b c = true) : requestedJsonMatches a c = true :=
  (requestedJsonMatches_iff a c ha).2 <|
    @Json.Carries.trans (fun a b => numbersEquivalent a b = true) (fun _ _ _ => numbersEquivalent_trans) _ _ _ ((requestedJsonMatches_iff a b ha).1 hab)
      ((requestedJsonMatches_iff b c hb).1 hbc)

/-- Members in another order and numbers in another spelling change nothing. -/
theorem requestedJsonMatches_restates {number : Text → Text → Prop} (hsymm : ∀ a b, number a b → number b a)
    (hnumber : ∀ a a' b b', number a a' → number b b' → numbersEquivalent a b = true → numbersEquivalent a' b' = true)
    {a a' b b' : Json} (hdistinct : a.Distinct) (hdistinct' : a'.Distinct) (ha : Json.Restates number a a')
    (hb : Json.Restates number b b') : requestedJsonMatches a b = requestedJsonMatches a' b' := by
  rw [Bool.eq_iff_iff, requestedJsonMatches_iff a b hdistinct, requestedJsonMatches_iff a' b' hdistinct']
  exact ⟨ha.carries hsymm hnumber hb, (ha.symm hsymm).carries hsymm hnumber (hb.symm hsymm)⟩

theorem respelled_symm (a b : Text) (h : Respelled a b) : Respelled b a := by
  obtain ⟨m, n, hm, hn, hvalue, hmw, hnw⟩ := h
  exact ⟨n, m, hn, hm, hvalue.symm, hnw, hmw⟩

theorem numbersEquivalent_respelled (a a' b b' : Text) (ha : Respelled a a') (hb : Respelled b b')
    (h : numbersEquivalent a b = true) : numbersEquivalent a' b' = true := by
  obtain ⟨m, m', rfl, rfl, hm, -, hmw⟩ := ha
  obtain ⟨n, n', rfl, rfl, hn, -, hnw⟩ := hb
  exact JsonNumber.numbersEquivalent_of_value m' n' hmw hnw (hm.symm.trans ((JsonNumber.value_of_numbersEquivalent h).trans hn))

/-- A match carries every value. -/
theorem carries_of_requestedJsonMatches {requested observed : Json} (hdistinct : requested.Distinct)
    (hrequested : requested.Numbers IsNumber) (hobserved : observed.Numbers IsNumber)
    (h : requestedJsonMatches requested observed = true) : Json.Carries SameNumber requested observed := by
  refine Json.Carries.mono_numbers ?_ hrequested hobserved ((requestedJsonMatches_iff requested observed hdistinct).1 h)
  rintro _ _ ⟨m, rfl⟩ ⟨n, rfl⟩ hequivalent
  exact ⟨m, n, rfl, rfl, JsonNumber.value_of_numbersEquivalent hequivalent⟩

/-- What carries every value is a match. -/
theorem requestedJsonMatches_of_carries {requested observed : Json} (hdistinct : requested.Distinct)
    (hrequested : requested.Numbers IsWithin) (hobserved : observed.Numbers IsWithin)
    (h : Json.Carries SameNumber requested observed) : requestedJsonMatches requested observed = true := by
  refine (requestedJsonMatches_iff requested observed hdistinct).2 (Json.Carries.mono_numbers ?_ hrequested hobserved h)
  rintro _ _ ⟨m, rfl, hm⟩ ⟨n, rfl, hn⟩ ⟨m', n', hm', hn', hvalue⟩
  have hsame : m.value = n.value := by
    have hmv := m.decimalValue_text
    have hnv := n.decimalValue_text
    rw [← hm', m'.decimalValue_text] at hmv
    rw [← hn', n'.decimalValue_text] at hnv
    rw [← Option.some.inj hmv, ← Option.some.inj hnv, hvalue]
  exact JsonNumber.numbersEquivalent_of_value m n hm hn hsame

/-- **The comparison decides whether each leaf is in its place with an equal value**, each object is an
object there and each array an array of the same length. -/
theorem requested_json_matches_exact :
    (∀ a b : JsonNumber, numbersEquivalent a.text b.text = true → a.value = b.value) ∧
    (∀ a b : JsonNumber, a.Within → b.Within → a.value = b.value → numbersEquivalent a.text b.text = true) ∧
    (∀ value : Json, value.Distinct → requestedJsonMatches value value = true) ∧
    (∀ a b c : Json, a.Distinct → b.Distinct → requestedJsonMatches a b = true → requestedJsonMatches b c = true →
      requestedJsonMatches a c = true) ∧
    (∀ a a' b b' : Json, a.Distinct → a'.Distinct → Json.Restates Eq a a' → Json.Restates Eq b b' →
      requestedJsonMatches a b = requestedJsonMatches a' b') ∧
    (∀ a a' b b' : Json, a.Distinct → a'.Distinct → Json.Restates Respelled a a' → Json.Restates Respelled b b' →
      requestedJsonMatches a b = requestedJsonMatches a' b') ∧
    (∀ requested observed : Json, requested.Distinct → requested.Numbers IsNumber → observed.Numbers IsNumber →
      requestedJsonMatches requested observed = true →
        Json.Occurs SameNumber Json.Scalar requested observed ∧ Json.ObjectsOccur requested observed) ∧
    (∀ requested observed : Json, requested.Distinct → requested.Numbers IsWithin → observed.Numbers IsWithin →
      Json.Occurs SameNumber Json.Scalar requested observed → Json.ObjectsOccur requested observed →
        requestedJsonMatches requested observed = true) := by
  refine ⟨fun _ _ => JsonNumber.value_of_numbersEquivalent, JsonNumber.numbersEquivalent_of_value,
    fun _ => requestedJsonMatches_refl, fun _ _ _ => requestedJsonMatches_trans, fun _ _ _ _ => ?_, fun _ _ _ _ => ?_,
    fun _ _ hdistinct hrequested hobserved h => ?_, fun _ _ hdistinct hrequested hobserved hoccurs hobjects => ?_⟩
  · exact requestedJsonMatches_restates (fun _ _ => Eq.symm) (by rintro _ _ _ _ rfl rfl h; exact h)
  · exact requestedJsonMatches_restates respelled_symm numbersEquivalent_respelled
  · exact Json.carries_iff_occurs.1 (carries_of_requestedJsonMatches hdistinct hrequested hobserved h)
  · exact requestedJsonMatches_of_carries hdistinct hrequested hobserved (Json.carries_iff_occurs.2 ⟨hoccurs, hobjects⟩)

/-- `1.0` and `10e-1`. -/
theorem requested_json_matches_exact_one :
    ∃ a b : JsonNumber, a.text = "1.0".toList ∧ b.text = "10e-1".toList ∧ numbersEquivalent a.text b.text = true := by
  let a : JsonNumber :=
    { negative := false
      int := ['1']
      frac := some ['0']
      exp := none
      int_nonempty := by decide
      int_digits := List.all_eq_true.1 (by decide)
      leading := fun _ => rfl
      frac_digits := by
        intro f hf
        cases hf
        exact ⟨by decide, List.all_eq_true.1 (by decide)⟩ }
  let b : JsonNumber :=
    { negative := false
      int := ['1', '0']
      frac := none
      exp := some ⟨false, some true, ['1'], by decide, List.all_eq_true.1 (by decide)⟩
      int_nonempty := by decide
      int_digits := List.all_eq_true.1 (by decide)
      leading := fun h => by cases h
      frac_digits := fun _ hf => by cases hf }
  have ha : a.Within := ⟨by decide +kernel, by decide +kernel, by decide +kernel⟩
  have hb : b.Within := ⟨by decide +kernel, by decide +kernel, by decide +kernel⟩
  have hvalue : a.value = b.value := by
    have hadigits : natOf a.digits = 10 ∧ a.exponent = 0 ∧ a.fraction.length = 1 := by decide
    have hbdigits : natOf b.digits = 10 ∧ b.exponent = -1 ∧ b.fraction.length = 0 := by decide
    rw [a.value_eq, b.value_eq, hadigits.1, hadigits.2.1, hadigits.2.2, hbdigits.1, hbdigits.2.1, hbdigits.2.2]
    rfl
  exact ⟨a, b, by decide, by decide, requested_json_matches_exact.2.1 a b ha hb hvalue⟩

/-- An empty object asks for an object, whatever is in it, and beyond 128 bits a number is only known by its text. -/
theorem requested_json_matches_not_leafwise :
    (requestedJsonMatches (.object []) .null = false ∧ Json.Occurs SameNumber Json.Scalar (.object []) .null) ∧
    (requestedJsonMatches (.object []) (.object [("name".toList, .null)]) = true ∧
      ¬ Json.Occurs SameNumber (fun value => value.Scalar ∨ value = .object []) (.object []) (.object [("name".toList, .null)])) ∧
    ∃ one ten : JsonNumber, one.text = "1e170141183460469231731687303715884105728".toList ∧
      ten.text = "10e170141183460469231731687303715884105727".toList ∧ one.value = ten.value ∧
      requestedJsonMatches (.number one.text) (.number one.text) = true ∧
      requestedJsonMatches (.number ten.text) (.number one.text) = false := by
  have hnothing {path : List Json.Step} {value : Json} (h : (Json.object []).lookup path = some value) :
      path = [] ∧ value = .object [] := by
    cases path with
    | nil =>
      cases h
      exact ⟨rfl, rfl⟩
    | cons step path => cases step <;> cases h
  refine ⟨⟨by decide, fun path value hvalue hleaf => ?_, fun path items hitems => ?_⟩, ⟨by decide, fun hoccurs => ?_⟩, ?_⟩
  · rw [(hnothing hvalue).2] at hleaf
    exact hleaf.elim
  · cases (hnothing hitems).2
  · obtain ⟨found, hfound, hequal⟩ := hoccurs.1 [] _ rfl (Or.inr rfl)
    cases hfound
    cases hequal
  · let one : JsonNumber :=
      { negative := false
        int := ['1']
        frac := none
        exp := some ⟨false, none, "170141183460469231731687303715884105728".toList, by decide, List.all_eq_true.1 (by decide)⟩
        int_nonempty := by decide
        int_digits := List.all_eq_true.1 (by decide)
        leading := fun _ => rfl
        frac_digits := fun _ hf => by cases hf }
    let ten : JsonNumber :=
      { negative := false
        int := ['1', '0']
        frac := none
        exp := some ⟨false, none, "170141183460469231731687303715884105727".toList, by decide, List.all_eq_true.1 (by decide)⟩
        int_nonempty := by decide
        int_digits := List.all_eq_true.1 (by decide)
        leading := fun h => by cases h
        frac_digits := fun _ hf => by cases hf }
    have hone : natOf one.digits = 1 ∧ one.exponent = I128_MAX + 1 ∧ one.fraction.length = 0 := by decide +kernel
    have hten : natOf ten.digits = 10 ∧ ten.exponent = I128_MAX ∧ ten.fraction.length = 0 := by decide +kernel
    have hvalue : one.value = ten.value := by
      have hne : (10 : ℚ) ≠ 0 := by norm_num
      rw [one.value_eq, ten.value_eq, hone.1, hone.2.1, hone.2.2, hten.1, hten.2.1, hten.2.2, Nat.cast_zero, sub_zero, sub_zero,
        zpow_add_one₀ hne]
      show (1 : ℚ) * (1 : Nat) * _ = 1 * (10 : Nat) * _
      generalize (10 : ℚ) ^ I128_MAX = scale
      push_cast
      ring
    exact ⟨one, ten, by decide +kernel, by decide +kernel, hvalue, by decide +kernel, by decide +kernel⟩

end UnifiMcp

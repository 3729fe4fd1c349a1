import UnifiMcp.Mcp.JsonNumber
/-! # Numbers within bounds (unifi-mcp/src/tools.rs)

`number_in_range` compares the text of a number with an integer bound: by sign, then by the decimal
order, then digit by digit with zeros behind the shorter.

* `compare_scaled` — scaled numerals compare by order, then digit by digit.
* `compareBound_eq` — the comparison is that of the values.
* `number_in_range_exact` — **a number is in range exactly when its value is.** -/
namespace UnifiMcp
open Text

/-! ## The comparison -/

/-- `text.split(['e', 'E']).next()`. -/
def mantissaOf (text : Text) : Text := text.takeWhile fun c => !(c = 'e' || c = 'E')

/-- `number_is_negative` (tools.rs:11475). -/
def numberIsNegative (text : Text) : Bool :=
  text.head? = some '-' && (mantissaOf text).any fun digit => '1' ≤ digit && digit ≤ '9'

def I128_MIN : Int := -170141183460469231731687303715884105728

/-- `n as i128` of a `usize`. -/
def asI128 (n : Nat) : Int := Int.bmod n (2 ^ 128)

/-- What a saturating operation makes of an exact result. -/
def saturating (n : Int) : Int := max I128_MIN (min I128_MAX n)

/-- `exponent.parse::<i128>()`, saturated when it does not fit. -/
def parseSaturating (exponent : Text) : Int :=
  match (readInt exponent).bind checkedI128 with
  | some n => n
  | none => if exponent.head? = some '-' then I128_MIN else I128_MAX

/-- `bytes().chain(repeat(b'0')).take(length)`. -/
def paddedTo (length : Nat) (digits : Text) : Text := (digits ++ List.replicate length '0').take length

/-- The magnitude of a number against that of a bound (tools.rs:11499-11532). -/
def compareMagnitude (unsigned : Text) (bound : Int) : Ordering :=
  let (mantissa, exponent) := splitExponent unsigned
  let digits := (mantissa.filter (· ≠ '.')).dropWhile (· = '0')
  let boundDigits := dec bound.natAbs
  if digits = [] then compare 0 bound.natAbs
  else if bound = 0 then .gt
  else
    let order := saturating (saturating (parseSaturating exponent - asI128 (fractionalDigits mantissa)) + asI128 digits.length)
    let length := max digits.length boundDigits.length
    (compare order (asI128 boundDigits.length)).then (lexicographic (paddedTo length digits) (paddedTo length boundDigits))

/-- `compare` (tools.rs:11485). -/
def compareBound (text : Text) (bound : Int) : Ordering :=
  let negative := numberIsNegative text
  if negative ≠ decide (bound < 0) then if negative then .lt else .gt
  else if negative then (compareMagnitude (stripSign text).2 bound).swap
  else compareMagnitude (stripSign text).2 bound

/-- `number_in_range` (tools.rs:11484). -/
def numberInRange (text : Text) (minimum maximum : Int) : Bool :=
  compareBound text minimum != .lt && compareBound text maximum != .gt

/-! ## Signs -/

/-- A digit that is not zero is there exactly when the number is not zero. -/
theorem any_nonzero {digits : Text} (h : Digits digits) :
    (digits.any fun digit => '1' ≤ digit && digit ≤ '9') = true ↔ natOf digits ≠ 0 := by
  induction digits with
  | nil => simp
  | cons c digits ih =>
    have hc := digit_bounds (h c List.mem_cons_self)
    have hpow : 10 ^ digits.length ≠ 0 := (Nat.pow_pos (by decide)).ne'
    have hfirst : ('1' ≤ c && c ≤ '9') = true ↔ digit c ≠ 0 := by
      rw [Bool.and_eq_true, decide_eq_true_eq, decide_eq_true_eq, Char.le_def, Char.le_def, UInt32.le_iff_toNat_le,
        UInt32.le_iff_toNat_le]
      show 49 ≤ c.toNat ∧ c.toNat ≤ 57 ↔ c.toNat - 48 ≠ 0
      omega
    rw [List.any_cons, Bool.or_eq_true, hfirst, ih h.tail, natOf_cons]
    constructor
    · rintro (h | h)
      · exact Nat.ne_of_gt (Nat.lt_of_lt_of_le (Nat.mul_pos (Nat.pos_of_ne_zero h) (Nat.pos_of_ne_zero hpow)) (Nat.le_add_right ..))
      · exact Nat.ne_of_gt (Nat.lt_of_lt_of_le (Nat.pos_of_ne_zero h) (Nat.le_add_left ..))
    · intro hsum
      by_contra hboth
      obtain ⟨hzero, hrest⟩ := not_or.1 hboth
      rw [not_not.1 hzero, not_not.1 hrest] at hsum
      simp at hsum

namespace JsonNumber

/-- The mantissa of a signed text starts with its sign. -/
theorem mantissaOf_text (n : JsonNumber) : mantissaOf n.text = (if n.negative then ['-'] else []) ++ n.mantissa := by
  have hkeep : ∀ d ∈ (if n.negative then ['-'] else []) ++ n.mantissa, (!(decide (d = 'e') || decide (d = 'E'))) = true := by
    intro d hd
    have hne : d ≠ 'e' ∧ d ≠ 'E' := by
      rcases List.mem_append.1 hd with hd | hd
      · have hminus : d = '-' := by
          split at hd
          · exact List.mem_singleton.1 hd
          · cases hd
        rw [hminus]
        exact ⟨by decide, by decide⟩
      · rcases mem_mantissa hd with h | rfl
        · exact ⟨not_digit_of rfl h, not_digit_of rfl h⟩
        · exact ⟨by decide, by decide⟩
    simp [hne.1, hne.2]
  unfold mantissaOf text unsigned
  rw [← List.append_assoc, List.takeWhile_append_of_pos hkeep]
  cases n.exp with
  | none => simp
  | some e =>
    have hletter : e.letter = 'e' ∨ e.letter = 'E' := by
      unfold Exponent.letter
      cases e.upper
      · exact Or.inl rfl
      · exact Or.inr rfl
    rw [Option.elim_some, List.takeWhile_cons_of_neg (by rcases hletter with h | h <;> simp [h]), List.append_nil]

/-- Its digits, without the sign and the point, decide whether a mantissa has one that is not zero. -/
theorem any_mantissa (n : JsonNumber) :
    ((if n.negative then ['-'] else []) ++ n.mantissa).any (fun digit => '1' ≤ digit && digit ≤ '9') = true ↔
      natOf n.digits ≠ 0 := by
  have hsign : (if n.negative then ['-'] else []).any (fun digit => '1' ≤ digit && digit ≤ '9') = false := by
    cases n.negative <;> rfl
  have hmantissa : n.mantissa.any (fun digit => '1' ≤ digit && digit ≤ '9') =
      n.digits.any fun digit => '1' ≤ digit && digit ≤ '9' := by
    unfold mantissa digits fraction
    cases n.frac with
    | none => rfl
    | some f =>
      have hpoint : ('1' ≤ '.' && '.' ≤ '9') = false := by decide
      rw [Option.elim_some, List.any_append, List.any_cons, hpoint, Bool.false_or, Option.getD_some, List.any_append]
  rw [List.any_append, hsign, Bool.false_or, hmantissa, any_nonzero n.digits_digits]

theorem numberIsNegative_text (n : JsonNumber) :
    numberIsNegative n.text = true ↔ n.negative = true ∧ natOf n.digits ≠ 0 := by
  have hhead : n.text.head? = some '-' ↔ n.negative = true := by
    have hstrip := n.stripSign_text
    constructor
    · intro h
      obtain ⟨t, ht⟩ : ∃ t, n.text = '-' :: t := by
        cases htext : n.text with
        | nil =>
          rw [htext] at h
          cases h
        | cons c t =>
          rw [htext] at h
          cases h
          exact ⟨t, rfl⟩
      rw [ht] at hstrip
      exact (congrArg Prod.fst hstrip).symm
    · intro h
      rw [text, if_pos h]
      rfl
  rw [numberIsNegative, Bool.and_eq_true, decide_eq_true_eq, hhead, mantissaOf_text, any_mantissa]

/-- A power of ten is positive. -/
theorem scale_pos (n : JsonNumber) : (0 : ℚ) < (10 : ℚ) ^ (n.exponent - n.fraction.length) := zpow_pos (by norm_num) _

/-- **A number is negative exactly when its value is.** -/
theorem numberIsNegative_iff (n : JsonNumber) : numberIsNegative n.text = true ↔ n.value < 0 := by
  have hscale := n.scale_pos
  rw [numberIsNegative_text, value_eq]
  constructor
  · rintro ⟨hnegative, hdigits⟩
    have hpos : (0 : ℚ) < natOf n.digits := by exact_mod_cast Nat.pos_of_ne_zero hdigits
    rw [if_pos hnegative]
    nlinarith [mul_pos hpos hscale]
  · intro h
    have hzero : natOf n.digits ≠ 0 := by
      intro hzero
      rw [hzero] at h
      simp at h
    refine ⟨?_, hzero⟩
    by_contra hnegative
    have hpos : (0 : ℚ) < natOf n.digits := by exact_mod_cast Nat.pos_of_ne_zero hzero
    rw [if_neg hnegative] at h
    nlinarith [mul_pos hpos hscale]

end JsonNumber

/-! ## Magnitudes -/

/-- A numeral without a leading zero. -/
structure Significant (digits : Text) : Prop where
  isDigits : Digits digits
  nonempty : digits ≠ []
  head : digits.head? ≠ some '0'

namespace Significant

/-- Its length says between which powers of ten it lies. -/
theorem bounds {digits : Text} (h : Significant digits) :
    (10 : ℚ) ^ ((digits.length : Int) - 1) ≤ natOf digits ∧ (natOf digits : ℚ) < (10 : ℚ) ^ (digits.length : Int) := by
  obtain ⟨c, t, rfl⟩ := List.exists_cons_of_ne_nil h.nonempty
  have hlow : 10 ^ t.length ≤ natOf (c :: t) :=
    pow_le_natOf (h.isDigits c List.mem_cons_self) fun heq => h.head (congrArg some heq)
  have hhigh : natOf (c :: t) < 10 ^ (c :: t).length := natOf_lt h.isDigits
  have hlength : (((c :: t).length : Int) - 1) = (t.length : Int) := by
    rw [List.length_cons]
    omega
  rw [hlength, zpow_natCast, zpow_natCast]
  exact ⟨by exact_mod_cast hlow, by exact_mod_cast hhigh⟩

/-- A scaled numeral of a lower order is smaller. -/
theorem scaled_lt {s t : Text} {e f : Int} (hs : Significant s) (ht : Significant t) (h : e + s.length < f + t.length) :
    (natOf s : ℚ) * 10 ^ e < natOf t * 10 ^ f := by
  have hten : (10 : ℚ) ≠ 0 := by norm_num
  calc (natOf s : ℚ) * 10 ^ e < 10 ^ (s.length : Int) * 10 ^ e :=
        mul_lt_mul_of_pos_right hs.bounds.2 (zpow_pos (by norm_num) _)
    _ = 10 ^ (e + s.length) := by rw [add_comm, zpow_add₀ hten]
    _ ≤ 10 ^ (f + ((t.length : Int) - 1)) := zpow_le_zpow_right₀ (by norm_num) (by omega)
    _ = 10 ^ ((t.length : Int) - 1) * 10 ^ f := by rw [add_comm, zpow_add₀ hten]
    _ ≤ natOf t * 10 ^ f := mul_le_mul_of_nonneg_right ht.bounds.1 (zpow_pos (by norm_num) _).le

end Significant

theorem paddedTo_eq {length : Nat} {digits : Text} (h : digits.length ≤ length) :
    paddedTo length digits = digits ++ List.replicate (length - digits.length) '0' := by
  rw [paddedTo, List.take_append, List.take_of_length_le h, List.take_replicate, Nat.min_eq_left (Nat.sub_le ..)]

/-- A numeral with zeros behind it, scaled down again. -/
theorem scaled_paddedTo {length : Nat} {digits : Text} (h : digits.length ≤ length) (e : Int) :
    (natOf digits : ℚ) * 10 ^ e = natOf (paddedTo length digits) * 10 ^ (e - (length - digits.length : Nat)) := by
  have hten : (10 : ℚ) ≠ 0 := by norm_num
  rw [paddedTo_eq h, natOf_append_zeros, zpow_sub₀ hten, zpow_natCast]
  push_cast
  field_simp

theorem length_paddedTo {length : Nat} {digits : Text} (h : digits.length ≤ length) : (paddedTo length digits).length = length := by
  rw [paddedTo_eq h, List.length_append, List.length_replicate]
  omega

theorem digits_paddedTo {length : Nat} {digits : Text} (h : Digits digits) : Digits (paddedTo length digits) := fun c hc =>
  (h.append (digits_zeros length)) c (List.mem_of_mem_take hc)

theorem compare_mul_right {a b c : ℚ} (hc : 0 < c) : compare (a * c) (b * c) = compare a b := by
  rcases lt_trichotomy a b with h | h | h
  · rw [compare_lt_iff_lt.2 h, compare_lt_iff_lt.2 (mul_lt_mul_of_pos_right h hc)]
  · rw [compare_eq_iff_eq.2 h, compare_eq_iff_eq.2 (congrArg (· * c) h)]
  · rw [compare_gt_iff_gt.2 h, compare_gt_iff_gt.2 (mul_lt_mul_of_pos_right h hc)]

theorem compare_natCast (a b : Nat) : compare (a : ℚ) b = compare a b := by
  rcases lt_trichotomy a b with h | h | h
  · rw [compare_lt_iff_lt.2 h, compare_lt_iff_lt.2 (Nat.cast_lt.2 h)]
  · rw [compare_eq_iff_eq.2 h, compare_eq_iff_eq.2 (congrArg _ h)]
  · rw [compare_gt_iff_gt.2 h, compare_gt_iff_gt.2 (Nat.cast_lt.2 h)]

/-- **Scaled numerals compare by order, then digit by digit.** -/
theorem compare_scaled {s t : Text} {e f : Int} (hs : Significant s) (ht : Significant t) :
    (compare (e + s.length) (f + t.length)).then
        (lexicographic (paddedTo (max s.length t.length) s) (paddedTo (max s.length t.length) t)) =
      compare ((natOf s : ℚ) * 10 ^ e) (natOf t * 10 ^ f) := by
  rcases lt_trichotomy (e + s.length) (f + t.length) with h | h | h
  · rw [compare_lt_iff_lt.2 h, compare_lt_iff_lt.2 (hs.scaled_lt ht h)]
    rfl
  · have hsl : s.length ≤ max s.length t.length := Nat.le_max_left ..
    have htl : t.length ≤ max s.length t.length := Nat.le_max_right ..
    have hexp : e - (max s.length t.length - s.length : Nat) = f - (max s.length t.length - t.length : Nat) := by omega
    have hlengths : (paddedTo (max s.length t.length) s).length = (paddedTo (max s.length t.length) t).length := by
      rw [length_paddedTo hsl, length_paddedTo htl]
    rw [compare_eq_iff_eq.2 h, scaled_paddedTo hsl, scaled_paddedTo htl, hexp, compare_mul_right (zpow_pos (by norm_num) _),
      compare_natCast, ← lexicographic_eq_compare hlengths (digits_paddedTo hs.isDigits) (digits_paddedTo ht.isDigits)]
    rfl
  · rw [compare_gt_iff_gt.2 h, compare_gt_iff_gt.2 (ht.scaled_lt hs h)]
    rfl

/-! ## The order of a number -/

/-- Saturation is far beyond any length. -/
theorem compare_saturating {e : Int} {f k l : Nat} (hf : f < 2 ^ 63) (hk : k < 2 ^ 63) (hl : l < 2 ^ 63) :
    compare (saturating (saturating (saturating e - f) + k)) (l : Int) = compare (e - f + k) (l : Int) := by
  have hmin : I128_MIN = -170141183460469231731687303715884105728 := rfl
  have hmax : I128_MAX = 170141183460469231731687303715884105727 := rfl
  rcases lt_trichotomy (e - f + k) (l : Int) with h | h | h
  · rw [compare_lt_iff_lt.2 h, compare_lt_iff_lt]
    unfold saturating
    omega
  · rw [compare_eq_iff_eq.2 h, compare_eq_iff_eq]
    unfold saturating
    omega
  · rw [compare_gt_iff_gt.2 h, compare_gt_iff_gt]
    unfold saturating
    omega

theorem asI128_of_lt {n : Nat} (h : n < 2 ^ 63) : asI128 n = n := by
  unfold asI128
  rw [Int.bmod_eq_of_le] <;> omega

theorem significant_dropWhile {digits : Text} (h : Digits digits) (hne : digits.dropWhile (· = '0') ≠ []) :
    Significant (digits.dropWhile (· = '0')) := by
  refine ⟨fun c hc => h c ((List.dropWhile_sublist _).mem hc), hne, fun hhead => ?_⟩
  have hnot := List.head_dropWhile_not (fun c : Char => decide (c = '0')) hne
  rw [List.head?_eq_some_head hne] at hhead
  rw [Option.some.inj hhead] at hnot
  cases hnot

theorem significant_dec {n : Nat} (h : n ≠ 0) : Significant (dec n) := by
  refine ⟨digits_dec n, List.ne_nil_of_length_pos Nat.length_toDigits_pos, fun hhead => h ?_⟩
  obtain ⟨c, hc⟩ := List.length_eq_one_iff.1 (dec_head hhead)
  rw [← natOf_dec n, hc]
  rw [hc] at hhead
  cases hhead
  rfl

/-- The digits of a bound of 64 bits. -/
theorem length_dec_lt {n : Nat} (h : n ≤ 2 ^ 63) : (dec n).length < 2 ^ 63 := by
  by_cases hzero : n = 0
  · rw [hzero]
    decide
  · obtain ⟨c, t, hcons⟩ := List.exists_cons_of_ne_nil (significant_dec hzero).nonempty
    have hlow : 10 ^ t.length ≤ n := by
      rw [← natOf_dec n, hcons]
      refine pow_le_natOf (isDigit_of_mem_dec (n := n) (by rw [hcons]; exact List.mem_cons_self)) fun hc => ?_
      exact (significant_dec hzero).head (by rw [hcons, hc]; rfl)
    have hlength : t.length < 19 := by
      by_contra hlong
      have hpow : 10 ^ 19 ≤ 10 ^ t.length := Nat.pow_le_pow_right (by decide) (Nat.le_of_not_lt hlong)
      omega
    rw [hcons, List.length_cons]
    omega

namespace JsonNumber

/-- The number without its sign. -/
def magnitude (n : JsonNumber) : ℚ := natOf n.digits * (10 : ℚ) ^ (n.exponent - n.fraction.length)

theorem value_eq_magnitude (n : JsonNumber) : n.value = if n.negative then -n.magnitude else n.magnitude := by
  rw [value_eq, magnitude]
  split
  · ring
  · ring

theorem length_parts (n : JsonNumber) : n.fraction.length ≤ n.text.length ∧ n.digits.length ≤ n.text.length := by
  have hmantissa : n.digits.length ≤ n.mantissa.length := by
    rw [← filter_mantissa]
    exact List.length_filter_le ..
  have htext : n.mantissa.length ≤ n.text.length := by
    rw [text, unsigned, List.length_append, List.length_append]
    omega
  have hfraction : n.fraction.length ≤ n.digits.length := by
    rw [digits, List.length_append]
    exact Nat.le_add_left ..
  exact ⟨hfraction.trans (hmantissa.trans htext), hmantissa.trans htext⟩

theorem head_exponentText (n : JsonNumber) :
    n.exponentText.head? = some '-' ↔ ∃ e, n.exp = some e ∧ e.sign = some true := by
  unfold exponentText
  cases n.exp with
  | none => simp
  | some e =>
    obtain ⟨upper, sign, t, hne, ht⟩ := e
    obtain ⟨c, s, rfl⟩ := List.exists_cons_of_ne_nil hne
    have hminus : c ≠ '-' := not_digit_of rfl (ht c List.mem_cons_self)
    match sign with
    | some true => simp [Exponent.text, Exponent.signText]
    | some false => simp [Exponent.text, Exponent.signText]
    | none => simp [Exponent.text, Exponent.signText, hminus]

theorem exponent_sign (n : JsonNumber) :
    (n.exponentText.head? = some '-' → n.exponent ≤ 0) ∧ (n.exponentText.head? ≠ some '-' → 0 ≤ n.exponent) := by
  rw [Ne, head_exponentText]
  unfold exponent
  cases n.exp with
  | none => simp
  | some e =>
    rw [Option.elim_some, Exponent.value]
    constructor
    · rintro ⟨_, heq, hsign⟩
      cases heq
      rw [if_pos hsign]
      omega
    · intro h
      rw [if_neg fun hsign => h ⟨e, rfl, hsign⟩]
      omega

theorem parseSaturating_exponentText (n : JsonNumber) : parseSaturating n.exponentText = saturating n.exponent := by
  have hmin : I128_MIN = -I128_MAX - 1 := rfl
  have hmax : (0 : Int) < I128_MAX := by decide
  have hsign := n.exponent_sign
  unfold parseSaturating saturating
  rw [readInt_exponentText, Option.bind_some]
  unfold checkedI128
  split
  · rename_i heq
    split at heq
    · cases heq
      omega
    · cases heq
  · rename_i heq
    split at heq
    · cases heq
    · split
      · rename_i hhead
        have := hsign.1 hhead
        omega
      · rename_i hhead
        have := hsign.2 hhead
        omega

/-- **The magnitudes are compared exactly.** -/
theorem compareMagnitude_unsigned (n : JsonNumber) {bound : Int} (hlength : n.text.length < 2 ^ 63)
    (hbound : bound.natAbs ≤ 2 ^ 63) :
    compareMagnitude n.unsigned bound = compare n.magnitude (bound.natAbs : ℚ) := by
  have hfraction := Nat.lt_of_le_of_lt n.length_parts.1 hlength
  have hdigits : (n.digits.dropWhile (· = '0')).length < 2 ^ 63 :=
    Nat.lt_of_le_of_lt ((List.dropWhile_sublist _).length_le.trans n.length_parts.2) hlength
  unfold compareMagnitude
  rw [splitExponent_unsigned]
  dsimp only
  rw [filter_mantissa, fractionalDigits_mantissa, parseSaturating_exponentText]
  split
  · rename_i hnil
    have hzero : n.magnitude = ((0 : Nat) : ℚ) := by rw [magnitude, zero_of_dropWhile hnil, Nat.cast_zero, zero_mul]
    rw [hzero, compare_natCast]
  · rename_i hne
    have hsignificant := significant_dropWhile n.digits_digits hne
    have hmagnitude : n.magnitude = natOf (n.digits.dropWhile (· = '0')) * (10 : ℚ) ^ (n.exponent - n.fraction.length) := by
      rw [natOf_dropWhile, magnitude]
    split
    · rename_i hzero
      have hpos : (0 : ℚ) < natOf (n.digits.dropWhile (· = '0')) :=
        (zpow_pos (by norm_num) _).trans_le hsignificant.bounds.1
      rw [hzero, Int.natAbs_zero, Nat.cast_zero]
      exact (compare_gt_iff_gt.2 (by rw [hmagnitude]; exact mul_pos hpos n.scale_pos)).symm
    · rename_i hne
      have hdec : Significant (dec bound.natAbs) := significant_dec (Int.natAbs_ne_zero.2 hne)
      have hscaled := compare_scaled hsignificant hdec (e := n.exponent - n.fraction.length) (f := 0)
      rw [zpow_zero, mul_one, natOf_dec, zero_add] at hscaled
      rw [hmagnitude, ← hscaled, asI128_of_lt hfraction, asI128_of_lt hdigits, asI128_of_lt (length_dec_lt hbound),
        compare_saturating hfraction hdigits (length_dec_lt hbound)]

theorem magnitude_nonneg (n : JsonNumber) : 0 ≤ n.magnitude :=
  mul_nonneg (Nat.cast_nonneg _) n.scale_pos.le

/-- **A number is compared with a bound by its value.** -/
theorem compareBound_eq (n : JsonNumber) {bound : Int} (hlength : n.text.length < 2 ^ 63) (hbound : bound.natAbs ≤ 2 ^ 63) :
    compareBound n.text bound = compare n.value (bound : ℚ) := by
  have hmagnitude := n.compareMagnitude_unsigned hlength hbound
  have hnonneg := n.magnitude_nonneg
  have hsign : numberIsNegative n.text = decide (n.value < 0) := by
    rw [Bool.eq_iff_iff, numberIsNegative_iff, decide_eq_true_eq]
  unfold compareBound
  dsimp only
  rw [stripSign_text, hsign]
  dsimp only
  rw [hmagnitude]
  by_cases hvalue : n.value < 0
  · by_cases hneg : bound < 0
    · have habs : (bound.natAbs : ℚ) = -bound := by rw [Nat.cast_natAbs, abs_of_neg hneg, Int.cast_neg]
      have heq : n.value = -n.magnitude := by
        rw [value_eq_magnitude] at hvalue ⊢
        split
        · rfl
        · rename_i hpositive
          rw [if_neg hpositive] at hvalue
          linarith
      rw [decide_eq_true hvalue, decide_eq_true hneg, if_neg (by simp), if_pos rfl, habs, heq]
      rcases lt_trichotomy n.magnitude (-bound : ℚ) with h | h | h
      · rw [compare_lt_iff_lt.2 h, compare_gt_iff_gt.2 (by linarith)]
        rfl
      · rw [compare_eq_iff_eq.2 h, compare_eq_iff_eq.2 (by linarith)]
        rfl
      · rw [compare_gt_iff_gt.2 h, compare_lt_iff_lt.2 (by linarith)]
        rfl
    · have hpos : (0 : ℚ) ≤ bound := by exact_mod_cast Int.not_lt.1 hneg
      rw [decide_eq_true hvalue, decide_eq_false hneg, if_pos (by decide), if_pos rfl, compare_lt_iff_lt.2 (by linarith)]
  · by_cases hneg : bound < 0
    · have hneg' : (bound : ℚ) < 0 := by exact_mod_cast hneg
      rw [decide_eq_false hvalue, decide_eq_true hneg, if_pos (by decide), if_neg Bool.false_ne_true,
        compare_gt_iff_gt.2 (by linarith)]
    · have habs : (bound.natAbs : ℚ) = bound := by rw [Nat.cast_natAbs, abs_of_nonneg (Int.not_lt.1 hneg)]
      have heq : n.value = n.magnitude := by
        rw [value_eq_magnitude] at hvalue ⊢
        split
        · rename_i hnegative
          rw [if_pos hnegative] at hvalue
          linarith
        · rfl
      rw [decide_eq_false hvalue, decide_eq_false hneg, if_neg (by simp), if_neg Bool.false_ne_true, habs, heq]

end JsonNumber

/-- The casts to 128 bits and the absolute value of the bound lose nothing. -/
structure ExactCasts (text : Text) (bound : Int) : Prop where
  fraction : asI128 (fractionalDigits (splitExponent (stripSign text).2).1) = fractionalDigits (splitExponent (stripSign text).2).1
  digits : asI128 (((splitExponent (stripSign text).2).1.filter (· ≠ '.')).dropWhile (· = '0')).length =
    (((splitExponent (stripSign text).2).1.filter (· ≠ '.')).dropWhile (· = '0')).length
  boundDigits : asI128 (dec bound.natAbs).length = (dec bound.natAbs).length
  absolute : bound.natAbs < 2 ^ 64

theorem JsonNumber.exactCasts (n : JsonNumber) {bound : Int} (hlength : n.text.length < 2 ^ 63)
    (hbound : bound.natAbs ≤ 2 ^ 63) : ExactCasts n.text bound := by
  have hdigits : (n.digits.dropWhile (· = '0')).length < 2 ^ 63 :=
    Nat.lt_of_le_of_lt ((List.dropWhile_sublist _).length_le.trans n.length_parts.2) hlength
  refine ⟨?_, ?_, asI128_of_lt (length_dec_lt hbound), by omega⟩
  · rw [n.stripSign_text, n.splitExponent_unsigned, n.fractionalDigits_mantissa]
    exact asI128_of_lt (Nat.lt_of_le_of_lt n.length_parts.1 hlength)
  · rw [n.stripSign_text, n.splitExponent_unsigned, n.filter_mantissa]
    exact asI128_of_lt hdigits

/-- **A number is in range exactly when its value is**, and negative exactly when its value is. -/
theorem number_in_range_exact (n : JsonNumber) (minimum maximum : Int) (hlength : byteLen n.text < 2 ^ 63)
    (hminimum : -2 ^ 63 ≤ minimum) (hmaximum : maximum < 2 ^ 63) (horder : minimum ≤ maximum) :
    (numberInRange n.text minimum maximum = true ↔ (minimum : ℚ) ≤ n.value ∧ n.value ≤ maximum) ∧
      (numberIsNegative n.text = true ↔ n.value < 0) ∧ ExactCasts n.text minimum ∧ ExactCasts n.text maximum := by
  have hchars : n.text.length < 2 ^ 63 := Nat.lt_of_le_of_lt (length_le_byteLen n.text) hlength
  have hmin : minimum.natAbs ≤ 2 ^ 63 := by omega
  have hmax : maximum.natAbs ≤ 2 ^ 63 := by omega
  refine ⟨?_, n.numberIsNegative_iff, n.exactCasts hchars hmin, n.exactCasts hchars hmax⟩
  unfold numberInRange
  rw [n.compareBound_eq hchars hmin, n.compareBound_eq hchars hmax, Bool.and_eq_true, bne_iff_ne, bne_iff_ne, Ne, Ne,
    compare_lt_iff_lt, compare_gt_iff_gt, not_lt, not_lt]

/-- `-0.25e1` between the least and the greatest of 64 bits. -/
theorem number_in_range_exact_quarter :
    ∃ n : JsonNumber, n.text = "-0.25e1".toList ∧ n.value = -2.5 ∧
      numberInRange n.text (-2 ^ 63) (2 ^ 63 - 1) = true ∧ numberIsNegative n.text = true := by
  let n : JsonNumber :=
    { negative := true
      int := ['0']
      frac := some ['2', '5']
      exp := some ⟨false, none, ['1'], by decide, by intro c hc; rw [List.mem_singleton.1 hc]; rfl⟩
      int_nonempty := by decide
      int_digits := by intro c hc; rw [List.mem_singleton.1 hc]; rfl
      leading := fun _ => rfl
      frac_digits := by
        intro f hf
        cases hf
        exact ⟨by decide, List.all_eq_true.1 (by decide)⟩ }
  have hvalue : n.value = -2.5 := by
    have hint : natOf n.int = 0 := by decide
    have hfraction : natOf n.fraction = 25 ∧ n.fraction.length = 2 := by decide
    have hexponent : n.exponent = 1 := by decide
    have hnegative : n.negative = true := rfl
    rw [JsonNumber.value, hint, hfraction.1, hfraction.2, hexponent, if_pos hnegative]
    norm_num
  have hexact := number_in_range_exact n (-2 ^ 63) (2 ^ 63 - 1) (by decide) (by decide) (by decide) (by decide)
  refine ⟨n, by decide, hvalue, hexact.1.2 ?_, hexact.2.1.2 ?_⟩
  · rw [hvalue]
    norm_num
  · rw [hvalue]
    norm_num

end UnifiMcp

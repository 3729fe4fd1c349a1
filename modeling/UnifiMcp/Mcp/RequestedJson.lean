import Mathlib
import UnifiMcp.Lib.Digits
import UnifiMcp.Lib.JsonPath
/-! # Comparing a readback with the request (unifi-mcp/src/tools.rs)

`requested_json_matches` asks whether the observed value has whatever was requested, and compares
numbers by their decimal parts.

* `decimalValue_of_parts` — the decimal parts of a number determine its value.
* `requestedJsonMatches_iff` — **the comparison holds exactly when the observed value carries the
  requested one.** -/
namespace UnifiMcp
open Text

/-! ## Numbers -/

/-- `str::split_once`, at the first character with the property. -/
def splitOnce (p : Char → Bool) (t : Text) : Option (Text × Text) :=
  if t.any p then some (t.takeWhile fun c => !p c, (t.dropWhile fun c => !p c).tail) else none

/-- The sign of a number and the rest of its spelling. -/
def stripSign : Text → Bool × Text
  | '-' :: t => (true, t)
  | t => (false, t)

/-- The mantissa and the exponent of an unsigned number. -/
def splitExponent (unsigned : Text) : Text × Text :=
  (splitOnce (fun c => c = 'e' || c = 'E') unsigned).getD (unsigned, ['0'])

/-- How many digits a mantissa has behind its point. -/
def fractionalDigits (mantissa : Text) : Nat := ((splitOnce (· = '.') mantissa).map fun parts => parts.2.length).getD 0

/-- A signed decimal numeral. -/
def readInt (t : Text) : Option Int :=
  let (negative, digits) := match t with
    | '+' :: digits => (false, digits)
    | t => stripSign t
  if digits ≠ [] ∧ digits.all Char.isDigit then some (if negative then -(natOf digits : Int) else natOf digits) else none

def I128_MAX : Int := 170141183460469231731687303715884105727

/-- What fits `i128`. -/
def checkedI128 (n : Int) : Option Int := if -I128_MAX - 1 ≤ n ∧ n ≤ I128_MAX then some n else none

def trimZeros (digits : Text) : Text := (digits.dropWhile (· = '0')).rdropWhile (· = '0')

/-- `decimal_parts` (tools.rs:14743). -/
def decimalParts (text : Text) : Option (Bool × Text × Int) :=
  let (negative, unsigned) := stripSign text
  let (mantissa, exponent) := splitExponent unsigned
  let digits := mantissa.filter (· ≠ '.')
  let significant := trimZeros digits
  if significant = [] then some (false, [], 0)
  else
    let trailingZeros := digits.length - (digits.rdropWhile (· = '0')).length
    (((readInt exponent).bind checkedI128).bind fun exponent => checkedI128 (exponent - fractionalDigits mantissa)).bind
      fun exponent => (checkedI128 (exponent + trailingZeros)).map fun exponent => (negative, significant, exponent)

/-- `numbers_equivalent` (tools.rs:14730). -/
def numbersEquivalent (wanted actual : Text) : Bool :=
  if wanted = actual then true
  else match decimalParts wanted, decimalParts actual with
    | some wanted, some actual => wanted = actual
    | _, _ => false

/-- The number a spelling stands for: its digits without the point, moved by the exponent less the
digits behind the point. -/
def decimalValue (text : Text) : Option ℚ :=
  let (negative, unsigned) := stripSign text
  let (mantissa, exponent) := splitExponent unsigned
  let digits := mantissa.filter (· ≠ '.')
  if natOf digits = 0 then some 0
  else (readInt exponent).map fun (exponent : Int) =>
    (if negative then -1 else 1) * (natOf digits : ℚ) * (10 : ℚ) ^ (exponent - fractionalDigits mantissa)

/-- What is left when only the zeros at the end go. -/
theorem rdropWhile_of_trimZeros {digits : Text} (h : trimZeros digits ≠ []) :
    digits.rdropWhile (· = '0') = digits.takeWhile (· = '0') ++ trimZeros digits := by
  have hne : (((digits.dropWhile (· = '0')).reverse.dropWhile (· = '0')).isEmpty) = false :=
    List.isEmpty_eq_false_iff.2 fun hnil => h (by rw [trimZeros, List.rdropWhile, hnil, List.reverse_nil])
  calc digits.rdropWhile (· = '0')
      = ((digits.takeWhile (· = '0') ++ digits.dropWhile (· = '0')).reverse.dropWhile (· = '0')).reverse := by
        rw [List.takeWhile_append_dropWhile, List.rdropWhile]
    _ = digits.takeWhile (· = '0') ++ trimZeros digits := by
        rw [List.reverse_append, List.dropWhile_append, hne, if_neg Bool.false_ne_true, List.reverse_append,
          List.reverse_reverse, trimZeros, List.rdropWhile]

theorem natOf_of_trimZeros_nil {digits : Text} (h : trimZeros digits = []) : natOf digits = 0 := by
  have hall : ∀ c ∈ digits, c = '0' := by
    intro c hc
    rw [← @List.takeWhile_append_dropWhile _ (· = '0') digits] at hc
    rcases List.mem_append.1 hc with hc | hc
    · simpa using List.mem_takeWhile_imp hc
    · simpa using List.rdropWhile_eq_nil_iff.1 h c hc
  rw [eq_zeros hall, ← List.append_nil (List.replicate _ _), natOf_zeros_append]
  rfl

/-- The digits are the significant ones with the zeros behind them. -/
theorem natOf_trimZeros {digits : Text} (h : trimZeros digits ≠ []) :
    natOf digits = natOf (trimZeros digits) * 10 ^ (digits.length - (digits.rdropWhile (· = '0')).length) := by
  have hend : digits.rtakeWhile (· = '0') =
      List.replicate (digits.length - (digits.rdropWhile (· = '0')).length) '0' := by
    have hsplit := congrArg List.length (@List.rdropWhile_append_rtakeWhile _ (fun c : Char => decide (c = '0')) digits)
    rw [List.length_append] at hsplit
    have hlen : digits.length - (digits.rdropWhile (· = '0')).length = (digits.rtakeWhile (· = '0')).length := by omega
    rw [hlen]
    exact eq_zeros fun c hc => by
      simpa using List.mem_takeWhile_imp (List.mem_reverse.1 hc)
  have hfront : digits.takeWhile (· = '0') = List.replicate (digits.takeWhile (· = '0')).length '0' :=
    eq_zeros fun c hc => by simpa using List.mem_takeWhile_imp hc
  calc natOf digits = natOf (digits.rdropWhile (· = '0') ++ digits.rtakeWhile (· = '0')) := by
        rw [List.rdropWhile_append_rtakeWhile]
    _ = natOf (digits.rdropWhile (· = '0')) * 10 ^ (digits.length - (digits.rdropWhile (· = '0')).length) := by
        rw [hend, natOf_append_zeros]
    _ = natOf (trimZeros digits) * 10 ^ (digits.length - (digits.rdropWhile (· = '0')).length) := by
        congr 1
        rw [rdropWhile_of_trimZeros h, hfront, natOf_zeros_append]

theorem checkedI128_eq_some {n m : Int} (h : checkedI128 n = some m) : m = n := by
  unfold checkedI128 at h
  split at h
  · exact (Option.some.inj h).symm
  · cases h

/-- **The parts of a number determine its value.** -/
theorem decimalValue_of_parts {text : Text} {negative : Bool} {significant : Text} {exponent : Int}
    (h : decimalParts text = some (negative, significant, exponent)) :
    decimalValue text = some ((if negative then -1 else 1) * (natOf significant : ℚ) * (10 : ℚ) ^ exponent) := by
  unfold decimalParts at h
  unfold decimalValue
  dsimp only at h ⊢
  generalize (stripSign text).1 = sign at h ⊢
  generalize splitExponent (stripSign text).2 = parts at h ⊢
  generalize parts.1.filter (· ≠ '.') = digits at h ⊢
  by_cases hnil : trimZeros digits = []
  · rw [if_pos hnil] at h
    cases h
    rw [if_pos (natOf_of_trimZeros_nil hnil)]
    simp [natOf]
  · rw [if_neg hnil] at h
    obtain ⟨shifted, hshifted, h⟩ := Option.bind_eq_some_iff.1 h
    obtain ⟨found, hfound, hshifted⟩ := Option.bind_eq_some_iff.1 hshifted
    obtain ⟨read, hread, hfound⟩ := Option.bind_eq_some_iff.1 hfound
    obtain ⟨total, htotal, h⟩ := Option.map_eq_some_iff.1 h
    cases h
    obtain rfl := checkedI128_eq_some hfound
    obtain rfl := checkedI128_eq_some hshifted
    obtain rfl := checkedI128_eq_some htotal
    have hten : (10 : ℚ) ≠ 0 := by norm_num
    rw [hread, natOf_trimZeros hnil]
    split
    · rename_i hzero
      have hsignificant : natOf (trimZeros digits) = 0 :=
        (Nat.mul_eq_zero.1 hzero).resolve_right (Nat.pow_pos (by decide)).ne'
      simp [hsignificant]
    · rw [Option.map_some, zpow_add₀ hten, zpow_natCast, Nat.cast_mul, Nat.cast_pow]
      congr 1
      push_cast
      ring

theorem decimalValue_of_equivalent {wanted actual : Text} (h : numbersEquivalent wanted actual = true) :
    decimalValue wanted = decimalValue actual := by
  unfold numbersEquivalent at h
  split at h
  · rename_i hsame
    rw [hsame]
  · split at h
    · rename_i wantedParts actualParts hwanted hactual
      obtain ⟨negative, significant, exponent⟩ := wantedParts
      rw [← of_decide_eq_true h] at hactual
      rw [decimalValue_of_parts hwanted, decimalValue_of_parts hactual]
    · cases h

theorem stripSign_of_ne {t : Text} (h : '-' ∉ t) : stripSign t = (false, t) := by
  unfold stripSign
  split
  · exact absurd List.mem_cons_self h
  · rfl

theorem stripSign_decInt (n : Int) : stripSign (decInt n) = (decide (n < 0), dec n.natAbs) := by
  unfold decInt
  by_cases hn : n < 0
  · rw [if_pos hn, decide_eq_true hn]
    rfl
  · rw [if_neg hn, decide_eq_false hn]
    exact stripSign_of_ne (not_mem_dec rfl)

/-- The value of digits behind a sign. -/
theorem decimalValue_of_digits {t digits : Text} {negative : Bool} (hstrip : stripSign t = (negative, digits))
    (h : ∀ c ∈ digits, c.isDigit = true) : decimalValue t = some ((if negative then -1 else 1) * (natOf digits : ℚ)) := by
  have hne {c : Char} (hc : c.isDigit = false) : ∀ d ∈ digits, d ≠ c := by
    rintro d hd rfl
    rw [h d hd] at hc
    cases hc
  have hexponent : digits.any (fun c => c = 'e' || c = 'E') = false := by
    rw [List.any_eq_false]
    intro c hc
    simp only [Bool.or_eq_true, decide_eq_true_eq, not_or]
    exact ⟨hne rfl c hc, hne rfl c hc⟩
  have hpoint : digits.any (fun c => decide (c = '.')) = false := by
    rw [List.any_eq_false]
    intro c hc
    rw [decide_eq_true_eq]
    exact hne rfl c hc
  have hdigits : digits.filter (· ≠ '.') = digits :=
    List.filter_eq_self.2 fun c hc => decide_eq_true (hne rfl c hc)
  have hsplit : splitExponent digits = (digits, ['0']) := by
    rw [splitExponent, splitOnce, hexponent]
    rfl
  have hfraction : fractionalDigits digits = 0 := by
    rw [fractionalDigits, splitOnce, hpoint]
    rfl
  have hread : readInt ['0'] = some 0 := by decide
  unfold decimalValue
  rw [hstrip]
  dsimp only
  rw [hsplit]
  dsimp only
  rw [hdigits, hread, hfraction]
  by_cases hzero : natOf digits = 0
  · rw [if_pos hzero, hzero]
    simp
  · rw [if_neg hzero, Option.map_some]
    simp

/-- An integer as the model writes it has its own value. -/
theorem decimalValue_decInt (n : Int) : decimalValue (decInt n) = some (n : ℚ) := by
  rw [decimalValue_of_digits (stripSign_decInt n) fun _ => isDigit_of_mem_dec, natOf_dec, Nat.cast_natAbs]
  by_cases hn : n < 0
  · simp [hn, abs_of_neg hn]
  · simp [hn, abs_of_nonneg (Int.not_lt.1 hn)]

theorem numbersEquivalent_refl (wanted : Text) : numbersEquivalent wanted wanted = true := if_pos rfl

/-! ## Values -/

mutual

/-- `requested_json_matches` (tools.rs:14711). -/
def requestedJsonMatches : Json → Json → Bool
  | .number wanted, .number actual => numbersEquivalent wanted actual
  | .array wanted, .array actual => wanted.length = actual.length && itemsMatch wanted actual
  | .object wanted, .object actual => membersMatch wanted (.object actual)
  | requested, observed => requested = observed

/-- The items side by side. -/
def itemsMatch : List Json → List Json → Bool
  | wanted :: wanteds, actual :: actuals => requestedJsonMatches wanted actual && itemsMatch wanteds actuals
  | _, _ => true

/-- Each requested member is there and matches. -/
def membersMatch : List (Text × Json) → Json → Bool
  | [], _ => true
  | (name, value) :: members, actual =>
    (match actual.get name with
      | some observed => requestedJsonMatches value observed
      | none => false) && membersMatch members actual

end

/-- A readback carries the request, number for number. -/
abbrev Matched (requested observed : Json) : Prop := requested.Carries (fun a b => numbersEquivalent a b = true) observed

theorem carries_array {number : Text → Text → Prop} {as bs : List Json} :
    Json.Carries number (.array as) (.array bs) ↔
      as.length = bs.length ∧ ∀ (i : Nat) (a : Json), as[i]? = some a → ∃ b, bs[i]? = some b ∧ Json.Carries number a b := by
  rw [Json.carries_iff]
  refine and_congr Iff.rfl ⟨fun h i a ha => h (.index i) a ha, fun h step a ha => ?_⟩
  cases step with
  | key name => cases ha
  | index i => exact h i a ha

theorem carries_object {number : Text → Text → Prop} {members others : List (Text × Json)}
    (hdistinct : (members.map Prod.fst).Nodup) :
    Json.Carries number (.object members) (.object others) ↔
      ∀ name value, (name, value) ∈ members →
        ∃ actual, (Json.object others).get name = some actual ∧ Json.Carries number value actual := by
  rw [Json.carries_iff]
  constructor
  · rintro ⟨-, h⟩ name value hmem
    exact h (.key name) value (Json.get_of_mem hdistinct hmem)
  · intro h
    refine ⟨trivial, fun step value hvalue => ?_⟩
    cases step with
    | key name => exact h name value (Json.mem_of_get hvalue)
    | index i => cases hvalue

/-- A value with nothing below it. -/
theorem carries_leaf {number : Text → Text → Prop} {requested observed : Json}
    (hleaf : ∀ step, requested.child step = none) :
    Json.Carries number requested observed ↔ Json.Agrees number requested observed := by
  rw [Json.carries_iff]
  refine ⟨And.left, fun h => ⟨h, fun step value hvalue => ?_⟩⟩
  rw [hleaf] at hvalue
  cases hvalue

mutual

/-- **The comparison holds exactly when the observed value carries the requested one.** -/
theorem requestedJsonMatches_iff : ∀ (requested observed : Json), requested.Distinct →
    (requestedJsonMatches requested observed = true ↔ Matched requested observed)
  | .null, observed, _ => by
    rw [Matched, carries_leaf (by rintro (_ | _) <;> rfl)]
    cases observed <;> simp [requestedJsonMatches, Json.Agrees]
  | .bool value, observed, _ => by
    rw [Matched, carries_leaf (by rintro (_ | _) <;> rfl)]
    cases observed <;> simp [requestedJsonMatches, Json.Agrees]
  | .number value, observed, _ => by
    rw [Matched, carries_leaf (by rintro (_ | _) <;> rfl)]
    cases observed <;> simp [requestedJsonMatches, Json.Agrees]
  | .string value, observed, _ => by
    rw [Matched, carries_leaf (by rintro (_ | _) <;> rfl)]
    cases observed <;> simp [requestedJsonMatches, Json.Agrees]
  | .array wanteds, observed, h => by
    cases observed with
    | array actuals =>
      rw [Matched, carries_array, requestedJsonMatches, Bool.and_eq_true, decide_eq_true_eq]
      exact and_congr_right fun hlength => itemsMatch_iff wanteds actuals h hlength
    | null | bool | number | string | object =>
      refine ⟨fun hmatch => ?_, fun hmatch => ((Json.carries_iff.1 hmatch).1).elim⟩
      simp [requestedJsonMatches] at hmatch
  | .object members, observed, h => by
    cases observed with
    | object others =>
      rw [Matched, carries_object h.1, requestedJsonMatches]
      exact membersMatch_iff members (.object others) h.2
    | null | bool | number | string | array =>
      refine ⟨fun hmatch => ?_, fun hmatch => ((Json.carries_iff.1 hmatch).1).elim⟩
      simp [requestedJsonMatches] at hmatch

theorem itemsMatch_iff : ∀ (wanteds actuals : List Json), Json.DistinctItems wanteds → wanteds.length = actuals.length →
    (itemsMatch wanteds actuals = true ↔
      ∀ (i : Nat) (wanted : Json), wanteds[i]? = some wanted → ∃ actual, actuals[i]? = some actual ∧ Matched wanted actual)
  | [], _, _, _ => by simp [itemsMatch]
  | wanted :: wanteds, [], _, hlength => by cases hlength
  | wanted :: wanteds, actual :: actuals, h, hlength => by
    have hrest := itemsMatch_iff wanteds actuals h.2 (Nat.succ.inj hlength)
    rw [itemsMatch, Bool.and_eq_true, requestedJsonMatches_iff wanted actual h.1, hrest]
    constructor
    · rintro ⟨hfirst, hlater⟩ i found hfound
      cases i with
      | zero =>
        cases hfound
        exact ⟨actual, rfl, hfirst⟩
      | succ i => exact hlater i found hfound
    · intro hall
      obtain ⟨_, ⟨⟩, hfirst⟩ := hall 0 wanted rfl
      exact ⟨hfirst, fun i found hfound => hall (i + 1) found hfound⟩

theorem membersMatch_iff : ∀ (members : List (Text × Json)) (actual : Json), Json.DistinctMembers members →
    (membersMatch members actual = true ↔
      ∀ name value, (name, value) ∈ members → ∃ observed, actual.get name = some observed ∧ Matched value observed)
  | [], _, _ => by simp [membersMatch]
  | (name, value) :: members, actual, h => by
    have hfirst : (match actual.get name with
        | some observed => requestedJsonMatches value observed
        | none => false) = true ↔ ∃ observed, actual.get name = some observed ∧ Matched value observed := by
      cases actual.get name with
      | none => simp
      | some observed => simp [requestedJsonMatches_iff value observed h.1]
    rw [membersMatch, Bool.and_eq_true, hfirst, membersMatch_iff members actual h.2]
    constructor
    · rintro ⟨hhead, htail⟩ name' value' hmem
      rcases List.mem_cons.1 hmem with heq | hmem
      · cases heq
        exact hhead
      · exact htail name' value' hmem
    · intro hall
      exact ⟨hall name value List.mem_cons_self, fun name' value' hmem => hall name' value' (List.mem_cons_of_mem _ hmem)⟩

end

end UnifiMcp

import UnifiMcp.Lib.Text
/-!
# `str::to_lowercase`

The lower-case mapping of Unicode: one character for most upper-case letters, `i` and a combining dot
for `İ`, and for `Σ` one of two letters by what stands around it. `Casing` is the two properties that
rule reads; the results hold whatever they are.

* `toLowercase_idem` — lower-casing twice is lower-casing once.
* `trimmed_toLowercase` — a trimmed text stays trimmed.
-/

namespace Text

/-! ## The mapping -/

/-- Upper-case letters `first, first + step, … last` and the image of the first; the others follow at
the same distance. -/
structure CaseRange where
  first : Nat
  last : Nat
  step : Nat
  target : Nat

def CaseRange.contains (r : CaseRange) (n : Nat) : Bool :=
  r.first ≤ n && n ≤ r.last && (n - r.first) % r.step == 0

def CaseRange.image (r : CaseRange) (n : Nat) : Nat := r.target + (n - r.first)

/-- The simple lower-case mappings of the Unicode character data. -/
def caseRanges : List CaseRange :=
  [⟨0x41, 0x5A, 1, 0x61⟩, ⟨0xC0, 0xD6, 1, 0xE0⟩, ⟨0xD8, 0xDE, 1, 0xF8⟩, ⟨0x100, 0x12E, 2, 0x101⟩,
    ⟨0x132, 0x136, 2, 0x133⟩, ⟨0x139, 0x147, 2, 0x13A⟩, ⟨0x14A, 0x176, 2, 0x14B⟩, ⟨0x178, 0x178, 1, 0xFF⟩,
    ⟨0x179, 0x17D, 2, 0x17A⟩, ⟨0x181, 0x181, 1, 0x253⟩, ⟨0x182, 0x184, 2, 0x183⟩, ⟨0x186, 0x186, 1, 0x254⟩,
    ⟨0x187, 0x187, 1, 0x188⟩, ⟨0x189, 0x18A, 1, 0x256⟩, ⟨0x18B, 0x18B, 1, 0x18C⟩, ⟨0x18E, 0x18E, 1, 0x1DD⟩,
    ⟨0x18F, 0x18F, 1, 0x259⟩, ⟨0x190, 0x190, 1, 0x25B⟩, ⟨0x191, 0x191, 1, 0x192⟩, ⟨0x193, 0x193, 1, 0x260⟩,
    ⟨0x194, 0x194, 1, 0x263⟩, ⟨0x196, 0x196, 1, 0x269⟩, ⟨0x197, 0x197, 1, 0x268⟩, ⟨0x198, 0x198, 1, 0x199⟩,
    ⟨0x19C, 0x19C, 1, 0x26F⟩, ⟨0x19D, 0x19D, 1, 0x272⟩, ⟨0x19F, 0x19F, 1, 0x275⟩, ⟨0x1A0, 0x1A4, 2, 0x1A1⟩,
    ⟨0x1A6, 0x1A6, 1, 0x280⟩, ⟨0x1A7, 0x1A7, 1, 0x1A8⟩, ⟨0x1A9, 0x1A9, 1, 0x283⟩, ⟨0x1AC, 0x1AC, 1, 0x1AD⟩,
    ⟨0x1AE, 0x1AE, 1, 0x288⟩, ⟨0x1AF, 0x1AF, 1, 0x1B0⟩, ⟨0x1B1, 0x1B2, 1, 0x28A⟩, ⟨0x1B3, 0x1B5, 2, 0x1B4⟩,
    ⟨0x1B7, 0x1B7, 1, 0x292⟩, ⟨0x1B8, 0x1B8, 1, 0x1B9⟩, ⟨0x1BC, 0x1BC, 1, 0x1BD⟩, ⟨0x1C4, 0x1C4, 1, 0x1C6⟩,
    ⟨0x1C5, 0x1C5, 1, 0x1C6⟩, ⟨0x1C7, 0x1C7, 1, 0x1C9⟩, ⟨0x1C8, 0x1C8, 1, 0x1C9⟩, ⟨0x1CA, 0x1CA, 2, 0x1CC⟩,
    ⟨0x1CB, 0x1DB, 2, 0x1CC⟩, ⟨0x1DE, 0x1EE, 2, 0x1DF⟩, ⟨0x1F1, 0x1F1, 2, 0x1F3⟩, ⟨0x1F2, 0x1F4, 2, 0x1F3⟩,
    ⟨0x1F6, 0x1F6, 1, 0x195⟩, ⟨0x1F7, 0x1F7, 1, 0x1BF⟩, ⟨0x1F8, 0x21E, 2, 0x1F9⟩, ⟨0x220, 0x220, 1, 0x19E⟩,
    ⟨0x222, 0x232, 2, 0x223⟩, ⟨0x23A, 0x23A, 1, 0x2C65⟩, ⟨0x23B, 0x23B, 1, 0x23C⟩, ⟨0x23D, 0x23D, 1, 0x19A⟩,
    ⟨0x23E, 0x23E, 1, 0x2C66⟩, ⟨0x241, 0x241, 1, 0x242⟩, ⟨0x243, 0x243, 1, 0x180⟩, ⟨0x244, 0x244, 1, 0x289⟩,
    ⟨0x245, 0x245, 1, 0x28C⟩, ⟨0x246, 0x24E, 2, 0x247⟩, ⟨0x370, 0x372, 2, 0x371⟩, ⟨0x376, 0x376, 1, 0x377⟩,
    ⟨0x37F, 0x37F, 1, 0x3F3⟩, ⟨0x386, 0x386, 1, 0x3AC⟩, ⟨0x388, 0x38A, 1, 0x3AD⟩, ⟨0x38C, 0x38C, 1, 0x3CC⟩,
    ⟨0x38E, 0x38F, 1, 0x3CD⟩, ⟨0x391, 0x3A1, 1, 0x3B1⟩, ⟨0x3A3, 0x3AB, 1, 0x3C3⟩, ⟨0x3CF, 0x3CF, 1, 0x3D7⟩,
    ⟨0x3D8, 0x3EE, 2, 0x3D9⟩, ⟨0x3F4, 0x3F4, 1, 0x3B8⟩, ⟨0x3F7, 0x3F7, 1, 0x3F8⟩, ⟨0x3F9, 0x3F9, 1, 0x3F2⟩,
    ⟨0x3FA, 0x3FA, 1, 0x3FB⟩, ⟨0x3FD, 0x3FF, 1, 0x37B⟩, ⟨0x400, 0x40F, 1, 0x450⟩, ⟨0x410, 0x42F, 1, 0x430⟩,
    ⟨0x460, 0x480, 2, 0x461⟩, ⟨0x48A, 0x4BE, 2, 0x48B⟩, ⟨0x4C0, 0x4C0, 1, 0x4CF⟩, ⟨0x4C1, 0x4CD, 2, 0x4C2⟩,
    ⟨0x4D0, 0x52E, 2, 0x4D1⟩, ⟨0x531, 0x556, 1, 0x561⟩, ⟨0x10A0, 0x10C5, 1, 0x2D00⟩,
    ⟨0x10C7, 0x10C7, 1, 0x2D27⟩, ⟨0x10CD, 0x10CD, 1, 0x2D2D⟩, ⟨0x13A0, 0x13EF, 1, 0xAB70⟩,
    ⟨0x13F0, 0x13F5, 1, 0x13F8⟩, ⟨0x1C89, 0x1C89, 1, 0x1C8A⟩, ⟨0x1C90, 0x1CBA, 1, 0x10D0⟩,
    ⟨0x1CBD, 0x1CBF, 1, 0x10FD⟩, ⟨0x1E00, 0x1E94, 2, 0x1E01⟩, ⟨0x1E9E, 0x1E9E, 1, 0xDF⟩,
    ⟨0x1EA0, 0x1EFE, 2, 0x1EA1⟩, ⟨0x1F08, 0x1F0F, 1, 0x1F00⟩, ⟨0x1F18, 0x1F1D, 1, 0x1F10⟩,
    ⟨0x1F28, 0x1F2F, 1, 0x1F20⟩, ⟨0x1F38, 0x1F3F, 1, 0x1F30⟩, ⟨0x1F48, 0x1F4D, 1, 0x1F40⟩,
    ⟨0x1F59, 0x1F5F, 2, 0x1F51⟩, ⟨0x1F68, 0x1F6F, 1, 0x1F60⟩, ⟨0x1F88, 0x1F8F, 1, 0x1F80⟩,
    ⟨0x1F98, 0x1F9F, 1, 0x1F90⟩, ⟨0x1FA8, 0x1FAF, 1, 0x1FA0⟩, ⟨0x1FB8, 0x1FB9, 1, 0x1FB0⟩,
    ⟨0x1FBA, 0x1FBB, 1, 0x1F70⟩, ⟨0x1FBC, 0x1FBC, 1, 0x1FB3⟩, ⟨0x1FC8, 0x1FCB, 1, 0x1F72⟩,
    ⟨0x1FCC, 0x1FCC, 1, 0x1FC3⟩, ⟨0x1FD8, 0x1FD9, 1, 0x1FD0⟩, ⟨0x1FDA, 0x1FDB, 1, 0x1F76⟩,
    ⟨0x1FE8, 0x1FE9, 1, 0x1FE0⟩, ⟨0x1FEA, 0x1FEB, 1, 0x1F7A⟩, ⟨0x1FEC, 0x1FEC, 1, 0x1FE5⟩,
    ⟨0x1FF8, 0x1FF9, 1, 0x1F78⟩, ⟨0x1FFA, 0x1FFB, 1, 0x1F7C⟩, ⟨0x1FFC, 0x1FFC, 1, 0x1FF3⟩,
    ⟨0x2126, 0x2126, 1, 0x3C9⟩, ⟨0x212A, 0x212A, 1, 0x6B⟩, ⟨0x212B, 0x212B, 1, 0xE5⟩,
    ⟨0x2132, 0x2132, 1, 0x214E⟩, ⟨0x2160, 0x216F, 1, 0x2170⟩, ⟨0x2183, 0x2183, 1, 0x2184⟩,
    ⟨0x24B6, 0x24CF, 1, 0x24D0⟩, ⟨0x2C00, 0x2C2F, 1, 0x2C30⟩, ⟨0x2C60, 0x2C60, 1, 0x2C61⟩,
    ⟨0x2C62, 0x2C62, 1, 0x26B⟩, ⟨0x2C63, 0x2C63, 1, 0x1D7D⟩, ⟨0x2C64, 0x2C64, 1, 0x27D⟩,
    ⟨0x2C67, 0x2C6B, 2, 0x2C68⟩, ⟨0x2C6D, 0x2C6D, 1, 0x251⟩, ⟨0x2C6E, 0x2C6E, 1, 0x271⟩,
    ⟨0x2C6F, 0x2C6F, 1, 0x250⟩, ⟨0x2C70, 0x2C70, 1, 0x252⟩, ⟨0x2C72, 0x2C72, 1, 0x2C73⟩,
    ⟨0x2C75, 0x2C75, 1, 0x2C76⟩, ⟨0x2C7E, 0x2C7F, 1, 0x23F⟩, ⟨0x2C80, 0x2CE2, 2, 0x2C81⟩,
    ⟨0x2CEB, 0x2CED, 2, 0x2CEC⟩, ⟨0x2CF2, 0x2CF2, 1, 0x2CF3⟩, ⟨0xA640, 0xA66C, 2, 0xA641⟩,
    ⟨0xA680, 0xA69A, 2, 0xA681⟩, ⟨0xA722, 0xA72E, 2, 0xA723⟩, ⟨0xA732, 0xA76E, 2, 0xA733⟩,
    ⟨0xA779, 0xA77B, 2, 0xA77A⟩, ⟨0xA77D, 0xA77D, 1, 0x1D79⟩, ⟨0xA77E, 0xA786, 2, 0xA77F⟩,
    ⟨0xA78B, 0xA78B, 1, 0xA78C⟩, ⟨0xA78D, 0xA78D, 1, 0x265⟩, ⟨0xA790, 0xA792, 2, 0xA791⟩,
    ⟨0xA796, 0xA7A8, 2, 0xA797⟩, ⟨0xA7AA, 0xA7AA, 1, 0x266⟩, ⟨0xA7AB, 0xA7AB, 1, 0x25C⟩,
    ⟨0xA7AC, 0xA7AC, 1, 0x261⟩, ⟨0xA7AD, 0xA7AD, 1, 0x26C⟩, ⟨0xA7AE, 0xA7AE, 1, 0x26A⟩,
    ⟨0xA7B0, 0xA7B0, 1, 0x29E⟩, ⟨0xA7B1, 0xA7B1, 1, 0x287⟩, ⟨0xA7B2, 0xA7B2, 1, 0x29D⟩,
    ⟨0xA7B3, 0xA7B3, 1, 0xAB53⟩, ⟨0xA7B4, 0xA7C2, 2, 0xA7B5⟩, ⟨0xA7C4, 0xA7C4, 1, 0xA794⟩,
    ⟨0xA7C5, 0xA7C5, 1, 0x282⟩, ⟨0xA7C6, 0xA7C6, 1, 0x1D8E⟩, ⟨0xA7C7, 0xA7C9, 2, 0xA7C8⟩,
    ⟨0xA7CB, 0xA7CB, 1, 0x264⟩, ⟨0xA7CC, 0xA7DA, 2, 0xA7CD⟩, ⟨0xA7DC, 0xA7DC, 1, 0x19B⟩,
    ⟨0xA7F5, 0xA7F5, 1, 0xA7F6⟩, ⟨0xFF21, 0xFF3A, 1, 0xFF41⟩, ⟨0x10400, 0x10427, 1, 0x10428⟩,
    ⟨0x104B0, 0x104D3, 1, 0x104D8⟩, ⟨0x10570, 0x1057A, 1, 0x10597⟩, ⟨0x1057C, 0x1058A, 1, 0x105A3⟩,
    ⟨0x1058C, 0x10592, 1, 0x105B3⟩, ⟨0x10594, 0x10595, 1, 0x105BB⟩, ⟨0x10C80, 0x10CB2, 1, 0x10CC0⟩,
    ⟨0x10D50, 0x10D65, 1, 0x10D70⟩, ⟨0x118A0, 0x118BF, 1, 0x118C0⟩, ⟨0x16E40, 0x16E5F, 1, 0x16E60⟩,
    ⟨0x16EA0, 0x16EB8, 1, 0x16EBB⟩, ⟨0x1E900, 0x1E921, 1, 0x1E922⟩]

/-- `İ`, the one character whose lower case is two. -/
def DOTTED_I : Nat := 0x130

/-- `Σ`. -/
def SIGMA : Char := Char.ofNat 0x3A3

/-- `conversions::to_lower`. -/
def lowerChar (c : Char) : Text :=
  if c.toNat = DOTTED_I then ['i', Char.ofNat 0x307]
  else match caseRanges.find? fun r => r.contains c.toNat with
    | some r => [Char.ofNat (r.image c.toNat)]
    | none => [c]

/-- The properties `Cased` and `Case_Ignorable`. -/
structure Casing where
  cased : Char → Bool
  caseIgnorable : Char → Bool

/-- `case_ignorable_then_cased`. -/
def Casing.ignorableThenCased (casing : Casing) (t : Text) : Bool :=
  (t.dropWhile casing.caseIgnorable).head?.any casing.cased

/-- `map_uppercase_sigma`; `before` is read from its end. -/
def Casing.lowerSigma (casing : Casing) (before after : Text) : Char :=
  if casing.ignorableThenCased before && !casing.ignorableThenCased after then Char.ofNat 0x3C2 else Char.ofNat 0x3C3

/-- The loop of `str::to_lowercase`, behind the characters of `before`. -/
def Casing.lowerFrom (casing : Casing) : Text → Text → Text
  | _, [] => []
  | before, c :: after =>
    (if c = SIGMA then [casing.lowerSigma before after] else lowerChar c) ++ casing.lowerFrom (c :: before) after

/-- `str::to_lowercase`. -/
def Casing.toLowercase (casing : Casing) (t : Text) : Text := casing.lowerFrom [] t

/-! ## Images -/

/-- The images of `r` avoid `f`: they lie below or above it, or they have the other parity. -/
def CaseRange.avoids (r f : CaseRange) : Bool :=
  Nat.blt (r.target + (r.last - r.first)) f.first || Nat.blt f.last r.target ||
    Nat.beq r.step 2 && Nat.beq f.step 2 && Nat.beq ((r.target + f.first) % 2) 1

theorem CaseRange.contains_iff {r : CaseRange} {n : Nat} :
    r.contains n = true ↔ r.first ≤ n ∧ n ≤ r.last ∧ (n - r.first) % r.step = 0 := by
  rw [contains, Bool.and_eq_true, Bool.and_eq_true, decide_eq_true_eq, decide_eq_true_eq, beq_iff_eq, and_assoc]

theorem CaseRange.not_contains_image {r f : CaseRange} (h : r.avoids f = true) {n : Nat} (hn : r.contains n = true) :
    f.contains (r.image n) = false := by
  simp only [avoids, Bool.or_eq_true, Bool.and_eq_true, Nat.blt_eq, Nat.beq_eq] at h
  obtain ⟨hfirst, hlast, hstep⟩ := contains_iff.1 hn
  rw [Bool.eq_false_iff]
  intro hf
  obtain ⟨hf1, hf2, hf3⟩ := contains_iff.1 hf
  rw [image] at hf1 hf2 hf3
  rcases h with (h | h) | ⟨⟨hr, hs⟩, hparity⟩
  · omega
  · omega
  · rw [hr] at hstep
    rw [hs] at hf3
    omega

def single (n : Nat) : CaseRange := ⟨n, n, 1, 0⟩

/-- White space, as ranges. -/
def whitespaceRanges : List CaseRange :=
  [⟨9, 13, 1, 0⟩, single 0x20, single 0x85, single 0xA0, single 0x1680, ⟨0x2000, 0x200A, 1, 0⟩, single 0x2028,
    single 0x2029, single 0x202F, single 0x205F, single 0x3000]

/-- What no image is: an upper-case letter, `İ`, white space, or a surrogate. -/
def nonImages : List CaseRange := caseRanges ++ single DOTTED_I :: ⟨0xD800, 0xDFFF, 1, 0⟩ :: whitespaceRanges

def imagesApart : Bool :=
  caseRanges.all fun r => Nat.blt (r.target + (r.last - r.first)) 0x110000 && nonImages.all r.avoids

theorem imagesApart_true : imagesApart = true := by decide +kernel

theorem image_not_mem {r : CaseRange} (hr : r ∈ caseRanges) {n : Nat} (hn : r.contains n = true) :
    (∀ f ∈ nonImages, f.contains (r.image n) = false) ∧ r.image n < 0x110000 := by
  have hall := List.all_eq_true.1 imagesApart_true r hr
  rw [Bool.and_eq_true, Nat.blt_eq] at hall
  refine ⟨fun f hf => CaseRange.not_contains_image (List.all_eq_true.1 hall.2 f hf) hn, ?_⟩
  obtain ⟨hfirst, hlast, -⟩ := CaseRange.contains_iff.1 hn
  rw [CaseRange.image]
  omega

theorem contains_single {n m : Nat} : (single n).contains m = true ↔ m = n := by
  rw [CaseRange.contains_iff]
  show n ≤ m ∧ m ≤ n ∧ (m - n) % 1 = 0 ↔ m = n
  omega

theorem isWhitespace_range {c : Char} (h : isWhitespace c = true) : ∃ f ∈ whitespaceRanges, f.contains c.toNat = true := by
  simp only [isWhitespace, Bool.or_eq_true, Bool.and_eq_true, decide_eq_true_eq, beq_iff_eq] at h
  simp only [whitespaceRanges, List.exists_mem_cons_iff, List.not_mem_nil, false_and, exists_false, or_false, contains_single]
  simp only [CaseRange.contains_iff, Nat.mod_one, and_true]
  omega

/-- A character no mapping applies to. -/
def IsLower (c : Char) : Prop := lowerChar c = [c] ∧ c ≠ SIGMA

theorem lowerChar_self {c : Char} (hdot : c.toNat ≠ DOTTED_I) (hranges : ∀ r ∈ caseRanges, r.contains c.toNat = false) :
    IsLower c := by
  constructor
  · have hnone : (caseRanges.find? fun r => r.contains c.toNat) = none :=
      List.find?_eq_none.2 fun r hr => by rw [hranges r hr]; exact Bool.false_ne_true
    rw [lowerChar, if_neg hdot, hnone]
  · rintro rfl
    have hsigma : caseRanges.any (fun r => r.contains SIGMA.toNat) = true := by decide +kernel
    obtain ⟨r, hr, hcontains⟩ := List.any_eq_true.1 hsigma
    rw [hranges r hr] at hcontains
    cases hcontains

/-- Every character of an image is lower-case, and white space only if the character was. -/
theorem lowerChar_images {c d : Char} (hd : d ∈ lowerChar c) :
    IsLower d ∧ (isWhitespace d = true → isWhitespace c = true) := by
  unfold lowerChar at hd
  split at hd
  · have hplain : ∀ e : Char, e.toNat ≠ DOTTED_I → (caseRanges.all fun r => !r.contains e.toNat) = true → IsLower e :=
      fun e hdot hall => lowerChar_self hdot fun r hr => by simpa using List.all_eq_true.1 hall r hr
    rcases List.mem_cons.1 hd with rfl | hd
    · exact ⟨hplain _ (by decide) (by decide +kernel), fun h => absurd h (by decide)⟩
    · rw [List.mem_singleton.1 hd]
      exact ⟨hplain _ (by decide) (by decide +kernel), fun h => absurd h (by decide)⟩
  · rename_i hdot
    split at hd
    · rename_i r hfind
      have hcontains : r.contains c.toNat = true := by simpa using List.find?_some hfind
      obtain ⟨hne, hlt⟩ := image_not_mem (List.mem_of_find?_eq_some hfind) hcontains
      rw [List.mem_singleton] at hd
      have hvalid : (r.image c.toNat).isValidChar := by
        have hsurrogate : ¬(0xD800 ≤ r.image c.toNat ∧ r.image c.toNat ≤ 0xDFFF) := by
          intro h
          have hin : CaseRange.contains ⟨0xD800, 0xDFFF, 1, 0⟩ (r.image c.toNat) = true :=
            CaseRange.contains_iff.2 ⟨h.1, h.2, Nat.mod_one _⟩
          rw [hne _ (List.mem_append_right _ (.tail _ (.head _)))] at hin
          cases hin
        rw [Nat.isValidChar]
        omega
      have htoNat : d.toNat = r.image c.toNat := by
        rw [hd, Char.ofNat, dif_pos hvalid]
        rfl
      refine ⟨lowerChar_self ?_ fun f hf => ?_, fun hspace => ?_⟩
      · intro h
        have hin := contains_single.2 (htoNat ▸ h)
        rw [hne _ (List.mem_append_right _ (.head _))] at hin
        cases hin
      · rw [htoNat]
        exact hne f (List.mem_append_left _ hf)
      · obtain ⟨f, hf, hin⟩ := isWhitespace_range hspace
        rw [htoNat, hne f (List.mem_append_right _ (.tail _ (.tail _ hf)))] at hin
        cases hin
    · rename_i hfind
      rw [List.mem_singleton.1 hd]
      refine ⟨lowerChar_self hdot fun r hr => ?_, id⟩
      simpa using List.find?_eq_none.1 hfind r hr

theorem lowerChar_ne_nil (c : Char) : lowerChar c ≠ [] := by
  unfold lowerChar
  split
  · exact List.cons_ne_nil _ _
  · split <;> exact List.cons_ne_nil _ _

/-! ## Trimmed texts -/

/-- No white space at either end. -/
def Trimmed (t : Text) : Prop :=
  (∀ c, t.head? = some c → isWhitespace c = false) ∧ ∀ c, t.getLast? = some c → isWhitespace c = false

theorem trim_eq_self {t : Text} (h : Trimmed t) : trim t = t := by
  have hfront : t.dropWhile isWhitespace = t := by
    cases t with
    | nil => rfl
    | cons c t => rw [List.dropWhile_cons, h.1 c rfl]; rfl
  rw [trim, hfront, List.rdropWhile_eq_self_iff]
  intro hne
  rw [h.2 _ (List.getLast?_eq_some_getLast hne)]
  exact Bool.false_ne_true

theorem head?_dropWhile_not (t : Text) {c : Char} (h : (t.dropWhile isWhitespace).head? = some c) :
    isWhitespace c = false := by
  have := List.head?_dropWhile_not isWhitespace t
  rw [h] at this
  simpa using this

theorem trimmed_trim (t : Text) : Trimmed (trim t) := by
  constructor
  · intro c hc
    obtain ⟨rest, hrest⟩ := List.rdropWhile_prefix isWhitespace (t.dropWhile isWhitespace)
    refine head?_dropWhile_not t ?_
    rw [trim] at hc
    rw [← hrest]
    cases hr : List.rdropWhile isWhitespace (t.dropWhile isWhitespace) with
    | nil => rw [hr] at hc; cases hc
    | cons d l => rw [hr] at hc; exact hc
  · intro c hc
    have hne : trim t ≠ [] := by rintro heq; rw [heq] at hc; cases hc
    rw [List.getLast?_eq_some_getLast hne] at hc
    rw [← Option.some.inj hc]
    exact Bool.eq_false_iff.2 (List.rdropWhile_last_not isWhitespace (t.dropWhile isWhitespace) hne)

/-! ## Texts -/

section
variable {casing : Casing}

theorem lowerSigma_isLower (before after : Text) : IsLower (casing.lowerSigma before after) ∧
    isWhitespace (casing.lowerSigma before after) = false := by
  have hplain : ∀ e : Char, e.toNat ≠ DOTTED_I → (caseRanges.all fun r => !r.contains e.toNat) = true → IsLower e :=
    fun e hdot hall => lowerChar_self hdot fun r hr => by simpa using List.all_eq_true.1 hall r hr
  unfold Casing.lowerSigma
  split
  · exact ⟨hplain _ (by decide) (by decide +kernel), by decide⟩
  · exact ⟨hplain _ (by decide) (by decide +kernel), by decide⟩

/-- What one character of a text becomes. -/
def Casing.lowerOne (casing : Casing) (before : Text) (c : Char) (after : Text) : Text :=
  if c = SIGMA then [casing.lowerSigma before after] else lowerChar c

theorem lowerFrom_cons (before : Text) (c : Char) (after : Text) : casing.lowerFrom before (c :: after) =
    casing.lowerOne before c after ++ casing.lowerFrom (c :: before) after := rfl

theorem lowerOne_ne_nil (before : Text) (c : Char) (after : Text) : casing.lowerOne before c after ≠ [] := by
  unfold Casing.lowerOne
  split
  · exact List.cons_ne_nil _ _
  · exact lowerChar_ne_nil c

theorem mem_lowerOne {before after : Text} {c d : Char} (h : d ∈ casing.lowerOne before c after) :
    IsLower d ∧ (isWhitespace c = false → isWhitespace d = false) := by
  unfold Casing.lowerOne at h
  split at h
  · rw [List.mem_singleton.1 h]
    exact ⟨(lowerSigma_isLower before after).1, fun _ => (lowerSigma_isLower before after).2⟩
  · obtain ⟨hlower, hspace⟩ := lowerChar_images h
    refine ⟨hlower, fun hno => Bool.eq_false_iff.2 fun hd => ?_⟩
    rw [hspace hd] at hno
    cases hno

theorem mem_lowerFrom {d : Char} : ∀ {before t : Text}, d ∈ casing.lowerFrom before t → IsLower d
  | _, [], h => by cases h
  | before, c :: after, h => by
    rw [lowerFrom_cons] at h
    exact (List.mem_append.1 h).elim (fun h => (mem_lowerOne h).1) mem_lowerFrom

theorem lowerFrom_of_isLower : ∀ {before t : Text}, (∀ d ∈ t, IsLower d) → casing.lowerFrom before t = t
  | _, [], _ => rfl
  | before, c :: after, h => by
    obtain ⟨hself, hsigma⟩ := h c (by simp)
    rw [lowerFrom_cons, Casing.lowerOne, if_neg hsigma, hself, lowerFrom_of_isLower fun d hd => h d (by simp [hd])]
    rfl

/-- **Lower-casing twice is lower-casing once.** -/
theorem toLowercase_idem (t : Text) : casing.toLowercase (casing.toLowercase t) = casing.toLowercase t :=
  lowerFrom_of_isLower fun _ => mem_lowerFrom

theorem toLowercase_ne_nil {t : Text} (h : t ≠ []) : casing.toLowercase t ≠ [] := by
  cases t with
  | nil => exact absurd rfl h
  | cons c after =>
    rw [Casing.toLowercase, lowerFrom_cons]
    exact List.append_ne_nil_of_left_ne_nil (lowerOne_ne_nil _ _ _) _

theorem getLast?_lowerFrom : ∀ {before t : Text} {c d : Char}, t.getLast? = some c →
    (casing.lowerFrom before t).getLast? = some d → isWhitespace c = false → isWhitespace d = false
  | _, [], _, _, hc, _, _ => by cases hc
  | before, [c], _, d, hc, hd, hspace => by
    cases hc
    rw [lowerFrom_cons, Casing.lowerFrom, List.append_nil] at hd
    exact (mem_lowerOne (List.mem_of_getLast? hd)).2 hspace
  | before, c :: e :: after, _, d, hc, hd, hspace => by
    rw [List.getLast?_cons_cons] at hc
    rw [lowerFrom_cons, List.getLast?_append_of_ne_nil] at hd
    · exact getLast?_lowerFrom hc hd hspace
    · rw [lowerFrom_cons]
      exact List.append_ne_nil_of_left_ne_nil (lowerOne_ne_nil _ _ _) _

/-- **A trimmed text stays trimmed.** -/
theorem trimmed_toLowercase {t : Text} (h : Trimmed t) : Trimmed (casing.toLowercase t) := by
  constructor
  · intro d hd
    cases t with
    | nil => cases hd
    | cons c after =>
      rw [Casing.toLowercase, lowerFrom_cons, List.head?_append_of_ne_nil _ (lowerOne_ne_nil _ _ _)] at hd
      exact (mem_lowerOne (List.mem_of_mem_head? hd)).2 (h.1 c rfl)
  · intro d hd
    cases hlast : t.getLast? with
    | none =>
      rw [List.getLast?_eq_none_iff.1 hlast] at hd
      cases hd
    | some c => exact getLast?_lowerFrom hlast hd (h.2 c hlast)

end

end Text

import Mathlib.Data.List.Basic
import Mathlib.Data.List.DropRight
/-!
# Texts and their bytes

A text is a list of characters, its bytes the UTF-8 encoding. Lengths are byte lengths, as
in `str::len`.

* `byteLen_utf8`, `fromUtf8_utf8`, `utf8_of_fromUtf8` — the byte view and the character view agree.
* `natOf_dec` — a decimal numeral reads back.
* `readLines_flatten` — a line reader over lines that hold no inner newline gives the lines back.
-/

abbrev Bytes := List UInt8

abbrev Text := List Char

namespace Text

/-! ## UTF-8 -/

def utf8 (t : Text) : Bytes := t.flatMap String.utf8EncodeChar

/-- `str::len`. -/
def byteLen : Text → Nat
  | [] => 0
  | c :: t => c.utf8Size + byteLen t

/-- `std::str::from_utf8`. -/
def fromUtf8 (b : Bytes) : Option Text := b.toByteArray.utf8Decode?.map Array.toList

@[simp] theorem byteLen_nil : byteLen [] = 0 := rfl

@[simp] theorem byteLen_cons (c : Char) (t : Text) : byteLen (c :: t) = c.utf8Size + byteLen t := rfl

@[simp] theorem byteLen_append (s t : Text) : byteLen (s ++ t) = byteLen s + byteLen t := by
  induction s with
  | nil => simp
  | cons c s ih => rw [List.cons_append, byteLen_cons, ih, byteLen_cons, Nat.add_assoc]

theorem length_le_byteLen (t : Text) : t.length ≤ byteLen t := by
  induction t with
  | nil => exact Nat.le_refl 0
  | cons c t ih =>
    have hc := c.utf8Size_pos
    rw [List.length_cons, byteLen_cons]
    omega

@[simp] theorem utf8_append (s t : Text) : utf8 (s ++ t) = utf8 s ++ utf8 t := by simp [utf8]

@[simp] theorem byteLen_utf8 (t : Text) : (utf8 t).length = byteLen t := by
  induction t with
  | nil => rfl
  | cons c t ih =>
    rw [utf8, List.flatMap_cons, List.length_append, String.length_utf8EncodeChar, byteLen_cons, ← ih]
    rfl

theorem fromUtf8_utf8 (t : Text) : fromUtf8 (utf8 t) = some t := by
  have h : (utf8 t).toByteArray.utf8Decode? = some t.toArray := List.utf8Decode?_utf8Encode
  simp [fromUtf8, h]

theorem utf8_of_fromUtf8 {b : Bytes} {t : Text} (h : fromUtf8 b = some t) : utf8 t = b := by
  unfold fromUtf8 at h
  cases hd : b.toByteArray.utf8Decode? with
  | none => simp [hd] at h
  | some a =>
    simp [hd] at h
    subst h
    have he := ByteArray.utf8Encode_get_utf8Decode? (b := b.toByteArray) (h := by simp [hd])
    simp only [hd, Option.get_some] at he
    have hl := congrArg (fun x : ByteArray => x.data.toList) he
    simpa [List.utf8Encode, List.data_toByteArray, utf8] using hl

/-- A text of one-byte characters is as long as it has characters. -/
theorem byteLen_ascii {t : Text} (h : ∀ c ∈ t, c.utf8Size = 1) : byteLen t = t.length := by
  induction t with
  | nil => rfl
  | cons c t ih =>
    rw [byteLen_cons, h c (by simp), ih fun d hd => h d (by simp [hd]), List.length_cons]
    omega

/-! ## Character classes and trimming -/

/-- `char::is_whitespace`: the Unicode `White_Space` property. -/
def isWhitespace (c : Char) : Bool :=
  let n := c.toNat
  (9 ≤ n && n ≤ 13) || n == 0x20 || n == 0x85 || n == 0xa0 || n == 0x1680 ||
    (0x2000 ≤ n && n ≤ 0x200a) || n == 0x2028 || n == 0x2029 || n == 0x202f || n == 0x205f || n == 0x3000

/-- `str::trim`. -/
def trim (t : Text) : Text := (t.dropWhile isWhitespace).rdropWhile isWhitespace

/-- `str::to_ascii_lowercase`. -/
def toAsciiLowercase (t : Text) : Text :=
  t.map fun c => if 'A' ≤ c ∧ c ≤ 'Z' then Char.ofNat (c.toNat + 32) else c

/-- `char::is_ascii_hexdigit`. -/
def isHexDigit (c : Char) : Bool :=
  c.isDigit || ('a' ≤ c && c ≤ 'f') || ('A' ≤ c && c ≤ 'F')

theorem utf8Size_of_isHexDigit {c : Char} (h : isHexDigit c = true) : c.utf8Size = 1 := by
  have h9 : '9'.val.toNat = 57 := rfl
  have hf : 'f'.val.toNat = 102 := rfl
  have hF : 'F'.val.toNat = 70 := rfl
  have h127 : (127 : UInt32).toNat = 127 := rfl
  simp only [isHexDigit, Char.isDigit, Bool.or_eq_true, Bool.and_eq_true, decide_eq_true_eq, ge_iff_le, Char.le_def,
    UInt32.le_iff_toNat_le] at h
  rw [Char.utf8Size_eq_one_iff, UInt32.le_iff_toNat_le]
  omega

/-! ## Decimal numerals -/

/-- An integer as `format!("{}")` writes it. -/
def dec (n : Nat) : Text := Nat.toDigits 10 n

/-- The value of a decimal numeral. -/
def natOf (t : Text) : Nat := Nat.ofDigitChars 10 t 0

@[simp] theorem natOf_dec (n : Nat) : natOf (dec n) = n := Nat.ofDigitChars_ten_toDigits

theorem dec_inj {m n : Nat} (h : dec m = dec n) : m = n := by
  rw [← natOf_dec m, h, natOf_dec]

theorem isDigit_of_mem_dec {n : Nat} {c : Char} (h : c ∈ dec n) : c.isDigit :=
  Nat.isDigit_of_mem_toDigits (by decide) (by decide) h

theorem utf8Size_of_isDigit {c : Char} (h : c.isDigit) : c.utf8Size = 1 :=
  utf8Size_of_isHexDigit (by simp [isHexDigit, h])

theorem byteLen_dec (n : Nat) : byteLen (dec n) = (dec n).length :=
  byteLen_ascii fun _ hc => utf8Size_of_isDigit (isDigit_of_mem_dec hc)

theorem not_mem_dec {n : Nat} {c : Char} (h : c.isDigit = false) : c ∉ dec n := by
  intro hc
  rw [isDigit_of_mem_dec hc] at h
  cases h

/-- A signed integer likewise. -/
def decInt (n : Int) : Text := if n < 0 then '-' :: dec n.natAbs else dec n.natAbs

/-- Reading back part by part. -/
theorem mapM_map_some {α β γ : Type} {l : List α} {write : α → β} {read : β → Option γ} {g : α → γ}
    (h : ∀ a ∈ l, read (write a) = some (g a)) : (l.map write).mapM read = some (l.map g) := by
  induction l with
  | nil => rfl
  | cons a l ih =>
    rw [List.map_cons, List.mapM_cons, h a (by simp), ih fun b hb => h b (by simp [hb])]
    rfl

/-! ## Lines -/

/-- The lines of a text, each ended by one newline, as `str::lines` splits them. What follows
the last newline is a line of its own unless it is empty. -/
def readLines : Text → List Text
  | [] => []
  | c :: t =>
    if c = '\n' then [] :: readLines t
    else match readLines t with
      | [] => [[c]]
      | l :: ls => (c :: l) :: ls

theorem readLines_append_newline {l : Text} (h : '\n' ∉ l) (t : Text) :
    readLines (l ++ '\n' :: t) = l :: readLines t := by
  induction l with
  | nil => simp [readLines]
  | cons c l ih =>
    have hc : c ≠ '\n' := fun e => h (by simp [e])
    rw [List.cons_append, readLines, if_neg hc, ih fun hl => h (by simp [hl])]

/-- **Line reader.** -/
theorem readLines_flatten {ls : List Text} (h : ∀ l ∈ ls, '\n' ∉ l) :
    readLines (ls.map (· ++ ['\n'])).flatten = ls := by
  induction ls with
  | nil => rfl
  | cons l ls ih =>
    rw [List.map_cons, List.flatten_cons, List.append_assoc, List.singleton_append,
      readLines_append_newline (h l (by simp)), ih fun x hx => h x (by simp [hx])]

/-- The longest prefix without `c` and what follows that first `c`. -/
theorem takeWhile_append_of_not_mem {c : Char} {s : Text} (h : c ∉ s) (t : Text) :
    (s ++ c :: t).takeWhile (· ≠ c) = s := by
  induction s with
  | nil => simp
  | cons d s ih =>
    have hd : d ≠ c := fun e => h (by simp [e])
    rw [List.cons_append, List.takeWhile_cons, if_pos (by simpa using hd), ih fun hs => h (by simp [hs])]

end Text

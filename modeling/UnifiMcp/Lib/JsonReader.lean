import Mathlib.Data.Char
import Mathlib.Data.List.Lex
import UnifiMcp.Lib.Digits
import UnifiMcp.Lib.Json
import UnifiMcp.Lib.SortedMap
/-!
# Reading JSON bytes

A reader takes bytes and returns what it read with the bytes behind it. `skip` walks over one value
with a stack of open brackets and builds nothing; `readString` undoes the escapes of a string;
`readMembers` folds the members of an object; `readValue` builds a value.

* `skip_append` — what was skipped as a whole text is skipped in front of anything that cannot continue
  a number.
* `readString_quote` — **a written string reads back.**
* `readObject_write` — **a written object reads back**, when each member reads back its value.
-/

namespace JsonReader

open Text

/-- The byte of an ASCII character. -/
def byte (c : Char) : UInt8 := UInt8.ofNat c.toNat

def isWs (b : UInt8) : Bool := b = byte ' ' || b = byte '\n' || b = byte '\t' || b = byte '\r'

def isDigit (b : UInt8) : Bool := byte '0' ≤ b && b ≤ byte '9'

/-- The value of a hexadecimal digit. -/
def hexValue (b : UInt8) : Option Nat :=
  if isDigit b then some (b.toNat - 48)
  else if byte 'a' ≤ b && b ≤ byte 'f' then some (b.toNat - 87)
  else if byte 'A' ≤ b && b ≤ byte 'F' then some (b.toNat - 55)
  else none

def skipWs (bytes : Bytes) : Bytes := bytes.dropWhile isWs

/-! ## Skipping -/

/-- An open bracket. -/
inductive Frame where
  | array
  | object
deriving DecidableEq

/-- What may come next. -/
inductive Mode where
  /-- A value. -/
  | value
  /-- Behind an opening bracket. -/
  | opened (frame : Frame)
  /-- The quote of a key. -/
  | key
  | string (key : Bool)
  | escape (key : Bool)
  | hex (key : Bool) (left : Nat)
  | colon
  | word (left : Bytes)
  /-- The parts of a number. -/
  | minus | zero | int | point | frac | exp | expSign | expDigits
  /-- Behind a value. -/
  | after
deriving DecidableEq

/-- Whether a number that is complete in this mode goes on with this byte. -/
def Mode.continues : Mode → UInt8 → Bool
  | .zero, b => isDigit b || b = byte '.' || b = byte 'e' || b = byte 'E'
  | .int, b => isDigit b || b = byte '.' || b = byte 'e' || b = byte 'E'
  | .frac, b => isDigit b || b = byte 'e' || b = byte 'E'
  | .expDigits, b => isDigit b
  | _, _ => true

/-- A number ends where it does not go on. -/
def Mode.settle (mode : Mode) (b : UInt8) : Mode := if mode.continues b then mode else .after

/-- Whether a value is complete at the end of the text. -/
def Mode.complete : Mode → Bool
  | .after | .zero | .int | .frac | .expDigits => true
  | _ => false

/-- The start of a value. -/
def startValue (stack : List Frame) (b : UInt8) : Option (Mode × List Frame) :=
  if b = byte '"' then some (.string false, stack)
  else if b = byte '[' then some (.opened .array, .array :: stack)
  else if b = byte '{' then some (.opened .object, .object :: stack)
  else if b = byte 'n' then some (.word (utf8 ['u', 'l', 'l']), stack)
  else if b = byte 't' then some (.word (utf8 ['r', 'u', 'e']), stack)
  else if b = byte 'f' then some (.word (utf8 ['a', 'l', 's', 'e']), stack)
  else if b = byte '-' then some (.minus, stack)
  else if b = byte '0' then some (.zero, stack)
  else if isDigit b then some (.int, stack)
  else none

/-- The fraction or the exponent of a number. -/
def continueNumber (stack : List Frame) (b : UInt8) : Option (Mode × List Frame) :=
  if b = byte '.' then some (.point, stack)
  else if b = byte 'e' ∨ b = byte 'E' then some (.exp, stack)
  else none

/-- One byte, behind the end of a number if the byte does not continue it. -/
def step : Mode → List Frame → UInt8 → Option (Mode × List Frame)
  | .value, stack, b => if isWs b then some (.value, stack) else startValue stack b
  | .opened .array, stack, b =>
    if isWs b then some (.opened .array, stack)
    else if b = byte ']' then some (.after, stack.tail)
    else startValue stack b
  | .opened .object, stack, b =>
    if isWs b then some (.opened .object, stack)
    else if b = byte '}' then some (.after, stack.tail)
    else if b = byte '"' then some (.string true, stack)
    else none
  | .key, stack, b =>
    if isWs b then some (.key, stack) else if b = byte '"' then some (.string true, stack) else none
  | .string key, stack, b =>
    if b = byte '"' then some (if key then .colon else .after, stack)
    else if b = byte '\\' then some (.escape key, stack)
    else if b < 32 then none
    else some (.string key, stack)
  | .escape key, stack, b =>
    if b = byte 'u' then some (.hex key 4, stack)
    else if b ∈ utf8 ['"', '\\', '/', 'b', 'f', 'n', 'r', 't'] then some (.string key, stack)
    else none
  | .hex key left, stack, b =>
    if (hexValue b).isNone then none
    else if left ≤ 1 then some (.string key, stack)
    else some (.hex key (left - 1), stack)
  | .colon, stack, b => if isWs b then some (.colon, stack) else if b = byte ':' then some (.value, stack) else none
  | .word [], _, _ => none
  | .word (c :: left), stack, b =>
    if b = c then some (if left = [] then .after else .word left, stack) else none
  | .minus, stack, b =>
    if b = byte '0' then some (.zero, stack) else if isDigit b then some (.int, stack) else none
  | .zero, stack, b => continueNumber stack b
  | .int, stack, b => if isDigit b then some (.int, stack) else continueNumber stack b
  | .point, stack, b => if isDigit b then some (.frac, stack) else none
  | .frac, stack, b =>
    if isDigit b then some (.frac, stack)
    else if b = byte 'e' ∨ b = byte 'E' then some (.exp, stack)
    else none
  | .exp, stack, b =>
    if b = byte '+' ∨ b = byte '-' then some (.expSign, stack)
    else if isDigit b then some (.expDigits, stack)
    else none
  | .expSign, stack, b => if isDigit b then some (.expDigits, stack) else none
  | .expDigits, stack, b => if isDigit b then some (.expDigits, stack) else none
  | .after, [], _ => none
  | .after, .array :: stack, b =>
    if isWs b then some (.after, .array :: stack)
    else if b = byte ',' then some (.value, .array :: stack)
    else if b = byte ']' then some (.after, stack)
    else none
  | .after, .object :: stack, b =>
    if isWs b then some (.after, .object :: stack)
    else if b = byte ',' then some (.key, .object :: stack)
    else if b = byte '}' then some (.after, stack)
    else none

/-- The bytes behind one value. -/
def skip : Mode → List Frame → Bytes → Option Bytes
  | mode, stack, [] => if mode.complete ∧ stack = [] then some [] else none
  | mode, stack, b :: bytes =>
    if mode.settle b = .after ∧ stack = [] then some (b :: bytes)
    else match step (mode.settle b) stack b with
      | none => none
      | some (mode, stack) => skip mode stack bytes

/-- A byte that can stand behind a value. -/
def terminator (b : UInt8) : Bool := b = byte ',' || b = byte ']' || b = byte '}' || isWs b

theorem settle_terminator {mode : Mode} {b : UInt8} (hmode : mode.complete = true) (hb : terminator b = true) :
    mode.settle b = .after := by
  simp only [terminator, isWs, Bool.or_eq_true, decide_eq_true_eq] at hb
  rcases hb with ((rfl | rfl) | rfl) | ((rfl | rfl) | rfl) | rfl <;> cases mode <;> first | rfl | cases hmode

theorem skip_nil {mode : Mode} {stack : List Frame} {rest : Bytes} (h : skip mode stack [] = some rest) :
    mode.complete = true ∧ stack = [] ∧ rest = [] := by
  rw [skip] at h
  split at h
  · rename_i hend
    cases h
    exact ⟨hend.1, hend.2, rfl⟩
  · cases h

theorem complete_of_settle {mode : Mode} {b : UInt8} (h : mode.settle b = .after) : mode.complete = true := by
  cases mode <;> first | rfl | cases h

/-- **A text that is one value is skipped in front of a terminator.** -/
theorem skip_append {a rest : Bytes} (hrest : ∀ b ∈ rest.head?, terminator b = true) :
    ∀ {mode : Mode} {stack : List Frame}, skip mode stack a = some [] → skip mode stack (a ++ rest) = some rest := by
  induction a with
  | nil =>
    intro mode stack h
    obtain ⟨hcomplete, rfl, -⟩ := skip_nil h
    cases rest with
    | nil => exact h
    | cons b rest => rw [List.nil_append, skip, if_pos ⟨settle_terminator hcomplete (hrest b rfl), rfl⟩]
  | cons b a ih =>
    intro mode stack h
    rw [skip] at h
    rw [List.cons_append, skip]
    split at h
    · cases h
    · rename_i hopen
      rw [if_neg hopen]
      cases hstep : step (mode.settle b) stack b with
      | none =>
        rw [hstep] at h
        cases h
      | some next =>
        rw [hstep] at h
        exact ih h

theorem skip_suffix {bytes rest : Bytes} : ∀ {mode : Mode} {stack : List Frame}, skip mode stack bytes = some rest →
    rest <:+ bytes := by
  induction bytes with
  | nil =>
    intro mode stack h
    obtain ⟨-, -, rfl⟩ := skip_nil h
    exact List.suffix_rfl
  | cons b bytes ih =>
    intro mode stack h
    rw [skip] at h
    split at h
    · cases h
      exact List.suffix_rfl
    · cases hstep : step (mode.settle b) stack b with
      | none =>
        rw [hstep] at h
        cases h
      | some next =>
        rw [hstep] at h
        exact (ih h).trans (List.suffix_cons b bytes)

/-- What is skipped is a value of its own. -/
theorem skip_prefix {a rest : Bytes} : ∀ {mode : Mode} {stack : List Frame},
    skip mode stack (a ++ rest) = some rest → skip mode stack a = some [] := by
  induction a with
  | nil =>
    intro mode stack h
    cases rest with
    | nil => exact h
    | cons b rest =>
      rw [List.nil_append, skip] at h
      split at h
      · rename_i hend
        rw [skip, if_pos ⟨complete_of_settle hend.1, hend.2⟩]
      · cases hstep : step (mode.settle b) stack b with
        | none =>
          rw [hstep] at h
          cases h
        | some next =>
          rw [hstep] at h
          have hlength := (skip_suffix h).length_le
          rw [List.length_cons] at hlength
          omega
  | cons b a ih =>
    intro mode stack h
    rw [List.cons_append, skip] at h
    rw [skip]
    split at h
    · have hlength := congrArg List.length (Option.some.inj h)
      rw [List.length_cons, List.length_append] at hlength
      omega
    · rename_i hopen
      rw [if_neg hopen]
      cases hstep : step (mode.settle b) stack b with
      | none =>
        rw [hstep] at h
        cases h
      | some next =>
        rw [hstep] at h
        exact ih h

/-! ## Strings -/

inductive StringMode where
  | plain
  | escape
  /-- `left` digits of a `\\u` escape to come. -/
  | hex (left code : Nat)
  /-- Behind a leading surrogate: the backslash, the `u` and the digits of the trailing one. -/
  | pairSlash (high : Nat)
  | pairU (high : Nat)
  | low (high left code : Nat)

/-- The character of a two-character escape. -/
def simpleEscape (b : UInt8) : Option Char :=
  if b = byte '"' then some '"'
  else if b = byte '\\' then some '\\'
  else if b = byte '/' then some '/'
  else if b = byte 'b' then some (Char.ofNat 8)
  else if b = byte 'f' then some (Char.ofNat 12)
  else if b = byte 'n' then some '\n'
  else if b = byte 'r' then some '\r'
  else if b = byte 't' then some '\t'
  else none

/-- The bytes of a string up to its closing quote, the escapes undone, and what follows. -/
def decode : StringMode → Bytes → Option (Bytes × Bytes)
  | _, [] => none
  | .plain, b :: bytes =>
    if b = byte '"' then some ([], bytes)
    else if b = byte '\\' then decode .escape bytes
    else if b < 32 then none
    else (decode .plain bytes).map fun (content, rest) => (b :: content, rest)
  | .escape, b :: bytes =>
    if b = byte 'u' then decode (.hex 4 0) bytes
    else match simpleEscape b with
      | none => none
      | some c => (decode .plain bytes).map fun (content, rest) => (utf8 [c] ++ content, rest)
  | .hex left code, b :: bytes =>
    match hexValue b with
    | none => none
    | some digit =>
      let code := code * 16 + digit
      if 1 < left then decode (.hex (left - 1) code) bytes
      else if 0xDC00 ≤ code ∧ code ≤ 0xDFFF then none
      else if 0xD800 ≤ code ∧ code ≤ 0xDBFF then decode (.pairSlash code) bytes
      else (decode .plain bytes).map fun (content, rest) => (utf8 [Char.ofNat code] ++ content, rest)
  | .pairSlash high, b :: bytes => if b = byte '\\' then decode (.pairU high) bytes else none
  | .pairU high, b :: bytes => if b = byte 'u' then decode (.low high 4 0) bytes else none
  | .low high left code, b :: bytes =>
    match hexValue b with
    | none => none
    | some digit =>
      let code := code * 16 + digit
      if 1 < left then decode (.low high (left - 1) code) bytes
      else if code < 0xDC00 ∨ 0xDFFF < code then none
      else (decode .plain bytes).map fun (content, rest) =>
        (utf8 [Char.ofNat (0x10000 + (high - 0xD800) * 0x400 + (code - 0xDC00))] ++ content, rest)

/-- `parse_str`, behind the opening quote. -/
def readString (bytes : Bytes) : Option (Text × Bytes) :=
  (decode .plain bytes).bind fun (content, rest) => (fromUtf8 content).map fun text => (text, rest)

theorem utf8_cons (c : Char) (t : Text) : utf8 (c :: t) = String.utf8EncodeChar c ++ utf8 t := rfl

/-- An ASCII character is its byte. -/
theorem utf8_ascii {c : Char} (h : c.toNat < 128) (t : Text) : utf8 (c :: t) = byte c :: utf8 t := by
  have hc : c.val.toNat ≤ 127 := by
    show c.toNat ≤ 127
    omega
  rw [utf8_cons, String.utf8EncodeChar]
  simp only [hc, if_true]
  rfl

/-- The bytes of any other character are above ASCII. -/
theorem utf8_high {c : Char} (h : 128 ≤ c.toNat) {b : UInt8} (hb : b ∈ String.utf8EncodeChar c) : 128 ≤ b := by
  have hlow : ¬ c.val.toNat ≤ 127 := by
    show ¬ c.toNat ≤ 127
    omega
  have hmod (n m k : Nat) (hm : m + k ≤ 256) (hk : 128 ≤ k) (hn : n < m) : 128 ≤ UInt8.ofNat (n + k) := by
    rw [UInt8.le_iff_toNat_le, UInt8.toNat_ofNat_of_lt' (by show n + k < 256; omega)]
    show 128 ≤ n + k
    omega
  rw [String.utf8EncodeChar] at hb
  simp only [hlow, if_false] at hb
  split at hb
  · simp only [List.mem_cons, List.not_mem_nil, or_false] at hb
    rcases hb with rfl | rfl
    · exact hmod _ 32 192 (by omega) (by omega) (Nat.mod_lt _ (by omega))
    · exact hmod _ 64 128 (by omega) (by omega) (Nat.mod_lt _ (by omega))
  · split at hb
    · simp only [List.mem_cons, List.not_mem_nil, or_false] at hb
      rcases hb with rfl | rfl | rfl
      · exact hmod _ 16 224 (by omega) (by omega) (Nat.mod_lt _ (by omega))
      · exact hmod _ 64 128 (by omega) (by omega) (Nat.mod_lt _ (by omega))
      · exact hmod _ 64 128 (by omega) (by omega) (Nat.mod_lt _ (by omega))
    · simp only [List.mem_cons, List.not_mem_nil, or_false] at hb
      rcases hb with rfl | rfl | rfl | rfl
      · exact hmod _ 8 240 (by omega) (by omega) (Nat.mod_lt _ (by omega))
      · exact hmod _ 64 128 (by omega) (by omega) (Nat.mod_lt _ (by omega))
      · exact hmod _ 64 128 (by omega) (by omega) (Nat.mod_lt _ (by omega))
      · exact hmod _ 64 128 (by omega) (by omega) (Nat.mod_lt _ (by omega))

/-- Bytes that are neither a quote, a backslash nor a control byte stand for themselves. -/
theorem decode_plain_append {front bytes : Bytes}
    (h : ∀ b ∈ front, b ≠ byte '"' ∧ b ≠ byte '\\' ∧ 32 ≤ b) :
    decode .plain (front ++ bytes) = (decode .plain bytes).map fun (content, rest) => (front ++ content, rest) := by
  induction front with
  | nil =>
    rw [List.nil_append]
    cases decode .plain bytes <;> rfl
  | cons b front ih =>
    obtain ⟨hquote, hslash, hcontrol⟩ := h b List.mem_cons_self
    rw [List.cons_append, decode, if_neg hquote, if_neg hslash, if_neg (UInt8.not_lt.2 hcontrol),
      ih fun d hd => h d (List.mem_cons_of_mem _ hd), Option.map_map]
    rfl

theorem byte_toNat {c : Char} (h : c.toNat < 128) : (byte c).toNat = c.toNat :=
  UInt8.toNat_ofNat_of_lt' (by show c.toNat < 256; omega)

/-- A character that is written as it is. -/
theorem decode_char {c : Char} (hquote : c ≠ '"') (hslash : c ≠ '\\') (hcontrol : 32 ≤ c.toNat) (bytes : Bytes) :
    decode .plain (utf8 [c] ++ bytes) = (decode .plain bytes).map fun (content, rest) => (utf8 [c] ++ content, rest) := by
  refine decode_plain_append fun b hb => ?_
  by_cases hascii : c.toNat < 128
  · rw [utf8_ascii hascii] at hb
    obtain rfl : b = byte c := by simpa [utf8] using hb
    have hnat := byte_toNat hascii
    refine ⟨fun h => hquote ?_, fun h => hslash ?_, ?_⟩
    · have := congrArg UInt8.toNat h
      rw [hnat, byte_toNat (by decide)] at this
      exact Char.toNat_inj.1 this
    · have := congrArg UInt8.toNat h
      rw [hnat, byte_toNat (by decide)] at this
      exact Char.toNat_inj.1 this
    · rw [UInt8.le_iff_toNat_le, hnat]
      exact hcontrol
  · have hhigh : 128 ≤ b := utf8_high (Nat.le_of_not_lt hascii) (by simpa [utf8] using hb)
    rw [UInt8.le_iff_toNat_le] at hhigh
    refine ⟨?_, ?_, ?_⟩
    · rintro rfl
      exact absurd hhigh (by decide)
    · rintro rfl
      exact absurd hhigh (by decide)
    · rw [UInt8.le_iff_toNat_le]
      exact Nat.le_trans (by decide) hhigh

theorem hexValue_lowerHexDigit : ∀ {n : Nat}, n < 16 → hexValue (byte (Json.lowerHexDigit n)) = some n := by decide

theorem lowerHexDigit_ascii : ∀ {n : Nat}, n < 16 → (Json.lowerHexDigit n).toNat < 128 := by decide

/-- A control character written with four hexadecimal digits. -/
theorem decode_control {n : Nat} (h : n < 32) (bytes : Bytes) :
    decode .plain (utf8 ['\\', 'u', '0', '0', Json.lowerHexDigit (n / 16), Json.lowerHexDigit (n % 16)] ++ bytes) =
      (decode .plain bytes).map fun (content, rest) => (utf8 [Char.ofNat n] ++ content, rest) := by
  have hhi : n / 16 < 16 := by omega
  have hlo : n % 16 < 16 := by omega
  have hbytes : utf8 ['\\', 'u', '0', '0', Json.lowerHexDigit (n / 16), Json.lowerHexDigit (n % 16)] ++ bytes =
      byte '\\' :: byte 'u' :: byte '0' :: byte '0' :: byte (Json.lowerHexDigit (n / 16)) ::
        byte (Json.lowerHexDigit (n % 16)) :: bytes := by
    rw [utf8_ascii (by decide), utf8_ascii (by decide), utf8_ascii (by decide), utf8_ascii (by decide),
      utf8_ascii (lowerHexDigit_ascii hhi), utf8_ascii (lowerHexDigit_ascii hlo)]
    rfl
  have hzero : hexValue (byte '0') = some 0 := by decide
  have hcode : (((0 * 16 + 0) * 16 + 0) * 16 + n / 16) * 16 + n % 16 = n := by omega
  rw [hbytes, decode, if_neg (by decide), if_pos rfl, decode, if_pos rfl]
  simp only [decode, hzero, hexValue_lowerHexDigit hhi, hexValue_lowerHexDigit hlo]
  simp only [hcode]
  rw [if_pos (by decide), if_pos (by decide), if_pos (by decide), if_neg (by decide), if_neg (by omega), if_neg (by omega)]

/-- A two-character escape. -/
theorem decode_simple {e c : Char} (he : e.toNat < 128) (hu : byte e ≠ byte 'u') (hc : simpleEscape (byte e) = some c)
    (bytes : Bytes) : decode .plain (utf8 ['\\', e] ++ bytes) =
      (decode .plain bytes).map fun (content, rest) => (utf8 [c] ++ content, rest) := by
  have hbytes : utf8 ['\\', e] ++ bytes = byte '\\' :: byte e :: bytes := by
    rw [utf8_ascii (by decide), utf8_ascii he]
    rfl
  rw [hbytes, decode, if_neg (by decide), if_pos rfl, decode, if_neg hu, hc]

/-- Reading undoes `escapeChar`. -/
theorem decode_escapeChar (c : Char) (bytes : Bytes) : decode .plain (utf8 (Json.escapeChar c) ++ bytes) =
    (decode .plain bytes).map fun (content, rest) => (utf8 [c] ++ content, rest) := by
  have hof {n : Nat} (h : c.toNat = n) : c = Char.ofNat n := by rw [← h, Char.ofNat_toNat]
  unfold Json.escapeChar
  split
  · rename_i h
    subst h
    exact decode_simple (by decide) (by decide) (by decide) bytes
  split
  · rename_i h
    subst h
    exact decode_simple (by decide) (by decide) (by decide) bytes
  rename_i hquote hslash
  split
  · rename_i h
    rw [hof h]
    exact decode_simple (by decide) (by decide) (by decide) bytes
  split
  · rename_i h
    rw [hof h]
    exact decode_simple (by decide) (by decide) (by decide) bytes
  split
  · rename_i h
    rw [hof h]
    exact decode_simple (by decide) (by decide) (by decide) bytes
  split
  · rename_i h
    rw [hof h]
    exact decode_simple (by decide) (by decide) (by decide) bytes
  split
  · rename_i h
    rw [hof h]
    exact decode_simple (by decide) (by decide) (by decide) bytes
  split
  · rename_i h
    rw [decode_control h, Char.ofNat_toNat]
  · rename_i h
    exact decode_char hquote hslash (Nat.le_of_not_lt h) bytes

theorem decode_escaped (t : Text) (bytes : Bytes) :
    decode .plain (utf8 (t.flatMap Json.escapeChar) ++ byte '"' :: bytes) = some (utf8 t, bytes) := by
  induction t with
  | nil => rw [List.flatMap_nil, decode.eq_def]; rfl
  | cons c t ih =>
    rw [List.flatMap_cons, utf8_append, List.append_assoc, decode_escapeChar, ih, Option.map_some]
    dsimp only
    rw [← utf8_append]
    rfl

/-- **A written string reads back.** -/
theorem readString_quote (t : Text) (bytes : Bytes) :
    readString (utf8 (t.flatMap Json.escapeChar) ++ byte '"' :: bytes) = some (t, bytes) := by
  rw [readString, decode_escaped, Option.bind_some]
  dsimp only
  rw [fromUtf8_utf8, Option.map_some]

theorem utf8_quote (t : Text) (bytes : Bytes) :
    utf8 (Json.quote t) ++ bytes = byte '"' :: (utf8 (t.flatMap Json.escapeChar) ++ byte '"' :: bytes) := by
  rw [Json.quote, utf8_ascii (by decide), utf8_append, List.cons_append, List.append_assoc]
  rfl

/-! ## Numbers and words -/

def MAX_U64 : Nat := 18446744073709551615

/-- The longest run of digits, and what follows it. -/
def readDigits (bytes : Bytes) : Bytes × Bytes := (bytes.takeWhile isDigit, bytes.dropWhile isDigit)

/-- `deserialize_u64`: an integer without a leading zero, a fraction or an exponent. -/
def readU64 (bytes : Bytes) : Option (Nat × Bytes) :=
  let (digits, rest) := readDigits (skipWs bytes)
  if digits = [] ∨ digits.head? = some (byte '0') ∧ digits.length ≠ 1 then none
  else if rest.head?.any fun b => b = byte '.' || b = byte 'e' || b = byte 'E' then none
  else
    let n := digits.foldl (fun n b => 10 * n + (b.toNat - 48)) 0
    if n ≤ MAX_U64 then some (n, rest) else none

/-- The rest of a word. -/
def readWord (word : Text) (bytes : Bytes) : Option Bytes :=
  if bytes.take (utf8 word).length = utf8 word then some (bytes.drop (utf8 word).length) else none

/-- `deserialize_option`: `null`, or a value of the type. -/
def readOption {α : Type} (read : Bytes → Option (α × Bytes)) (bytes : Bytes) : Option (Option α × Bytes) :=
  if (skipWs bytes).head? = some (byte 'n') then (readWord "null".toList (skipWs bytes)).map fun rest => (none, rest)
  else (read bytes).map fun (value, rest) => (some value, rest)

/-- `deserialize_bool`. -/
def readBool (bytes : Bytes) : Option (Bool × Bytes) :=
  match readWord "true".toList (skipWs bytes) with
  | some rest => some (true, rest)
  | none => (readWord "false".toList (skipWs bytes)).map fun rest => (false, rest)

/-- A numeric map key, behind the opening quote. -/
def readNumericKey (bytes : Bytes) : Option (Nat × Bytes) :=
  if bytes.head?.any isDigit then
    (readU64 bytes).bind fun (n, rest) => if rest.head? = some (byte '"') then some (n, rest.tail) else none
  else none

/-- A string value. -/
def readText (bytes : Bytes) : Option (Text × Bytes) :=
  match skipWs bytes with
  | b :: rest => if b = byte '"' then readString rest else none
  | [] => none

/-- `RawValue`: the bytes of one value as they are, when they are UTF-8. -/
def readRaw (bytes : Bytes) : Option (Text × Bytes) :=
  (skip .value [] (skipWs bytes)).bind fun rest =>
    (fromUtf8 ((skipWs bytes).take ((skipWs bytes).length - rest.length))).map fun text => (text, rest)

/-- Only whitespace may follow a document. -/
def readAll {α : Type} (read : Bytes → Option (α × Bytes)) (bytes : Bytes) : Option α :=
  (read bytes).bind fun (value, rest) => if skipWs rest = [] then some value else none

/-! ## Objects -/

/-- The members of an object up to its closing bracket: the key is read by `key`, and `field` reads the
value into what has been read so far. -/
def readMembers {σ κ : Type} (key : Bytes → Option (κ × Bytes)) (field : σ → κ → Bytes → Option (σ × Bytes)) :
    Nat → Bool → σ → Bytes → Option (σ × Bytes)
  | 0, _, _, _ => none
  | fuel + 1, first, acc, bytes =>
    match skipWs bytes with
    | [] => none
    | b :: rest =>
      if b = byte '}' then some (acc, rest)
      else
        let atKey := if first then b :: rest else if b = byte ',' then skipWs rest else []
        match atKey with
        | [] => none
        | quote :: rest =>
          if quote = byte '"' then
            (key rest).bind fun (name, rest) =>
              match skipWs rest with
              | [] => none
              | colon :: rest =>
                if colon = byte ':' then (field acc name rest).bind fun (acc, rest) => readMembers key field fuel false acc rest
                else none
          else none

/-- An object; each member takes a byte, so the length is fuel enough. -/
def readObject {σ κ : Type} (key : Bytes → Option (κ × Bytes)) (field : σ → κ → Bytes → Option (σ × Bytes)) (empty : σ)
    (bytes : Bytes) : Option (σ × Bytes) :=
  match skipWs bytes with
  | [] => none
  | b :: rest => if b = byte '{' then readMembers key field (rest.length + 1) true empty rest else none

/-- The key of a struct member. -/
def readKey {κ : Type} (identify : Text → κ) (bytes : Bytes) : Option (κ × Bytes) :=
  (readString bytes).map fun (name, rest) => (identify name, rest)

/-- A member of a struct, which may come once. -/
@[irreducible] def once {α σ : Type} (held : Option α) (read : Option (α × Bytes)) (put : α → σ) : Option (σ × Bytes) :=
  if held.isSome then none else read.map fun (value, rest) => (put value, rest)

/-- A member that the struct does not have. -/
def ignored {σ : Type} (acc : σ) (bytes : Bytes) : Option (σ × Bytes) :=
  (skip .value [] bytes).map fun rest => (acc, rest)

/-- A unit variant: its name, or an object with `null` under its name. -/
def readVariant {α : Type} (variant : Text → Option α) (bytes : Bytes) : Option (α × Bytes) :=
  if (skipWs bytes).head? = some (byte '{') then
    (readObject (readKey variant)
      (fun held found bytes => match held, found with
        | none, some value => (readWord "null".toList (skipWs bytes)).map fun rest => (some value, rest)
        | _, _ => none)
      none bytes).bind fun (held, rest) => held.map fun value => (value, rest)
  else (readText bytes).bind fun (name, rest) => (variant name).map fun value => (value, rest)

/-! ## Values -/

/-- The key that marks the text of a number, and the one that marks the text of a value. -/
def NUMBER_KEY : Text := "$serde_json::private::Number".toList

def RAW_KEY : Text := "$serde_json::private::RawValue".toList

/-- A number with nothing around it. -/
def readNumberText (text : Text) : Option Json :=
  if (utf8 text).head?.any (fun b => b = byte '-' || isDigit b) ∧ skip .value [] (utf8 text) = some [] then
    some (.number text)
  else none

/-- An object while it is read: its members so far, or the value that a marked first member stands for. -/
inductive Building where
  | plain (members : SortedMap Text Json)
  | marked (value : Json)

def Building.json : Building → Json
  | plain members => .object members.entries
  | marked value => value

/-- One member more; none follows a marked one. -/
def readMember (read : Bytes → Option (Json × Bytes)) (parse : Text → Option Json) :
    Building → Text → Bytes → Option (Building × Bytes)
  | .marked _, _, _ => none
  | .plain members, name, bytes =>
    if members.entries = [] ∧ name = NUMBER_KEY then
      (readText bytes).bind fun (text, rest) => (readNumberText text).map fun value => (.marked value, rest)
    else if members.entries = [] ∧ name = RAW_KEY then
      (readText bytes).bind fun (text, rest) => (parse text).map fun value => (.marked value, rest)
    else (read bytes).map fun (value, rest) => (.plain (members.insert name value), rest)

/-- The items of an array up to its closing bracket. -/
def readItems (read : Bytes → Option (Json × Bytes)) : Nat → Bool → Bytes → Option (List Json × Bytes)
  | 0, _, _ => none
  | fuel + 1, first, bytes =>
    match skipWs bytes with
    | [] => none
    | b :: rest =>
      if b = byte ']' then some ([], rest)
      else
        let atItem := if first then b :: rest else if b = byte ',' then rest else []
        (read atItem).bind fun (item, rest) => (readItems read fuel false rest).map fun (items, rest) => (item :: items, rest)

/-- `serde_json`'s limit of open brackets. -/
def RECURSION_LIMIT : Nat := 128

/-- A `Value` with so many brackets left to open; a marked text starts anew. -/
def readValueIn : Nat → Nat → Bytes → Option (Json × Bytes)
  | 0, _, _ => none
  | fuel + 1, depth, bytes =>
    match skipWs bytes with
    | [] => none
    | b :: rest =>
      if b = byte '"' then (readString rest).map fun (text, rest) => (.string text, rest)
      else if b = byte '[' then
        if depth ≤ 1 then none
        else (readItems (readValueIn fuel (depth - 1)) (rest.length + 1) true rest).map fun (items, rest) => (.array items, rest)
      else if b = byte '{' then
        if depth ≤ 1 then none
        else
          let parse := fun text => readAll (readValueIn fuel RECURSION_LIMIT) (utf8 text)
          (readObject readString (readMember (readValueIn fuel (depth - 1)) parse) (.plain .empty) (b :: rest)).map
            fun (object, rest) => (object.json, rest)
      else if b = byte 'n' then (readWord "null".toList (b :: rest)).map fun rest => (.null, rest)
      else if b = byte 't' ∨ b = byte 'f' then (readBool (b :: rest)).map fun (value, rest) => (.bool value, rest)
      else (readRaw (b :: rest)).map fun (spelling, rest) => (.number spelling, rest)

/-- A `Value`; each one takes a byte, so the length is fuel enough. -/
def readValue (depth : Nat) (bytes : Bytes) : Option (Json × Bytes) := readValueIn (bytes.length + 1) depth bytes

/-- `from_slice::<Value>`. -/
def fromSlice (bytes : Bytes) : Option Json :=
  if (fromUtf8 bytes).isSome then readAll (readValue RECURSION_LIMIT) bytes else none

/-! ## Written objects -/

def memberText (name value : Text) : Text := Json.quote name ++ ':' :: value

/-- The members behind the first. -/
def tailText (members : List (Text × Text)) : Text := members.flatMap fun member => ',' :: memberText member.1 member.2

/-- An object whose values are written already. -/
def objectText : List (Text × Text) → Text
  | [] => ['{', '}']
  | member :: members => '{' :: (memberText member.1 member.2 ++ tailText members ++ ['}'])

/-- What may follow a member's value. -/
def Closes (rest : Bytes) : Prop := ∃ bytes, rest = byte ',' :: bytes ∨ rest = byte '}' :: bytes

/-- Reading the members one by one, each with its value in front of whatever may follow it. -/
inductive Fills {σ κ : Type} (key : Bytes → Option (κ × Bytes)) (field : σ → κ → Bytes → Option (σ × Bytes)) :
    σ → List (Text × Text) → σ → Prop where
  | nil {acc : σ} : Fills key field acc [] acc
  | cons {acc next final : σ} {name value : Text} {k : κ} {members : List (Text × Text)}
      (hkey : ∀ rest, key (utf8 (name.flatMap Json.escapeChar) ++ byte '"' :: rest) = some (k, rest))
      (hfield : ∀ rest, Closes rest → field acc k (utf8 value ++ rest) = some (next, rest))
      (h : Fills key field next members final) : Fills key field acc ((name, value) :: members) final

theorem skipWs_cons {b : UInt8} (h : isWs b = false) (bytes : Bytes) : skipWs (b :: bytes) = b :: bytes := by
  rw [skipWs, List.dropWhile_cons, if_neg (by rw [h]; exact Bool.false_ne_true)]

section
variable {σ κ : Type} {key : Bytes → Option (κ × Bytes)} {field : σ → κ → Bytes → Option (σ × Bytes)}

theorem utf8_member (name value : Text) (bytes : Bytes) : utf8 (memberText name value) ++ bytes =
    byte '"' :: (utf8 (name.flatMap Json.escapeChar) ++ byte '"' :: byte ':' :: (utf8 value ++ bytes)) := by
  rw [memberText, utf8_append, List.append_assoc, utf8_quote, utf8_ascii (by decide), List.cons_append]

theorem length_tailText (members : List (Text × Text)) (bytes : Bytes) :
    members.length ≤ (utf8 (tailText members) ++ bytes).length := by
  induction members with
  | nil => exact Nat.zero_le _
  | cons member members ih =>
    rw [tailText, List.flatMap_cons, List.cons_append, utf8_ascii (by decide), List.cons_append, List.length_cons,
      List.length_cons, utf8_append, List.append_assoc, List.length_append]
    exact Nat.succ_le_succ (Nat.le_trans ih (Nat.le_add_left ..))

theorem byteLen_memberText (name value : Text) :
    byteLen (memberText name value) = byteLen (Json.quote name) + 1 + byteLen value := by
  rw [memberText, byteLen_append, byteLen_cons, Nat.add_assoc]
  rfl

/-- The brackets are all that an object adds to its members with their commas. -/
theorem byteLen_objectText_le (members : List (Text × Text)) :
    byteLen (objectText members) ≤ byteLen (tailText members) + 2 := by
  cases members with
  | nil => exact (by decide : 2 ≤ 2)
  | cons member members =>
    have hclose : byteLen ['}'] = 1 := rfl
    have hopen : '{'.utf8Size = 1 := rfl
    have htail : tailText (member :: members) = ',' :: (memberText member.1 member.2 ++ tailText members) := by
      rw [tailText, List.flatMap_cons, List.cons_append, tailText]
    rw [objectText, htail, byteLen_cons, byteLen_cons, byteLen_append, byteLen_append]
    omega

theorem byteLen_tailText_le {members : List (Text × Text)} {bound : Nat}
    (h : ∀ member ∈ members, byteLen (memberText member.1 member.2) < bound) :
    byteLen (tailText members) ≤ members.length * bound := by
  induction members with
  | nil => exact Nat.zero_le _
  | cons member members ih =>
    have hmember : 1 + byteLen (memberText member.1 member.2) ≤ bound := by
      have hlt := h member List.mem_cons_self
      omega
    have htail := ih fun member hm => h member (List.mem_cons_of_mem _ hm)
    rw [tailText, List.flatMap_cons, byteLen_append, byteLen_cons, List.length_cons, Nat.succ_mul, Nat.add_comm]
    exact Nat.add_le_add htail hmember

/-- One member, from its key on. -/
theorem readMembers_cons {fuel : Nat} {acc next : σ} {name value : Text} {k : κ} {rest : Bytes}
    (hkey : ∀ rest, key (utf8 (name.flatMap Json.escapeChar) ++ byte '"' :: rest) = some (k, rest))
    (hfield : field acc k (utf8 value ++ rest) = some (next, rest)) :
    readMembers key field (fuel + 1) true acc (utf8 (memberText name value) ++ rest) =
        readMembers key field fuel false next rest ∧
      readMembers key field (fuel + 1) false acc (byte ',' :: (utf8 (memberText name value) ++ rest)) =
        readMembers key field fuel false next rest := by
  have hcolon : skipWs (byte ':' :: (utf8 value ++ rest)) = byte ':' :: (utf8 value ++ rest) := skipWs_cons (by decide) _
  rw [utf8_member]
  constructor
  · rw [readMembers, skipWs_cons (by decide)]
    dsimp only
    rw [if_neg (by decide), if_pos rfl]
    dsimp only
    rw [if_pos rfl, hkey, Option.bind_some]
    dsimp only
    rw [hcolon]
    dsimp only
    rw [if_pos rfl, hfield, Option.bind_some]
  · rw [readMembers, skipWs_cons (by decide)]
    dsimp only
    rw [if_neg (by decide), if_neg Bool.false_ne_true, if_pos rfl, skipWs_cons (by decide)]
    dsimp only
    rw [if_pos rfl, hkey, Option.bind_some]
    dsimp only
    rw [hcolon]
    dsimp only
    rw [if_pos rfl, hfield, Option.bind_some]

theorem closes_tail (members : List (Text × Text)) (rest : Bytes) :
    Closes (utf8 (tailText members) ++ byte '}' :: rest) := by
  cases members with
  | nil => exact ⟨rest, Or.inr rfl⟩
  | cons member members =>
    rw [tailText, List.flatMap_cons, List.cons_append, utf8_ascii (by decide), List.cons_append]
    exact ⟨_, Or.inl rfl⟩

theorem readMembers_tail {acc final : σ} {members : List (Text × Text)} (h : Fills key field acc members final)
    (rest : Bytes) : ∀ {fuel : Nat}, members.length < fuel →
    readMembers key field fuel false acc (utf8 (tailText members) ++ byte '}' :: rest) = some (final, rest) := by
  induction h with
  | nil =>
    intro fuel hfuel
    obtain ⟨fuel, rfl⟩ := Nat.exists_eq_succ_of_ne_zero (Nat.ne_of_gt hfuel)
    show readMembers key field (fuel + 1) false _ (byte '}' :: rest) = _
    rw [readMembers, skipWs_cons (by decide)]
    dsimp only
    rw [if_pos rfl]
  | @cons acc next final name value k members hkey hfield h ih =>
    intro fuel hfuel
    obtain ⟨fuel, rfl⟩ := Nat.exists_eq_succ_of_ne_zero (Nat.ne_of_gt (Nat.lt_of_le_of_lt (Nat.zero_le _) hfuel))
    have hsplit : utf8 (tailText ((name, value) :: members)) ++ byte '}' :: rest =
        byte ',' :: (utf8 (memberText name value) ++ (utf8 (tailText members) ++ byte '}' :: rest)) := by
      rw [tailText, List.flatMap_cons, List.cons_append, utf8_ascii (by decide), utf8_append, List.cons_append,
        List.append_assoc]
      rfl
    rw [hsplit, (readMembers_cons hkey (hfield _ (closes_tail members rest))).2]
    exact ih (Nat.lt_of_succ_lt_succ hfuel)

/-- **A written object reads back**, when each member reads back its value. -/
theorem readObject_write {empty final : σ} {members : List (Text × Text)} (h : Fills key field empty members final)
    (rest : Bytes) : readObject key field empty (utf8 (objectText members) ++ rest) = some (final, rest) := by
  cases h with
  | nil =>
    have hbytes : utf8 (objectText []) ++ rest = byte '{' :: byte '}' :: rest := rfl
    rw [hbytes, readObject, skipWs_cons (by decide)]
    dsimp only
    rw [if_pos rfl, readMembers, skipWs_cons (by decide)]
    dsimp only
    rw [if_pos rfl]
  | @cons _ next _ name value k members hkey hfield h =>
    have hbytes : utf8 (objectText ((name, value) :: members)) ++ rest =
        byte '{' :: (utf8 (memberText name value) ++ (utf8 (tailText members) ++ byte '}' :: rest)) := by
      rw [objectText, utf8_ascii (by decide), utf8_append, utf8_append, List.cons_append, List.append_assoc, List.append_assoc]
      rfl
    rw [hbytes, readObject, skipWs_cons (by decide)]
    dsimp only
    rw [if_pos rfl, (readMembers_cons hkey (hfield _ (closes_tail members rest))).1]
    refine readMembers_tail h rest ?_
    have hlength := length_tailText members (byte '}' :: rest)
    have hmember : 1 ≤ (utf8 (memberText name value)).length := by
      rw [← List.append_nil (utf8 _), utf8_member]
      exact Nat.succ_pos _
    rw [List.length_append]
    omega

end

/-! ## Written values -/

/-- The reader reads the text back in front of whatever may follow a member's value. -/
def Reads {α : Type} (read : Bytes → Option (α × Bytes)) (text : Text) (value : α) : Prop :=
  ∀ rest, Closes rest → read (utf8 text ++ rest) = some (value, rest)

/-- The text starts with an ASCII character that is no whitespace, and is not `null`. -/
def Starts (text : Text) : Prop := ∃ c t, text = c :: t ∧ c.toNat < 128 ∧ isWs (byte c) = false ∧ c ≠ 'n'

theorem Starts.skipWs {text : Text} (h : Starts text) (bytes : Bytes) : skipWs (utf8 text ++ bytes) = utf8 text ++ bytes := by
  obtain ⟨c, t, rfl, hascii, hws, -⟩ := h
  rw [utf8_ascii hascii, List.cons_append, skipWs_cons hws]

theorem utf8_digits {digits : Text} (h : ∀ c ∈ digits, c.isDigit = true) : utf8 digits = digits.map byte := by
  induction digits with
  | nil => rfl
  | cons c digits ih =>
    have hascii : c.toNat < 128 := by
      have hc := h c List.mem_cons_self
      simp only [Char.isDigit, Bool.and_eq_true, decide_eq_true_eq, ge_iff_le, UInt32.le_iff_toNat_le] at hc
      have h9 : '9'.val.toNat = 57 := rfl
      show c.val.toNat < 128
      omega
    rw [utf8_ascii hascii, ih fun d hd => h d (List.mem_cons_of_mem _ hd), List.map_cons]

theorem byte_digit {c : Char} (h : c.isDigit = true) : isDigit (byte c) = true ∧ (byte c).toNat = c.toNat := by
  simp only [Char.isDigit, Bool.and_eq_true, decide_eq_true_eq, ge_iff_le, UInt32.le_iff_toNat_le] at h
  have h9 : '9'.val.toNat = 57 := rfl
  have h0 : '0'.val.toNat = 48 := rfl
  have hnat : (byte c).toNat = c.toNat := byte_toNat (by show c.val.toNat < 128; omega)
  refine ⟨?_, hnat⟩
  rw [isDigit, Bool.and_eq_true, decide_eq_true_eq, decide_eq_true_eq, UInt8.le_iff_toNat_le, UInt8.le_iff_toNat_le, hnat]
  show 48 ≤ c.val.toNat ∧ c.val.toNat ≤ 57
  omega

theorem not_ws_of_digit {b : UInt8} (h : isDigit b = true) : isWs b = false := by
  cases hws : isWs b with
  | false => rfl
  | true =>
    simp only [isWs, Bool.or_eq_true, decide_eq_true_eq] at hws
    rcases hws with ((rfl | rfl) | rfl) | rfl <;> exact absurd h (by decide)

theorem foldl_digits (digits : Text) (h : ∀ c ∈ digits, c.isDigit = true) (init : Nat) :
    (digits.map byte).foldl (fun n b => 10 * n + (b.toNat - 48)) init = Nat.ofDigitChars 10 digits init := by
  induction digits generalizing init with
  | nil => rfl
  | cons c digits ih =>
    rw [List.map_cons, List.foldl_cons, (byte_digit (h c List.mem_cons_self)).2,
      ih (fun d hd => h d (List.mem_cons_of_mem _ hd)), Nat.ofDigitChars_cons]
    rfl

/-- What may follow an integer. -/
def EndsNumber (rest : Bytes) : Prop := ∀ b ∈ rest.head?, isDigit b = false ∧ b ≠ byte '.' ∧ b ≠ byte 'e' ∧ b ≠ byte 'E'

theorem Closes.endsNumber {rest : Bytes} (h : Closes rest) : EndsNumber rest := by
  obtain ⟨bytes, rfl | rfl⟩ := h <;> rintro b ⟨⟩ <;> decide

theorem readU64_dec {n : Nat} (hn : n ≤ MAX_U64) {rest : Bytes} (hrest : EndsNumber rest) :
    readU64 (utf8 (dec n) ++ rest) = some (n, rest) := by
  have hdigits : ∀ c ∈ dec n, c.isDigit = true := fun c => isDigit_of_mem_dec
  have hall : ∀ b ∈ (dec n).map byte, isDigit b = true := by
    intro b hb
    obtain ⟨c, hc, rfl⟩ := List.mem_map.1 hb
    exact (byte_digit (hdigits c hc)).1
  have hstop : rest.takeWhile isDigit = [] ∧ rest.dropWhile isDigit = rest := by
    cases rest with
    | nil => exact ⟨rfl, rfl⟩
    | cons b rest =>
      have hb := (hrest b rfl).1
      rw [List.takeWhile_cons, List.dropWhile_cons, hb]
      exact ⟨rfl, rfl⟩
  have hws : skipWs ((dec n).map byte ++ rest) = (dec n).map byte ++ rest := by
    obtain ⟨c, t, hct⟩ := List.exists_cons_of_length_pos (Nat.length_toDigits_pos : 0 < (Nat.toDigits 10 n).length)
    have hc : isDigit (byte c) = true := (byte_digit (hdigits c (by rw [dec, hct]; exact List.mem_cons_self))).1
    rw [dec, hct, List.map_cons, List.cons_append]
    exact skipWs_cons (not_ws_of_digit hc) _
  have hne : (dec n).map byte ≠ [] := by
    intro hnil
    have hpos : 0 < (Nat.toDigits 10 n).length := Nat.length_toDigits_pos
    rw [List.map_eq_nil_iff] at hnil
    rw [dec] at hnil
    rw [hnil] at hpos
    cases hpos
  have hhead : ¬ (((dec n).map byte).head? = some (byte '0') ∧ ((dec n).map byte).length ≠ 1) := by
    rintro ⟨hzero, hlength⟩
    rw [List.head?_map, Option.map_eq_some_iff] at hzero
    obtain ⟨c, hc, hbyte⟩ := hzero
    have hcnat := (byte_digit (hdigits c (List.mem_of_head? hc))).2
    rw [hbyte] at hcnat
    obtain rfl : '0' = c := Char.toNat_inj.1 hcnat
    rw [List.length_map] at hlength
    exact hlength (dec_head hc)
  have hnext : (rest.head?.any fun b => b = byte '.' || b = byte 'e' || b = byte 'E') = false := by
    cases rest with
    | nil => rfl
    | cons b rest =>
      obtain ⟨-, hpoint, he, hE⟩ := hrest b rfl
      simp [hpoint, he, hE]
  rw [utf8_digits hdigits, readU64, hws, readDigits, List.takeWhile_append_of_pos hall, List.dropWhile_append_of_pos hall,
    hstop.1, hstop.2, List.append_nil]
  dsimp only
  rw [if_neg (not_or.2 ⟨hne, hhead⟩), hnext, if_neg Bool.false_ne_true, foldl_digits _ hdigits]
  show (if natOf (dec n) ≤ MAX_U64 then some (natOf (dec n), rest) else none) = _
  rw [natOf_dec, if_pos hn]

/-- Digits need no escape. -/
theorem flatMap_escapeChar_dec (n : Nat) : (dec n).flatMap Json.escapeChar = dec n := by
  have hplain (c : Char) (hc : c.isDigit = true) : Json.escapeChar c = [c] := by
    have hnat := (byte_digit hc).1
    rw [isDigit, Bool.and_eq_true, decide_eq_true_eq, decide_eq_true_eq, UInt8.le_iff_toNat_le, UInt8.le_iff_toNat_le,
      (byte_digit hc).2] at hnat
    have h48 : 48 ≤ c.toNat := hnat.1
    have hquote : c ≠ '"' := by
      rintro rfl
      exact absurd hc (by decide)
    have hslash : c ≠ '\\' := by
      rintro rfl
      exact absurd hc (by decide)
    rw [Json.escapeChar, if_neg hquote, if_neg hslash, if_neg (by omega), if_neg (by omega), if_neg (by omega),
      if_neg (by omega), if_neg (by omega), if_neg (by omega)]
  have hall : ∀ c ∈ dec n, Json.escapeChar c = [c] := fun c hc => hplain c (isDigit_of_mem_dec hc)
  rw [List.flatMap_congr hall, List.flatMap_singleton']

theorem readNumericKey_dec {n : Nat} (hn : n ≤ MAX_U64) (rest : Bytes) :
    readNumericKey (utf8 ((dec n).flatMap Json.escapeChar) ++ byte '"' :: rest) = some (n, rest) := by
  have hends : EndsNumber (byte '"' :: rest) := by
    rintro b ⟨⟩
    decide
  have hhead : (utf8 (dec n) ++ byte '"' :: rest).head?.any isDigit = true := by
    obtain ⟨c, t, hct⟩ := List.exists_cons_of_length_pos (Nat.length_toDigits_pos : 0 < (Nat.toDigits 10 n).length)
    have hdigits : ∀ d ∈ dec n, d.isDigit = true := fun d => isDigit_of_mem_dec
    rw [utf8_digits hdigits, dec, hct, List.map_cons, List.cons_append, List.head?_cons, Option.any_some]
    exact (byte_digit (hdigits c (by rw [dec, hct]; exact List.mem_cons_self))).1
  rw [flatMap_escapeChar_dec, readNumericKey, if_pos hhead, readU64_dec hn hends, Option.bind_some]
  dsimp only
  rw [List.head?_cons, if_pos rfl]
  rfl

theorem starts_dec (n : Nat) : Starts (dec n) := by
  obtain ⟨c, t, hct⟩ := List.exists_cons_of_length_pos (Nat.length_toDigits_pos : 0 < (Nat.toDigits 10 n).length)
  have hdigit : c.isDigit = true := isDigit_of_mem_dec (by rw [dec, hct]; exact List.mem_cons_self)
  have hbyte := byte_digit hdigit
  refine ⟨c, t, hct, ?_, not_ws_of_digit hbyte.1, ?_⟩
  · rw [← hbyte.2]
    have hle := hbyte.1
    rw [isDigit, Bool.and_eq_true, decide_eq_true_eq, decide_eq_true_eq, UInt8.le_iff_toNat_le, UInt8.le_iff_toNat_le] at hle
    exact Nat.lt_of_le_of_lt hle.2 (by decide)
  · rintro rfl
    exact absurd hdigit (by decide)

theorem starts_quote (t : Text) : Starts (Json.quote t) := ⟨'"', _, rfl, by decide, by decide, by decide⟩

theorem starts_bool (value : Bool) : Starts (if value then "true".toList else "false".toList) := by
  cases value
  · exact ⟨'f', "alse".toList, rfl, by decide, by decide, by decide⟩
  · exact ⟨'t', "rue".toList, rfl, by decide, by decide, by decide⟩

theorem reads_dec {n : Nat} (hn : n ≤ MAX_U64) : Reads readU64 (dec n) n :=
  fun _ hrest => readU64_dec hn hrest.endsNumber

theorem readWord_append (word : Text) (rest : Bytes) : readWord word (utf8 word ++ rest) = some rest := by
  rw [readWord, List.take_left, if_pos rfl, List.drop_left]

theorem reads_bool (value : Bool) : Reads readBool (if value then "true".toList else "false".toList) value := by
  intro rest _
  rw [readBool, (starts_bool value).skipWs]
  cases value with
  | true =>
    rw [if_pos rfl, readWord_append]
  | false =>
    have hfalse : readWord "true".toList (utf8 "false".toList ++ rest) = none := rfl
    rw [if_neg Bool.false_ne_true, hfalse]
    dsimp only
    rw [readWord_append]
    rfl

theorem reads_text (t : Text) : Reads readText (Json.quote t) t := by
  intro rest _
  rw [readText, (starts_quote t).skipWs, utf8_quote]
  dsimp only
  rw [if_pos rfl, readString_quote]

theorem reads_null {α : Type} (read : Bytes → Option (α × Bytes)) : Reads (readOption read) "null".toList none := by
  intro rest _
  have hws : skipWs (utf8 "null".toList ++ rest) = utf8 "null".toList ++ rest := rfl
  have hhead : (utf8 "null".toList ++ rest).head? = some (byte 'n') := rfl
  rw [readOption, hws, if_pos hhead, readWord_append]
  rfl

theorem Reads.some {α : Type} {read : Bytes → Option (α × Bytes)} {text : Text} {value : α} (h : Reads read text value)
    (hstarts : Starts text) : Reads (readOption read) text (some value) := by
  intro rest hrest
  have hhead : ¬ (utf8 text ++ rest).head? = Option.some (byte 'n') := by
    obtain ⟨c, t, rfl, hascii, -, hn⟩ := hstarts
    rw [utf8_ascii hascii, List.cons_append, List.head?_cons]
    intro heq
    have hnat := congrArg UInt8.toNat (Option.some.inj heq)
    rw [byte_toNat hascii, byte_toNat (by decide)] at hnat
    exact hn (Char.toNat_inj.1 hnat)
  rw [readOption, hstarts.skipWs, if_neg hhead, h rest hrest]
  rfl

theorem readKey_quote {κ : Type} {identify : Text → κ} {name : Text} {k : κ} (h : identify name = k) (rest : Bytes) :
    readKey identify (utf8 (name.flatMap Json.escapeChar) ++ byte '"' :: rest) = some (k, rest) := by
  rw [readKey, readString_quote, ← h, Option.map_some]

theorem once_reads {α σ : Type} {read : Bytes → Option (α × Bytes)} {text : Text} {value : α} (h : Reads read text value)
    (put : α → σ) (rest : Bytes) (hrest : Closes rest) :
    once none (read (utf8 text ++ rest)) put = some (put value, rest) := by
  rw [once, h rest hrest, Option.isSome_none, if_neg Bool.false_ne_true, Option.map_some]

theorem reads_variant {α : Type} {variant : Text → Option α} {name : Text} {value : α} (h : variant name = some value) :
    Reads (readVariant variant) (Json.quote name) value := by
  intro rest hrest
  have hhead : ¬ (skipWs (utf8 (Json.quote name) ++ rest)).head? = some (byte '{') := by
    rw [(starts_quote name).skipWs, utf8_quote, List.head?_cons]
    decide
  rw [readVariant, if_neg hhead, reads_text name rest hrest, Option.bind_some]
  dsimp only
  rw [h, Option.map_some]

theorem reads_object {σ κ : Type} {key : Bytes → Option (κ × Bytes)} {field : σ → κ → Bytes → Option (σ × Bytes)}
    {empty final : σ} {members : List (Text × Text)} (h : Fills key field empty members final) :
    Reads (readObject key field empty) (objectText members) final :=
  fun rest _ => readObject_write h rest

/-- The text of one value, without whitespace around it. -/
structure RawText (text : Text) : Prop where
  value : skip .value [] (utf8 text) = some []
  trimmed : skipWs (utf8 text) = utf8 text

theorem Closes.terminator {rest : Bytes} (h : Closes rest) : ∀ b ∈ rest.head?, terminator b = true := by
  obtain ⟨bytes, rfl | rfl⟩ := h <;> rintro b ⟨⟩ <;> decide

theorem RawText.ne_nil {text : Text} (h : RawText text) : utf8 text ≠ [] := by
  intro hnil
  have hvalue := h.value
  rw [hnil] at hvalue
  cases hvalue

theorem RawText.skipWs_append {text : Text} (h : RawText text) (rest : Bytes) :
    skipWs (utf8 text ++ rest) = utf8 text ++ rest := by
  obtain ⟨b, bytes, hbytes⟩ := List.exists_cons_of_ne_nil h.ne_nil
  have hb : isWs b = false := by
    have htrimmed := h.trimmed
    rw [hbytes, skipWs, List.dropWhile_cons] at htrimmed
    cases hws : isWs b with
    | false => rfl
    | true =>
      rw [hws, if_pos rfl] at htrimmed
      have hlength := congrArg List.length htrimmed
      have hle := (List.dropWhile_suffix (l := bytes) isWs).length_le
      rw [List.length_cons] at hlength
      omega
  rw [hbytes, List.cons_append, skipWs_cons hb]

/-- **A raw value reads back as it is.** -/
theorem reads_raw {text : Text} (h : RawText text) : Reads readRaw text text := by
  intro rest hrest
  rw [readRaw, h.skipWs_append, skip_append hrest.terminator h.value, Option.bind_some]
  have hlength : (utf8 text ++ rest).length - rest.length = (utf8 text).length := by
    rw [List.length_append]
    omega
  rw [hlength, List.take_left, fromUtf8_utf8]
  rfl

/-- A word that is the whole value. -/
theorem eq_of_skip_word {bytes : Bytes} : ∀ {word : Bytes}, word ≠ [] → skip (.word word) [] bytes = some [] →
    bytes = word := by
  induction bytes with
  | nil =>
    intro word _ h
    cases h
  | cons b bytes ih =>
    intro word hword h
    cases word with
    | nil => exact absurd rfl hword
    | cons c left =>
      have hstep : step (.word (c :: left)) [] b = if b = c then some (if left = [] then .after else .word left, []) else none :=
        rfl
      have hsettle : Mode.settle (.word (c :: left)) b = .word (c :: left) := rfl
      have hopen : ¬ (Mode.word (c :: left) = .after ∧ ([] : List Frame) = []) := fun h => by cases h.1
      rw [skip, hsettle, if_neg hopen, hstep] at h
      by_cases hb : b = c
      · rw [if_pos hb] at h
        dsimp only at h
        by_cases hleft : left = []
        · rw [if_pos hleft] at h
          cases bytes with
          | nil => rw [hb, hleft]
          | cons d bytes =>
            rw [skip, if_pos ⟨rfl, rfl⟩] at h
            cases h
        · rw [if_neg hleft] at h
          rw [hb, ih hleft h]
      · rw [if_neg hb] at h
        cases h

/-- Only `null` starts with its first character. -/
theorem RawText.eq_null {text : Text} (h : RawText text) (hhead : (utf8 text).head? = some (byte 'n')) :
    text = "null".toList := by
  obtain ⟨bytes, hbytes⟩ : ∃ bytes, utf8 text = byte 'n' :: bytes := by
    cases hutf8 : utf8 text with
    | nil =>
      rw [hutf8] at hhead
      cases hhead
    | cons b bytes =>
      rw [hutf8] at hhead
      cases hhead
      exact ⟨bytes, rfl⟩
  have hvalue := h.value
  rw [hbytes] at hvalue
  have hword : skip (.word (utf8 ['u', 'l', 'l'])) [] bytes = some [] := hvalue
  have hrest : bytes = utf8 ['u', 'l', 'l'] := eq_of_skip_word (by decide) hword
  have hsame : utf8 text = utf8 "null".toList := by
    rw [hbytes, hrest]
    rfl
  have hdecode := fromUtf8_utf8 text
  rw [hsame, fromUtf8_utf8] at hdecode
  exact (Option.some.inj hdecode).symm

/-- An optional raw value; raw data `null` is read as absent. -/
theorem reads_rawOption {data : Option Text} (h : ∀ text ∈ data, RawText text) :
    Reads (readOption readRaw) (data.getD "null".toList) (data.filter (· ≠ "null".toList)) := by
  cases data with
  | none => exact reads_null readRaw
  | some text =>
    by_cases hnull : text = "null".toList
    · rw [Option.filter_some, if_neg (by rw [hnull]; decide), Option.getD_some, hnull]
      exact reads_null readRaw
    · rw [Option.filter_some, if_pos (by simpa using hnull), Option.getD_some]
      have hraw : RawText text := h text rfl
      intro rest hrest
      have hhead : ¬ (utf8 text ++ rest).head? = some (byte 'n') := by
        obtain ⟨b, bytes, hbytes⟩ := List.exists_cons_of_ne_nil hraw.ne_nil
        rw [hbytes, List.cons_append, List.head?_cons]
        intro hb
        exact hnull (hraw.eq_null (by rw [hbytes, List.head?_cons, hb]))
      rw [readOption, hraw.skipWs_append, if_neg hhead, reads_raw hraw rest hrest]
      rfl

/-- What a raw value of a document is. -/
theorem rawText_of_readAll {bytes : Bytes} {text : Text} (h : readAll readRaw bytes = some text) : RawText text := by
  unfold readAll at h
  obtain ⟨⟨found, rest⟩, hread, hfound⟩ := Option.bind_eq_some_iff.1 h
  dsimp only at hfound
  split at hfound
  · cases hfound
    unfold readRaw at hread
    obtain ⟨rest', hskip, htext⟩ := Option.bind_eq_some_iff.1 hread
    obtain ⟨found, hdecode, heq⟩ := Option.map_eq_some_iff.1 htext
    cases heq
    obtain ⟨front, hfront⟩ := skip_suffix hskip
    have htake : (skipWs bytes).take ((skipWs bytes).length - rest.length) = front := by
      rw [← hfront, List.length_append, Nat.add_sub_cancel_right, List.take_left]
    rw [htake] at hdecode
    have hutf8 := utf8_of_fromUtf8 hdecode
    rw [← hfront] at hskip
    refine ⟨?_, ?_⟩
    · rw [hutf8]
      exact skip_prefix hskip
    · rw [hutf8]
      cases front with
      | nil => rfl
      | cons b front =>
        refine skipWs_cons ?_ front
        have hhead : (skipWs bytes).head? = some b := by
          rw [← hfront]
          rfl
        have hdrop := List.head?_dropWhile_not isWs bytes
        rw [show bytes.dropWhile isWs = skipWs bytes from rfl, hhead] at hdrop
        exact Bool.eq_false_iff.2 (by simpa using hdrop)
  · cases hfound

end JsonReader

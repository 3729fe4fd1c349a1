import UnifiMcp.Lib.Text
/-!
# JSON values and strings

The tree a JSON text parses to. A number keeps its spelling. The members of an object have
distinct names. `quote` writes a string.

* `same_iff` — equality is decidable.
* `newline_not_mem_quote` — a written string holds no newline.
* `byteLen_quote` — how long it is.
-/

inductive Json where
  | null
  | bool (value : Bool)
  | number (spelling : Text)
  | string (value : Text)
  | array (items : List Json)
  | object (members : List (Text × Json))

namespace Json

/-- The member of that name, when the value is an object that has it. -/
def get (key : Text) : Json → Option Json
  | object members => (members.find? fun member => member.1 == key).map Prod.snd
  | _ => none

def asStr : Json → Option Text
  | string value => some value
  | _ => none

def asBool : Json → Option Bool
  | bool value => some value
  | _ => none

/-! ## Equality -/

mutual

/-- Whether two values are equal, by their trees. -/
def same : Json → Json → Bool
  | null, null => true
  | bool a, bool b => a == b
  | number a, number b => a == b
  | string a, string b => a == b
  | array as, array bs => sameItems as bs
  | object as, object bs => sameMembers as bs
  | _, _ => false

def sameItems : List Json → List Json → Bool
  | [], [] => true
  | a :: as, b :: bs => same a b && sameItems as bs
  | _, _ => false

def sameMembers : List (Text × Json) → List (Text × Json) → Bool
  | [], [] => true
  | a :: as, b :: bs => a.1 == b.1 && same a.2 b.2 && sameMembers as bs
  | _, _ => false

end

mutual

theorem same_iff : ∀ (a b : Json), same a b = true ↔ a = b
  | null, b => by cases b <;> simp [same]
  | bool a, b => by cases b <;> simp [same]
  | number a, b => by cases b <;> simp [same]
  | string a, b => by cases b <;> simp [same]
  | array as, b => by cases b <;> simp [same, sameItems_iff as]
  | object as, b => by cases b <;> simp [same, sameMembers_iff as]

theorem sameItems_iff : ∀ (as bs : List Json), sameItems as bs = true ↔ as = bs
  | [], bs => by cases bs <;> simp [sameItems]
  | a :: as, bs => by cases bs <;> simp [sameItems, same_iff a, sameItems_iff as]

theorem sameMembers_iff : ∀ (as bs : List (Text × Json)), sameMembers as bs = true ↔ as = bs
  | [], bs => by cases bs <;> simp [sameMembers]
  | (name, a) :: as, bs => by
    rcases bs with - | ⟨⟨name', b⟩, bs⟩ <;> simp [sameMembers, same_iff a, sameMembers_iff as, and_assoc]

end

instance : DecidableEq Json := fun a b => decidable_of_iff _ (same_iff a b)

/-! ## Strings -/

open Text

def lowerHexDigit (n : Nat) : Char := if n < 10 then Char.ofNat (48 + n) else Char.ofNat (87 + n)

/-- One character of a string: the two-character escapes, `\u00XX` for the other control
characters, and everything else as it is. -/
def escapeChar (c : Char) : Text :=
  if c = '"' then ['\\', '"']
  else if c = '\\' then ['\\', '\\']
  else if c.toNat = 8 then ['\\', 'b']
  else if c.toNat = 9 then ['\\', 't']
  else if c.toNat = 10 then ['\\', 'n']
  else if c.toNat = 12 then ['\\', 'f']
  else if c.toNat = 13 then ['\\', 'r']
  else if c.toNat < 32 then ['\\', 'u', '0', '0', lowerHexDigit (c.toNat / 16), lowerHexDigit (c.toNat % 16)]
  else [c]

def quote (t : Text) : Text := '"' :: (t.flatMap escapeChar ++ ['"'])

/-- The bytes a character takes in a string. -/
def escapedSize (c : Char) : Nat :=
  if c = '"' ∨ c = '\\' then 2
  else if c.toNat = 8 ∨ c.toNat = 9 ∨ c.toNat = 10 ∨ c.toNat = 12 ∨ c.toNat = 13 then 2
  else if c.toNat < 32 then 6
  else c.utf8Size

def escapedLen : Text → Nat
  | [] => 0
  | c :: t => escapedSize c + escapedLen t

theorem lowerHexDigit_size : ∀ {n : Nat}, n < 16 → (lowerHexDigit n).utf8Size = 1 := by decide

theorem lowerHexDigit_ne_newline : ∀ {n : Nat}, n < 16 → lowerHexDigit n ≠ '\n' := by decide

theorem byteLen_escapeChar (c : Char) : byteLen (escapeChar c) = escapedSize c := by
  unfold escapeChar escapedSize
  have hhi : c.toNat < 32 → (lowerHexDigit (c.toNat / 16)).utf8Size = 1 := fun h => lowerHexDigit_size (by omega)
  have hlo : c.toNat < 32 → (lowerHexDigit (c.toNat % 16)).utf8Size = 1 := fun h => lowerHexDigit_size (by omega)
  by_cases h1 : c = '"'
  · simp [h1]; rfl
  by_cases h2 : c = '\\'
  · simp [h2]; rfl
  simp only [h1, h2, if_false, or_self]
  by_cases h3 : c.toNat = 8 ∨ c.toNat = 9 ∨ c.toNat = 10 ∨ c.toNat = 12 ∨ c.toNat = 13
  · rcases h3 with h | h | h | h | h <;> simp [h] <;> rfl
  · simp only [not_or] at h3
    simp only [h3, if_false, or_self]
    by_cases h4 : c.toNat < 32
    · simp only [h4, if_true, byteLen_cons, byteLen_nil, hhi h4, hlo h4]
      rfl
    · simp [h4]

theorem byteLen_flatMap_escapeChar (t : Text) : byteLen (t.flatMap escapeChar) = escapedLen t := by
  induction t with
  | nil => rfl
  | cons c t ih => rw [List.flatMap_cons, byteLen_append, byteLen_escapeChar, ih, escapedLen]

/-- No character takes more than a unicode escape. -/
theorem escapedLen_le (t : Text) : escapedLen t ≤ 6 * t.length := by
  have hsize (c : Char) : escapedSize c ≤ 6 := by
    have hutf8 := c.utf8Size_le_four
    unfold escapedSize
    split
    · omega
    · split
      · omega
      · split <;> omega
  induction t with
  | nil => exact Nat.zero_le _
  | cons c t ih =>
    have hc := hsize c
    rw [escapedLen, List.length_cons]
    omega

theorem byteLen_quote (t : Text) : byteLen (quote t) = escapedLen t + 2 := by
  rw [quote, byteLen_cons, byteLen_append, byteLen_flatMap_escapeChar]
  show 1 + (escapedLen t + 1) = escapedLen t + 2
  omega

theorem newline_not_mem_escapeChar (c : Char) : '\n' ∉ escapeChar c := by
  have hhi : c.toNat < 32 → lowerHexDigit (c.toNat / 16) ≠ '\n' := fun h => lowerHexDigit_ne_newline (by omega)
  have hlo : c.toNat < 32 → lowerHexDigit (c.toNat % 16) ≠ '\n' := fun h => lowerHexDigit_ne_newline (by omega)
  unfold escapeChar
  split_ifs with _ _ _ _ h10 _ _ h32 <;> simp
  · exact ⟨Ne.symm (hhi h32), Ne.symm (hlo h32)⟩
  · rintro rfl
    exact h10 rfl

/-- A written string holds no newline. -/
theorem newline_not_mem_quote (t : Text) : '\n' ∉ quote t := by
  intro h
  simp only [quote, List.mem_cons, List.mem_append, List.not_mem_nil, or_false] at h
  rcases h with h | h | h
  · cases h
  · obtain ⟨c, -, hc⟩ := List.mem_flatMap.1 h
    exact newline_not_mem_escapeChar c hc
  · cases h

/-! ## Writing -/

mutual

/-- A value on one line, as `Value::to_string` writes it. -/
def write : Json → Text
  | null => "null".toList
  | bool true => "true".toList
  | bool false => "false".toList
  | number spelling => spelling
  | string value => quote value
  | array items => '[' :: writeItems items ++ [']']
  | object members => '{' :: writeMembers members ++ ['}']

def writeItems : List Json → Text
  | [] => []
  | [item] => write item
  | item :: items => write item ++ ',' :: writeItems items

def writeMembers : List (Text × Json) → Text
  | [] => []
  | [member] => quote member.1 ++ ':' :: write member.2
  | member :: members => quote member.1 ++ ':' :: write member.2 ++ ',' :: writeMembers members

end

end Json

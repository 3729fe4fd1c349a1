import UnifiMcp.Lib.Text
/-!
# Base64

The standard alphabet with padding. `decode` accepts what `encode` writes, and nothing that has a
foreign character or stops in the middle of a group.

* `decode_encode` — decoding inverts encoding.
* `byteLen_encode` — three bytes make four characters, a last part of a group as well.
* `mem_encode` — only characters of the alphabet and `=` are written.
-/

namespace Base64
open Text

/-- The character of a six-bit value. -/
def digit (n : Nat) : Char :=
  if n < 26 then Char.ofNat (65 + n)
  else if n < 52 then Char.ofNat (71 + n)
  else if n < 62 then Char.ofNat (n - 4)
  else if n = 62 then '+' else '/'

def digitValue (c : Char) : Option Nat :=
  if 'A' ≤ c ∧ c ≤ 'Z' then some (c.toNat - 65)
  else if 'a' ≤ c ∧ c ≤ 'z' then some (c.toNat - 71)
  else if '0' ≤ c ∧ c ≤ '9' then some (c.toNat + 4)
  else if c = '+' then some 62
  else if c = '/' then some 63
  else none

/-- A character that base64 text is made of. -/
def isBase64 (c : Char) : Bool := c == '=' || (digitValue c).isSome

def encode : Bytes → Text
  | [] => []
  | [a] => [digit (a.toNat / 4), digit (a.toNat % 4 * 16), '=', '=']
  | [a, b] =>
    [digit (a.toNat / 4), digit (a.toNat % 4 * 16 + b.toNat / 16), digit (b.toNat % 16 * 4), '=']
  | a :: b :: c :: rest =>
    digit (a.toNat / 4) :: digit (a.toNat % 4 * 16 + b.toNat / 16) ::
      digit (b.toNat % 16 * 4 + c.toNat / 64) :: digit (c.toNat % 64) :: encode rest

def decode : Text → Option Bytes
  | [] => some []
  | [p, q, '=', '='] =>
    (digitValue p).bind fun p => (digitValue q).map fun q => [UInt8.ofNat (p * 4 + q / 16)]
  | [p, q, r, '='] =>
    (digitValue p).bind fun p => (digitValue q).bind fun q => (digitValue r).map fun r =>
      [UInt8.ofNat (p * 4 + q / 16), UInt8.ofNat (q % 16 * 16 + r / 4)]
  | p :: q :: r :: s :: rest =>
    (digitValue p).bind fun p => (digitValue q).bind fun q => (digitValue r).bind fun r =>
      (digitValue s).bind fun s => (decode rest).map fun bytes =>
        UInt8.ofNat (p * 4 + q / 16) :: UInt8.ofNat (q % 16 * 16 + r / 4) :: UInt8.ofNat (r % 4 * 64 + s) :: bytes
  | _ => none

theorem digitValue_digit : ∀ {n : Nat}, n < 64 → digitValue (digit n) = some n := by decide

theorem digit_ne_pad : ∀ {n : Nat}, n < 64 → digit n ≠ '=' := by decide

/-- One whole group. -/
theorem decode_group {p q r s : Nat} (hp : p < 64) (hq : q < 64) (hr : r < 64) (hs : s < 64) (rest : Text) :
    decode (digit p :: digit q :: digit r :: digit s :: rest) = (decode rest).map fun bytes =>
      UInt8.ofNat (p * 4 + q / 16) :: UInt8.ofNat (q % 16 * 16 + r / 4) :: UInt8.ofNat (r % 4 * 64 + s) :: bytes := by
  have hpad := digit_ne_pad hs
  rw [decode]
  · simp only [digitValue_digit hp, digitValue_digit hq, digitValue_digit hr, digitValue_digit hs, Option.bind_some]
  · intro _ h
    exact absurd h hpad
  · intro h
    exact absurd h hpad

/-- **Round trip.** -/
theorem decode_encode : ∀ bytes : Bytes, decode (encode bytes) = some bytes
  | [] => rfl
  | [a] => by
    have ha : a.toNat < 256 := a.toNat_lt
    simp only [encode, decode, digitValue_digit (show a.toNat / 4 < 64 by omega),
      digitValue_digit (show a.toNat % 4 * 16 < 64 by omega), Option.bind_some, Option.map_some]
    rw [show a.toNat / 4 * 4 + a.toNat % 4 * 16 / 16 = a.toNat by omega, UInt8.ofNat_toNat]
  | [a, b] => by
    have ha : a.toNat < 256 := a.toNat_lt
    have hb : b.toNat < 256 := b.toNat_lt
    have hr : b.toNat % 16 * 4 < 64 := by omega
    rw [encode, decode]
    · simp only [digitValue_digit (show a.toNat / 4 < 64 by omega), digitValue_digit hr,
        digitValue_digit (show a.toNat % 4 * 16 + b.toNat / 16 < 64 by omega), Option.bind_some, Option.map_some]
      rw [show a.toNat / 4 * 4 + (a.toNat % 4 * 16 + b.toNat / 16) / 16 = a.toNat by omega,
        show (a.toNat % 4 * 16 + b.toNat / 16) % 16 * 16 + b.toNat % 16 * 4 / 4 = b.toNat by omega,
        UInt8.ofNat_toNat, UInt8.ofNat_toNat]
    · exact digit_ne_pad hr
  | a :: b :: c :: rest => by
    have ha : a.toNat < 256 := a.toNat_lt
    have hb : b.toNat < 256 := b.toNat_lt
    have hc : c.toNat < 256 := c.toNat_lt
    rw [encode, decode_group (by omega) (by omega) (by omega) (by omega), decode_encode rest, Option.map_some]
    rw [show a.toNat / 4 * 4 + (a.toNat % 4 * 16 + b.toNat / 16) / 16 = a.toNat by omega,
      show (a.toNat % 4 * 16 + b.toNat / 16) % 16 * 16 + (b.toNat % 16 * 4 + c.toNat / 64) / 4 = b.toNat by omega,
      show (b.toNat % 16 * 4 + c.toNat / 64) % 4 * 64 + c.toNat % 64 = c.toNat by omega,
      UInt8.ofNat_toNat, UInt8.ofNat_toNat, UInt8.ofNat_toNat]

theorem utf8Size_digit : ∀ {n : Nat}, n < 64 → (digit n).utf8Size = 1 := by decide

theorem byteLen_encode : ∀ bytes : Bytes, byteLen (encode bytes) = 4 * ((bytes.length + 2) / 3)
  | [] => rfl
  | [a] => by
    have ha : a.toNat < 256 := a.toNat_lt
    have h1 := utf8Size_digit (show a.toNat / 4 < 64 by omega)
    have h2 := utf8Size_digit (show a.toNat % 4 * 16 < 64 by omega)
    have hpad : '='.utf8Size = 1 := rfl
    simp [encode, h1, h2, hpad]
  | [a, b] => by
    have ha : a.toNat < 256 := a.toNat_lt
    have hb : b.toNat < 256 := b.toNat_lt
    have h1 := utf8Size_digit (show a.toNat / 4 < 64 by omega)
    have h2 := utf8Size_digit (show a.toNat % 4 * 16 + b.toNat / 16 < 64 by omega)
    have h3 := utf8Size_digit (show b.toNat % 16 * 4 < 64 by omega)
    have hpad : '='.utf8Size = 1 := rfl
    simp [encode, h1, h2, h3, hpad]
  | a :: b :: c :: rest => by
    have ha : a.toNat < 256 := a.toNat_lt
    have hb : b.toNat < 256 := b.toNat_lt
    have hc : c.toNat < 256 := c.toNat_lt
    have h1 := utf8Size_digit (show a.toNat / 4 < 64 by omega)
    have h2 := utf8Size_digit (show a.toNat % 4 * 16 + b.toNat / 16 < 64 by omega)
    have h3 := utf8Size_digit (show b.toNat % 16 * 4 + c.toNat / 64 < 64 by omega)
    have h4 := utf8Size_digit (show c.toNat % 64 < 64 by omega)
    simp only [encode, byteLen_cons, h1, h2, h3, h4, byteLen_encode rest, List.length_cons]
    omega

theorem isBase64_digit {n : Nat} (h : n < 64) : isBase64 (digit n) = true := by
  simp [isBase64, digitValue_digit h]

theorem mem_encode : ∀ {bytes : Bytes} {c : Char}, c ∈ encode bytes → isBase64 c = true
  | [], _, h => by cases h
  | [a], c, h => by
    have ha : a.toNat < 256 := a.toNat_lt
    simp only [encode, List.mem_cons, List.not_mem_nil, or_false] at h
    rcases h with rfl | rfl | rfl | rfl <;> first | rfl | exact isBase64_digit (by omega)
  | [a, b], c, h => by
    have ha : a.toNat < 256 := a.toNat_lt
    have hb : b.toNat < 256 := b.toNat_lt
    simp only [encode, List.mem_cons, List.not_mem_nil, or_false] at h
    rcases h with rfl | rfl | rfl | rfl <;> first | rfl | exact isBase64_digit (by omega)
  | x :: y :: z :: rest, c, h => by
    have hx : x.toNat < 256 := x.toNat_lt
    have hy : y.toNat < 256 := y.toNat_lt
    have hz : z.toNat < 256 := z.toNat_lt
    simp only [encode, List.mem_cons] at h
    rcases h with rfl | rfl | rfl | rfl | h
    · exact isBase64_digit (by omega)
    · exact isBase64_digit (by omega)
    · exact isBase64_digit (by omega)
    · exact isBase64_digit (by omega)
    · exact mem_encode h

end Base64

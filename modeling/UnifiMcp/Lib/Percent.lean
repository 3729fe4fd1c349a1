import UnifiMcp.Lib.Text
/-!
# Percent-encoding

`encode keep t` writes the characters of `t` that `keep` allows as they are and the UTF-8 bytes
of all others as `%XX`; `decode` reads the bytes back. Decoding inverts encoding for every
choice of kept characters that leaves `%` itself encoded.
-/

namespace Percent
open Text

/-- An upper-case hexadecimal digit. -/
def hexDigit (n : Nat) : Char := if n < 10 then Char.ofNat (48 + n) else Char.ofNat (55 + n)

def hexValue (c : Char) : Option Nat :=
  if c.isDigit then some (c.toNat - 48)
  else if 'A' ≤ c ∧ c ≤ 'F' then some (c.toNat - 55)
  else if 'a' ≤ c ∧ c ≤ 'f' then some (c.toNat - 87)
  else none

def encodeByte (b : UInt8) : Text := ['%', hexDigit (b.toNat / 16), hexDigit (b.toNat % 16)]

def encodeChar (keep : Char → Bool) (c : Char) : Text :=
  if keep c then [c] else (String.utf8EncodeChar c).flatMap encodeByte

def encode (keep : Char → Bool) (t : Text) : Text := t.flatMap (encodeChar keep)

/-- Percent-decoding; a `%` without two hexadecimal digits stands for itself. -/
def decode : Text → Bytes
  | [] => []
  | [c] => String.utf8EncodeChar c
  | [c, d] => String.utf8EncodeChar c ++ String.utf8EncodeChar d
  | c :: d :: e :: t =>
    match if c = '%' then (hexValue d).bind fun hi => (hexValue e).map fun lo => 16 * hi + lo else none with
    | some n => UInt8.ofNat n :: decode t
    | none => String.utf8EncodeChar c ++ decode (d :: e :: t)

theorem hexValue_hexDigit : ∀ {n : Nat}, n < 16 → hexValue (hexDigit n) = some n := by decide

theorem decode_encodeByte (b : UInt8) (t : Text) : decode (encodeByte b ++ t) = b :: decode t := by
  have hb : b.toNat < 256 := b.toNat_lt
  simp only [encodeByte, List.cons_append, List.nil_append, decode, if_true,
    hexValue_hexDigit (show b.toNat / 16 < 16 by omega), hexValue_hexDigit (show b.toNat % 16 < 16 by omega),
    Option.bind_some, Option.map_some]
  rw [show 16 * (b.toNat / 16) + b.toNat % 16 = b.toNat by omega, UInt8.ofNat_toNat]

theorem decode_encodeBytes (bs : Bytes) (t : Text) :
    decode (bs.flatMap encodeByte ++ t) = bs ++ decode t := by
  induction bs with
  | nil => rfl
  | cons b bs ih => rw [List.flatMap_cons, List.append_assoc, decode_encodeByte, ih, List.cons_append]

/-- A character other than `%` is read as itself. -/
theorem decode_cons {c : Char} (hc : c ≠ '%') (t : Text) : decode (c :: t) = String.utf8EncodeChar c ++ decode t := by
  match t with
  | [] => simp [decode]
  | [_] => simp [decode]
  | _ :: _ :: _ => simp [decode, hc]

variable {keep : Char → Bool}

theorem decode_encodeChar (hkeep : keep '%' = false) (c : Char) (t : Text) :
    decode (encodeChar keep c ++ t) = String.utf8EncodeChar c ++ decode t := by
  unfold encodeChar
  split
  · rename_i hc
    exact decode_cons (by rintro rfl; rw [hkeep] at hc; cases hc) t
  · exact decode_encodeBytes _ t

/-- **Round trip.** -/
theorem decode_encode (hkeep : keep '%' = false) (t : Text) : decode (encode keep t) = utf8 t := by
  induction t with
  | nil => rfl
  | cons c t ih => rw [encode, List.flatMap_cons, decode_encodeChar hkeep, ← encode, ih]; rfl

end Percent

/-!
# UTF-8

Settings files and sources arrive as bytes. `decode?` reads the characters the bytes stand for and
refuses everything outside the standard: a stray or missing continuation byte, a longer form than
needed, a surrogate, and a number above the last code point.
-/

namespace LayeredLint.Utf8

/-- A continuation byte contributes its lower six bits. -/
def tail? (b : UInt8) : Option Nat :=
  if 0x80 ≤ b.toNat ∧ b.toNat < 0xC0 then some (b.toNat - 0x80) else none

/-- The character of a code point that needs at least `least` to be written in its form. -/
def scalar? (least n : Nat) : Option Char :=
  if least ≤ n ∧ n.isValidChar then some (Char.ofNat n) else none

/-- The characters that the bytes stand for. -/
def decode? : List UInt8 → Option (List Char)
  | [] => some []
  | a :: rest =>
    if a.toNat < 0x80 then do
      return Char.ofNat a.toNat :: (← decode? rest)
    else if 0xC0 ≤ a.toNat ∧ a.toNat < 0xE0 then
      match rest with
      | b :: rest => do
        let c ← scalar? 0x80 ((a.toNat - 0xC0) * 64 + (← tail? b))
        return c :: (← decode? rest)
      | _ => none
    else if 0xE0 ≤ a.toNat ∧ a.toNat < 0xF0 then
      match rest with
      | b :: c :: rest => do
        let c ← scalar? 0x800 (((a.toNat - 0xE0) * 64 + (← tail? b)) * 64 + (← tail? c))
        return c :: (← decode? rest)
      | _ => none
    else if 0xF0 ≤ a.toNat ∧ a.toNat < 0xF8 then
      match rest with
      | b :: c :: d :: rest => do
        let c ← scalar? 0x10000
          ((((a.toNat - 0xF0) * 64 + (← tail? b)) * 64 + (← tail? c)) * 64 + (← tail? d))
        return c :: (← decode? rest)
      | _ => none
    else none

/-- The byte with the given upper part and the lower six bits of `n`. -/
def byte (upper n : Nat) : UInt8 :=
  UInt8.ofNat (upper + n)

/-- The bytes of a character. -/
def encodeChar (c : Char) : List UInt8 :=
  let n := c.toNat
  if n < 0x80 then [byte 0 n]
  else if n < 0x800 then [byte 0xC0 (n / 64), byte 0x80 (n % 64)]
  else if n < 0x10000 then
    [byte 0xE0 (n / 4096), byte 0x80 (n / 64 % 64), byte 0x80 (n % 64)]
  else
    [byte 0xF0 (n / 262144), byte 0x80 (n / 4096 % 64), byte 0x80 (n / 64 % 64),
      byte 0x80 (n % 64)]

/-- The bytes of a text. -/
def encode (cs : List Char) : List UInt8 :=
  cs.flatMap encodeChar

end LayeredLint.Utf8

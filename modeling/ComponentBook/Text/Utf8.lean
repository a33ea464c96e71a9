import ComponentBook.Text.Basic

/-! # Characters as bytes

A file holds bytes; a text is kept in a file as the bytes of its characters, one to four of them
each. **`Text.utf8`** writes the bytes of a text, **`Text.ofUtf8`** reads a text from bytes and tells
where and why bytes are not the bytes of a text. Reading accepts the shortest form of a character
only, and no surrogate. -/

namespace ComponentBook.Text

/-- The bytes of a character. -/
def utf8Char (c : Char) : List UInt8 := String.utf8EncodeChar c

/-- The bytes of a text. -/
def utf8 (t : Text) : List UInt8 := t.flatMap utf8Char

/-- The number of bytes of a text. -/
def utf8Length : Text → Nat
  | [] => 0
  | c :: t => c.utf8Size + utf8Length t

/-- Why bytes are not the bytes of a text. -/
inductive Utf8Fault where
  /-- A byte with which no character starts. -/
  | invalidStart
  /-- A byte that cannot follow the bytes in front of it. -/
  | invalidContinuation
  /-- The bytes end within a character. -/
  | unexpectedEnd
  deriving DecidableEq, Repr

/-- The wording of a fault. -/
def Utf8Fault.reason : Utf8Fault → Text
  | .invalidStart => "invalid start byte".toList
  | .invalidContinuation => "invalid continuation byte".toList
  | .unexpectedEnd => "unexpected end of data".toList

/-- Bytes that are not the bytes of a character: where they start, which they are, and why. -/
structure Utf8Error where
  /-- The number of bytes in front of the fault. -/
  position : Nat
  /-- The bytes at fault, at least one. -/
  bytes : List UInt8
  fault : Utf8Fault
  deriving DecidableEq, Repr

/-- For the first byte of a character: how many bytes follow, the bounds of the first of these, and
the bits that the first byte gives. -/
def leadByte? (b : UInt8) : Option (Nat × (UInt8 × UInt8) × Nat) :=
  let n := b.toNat
  if n < 0x80 then some (0, (0, 0), n)
  else if n < 0xc2 then none
  else if n < 0xe0 then some (1, (0x80, 0xbf), n - 0xc0)
  else if n < 0xf0 then
    some (2, (if n = 0xe0 then 0xa0 else 0x80, if n = 0xed then 0x9f else 0xbf), n - 0xe0)
  else if n < 0xf5 then
    some (3, (if n = 0xf0 then 0x90 else 0x80, if n = 0xf4 then 0x8f else 0xbf), n - 0xf0)
  else none

/-- The bytes that follow the first byte of a character, so many of them, the first within bounds,
with the bits and the number of bytes read so far: the number of the character and the rest, or the
number of following bytes in front of the fault. -/
def followingBytes : Nat → UInt8 × UInt8 → Nat → Nat → List UInt8 →
    Except (Nat × Utf8Fault) (Nat × List UInt8)
  | 0, _, bits, _, rest => .ok (bits, rest)
  | _ + 1, _, _, read, [] => .error (read, .unexpectedEnd)
  | count + 1, bounds, bits, read, b :: rest =>
    if bounds.1 ≤ b ∧ b ≤ bounds.2 then
      followingBytes count (0x80, 0xbf) (bits * 64 + (b.toNat - 0x80)) (read + 1) rest
    else .error (read, .invalidContinuation)

theorem length_of_followingBytes {count : Nat} {bounds : UInt8 × UInt8} {bits read : Nat}
    {bytes rest : List UInt8} {n : Nat}
    (h : followingBytes count bounds bits read bytes = .ok (n, rest)) :
    rest.length ≤ bytes.length := by
  fun_induction followingBytes count bounds bits read bytes with
  | case1 bounds bits read bytes =>
    obtain ⟨_, rfl⟩ := Prod.mk.inj (Except.ok.inj h)
    exact Nat.le_refl _
  | case2 => simp at h
  | case3 =>
    rename_i ih
    exact Nat.le_succ_of_le (ih h)
  | case4 => simp at h

/-- The text of the bytes from a position on, `out` being the characters in front of it, last
first. -/
def ofUtf8From (position : Nat) (out : Text) : List UInt8 → Except Utf8Error Text
  | [] => .ok out.reverse
  | b :: bytes =>
    match leadByte? b with
    | none => .error ⟨position, [b], .invalidStart⟩
    | some (count, bounds, bits) =>
      match _ : followingBytes count bounds bits 0 bytes with
      | .error (read, fault) => .error ⟨position, b :: bytes.take read, fault⟩
      | .ok (n, rest) => ofUtf8From (position + count + 1) (Char.ofNat n :: out) rest
termination_by bytes => bytes.length
decreasing_by
  have := length_of_followingBytes ‹followingBytes _ _ _ _ bytes = _›
  simp; omega

/-- The text of bytes. -/
def ofUtf8 (bytes : List UInt8) : Except Utf8Error Text := ofUtf8From 0 [] bytes

/-- The lower hexadecimal digits of a byte. -/
def hexByte (b : UInt8) : Text :=
  let digit (n : Nat) : Char := (Nat.toDigits 16 n).headD '0'
  [digit (b.toNat / 16), digit (b.toNat % 16)]

/-- The text of an error. -/
def Utf8Error.message (e : Utf8Error) : Text :=
  let place : Text := match e.bytes with
    | [b] => "byte 0x".toList ++ hexByte b ++ " in position ".toList ++ decimal e.position
    | bytes => "bytes in position ".toList ++ decimal e.position ++ ['-'] ++
        decimal (e.position + bytes.length - 1)
  "'utf-8' codec can't decode ".toList ++ place ++ ": ".toList ++ e.fault.reason

end ComponentBook.Text

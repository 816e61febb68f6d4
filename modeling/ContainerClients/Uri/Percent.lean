import ContainerClients.Text.Utf8

/-!
# Percent escapes

A path travels in a URI with every byte outside a safe set written as `%XX`.

* `escape` — the bytes of the text, safe ones as themselves and the others as `%XX` in capitals.
* `units` — an escaped text as a sequence of bytes and characters: an ASCII character is a byte, a
  valid escape is a byte, and a character beyond ASCII stands for itself.  A `%` that starts no
  valid escape is the byte of `%`.
* `unescape` — the units put together: bytes are decoded as UTF-8 with replacement, and a
  character beyond ASCII ends what the bytes before it began.
-/

namespace ContainerClients.Uri

open ContainerClients.Text

/-- ASCII characters that stand for themselves in a path: letters, digits and `_.-~/:@!$&'()*+,;=`.
-/
def isSafe (c : Char) : Bool := c.isAlphanum || "_.-~/:@!$&'()*+,;=".toList.contains c

/-- The capital hexadecimal digit of a number below 16. -/
def hexCapital (n : Nat) : Char := if n < 10 then Char.ofNat (48 + n) else Char.ofNat (55 + n)

/-- One byte: itself when safe, and an escape otherwise. -/
def escapeByte (byte : UInt8) : List Char :=
  let c := Char.ofNat byte.toNat
  if byte.toNat < 0x80 ∧ isSafe c then [c]
  else ['%', hexCapital (byte.toNat / 16), hexCapital (byte.toNat % 16)]

/-- **Escaping** a text. -/
def escape (s : List Char) : List Char := (Utf8.encode s).flatMap escapeByte

/-- The value of a hexadecimal digit of either case. -/
def hexValue? (c : Char) : Option Nat :=
  let n := c.toNat
  if 0x30 ≤ n ∧ n ≤ 0x39 then some (n - 0x30)
  else if 0x41 ≤ n ∧ n ≤ 0x46 then some (n - 0x37)
  else if 0x61 ≤ n ∧ n ≤ 0x66 then some (n - 0x57)
  else none

/-- The byte that two hexadecimal digits denote. -/
def hexByte? (high low : Char) : Option UInt8 := do
  let h ← hexValue? high
  let l ← hexValue? low
  return UInt8.ofNat (16 * h + l)

/-- **A unit of an escaped text.** -/
inductive Unit where
  /-- a byte of an encoded character -/
  | byte (b : UInt8)
  /-- a character beyond ASCII, written as itself -/
  | char (c : Char)
deriving DecidableEq, Repr

/-- A character that starts no escape. -/
def Unit.ofChar (c : Char) : Unit := if c.toNat < 0x80 then .byte (UInt8.ofNat c.toNat) else .char c

/-- The units of an escaped text. -/
def units : List Char → List Unit
  | '%' :: high :: low :: rest =>
    match hexByte? high low with
    | some b => .byte b :: units rest
    | none => .byte 0x25 :: units (high :: low :: rest)
  | c :: rest => Unit.ofChar c :: units rest
  | [] => []

/-- The text that units stand for, with the decoder in a given state. -/
def assemble (state : Utf8.State) : List Unit → List Char
  | [] => state.flush
  | .byte b :: rest => (Utf8.step state b).1 ++ assemble (Utf8.step state b).2 rest
  | .char c :: rest => state.flush ++ c :: assemble .between rest

/-- **Unescaping** a text. -/
def unescape (s : List Char) : List Char := assemble .between (units s)

end ContainerClients.Uri

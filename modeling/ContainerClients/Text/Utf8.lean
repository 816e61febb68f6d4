/-!
# UTF-8, with replacement of what is no UTF-8

Encoding writes a character in one to four bytes.  Decoding is a machine that reads one byte at a
time, so that text may be decoded in pieces, and never fails: the longest piece that starts a
character but does not finish it is answered by one `U+FFFD`, and so is each byte that starts none.

* `encodeChar`, `encode` — characters to bytes.
* `State`, `step`, `State.flush` — the machine: what it has read of a character, and what it emits.
* `decode` — the machine run over a list of bytes.
-/

namespace ContainerClients.Text.Utf8

/-- **The bytes of a character.** -/
def encodeChar (c : Char) : List UInt8 :=
  let n := c.toNat
  if n < 0x80 then [UInt8.ofNat n]
  else if n < 0x800 then [UInt8.ofNat (0xC0 + n / 0x40), UInt8.ofNat (0x80 + n % 0x40)]
  else if n < 0x10000 then
    [UInt8.ofNat (0xE0 + n / 0x1000), UInt8.ofNat (0x80 + n / 0x40 % 0x40),
     UInt8.ofNat (0x80 + n % 0x40)]
  else
    [UInt8.ofNat (0xF0 + n / 0x40000), UInt8.ofNat (0x80 + n / 0x1000 % 0x40),
     UInt8.ofNat (0x80 + n / 0x40 % 0x40), UInt8.ofNat (0x80 + n % 0x40)]

/-- The bytes of a text. -/
def encode (s : List Char) : List UInt8 := s.flatMap encodeChar

/-- The character that stands for what could not be decoded. -/
def replacement : Char := Char.ofNat 0xFFFD

/-- **Where the decoder stands.** -/
inductive State where
  /-- between two characters -/
  | between
  /-- inside a character: its bits so far, how many bytes are missing, and the range of the next -/
  | inside (bits missing low high : Nat)
deriving DecidableEq, Repr

/-- What is emitted at the end of the bytes: an unfinished character is replaced. -/
def State.flush : State → List Char
  | .between => []
  | .inside .. => [replacement]

/-- A byte read between two characters.  The ranges of the second byte leave out the overlong
forms, the surrogates and what lies beyond the last code point. -/
def opening (b : Nat) : List Char × State :=
  if b < 0x80 then ([Char.ofNat b], .between)
  else if b < 0xC2 then ([replacement], .between)
  else if b < 0xE0 then ([], .inside (b - 0xC0) 1 0x80 0xBF)
  else if b = 0xE0 then ([], .inside 0 2 0xA0 0xBF)
  else if b = 0xED then ([], .inside 0xD 2 0x80 0x9F)
  else if b < 0xF0 then ([], .inside (b - 0xE0) 2 0x80 0xBF)
  else if b = 0xF0 then ([], .inside 0 3 0x90 0xBF)
  else if b < 0xF4 then ([], .inside (b - 0xF0) 3 0x80 0xBF)
  else if b = 0xF4 then ([], .inside 4 3 0x80 0x8F)
  else ([replacement], .between)

/-- **One byte:** what is emitted, and where the decoder stands then.  A byte out of range ends the
unfinished character and is read afresh. -/
def step (state : State) (byte : UInt8) : List Char × State :=
  match state with
  | .between => opening byte.toNat
  | .inside bits missing low high =>
    let b := byte.toNat
    if low ≤ b ∧ b ≤ high then
      let bits' := bits * 0x40 + (b - 0x80)
      if missing = 1 then ([Char.ofNat bits'], .between)
      else ([], .inside bits' (missing - 1) 0x80 0xBF)
    else (replacement :: (opening b).1, (opening b).2)

/-- The machine run to the end of the bytes. -/
def decodeFrom (state : State) : List UInt8 → List Char
  | [] => state.flush
  | byte :: rest => (step state byte).1 ++ decodeFrom (step state byte).2 rest

/-- **Decoding with replacement.** -/
def decode (bytes : List UInt8) : List Char := decodeFrom .between bytes

theorem decodeFrom_cons (state : State) (byte : UInt8) (rest : List UInt8) :
    decodeFrom state (byte :: rest)
      = (step state byte).1 ++ decodeFrom (step state byte).2 rest := rfl

end ContainerClients.Text.Utf8

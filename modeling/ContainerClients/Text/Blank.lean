import ContainerClients.Text.CodePoints

/-!
# Blank characters and stripping

Stripping removes the blank characters at both ends of a text.  Blank is every character that
Unicode gives a whitespace direction or separator class, and the four information separators
`U+001C` to `U+001F`; it is a larger class than the five blanks of the shell.

* `isBlank` — the class.
* `strip` — removal at both ends, with `stripStart` and `stripEnd` for one end.
* `isBlankText` — nothing but blanks.
-/

namespace ContainerClients.Text

/-- The blank characters. -/
def blanks : CodePoints :=
  [(0x09, 0x0D), (0x1C, 0x20), (0x85, 0x85), (0xA0, 0xA0), (0x1680, 0x1680), (0x2000, 0x200A),
   (0x2028, 0x2029), (0x202F, 0x202F), (0x205F, 0x205F), (0x3000, 0x3000)]

/-- **Blank characters.** -/
def isBlank (c : Char) : Bool := blanks.has c

/-- Drops the longest end of a list that satisfies `p`. -/
def dropEndWhile {α : Type} (p : α → Bool) (xs : List α) : List α :=
  (xs.reverse.dropWhile p).reverse

/-- Drops the blanks in front. -/
def stripStart (s : List Char) : List Char := s.dropWhile isBlank

/-- Drops the blanks at the end. -/
def stripEnd (s : List Char) : List Char := dropEndWhile isBlank s

/-- **Stripping** drops the blanks at both ends. -/
def strip (s : List Char) : List Char := stripEnd (stripStart s)

/-- Nothing but blanks; the empty text included. -/
def isBlankText (s : List Char) : Bool := s.all isBlank

/-- Stripping a string. -/
def stripped (s : String) : String := String.ofList (strip s.toList)

/-! ## The two ends -/

theorem toList_stripped (s : String) : (stripped s).toList = strip s.toList := by
  simp [stripped]

end ContainerClients.Text

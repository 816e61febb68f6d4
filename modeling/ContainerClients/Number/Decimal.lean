/-!
# Decimal text of whole numbers

* `digits` — the decimal digits of a natural number, the most significant first.
* `ofInt` — the decimal text of an integer, with a `-` in front when it is negative.
* `maxDigits` — the most digits that a number is read from and that a name is made of.

`value_digits` reads the digits back, so two numbers with the same text are equal.
-/

namespace ContainerClients.Number

/-- The character of a digit. -/
def digitChar (d : Nat) : Char := Char.ofNat (48 + d)

/-- **The decimal digits** of a natural number. -/
def digits (n : Nat) : List Char :=
  if n < 10 then [digitChar n] else digits (n / 10) ++ [digitChar (n % 10)]
termination_by n

/-- The decimal text of an integer. -/
def ofInt (i : Int) : List Char := if i < 0 then '-' :: digits i.natAbs else digits i.natAbs

/-- The decimal text of an integer, as a string. -/
def text (i : Int) : String := String.ofList (ofInt i)

/-- The most digits that a number is read from, and that are written in a name. -/
def maxDigits : Nat := 4300

/-- The decimal text of an integer, unless it has too many digits. -/
def text? (i : Int) : Option String :=
  if (digits i.natAbs).length > maxDigits then none else some (text i)

/-! ## Reading the digits back -/

/-- The number that a list of ASCII digits denotes. -/
def value (s : List Char) : Nat := s.foldl (fun acc c => 10 * acc + (c.toNat - 48)) 0

theorem toNat_digitChar {d : Nat} (h : d < 10) : (digitChar d).toNat = 48 + d := by
  have : ∀ d < 10, (digitChar d).toNat = 48 + d := by decide
  exact this d h

theorem value_append_digitChar (s : List Char) {d : Nat} (h : d < 10) :
    value (s ++ [digitChar d]) = 10 * value s + d := by
  simp [value, List.foldl_append, toNat_digitChar h]

/-- **The digits of a number denote it.** -/
theorem value_digits (n : Nat) : value (digits n) = n := by
  induction n using Nat.strongRecOn with
  | ind n ih =>
    rw [digits]
    split
    · rename_i h
      simpa [value] using value_append_digitChar [] h
    · rw [value_append_digitChar _ (Nat.mod_lt _ (by decide)), ih (n / 10) (by omega)]
      omega

end ContainerClients.Number

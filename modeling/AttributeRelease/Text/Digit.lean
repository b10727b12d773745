/-!
# Digits and code points

Numbers written in digits of some base, and the characters that code points name.
-/

namespace AttributeRelease.Text

/-- The value of a decimal digit. -/
def digit? (c : Char) : Option Nat :=
  if '0' ≤ c ∧ c ≤ '9' then some (c.toNat - '0'.toNat) else none

/-- The value of a hexadecimal digit of either case. -/
def hexDigit? (c : Char) : Option Nat :=
  if '0' ≤ c ∧ c ≤ '9' then some (c.toNat - '0'.toNat)
  else if 'a' ≤ c ∧ c ≤ 'f' then some (c.toNat - 'a'.toNat + 10)
  else if 'A' ≤ c ∧ c ≤ 'F' then some (c.toNat - 'A'.toNat + 10)
  else none

/-- Whether a character is a hexadecimal digit. -/
def isHexDigit (c : Char) : Bool := (hexDigit? c).isSome

/-- The number that a list of digits spells in a base, most significant digit first. -/
def ofDigits (base : Nat) (digits : List Nat) : Nat :=
  digits.foldl (fun number digit => number * base + digit) 0

/-- The number that decimal digits spell; characters that are no digits do not count. -/
def decimal (chars : List Char) : Nat := ofDigits 10 (chars.filterMap digit?)

/-- The number that hexadecimal digits spell; characters that are no digits do not count. -/
def hexadecimal (chars : List Char) : Nat := ofDigits 16 (chars.filterMap hexDigit?)

/-- The character that a code point names: none beyond the last plane or among the surrogates. -/
def char? (code : Nat) : Option Char :=
  if valid : code.isValidChar then some (Char.ofNatAux code valid) else none

/-- The decimal digits of a number, at least `width` of them. -/
def padded (width number : Nat) : List Char :=
  let digits := Nat.toDigits 10 number
  List.replicate (width - digits.length) '0' ++ digits

end AttributeRelease.Text

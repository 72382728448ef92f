/-!
# Decimal numbers in text

Reading a natural number written in decimal digits, with a largest value above
which the text is refused.  A single plus sign may stand in front.
-/

namespace Steward.Text

/-- Whether a character is one of the ten ASCII digits. -/
def isDigit (c : Char) : Bool :=
  '0' ≤ c && c ≤ '9'

/-- The value of a digit, in any base up to 36; letters count from ten in either case. -/
def digitValue? (c : Char) : Option Nat :=
  if '0' ≤ c && c ≤ '9' then some (c.toNat - '0'.toNat)
  else if 'a' ≤ c && c ≤ 'z' then some (c.toNat - 'a'.toNat + 10)
  else if 'A' ≤ c && c ≤ 'Z' then some (c.toNat - 'A'.toNat + 10)
  else none

/-- Reads on from `value` in the given base, every character a digit of it. -/
def readDigits (base : Nat) (value : Nat) : List Char → Option Nat
  | [] => some value
  | c :: rest =>
    match digitValue? c with
    | some digit => if digit < base then readDigits base (value * base + digit) rest else none
    | none => none

/-- The number that a text of one or more digits stands for in the given base. -/
def numeral? (base : Nat) (cs : List Char) : Option Nat :=
  if cs.isEmpty then none else readDigits base 0 cs

/-- A decimal number no greater than `most`, perhaps with a plus sign in front. -/
def natUpTo? (most : Nat) (text : String) : Option Nat :=
  let digits := match text.toList with
    | '+' :: rest => rest
    | cs => cs
  match numeral? 10 digits with
  | some n => if n ≤ most then some n else none
  | none => none

/-- The digits of a number in base sixteen, small letters, at least `width` of them. -/
def hex (width n : Nat) : String :=
  let digits := Nat.toDigits 16 n
  String.ofList (List.replicate (width - digits.length) '0' ++ digits)

/-- The digits of a number in base sixteen, capital letters, at least `width` of them. -/
def capitalHex (width n : Nat) : String :=
  String.ofList ((hex width n).toList.map Char.toUpper)

end Steward.Text

import Steward.Text.Decimal

/-!
# What plain words mean

A plain scalar may spell nothing, a truth value or a number.  A reader that
wants text takes it as text all the same, but a writer has to quote a text
that a reader without expectations would take for something else.
-/

namespace Steward.Yaml.Word

/-- The words for nothing. -/
def nullWords : List String := ["~", "null", "Null", "NULL"]

/-- The words for true. -/
def trueWords : List String := ["true", "True", "TRUE"]

/-- The words for false. -/
def falseWords : List String := ["false", "False", "FALSE"]

/-- Whether a word spells nothing. -/
def isNull (word : String) : Bool :=
  nullWords.contains word

/-- The truth value that a word spells. -/
def truth? (word : String) : Option Bool :=
  if trueWords.contains word then some true
  else if falseWords.contains word then some false
  else none

/-! ## Whole numbers -/

/-- A text without one plus sign in front. -/
def withoutPlus : List Char → List Char
  | '+' :: rest => rest
  | cs => cs

/-- A text without one sign in front. -/
def withoutSign : List Char → List Char
  | '+' :: rest => rest
  | '-' :: rest => rest
  | cs => cs

/-- The number with digits in base sixteen, eight or two after a mark for the base. -/
def marked? : List Char → Option Nat
  | '0' :: 'x' :: digits => Text.numeral? 16 digits
  | '0' :: 'o' :: digits => Text.numeral? 8 digits
  | '0' :: 'b' :: digits => Text.numeral? 2 digits
  | _ => none

/-- Whether a text is made of digits with a zero before others, perhaps after a sign. -/
def hasLeadingZero (word : List Char) : Bool :=
  match withoutSign word with
  | '0' :: c :: rest => (c :: rest).all Text.isDigit
  | _ => false

/-- The natural number that a word spells: decimal digits without a leading zero, or digits after
a mark for the base, perhaps after a plus sign. -/
def nat? (word : List Char) : Option Nat :=
  let digits := withoutPlus word
  match marked? digits with
  | some n => some n
  | none => if hasLeadingZero word then none else Text.numeral? 10 digits

/-- The natural number that a word spells, no greater than `most`. -/
def natUpTo? (most : Nat) (word : String) : Option Nat :=
  (nat? word.toList).filter (fun n => n ≤ most)

/-- Whether a word spells a whole number after a mark for the base that 128 bits can hold. -/
def isMarkedNumber : List Char → Bool
  | '-' :: digits => (marked? digits).any (fun n => n ≤ Nat.pow 2 127)
  | word => (marked? (withoutPlus word)).any (fun n => n < Nat.pow 2 128)

/-! ## Numbers with a fraction -/

/-- The whole number that an exponent spells, after its mark. -/
def exponent? : List Char → Option Int
  | '+' :: digits => (Text.numeral? 10 digits).map Int.ofNat
  | '-' :: digits => (Text.numeral? 10 digits).map (fun n => -Int.ofNat n)
  | digits => (Text.numeral? 10 digits).map Int.ofNat

/-- The digits of a number without sign, and the power of ten they are multiplied by. -/
def decimal? (word : List Char) : Option (List Char × Int) :=
  let whole := word.takeWhile Text.isDigit
  let rest := word.dropWhile Text.isDigit
  let (part, rest) := match rest with
    | '.' :: rest => (rest.takeWhile Text.isDigit, rest.dropWhile Text.isDigit)
    | _ => ([], rest)
  let digits := whole ++ part
  let scale := -Int.ofNat part.length
  if digits.isEmpty then none
  else
    match rest with
    | [] => some (digits, scale)
    | c :: rest =>
      if c == 'e' || c == 'E' then
        match exponent? rest with
        | some n => some (digits, scale + n)
        | none => none
      else none

/-- The least number that a double cannot hold even after rounding. -/
def overflow : Nat := Nat.pow 2 1024 - Nat.pow 2 970

/-- Whether digits times a power of ten stay in the range of a double. -/
def isFinite (digits : List Char) (scale : Int) : Bool :=
  let digits := digits.dropWhile (· == '0')
  let places := Int.ofNat digits.length + scale
  if digits.isEmpty || places < 0 then true
  else if 400 < places then false
  else
    match Text.numeral? 10 digits with
    | none => true
    | some n =>
      if 0 ≤ scale then n * Nat.pow 10 scale.toNat < overflow
      else n < overflow * Nat.pow 10 (-scale).toNat

def infinityWords : List String := [".inf", ".Inf", ".INF"]

def notANumberWords : List String := [".nan", ".NaN", ".NAN"]

/-- A text after one plus sign, if no other sign follows it. -/
def unsigned? : List Char → Option (List Char)
  | '+' :: '+' :: _ => none
  | '+' :: '-' :: _ => none
  | word => some (withoutPlus word)

/-- Whether a word spells a number, with a fraction and an exponent or without. -/
def isNumber (word : List Char) : Bool :=
  match unsigned? word with
  | none => false
  | some unsigned =>
    infinityWords.contains (String.ofList unsigned) ||
    infinityWords.contains (String.ofList (match word with
      | '-' :: rest => rest
      | _ => [])) ||
    notANumberWords.contains (String.ofList word) ||
    (match decimal? (withoutSign unsigned) with
      | some (digits, scale) => isFinite digits scale
      | none => false)

/-! ## Texts -/

/-- Whether a text without line feeds would be taken for something else if it were written
plain. -/
def isTakenForOther (word : String) : Bool :=
  let cs := word.toList
  cs.isEmpty || isNull word || (truth? word).isSome || isMarkedNumber cs || hasLeadingZero cs ||
    isNumber cs

end Steward.Yaml.Word

import Steward.Proofs.Text.Digits

/-!
# Numerals

A decimal number as it is written: perhaps a sign, then one digit or more, zeros in front allowed.
A reader of natural numbers takes exactly the numerals without a minus sign whose number is not too
great, and gives their number.
-/

namespace Steward.Text

/-- The sign that may stand in front of a number. -/
inductive Sign
  | plus
  | minus
  deriving DecidableEq, Repr

def Sign.mark : Sign → Char
  | plus => '+'
  | minus => '-'

/-- The number that digits stand for, the first digit counting most. -/
def numberOf (digits : List (Fin 10)) : Nat :=
  digits.foldl (fun number digit => number * 10 + digit.val) 0

/-- A number as it is written. -/
structure Numeral where
  sign : Option Sign
  digits : List (Fin 10)
  written : digits ≠ []
  deriving DecidableEq, Repr

namespace Numeral

/-- The characters that are written. -/
def text (numeral : Numeral) : List Char :=
  numeral.sign.toList.map Sign.mark ++ numeral.digits.map fun digit => digit.val.digitChar

/-- The number that is meant. -/
def value (numeral : Numeral) : Int :=
  match numeral.sign with
  | some .minus => -(numberOf numeral.digits : Int)
  | some .plus | none => numberOf numeral.digits

end Numeral

/-! ## Digits -/

theorem digitChar_inj {digit other : Fin 10} (same : digit.val.digitChar = other.val.digitChar) :
    digit = other := by
  have every : ∀ d e : Fin 10, d.val.digitChar = e.val.digitChar → d = e := by decide
  exact every digit other same

theorem spelt_inj {digits others : List (Fin 10)}
    (same : digits.map (fun digit => digit.val.digitChar) =
      others.map fun digit => digit.val.digitChar) : digits = others :=
  (List.map_inj_right fun _ _ => digitChar_inj).1 same

theorem digitChar_ne_mark (digit : Fin 10) (sign : Sign) : digit.val.digitChar ≠ sign.mark := by
  have every : ∀ d : Fin 10, d.val.digitChar ≠ '+' ∧ d.val.digitChar ≠ '-' := by decide
  cases sign with
  | plus => exact (every digit).1
  | minus => exact (every digit).2

theorem eq_digitChar_of_digitValue? {c : Char} {digit : Nat} (means : digitValue? c = some digit)
    (small : digit < 10) : c = digit.digitChar := by
  unfold digitValue? at means
  split at means
  · rename_i between
    simp only [Bool.and_eq_true, decide_eq_true_eq, Char.le_def, UInt32.le_iff_toNat_le] at between
    have least : 48 ≤ c.toNat := between.1
    have most : c.toNat ≤ 57 := between.2
    have shifted : c.toNat - 48 = digit := Option.some.inj means
    have every : ∀ d : Fin 10, Char.ofNat (48 + d.val) = d.val.digitChar := by decide
    rw [← every ⟨digit, small⟩, ← Char.ofNat_toNat c]
    congr 1
    show c.toNat = 48 + digit
    omega
  · split at means
    · have letter : c.toNat - 97 + 10 = digit := Option.some.inj means
      omega
    · split at means
      · have letter : c.toNat - 65 + 10 = digit := Option.some.inj means
        omega
      · cases means

/-- What is read on from a number is exactly a row of digits. -/
theorem readDigits_eq_some_iff {value n : Nat} {cs : List Char} :
    readDigits 10 value cs = some n ↔
      ∃ digits : List (Fin 10), cs = digits.map (fun digit => digit.val.digitChar) ∧
        digits.foldl (fun number digit => number * 10 + digit.val) value = n := by
  induction cs generalizing value with
  | nil => simp [readDigits]
  | cons c rest inductionHypothesis =>
    rw [readDigits]
    constructor
    · intro read
      cases means : digitValue? c with
      | none => simp [means] at read
      | some digit =>
        by_cases small : digit < 10
        · simp only [means, if_pos small] at read
          obtain ⟨digits, rfl, number⟩ := inductionHypothesis.1 read
          exact ⟨⟨digit, small⟩ :: digits,
            by rw [List.map_cons, eq_digitChar_of_digitValue? means small], number⟩
        · simp [means, small] at read
    · rintro ⟨digits, spelt, number⟩
      cases digits with
      | nil => cases spelt
      | cons digit digits =>
        cases spelt
        rw [digitValue?_digitChar (Nat.lt_trans digit.isLt (by decide))]
        simp only [digit.isLt, if_true]
        exact inductionHypothesis.2 ⟨digits, rfl, number⟩

theorem numeral?_eq_some_iff {n : Nat} {cs : List Char} :
    numeral? 10 cs = some n ↔
      ∃ digits : List (Fin 10), digits ≠ [] ∧
        cs = digits.map (fun digit => digit.val.digitChar) ∧ numberOf digits = n := by
  rw [numeral?]
  by_cases blank : cs = []
  · subst blank
    simp only [List.isEmpty_nil, if_true, reduceCtorEq, false_iff, not_exists, not_and]
    rintro digits written spelt
    exact absurd (List.map_eq_nil_iff.1 spelt.symm) written
  · rw [if_neg (by simpa using blank), readDigits_eq_some_iff]
    constructor
    · rintro ⟨digits, rfl, number⟩
      exact ⟨digits, by simpa using blank, rfl, number⟩
    · rintro ⟨digits, -, spelt, number⟩
      exact ⟨digits, spelt, number⟩

/-! ## Numerals -/

/-- A numeral can be told from its text. -/
theorem Numeral.text_inj {numeral other : Numeral} (same : numeral.text = other.text) :
    numeral = other := by
  obtain ⟨sign, digits, written⟩ := numeral
  obtain ⟨sign', digits', written'⟩ := other
  obtain ⟨digit, rest, rfl⟩ := List.exists_cons_of_ne_nil written
  obtain ⟨digit', rest', rfl⟩ := List.exists_cons_of_ne_nil written'
  cases sign with
  | none =>
    cases sign' with
    | none =>
      cases spelt_inj same
      rfl
    | some sign' =>
      simp only [text, Option.toList_none, List.map_nil, List.nil_append, Option.toList_some,
        List.map_cons, List.cons_append, List.cons.injEq] at same
      exact absurd same.1 (digitChar_ne_mark _ _)
  | some sign =>
    cases sign' with
    | none =>
      simp only [text, Option.toList_none, List.map_nil, List.nil_append, Option.toList_some,
        List.map_cons, List.cons_append, List.cons.injEq] at same
      exact absurd same.1.symm (digitChar_ne_mark _ _)
    | some sign' =>
      have marks : sign.mark = sign'.mark → sign = sign' := by
        cases sign <;> cases sign' <;> decide
      simp only [text, Option.toList_some, List.map_cons, List.map_nil, List.cons_append,
        List.nil_append, List.cons.injEq] at same
      obtain ⟨mark, first, others⟩ := same
      cases marks mark
      cases digitChar_inj first
      cases spelt_inj others
      rfl

theorem upTo_eq_some_iff {most n : Nat} {read : Option Nat} :
    (match read with
      | some m => if m ≤ most then some m else none
      | none => none) = some n ↔ n ≤ most ∧ read = some n := by
  cases read with
  | none => simp
  | some m =>
    by_cases small : m ≤ most
    · simp only [if_pos small, Option.some.injEq]
      constructor
      · rintro rfl
        exact ⟨small, rfl⟩
      · exact And.right
    · simp only [if_neg small, reduceCtorEq, Option.some.injEq, false_iff, not_and]
      rintro least rfl
      exact small least

/-- The texts that are read as natural numbers are the numerals without a minus sign whose number is
small enough. -/
theorem natUpTo?_eq_some_iff {most n : Nat} {text : String} :
    natUpTo? most text = some n ↔
      n ≤ most ∧ ∃ numeral : Numeral,
        numeral.text = text.toList ∧ numeral.sign ≠ some .minus ∧ numberOf numeral.digits = n := by
  refine upTo_eq_some_iff.trans ?_
  rw [numeral?_eq_some_iff]
  apply and_congr_right
  intro _
  constructor
  · rintro ⟨digits, written, spelt, number⟩
    split at spelt
    · rename_i rest signed
      exact ⟨⟨some .plus, digits, written⟩, by rw [signed, spelt]; rfl, by simp, number⟩
    · exact ⟨⟨none, digits, written⟩, by rw [spelt]; rfl, by simp, number⟩
  · rintro ⟨⟨sign, digits, written⟩, spelt, unsigned, number⟩
    refine ⟨digits, written, ?_, number⟩
    rw [← spelt]
    cases sign with
    | none =>
      split
      · rename_i rest signed
        obtain ⟨digit, others, rfl⟩ := List.exists_cons_of_ne_nil written
        exact absurd (List.cons.inj signed).1 (digitChar_ne_mark digit .plus)
      · rfl
    | some sign =>
      cases sign with
      | plus => rfl
      | minus => exact absurd rfl unsigned

end Steward.Text

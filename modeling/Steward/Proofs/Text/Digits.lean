import Steward.Text.Decimal

/-!
# Digits that are written and read

A number written in its digits is read again.
-/

namespace Steward.Text

variable {base : Nat}

theorem digitValue?_digitChar {digit : Nat} (small : digit < 16) :
    digitValue? digit.digitChar = some digit := by
  have every : ∀ d : Fin 16, digitValue? d.val.digitChar = some d.val := by decide
  exact every ⟨digit, small⟩

theorem readDigits_append (value : Nat) (front back : List Char) :
    readDigits base value (front ++ back) =
      (readDigits base value front).bind (fun read => readDigits base read back) := by
  induction front generalizing value with
  | nil => rfl
  | cons c front inductionHypothesis =>
    rw [List.cons_append, readDigits, readDigits]
    cases digitValue? c with
    | none => rfl
    | some digit =>
      by_cases small : digit < base
      · simp only [if_pos small, inductionHypothesis]
      · simp only [if_neg small, Option.bind_none]

section Base

/-- A way to write the digits of a base that keeps their values. -/
def Spells (base : Nat) (f : Char → Char) : Prop :=
  ∀ digit < base, digitValue? (f digit.digitChar) = some digit

theorem spells_id (most : base ≤ 16) : Spells base id :=
  fun _ small => digitValue?_digitChar (Nat.lt_of_lt_of_le small most)

theorem spells_toUpper : Spells 16 Char.toUpper := by
  have every : ∀ d : Fin 16, digitValue? d.val.digitChar.toUpper = some d.val := by decide
  exact fun digit small => every ⟨digit, small⟩

theorem readDigits_digit {f : Char → Char} (spells : Spells base f) {digit : Nat}
    (small : digit < base) (value : Nat) :
    readDigits base value [f digit.digitChar] = some (value * base + digit) := by
  simp only [readDigits, spells digit small, if_pos small]

theorem readDigits_map_toDigits {f : Char → Char} (least : 1 < base) (spells : Spells base f)
    (n : Nat) : readDigits base 0 ((Nat.toDigits base n).map f) = some n := by
  induction n using Nat.strongRecOn with
  | ind n inductionHypothesis =>
    rw [Nat.toDigits_eq_if least]
    by_cases small : n < base
    · rw [if_pos small, List.map_singleton, readDigits_digit spells small]
      simp
    · have smaller : n / base < n := Nat.div_lt_self (by omega) least
      have digit : n % base < base := Nat.mod_lt _ (by omega)
      rw [if_neg small, List.map_append, readDigits_append, inductionHypothesis _ smaller,
        Option.bind_some, List.map_singleton, readDigits_digit spells digit, Nat.div_add_mod']

theorem numeral?_toDigits (least : 1 < base) (most : base ≤ 16) (n : Nat) :
    numeral? base (Nat.toDigits base n) = some n := by
  have written : (Nat.toDigits base n).isEmpty = false := by simp
  have read := readDigits_map_toDigits least (spells_id most) n
  rw [List.map_id] at read
  rw [numeral?, written]
  exact read

end Base

/-- The digits of a number are those of its base. -/
theorem exists_of_mem_toDigits (least : 1 < base) {n : Nat} {c : Char}
    (member : c ∈ Nat.toDigits base n) : ∃ digit < base, c = digit.digitChar := by
  induction n using Nat.strongRecOn with
  | ind n inductionHypothesis =>
    rw [Nat.toDigits_eq_if least] at member
    by_cases small : n < base
    · rw [if_pos small, List.mem_singleton] at member
      exact ⟨n, small, member⟩
    · have smaller : n / base < n := Nat.div_lt_self (by omega) least
      rw [if_neg small, List.mem_append, List.mem_singleton] at member
      rcases member with member | rfl
      · exact inductionHypothesis _ smaller member
      · exact ⟨n % base, Nat.mod_lt _ (by omega), rfl⟩

/-- No zero stands in front, except for nothing at all. -/
theorem head?_toDigits_ne (least : 1 < base) (most : base ≤ 16) {n : Nat} (nonzero : n ≠ 0) :
    (Nat.toDigits base n).head? ≠ some '0' := by
  have digit : ∀ d : Fin 16, d.val ≠ 0 → d.val.digitChar ≠ '0' := by decide
  induction n using Nat.strongRecOn with
  | ind n inductionHypothesis =>
    rw [Nat.toDigits_eq_if least]
    by_cases small : n < base
    · rw [if_pos small]
      simpa using digit ⟨n, Nat.lt_of_lt_of_le small most⟩ nonzero
    · have smaller : n / base < n := Nat.div_lt_self (by omega) least
      have rest : n / base ≠ 0 := by
        rw [Ne, Nat.div_eq_zero_iff]
        omega
      have onward := inductionHypothesis _ smaller rest
      rw [if_neg small, List.head?_append]
      cases first : (Nat.toDigits base (n / base)).head? with
      | none => exact absurd (List.head?_eq_none_iff.1 first) Nat.toDigits_ne_nil
      | some c => rwa [first] at onward

/-- Zeros in front say nothing. -/
theorem readDigits_zeros (count : Nat) (cs : List Char) :
    readDigits 16 0 (List.replicate count '0' ++ cs) = readDigits 16 0 cs := by
  induction count with
  | zero => rfl
  | succ count inductionHypothesis =>
    rw [List.replicate_succ, List.cons_append, readDigits]
    exact inductionHypothesis

theorem toList_capitalHex (width n : Nat) :
    (capitalHex width n).toList =
      List.replicate (width - (Nat.toDigits 16 n).length) '0' ++
        (Nat.toDigits 16 n).map Char.toUpper := by
  have zero : Char.toUpper '0' = '0' := by decide
  simp [capitalHex, hex, zero]

/-- A number in base sixteen is read again. -/
theorem numeral?_capitalHex (width n : Nat) :
    numeral? 16 (capitalHex width n).toList = some n := by
  have written : (capitalHex width n).toList.isEmpty = false := by simp [toList_capitalHex]
  rw [numeral?, written, toList_capitalHex]
  simp only [Bool.false_eq_true, if_false]
  rw [readDigits_zeros, readDigits_map_toDigits (by decide) spells_toUpper]

/-- A number takes up the width it is given, if it is not too great for it. -/
theorem length_capitalHex (width n : Nat) (short : (Nat.toDigits 16 n).length ≤ width) :
    (capitalHex width n).toList.length = width := by
  simp only [toList_capitalHex, List.length_append, List.length_replicate, List.length_map]
  omega

/-- Two numbers that are written alike are the same. -/
theorem toString_nat_inj {m n : Nat} (same : toString m = toString n) : m = n := by
  rw [Nat.toString_eq_ofList_toDigits, Nat.toString_eq_ofList_toDigits, String.ofList_inj] at same
  have read : numeral? 10 (Nat.toDigits 10 m) = some m :=
    numeral?_toDigits (by decide) (by decide) m
  rw [same, numeral?_toDigits (by decide) (by decide) n] at read
  exact (Option.some.inj read).symm

/-- A number is written in digits only. -/
theorem isDigit_of_mem_toString {n : Nat} {c : Char} (member : c ∈ (toString n).toList) :
    c.isDigit = true := by
  rw [Nat.toString_eq_ofList_toDigits, String.toList_ofList] at member
  exact Nat.isDigit_of_mem_toDigits (by decide) (by decide) member

end Steward.Text

import Mathlib.Data.List.Induction
import Steward.Proofs.Text.Lines

/-!
# Blanks around texts and lines

A text is what is left when it is trimmed, with blanks around it.  Trimming again makes no
difference, and it does not matter whether letters are made small before or after it.  A reader of
lines that ignores the blanks around a line finds the same in a text as in what is left of the text
when it is trimmed, and in two texts with a line feed between what it finds in one and then in the
other.
-/

namespace Steward.Text

/-! ## What is left -/

/-- A text is what is left of it with blanks around. -/
theorem exists_trimmed (text : List Char) :
    ∃ before after, (∀ c ∈ before, isBlank c = true) ∧ (∀ c ∈ after, isBlank c = true) ∧
      text = before ++ trimmed text ++ after := by
  obtain ⟨after, blank, rest⟩ := exists_trimEnd (text.dropWhile isBlank)
  refine ⟨text.takeWhile isBlank, after, fun c member => List.mem_takeWhile_imp member, blank, ?_⟩
  rw [trimmed, List.append_assoc, ← rest, List.takeWhile_append_dropWhile]

theorem trimmed_trimmed (text : List Char) : trimmed (trimmed text) = trimmed text := by
  obtain ⟨before, after, blankBefore, blankAfter, whole⟩ := exists_trimmed text
  calc
    trimmed (trimmed text) = trimmed (before ++ trimmed text ++ after) :=
      (trimmed_padded blankBefore blankAfter).symm
    _ = trimmed text := by rw [← whole]

theorem trim_trim (text : String) : trim (trim text) = trim text := by
  rw [trim, trim, String.toList_ofList, trimmed_trimmed]

theorem trim_padded {before after : String} (blankBefore : isAllBlank before = true)
    (blankAfter : isAllBlank after = true) (text : String) :
    trim (before ++ text ++ after) = trim text := by
  rw [trim, trim, String.toList_append, String.toList_append,
    trimmed_padded (List.all_eq_true.1 blankBefore) (List.all_eq_true.1 blankAfter)]

theorem exists_trim (text : String) :
    ∃ before after, isAllBlank before = true ∧ isAllBlank after = true ∧
      text = before ++ trim text ++ after := by
  obtain ⟨before, after, blankBefore, blankAfter, whole⟩ := exists_trimmed text.toList
  refine ⟨String.ofList before, String.ofList after, ?_, ?_, ?_⟩
  · simpa [isAllBlank] using blankBefore
  · simpa [isAllBlank] using blankAfter
  · apply String.toList_inj.1
    simpa [trim] using whole

/-! ## Visible characters and small letters -/

theorem isBlank_of_visible {c : Char} (low : 33 ≤ c.toNat) (high : c.toNat ≤ 126) :
    isBlank c = false := by
  simp only [isBlank]
  grind

theorem isBlank_of_isAlphanum {c : Char} (alphanumeric : c.isAlphanum = true) :
    isBlank c = false := by
  obtain ⟨low, high⟩ : 48 ≤ c.toNat ∧ c.toNat ≤ 122 := by
    rcases Bool.or_eq_true_iff.1 alphanumeric with letter | digit
    · rcases Bool.or_eq_true_iff.1 letter with capital | small
      · have range := of_decide_eq_true capital
        exact ⟨Nat.le_trans (by decide) range.1, Nat.le_trans range.2 (by decide)⟩
      · obtain ⟨least, greatest⟩ := Bool.and_eq_true_iff.1 small
        exact ⟨Nat.le_trans (by decide) (of_decide_eq_true least),
          Nat.le_trans (of_decide_eq_true greatest) (by decide)⟩
    · obtain ⟨least, greatest⟩ := Bool.and_eq_true_iff.1 digit
      exact ⟨Nat.le_trans (by decide) (of_decide_eq_true least),
        Nat.le_trans (of_decide_eq_true greatest) (by decide)⟩
  exact isBlank_of_visible (by omega) (by omega)

/-- A text without blanks is left as it is. -/
theorem trimmed_of_unbroken {text : List Char} (unbroken : ∀ c ∈ text, isBlank c = false) :
    trimmed text = text := by
  obtain ⟨before, after, blankBefore, blankAfter, whole⟩ := exists_trimmed text
  have none {part : List Char} (blank : ∀ c ∈ part, isBlank c = true) (within : part ⊆ text) :
      part = [] := by
    refine List.eq_nil_iff_forall_not_mem.2 fun c member => ?_
    simpa [blank c member] using unbroken c (within member)
  have first : before = [] := none blankBefore (by rw [whole]; simp)
  have last : after = [] := none blankAfter (by rw [whole]; simp)
  rw [first, last, List.nil_append, List.append_nil] at whole
  exact whole.symm

theorem isBlank_toLower (c : Char) : isBlank c.toLower = isBlank c := by
  unfold Char.toLower
  split
  · rename_i capital
    have low : 65 ≤ c.toNat := capital.1
    have high : c.toNat ≤ 90 := capital.2
    have small : (c.val + 32).toNat = c.toNat + 32 := by
      rw [UInt32.toNat_add]
      exact Nat.mod_eq_of_lt (by simp; omega)
    have letter {d : Char} (moved : d.toNat = c.toNat + 32) : isBlank d = false :=
      isBlank_of_visible (by omega) (by omega)
    rw [isBlank_of_visible (by omega : 33 ≤ c.toNat) (by omega)]
    exact letter small
  · rfl

theorem trimmed_map {f : Char → Char} (kept : ∀ c, isBlank (f c) = isBlank c)
    (text : List Char) : trimmed (text.map f) = (trimmed text).map f := by
  have same : isBlank ∘ f = isBlank := funext kept
  simp only [trimmed, trimEnd, ← List.map_reverse, List.dropWhile_map, same]

/-- It does not matter whether letters are made small before or after trimming. -/
theorem trim_lowered (text : String) : trim (lowered text) = lowered (trim text) := by
  simp [trim, lowered, trimmed_map isBlank_toLower]

/-! ## Readers of lines -/

/-- A reader of lines to which blanks around a line make no difference. -/
structure IgnoresBlanks {α : Type _} (read : List Char → Option α) : Prop where
  /-- Nothing is found in a line without text. -/
  blank : read [] = none
  padded : ∀ {before line after : List Char}, (∀ c ∈ before, isBlank c = true) →
    (∀ c ∈ after, isBlank c = true) → read (before ++ line ++ after) = read line

namespace IgnoresBlanks

variable {α : Type _} {read : List Char → Option α}

/-- What the reader finds in the lines of a text is in the lines that the text consists of. -/
theorem of_lines (ignores : IgnoresBlanks read) {lines : List (List Char)} {text : List Char}
    (spelt : IsLines lines text) : (linesOf text).filterMap read = lines.filterMap read := by
  apply filterMap_linesOf ignores.blank _ spelt
  intro line
  exact ignores.padded (List.forall_mem_nil _) (List.forall_mem_singleton.2 rfl)

theorem of_pieces (ignores : IgnoresBlanks read) (text : List Char) :
    (linesOf text).filterMap read = (pieces (· == '\n') text).filterMap read :=
  ignores.of_lines (isLines_pieces text)

theorem blank_append (ignores : IgnoresBlanks read) {blanks : List Char}
    (blank : ∀ c ∈ blanks, isBlank c = true) (text : List Char) :
    (pieces (· == '\n') (blanks ++ text)).filterMap read =
      (pieces (· == '\n') text).filterMap read := by
  induction blanks with
  | nil => rfl
  | cons c rest inductionHypothesis =>
    obtain ⟨first, later⟩ := List.forall_mem_cons.1 blank
    rw [← inductionHypothesis later, List.cons_append, pieces]
    by_cases feed : c = '\n'
    · simp [feed, ignores.blank]
    · obtain ⟨line, others, found⟩ :=
        List.exists_cons_of_ne_nil (pieces_ne_nil (· == '\n') (rest ++ text))
      have same : read ([c] ++ line ++ []) = read line :=
        ignores.padded (List.forall_mem_singleton.2 first) (List.forall_mem_nil _)
      rw [List.append_nil, List.singleton_append] at same
      simp [feed, found, List.filterMap_cons, same]

theorem append_blank (ignores : IgnoresBlanks read) {blanks : List Char}
    (blank : ∀ c ∈ blanks, isBlank c = true) (text : List Char) :
    (pieces (· == '\n') (text ++ blanks)).filterMap read =
      (pieces (· == '\n') text).filterMap read := by
  induction blanks using List.reverseRecOn with
  | nil => rw [List.append_nil]
  | append_singleton earlier c inductionHypothesis =>
    obtain ⟨before, final⟩ := List.forall_mem_append.1 blank
    rw [← inductionHypothesis before, ← List.append_assoc]
    by_cases feed : c = '\n'
    · rw [feed, pieces_append (by rfl), List.filterMap_append]
      simp [pieces, ignores.blank]
    · obtain ⟨lines, last, found, more⟩ :=
        @exists_pieces_concat (· == '\n') c (by simpa using feed) (text ++ earlier)
      have same : read ([] ++ last ++ [c]) = read last :=
        ignores.padded (List.forall_mem_nil _) final
      rw [List.nil_append] at same
      rw [more, found]
      simp [List.filterMap_cons, same]

/-- Blanks around a text hold nothing. -/
theorem trimmed (ignores : IgnoresBlanks read) (text : List Char) :
    (linesOf (Text.trimmed text)).filterMap read = (linesOf text).filterMap read := by
  obtain ⟨before, after, blankBefore, blankAfter, whole⟩ := exists_trimmed text
  rw [ignores.of_pieces, ignores.of_pieces]
  calc
    (pieces (· == '\n') (Text.trimmed text)).filterMap read =
        (pieces (· == '\n') (before ++ Text.trimmed text ++ after)).filterMap read := by
      rw [ignores.append_blank blankAfter, ignores.blank_append blankBefore]
    _ = (pieces (· == '\n') text).filterMap read := by rw [← whole]

/-- What is found in two texts with a line feed between is what is found in the one, and then what
is found in the other. -/
theorem joined (ignores : IgnoresBlanks read) (front back : List Char) :
    (linesOf (front ++ '\n' :: back)).filterMap read =
      (linesOf front).filterMap read ++ (linesOf back).filterMap read := by
  simp only [ignores.of_pieces]
  rw [pieces_append (by rfl), List.filterMap_append]

end IgnoresBlanks

end Steward.Text

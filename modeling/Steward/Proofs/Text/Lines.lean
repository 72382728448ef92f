import Mathlib.Data.List.TakeWhile
import Steward.Text.Blank

/-!
# Lines, words, and what is left of a text without the blanks around it

A text is cut into pieces, and the pieces joined again are the text.  Lines are pieces, but for a
carriage return at their ends and an empty piece at the end of the text; a reader to which neither
matters reads the pieces.  Blanks around a text make no difference to its words, nor to what is left
of it when it is trimmed.
-/

namespace Steward.Text

/-! ## Pieces -/

section Pieces

variable {cut : Char → Bool}

theorem pieces_append {c : Char} (cuts : cut c = true) (front back : List Char) :
    pieces cut (front ++ c :: back) = pieces cut front ++ pieces cut back := by
  induction front with
  | nil => simp [pieces, cuts]
  | cons d front inductionHypothesis =>
    rw [List.cons_append, pieces, pieces, inductionHypothesis]
    by_cases cutsHere : cut d = true
    · simp [cutsHere]
    · cases found : pieces cut front with
      | nil => exact absurd found (pieces_ne_nil cut front)
      | cons piece others => simp [cutsHere]

theorem pieces_of_uncut {text : List Char} (uncut : ∀ c ∈ text, cut c = false) :
    pieces cut text = [text] := by
  induction text with
  | nil => rfl
  | cons c rest inductionHypothesis =>
    rw [pieces, inductionHypothesis fun d member => uncut d (List.mem_cons_of_mem c member)]
    simp [uncut c List.mem_cons_self]

/-- One more character that cuts nothing stands at the end of the last piece. -/
theorem exists_pieces_concat {c : Char} (uncut : cut c = false) (text : List Char) :
    ∃ earlier last, pieces cut text = earlier ++ [last] ∧
      pieces cut (text ++ [c]) = earlier ++ [last ++ [c]] := by
  induction text with
  | nil => exact ⟨[], [], rfl, by simp [pieces, uncut]⟩
  | cons d rest inductionHypothesis =>
    obtain ⟨earlier, last, before, after⟩ := inductionHypothesis
    rw [List.cons_append, pieces, pieces, before, after]
    by_cases cuts : cut d = true
    · exact ⟨[] :: earlier, last, by simp [cuts], by simp [cuts]⟩
    · cases earlier with
      | nil => exact ⟨[], d :: last, by simp [cuts], by simp [cuts]⟩
      | cons piece others => exact ⟨(d :: piece) :: others, last, by simp [cuts], by simp [cuts]⟩

/-- The pieces of a text, joined by what cuts it, are the text. -/
theorem intercalate_pieces (c : Char) (text : List Char) :
    List.intercalate [c] (pieces (· == c) text) = text := by
  induction text with
  | nil => rfl
  | cons d rest inductionHypothesis =>
    rw [pieces]
    have some := pieces_ne_nil (· == c) rest
    by_cases cuts : d = c
    · subst cuts
      simp [List.intercalate_cons_of_ne_nil some, inductionHypothesis]
    · cases found : pieces (· == c) rest with
      | nil => exact absurd found some
      | cons piece others =>
        rw [found] at inductionHypothesis
        have uncut : ((d == c) = true) = False := by simpa using cuts
        cases others with
        | nil =>
          simp only [List.intercalate_singleton] at inductionHypothesis
          simp [uncut, inductionHypothesis]
        | cons second others =>
          rw [List.intercalate_cons_cons] at inductionHypothesis
          simp [uncut, List.intercalate_cons_cons, ← inductionHypothesis]

/-- The last piece is empty only where the text ends with a cut. -/
theorem getLast?_pieces {text : List Char} (blank : (pieces cut text).getLast? = some []) :
    text = [] ∨ ∃ c, text.getLast? = some c ∧ cut c = true := by
  induction text with
  | nil => exact .inl rfl
  | cons c rest inductionHypothesis =>
    have nonempty := pieces_ne_nil cut rest
    have ends (last : (pieces cut rest).getLast? = some []) (more : rest ≠ []) :
        ∃ d, (c :: rest).getLast? = some d ∧ cut d = true := by
      rcases inductionHypothesis last with none | ⟨d, final, cuts⟩
      · exact absurd none more
      · exact ⟨d, by rw [List.getLast?_cons, final]; rfl, cuts⟩
    right
    rw [pieces] at blank
    by_cases cuts : cut c = true
    · rw [if_pos cuts] at blank
      by_cases last : rest = []
      · subst last
        exact ⟨c, rfl, cuts⟩
      · refine ends ?_ last
        obtain ⟨piece, others, found⟩ := List.exists_cons_of_ne_nil nonempty
        rw [found] at blank ⊢
        simpa using blank
    · rw [if_neg cuts] at blank
      cases found : pieces cut rest with
      | nil => exact absurd found nonempty
      | cons piece others =>
        rw [found] at blank
        cases others with
        | nil => simp at blank
        | cons second others =>
          apply ends
          · rw [found]
            simpa using blank
          · rintro rfl
            simp [pieces] at found

/-- No piece of a text holds what cuts it. -/
theorem uncut_of_mem_pieces {text piece : List Char}
    (member : piece ∈ pieces cut text) : ∀ c ∈ piece, cut c = false := by
  induction text generalizing piece with
  | nil =>
      simp only [pieces, List.mem_singleton] at member
      subst member
      exact List.forall_mem_nil _
  | cons d rest inductionHypothesis =>
      rw [pieces] at member
      by_cases cuts : cut d = true
      · rw [if_pos cuts] at member
        rcases List.mem_cons.1 member with rfl | later
        · exact List.forall_mem_nil _
        · exact inductionHypothesis later
      · rw [if_neg cuts] at member
        cases found : pieces cut rest with
        | nil => exact absurd found (pieces_ne_nil cut rest)
        | cons first others =>
          rw [found] at member inductionHypothesis
          rcases List.mem_cons.1 member with rfl | later
          · intro c here
            rcases List.mem_cons.1 here with rfl | further
            · exact Bool.of_not_eq_true cuts
            · exact inductionHypothesis List.mem_cons_self c further
          · exact inductionHypothesis (List.mem_cons_of_mem _ later)

/-- Pieces that are joined by a character that none of them holds are found again. -/
theorem pieces_intercalate {c : Char} {lines : List (List Char)} (some : lines ≠ [])
    (uncut : ∀ line ∈ lines, c ∉ line) : pieces (· == c) (List.intercalate [c] lines) = lines := by
  induction lines with
  | nil => exact absurd rfl some
  | cons line rest inductionHypothesis =>
    have whole : pieces (· == c) line = [line] := by
      apply pieces_of_uncut
      intro d member
      apply beq_eq_false_iff_ne.2
      rintro rfl
      exact uncut line List.mem_cons_self member
    by_cases last : rest = []
    · subst last
      simpa using whole
    · rw [List.intercalate_cons_of_ne_nil last, List.append_assoc, List.singleton_append,
        pieces_append (by simp), whole,
        inductionHypothesis last fun line member => uncut line (List.mem_cons_of_mem _ member)]
      rfl

end Pieces

/-! ## Lines -/

/-- The text consists of the lines: a line feed stands between each of them and the next, and the
text may end with or without one, as its last line may be empty.  A carriage return is a character
of its line. -/
structure IsLines (lines : List (List Char)) (text : List Char) : Prop where
  joined : text = List.intercalate ['\n'] lines
  unfed : ∀ line ∈ lines, '\n' ∉ line

instance (lines : List (List Char)) (text : List Char) : Decidable (IsLines lines text) :=
  decidable_of_iff (text = List.intercalate ['\n'] lines ∧ ∀ line ∈ lines, '\n' ∉ line)
    ⟨fun ⟨joined, unfed⟩ => ⟨joined, unfed⟩, fun ⟨joined, unfed⟩ => ⟨joined, unfed⟩⟩

/-- Every text consists of some lines. -/
theorem isLines_pieces (text : List Char) : IsLines (pieces (· == '\n') text) text where
  joined := (intercalate_pieces '\n' text).symm
  unfed line member feed := by simpa using uncut_of_mem_pieces member '\n' feed

theorem withoutReturn_cases (line : List Char) :
    line = withoutReturn line ∨ line = withoutReturn line ++ ['\r'] := by
  unfold withoutReturn
  by_cases returns : line.getLast? = some '\r'
  · obtain ⟨front, rfl⟩ := List.getLast?_eq_some_iff.1 returns
    rw [if_pos returns, List.dropLast_concat]
    exact .inr rfl
  · rw [if_neg returns]
    exact .inl rfl

/-- A reader to which an empty line says nothing, and a carriage return at the end of a line makes no
difference, finds in the lines of a text what it finds in the pieces between the line feeds. -/
theorem filterMap_linesOf {α : Type _} {read : List Char → Option α} (blank : read [] = none)
    (returns : ∀ line, read (line ++ ['\r']) = read line) {lines : List (List Char)}
    {text : List Char} (spelt : IsLines lines text) :
    (linesOf text).filterMap read = lines.filterMap read := by
  by_cases none : lines = []
  · subst none
    obtain rfl := spelt.joined
    rfl
  obtain ⟨earlier, last, rfl⟩ := (List.eq_nil_or_concat lines).resolve_left none
  rw [List.concat_eq_append] at spelt none ⊢
  have without : read ∘ withoutReturn = read := by
    funext line
    show read (withoutReturn line) = read line
    rcases withoutReturn_cases line with same | more
    · rw [← same]
    · rw [more, returns, ← more]
  have ends : (if last.isEmpty then [] else [last]).filterMap read = [last].filterMap read := by
    cases last with
    | nil => simp [blank]
    | cons c rest => rfl
  rw [linesOf, spelt.joined, pieces_intercalate none spelt.unfed]
  simp only [List.getLast?_concat, Option.getD_some, List.dropLast_concat, List.filterMap_append,
    List.filterMap_map, without, ends]

/-- The lines of a text as its writer has ended them: by a line feed, or by a carriage return and a
line feed, neither of which belongs to the line.  The last line may be left unfinished, and then it
is not empty; a carriage return at its end belongs to it. -/
inductive EndedLines : List (List Char) → List Char → Prop
  | empty : EndedLines [] []
  | unfinished {line : List Char} (written : line ≠ []) (unfed : '\n' ∉ line) :
      EndedLines [line] line
  | fed {line text : List Char} {others : List (List Char)} (unfed : '\n' ∉ line)
      (bare : line.getLast? ≠ some '\r') (rest : EndedLines others text) :
      EndedLines (line :: others) (line ++ '\n' :: text)
  | returned {line text : List Char} {others : List (List Char)} (unfed : '\n' ∉ line)
      (rest : EndedLines others text) :
      EndedLines (line :: others) (line ++ '\r' :: '\n' :: text)

theorem linesOf_of_unfed {line : List Char} (written : line ≠ []) (unfed : '\n' ∉ line) :
    linesOf line = [line] := by
  have uncut : ∀ c ∈ line, (c == '\n') = false := fun c member =>
    beq_eq_false_iff_ne.2 (ne_of_mem_of_not_mem member unfed)
  rw [linesOf, pieces_of_uncut uncut]
  simp [written]

theorem linesOf_fed {line : List Char} (unfed : '\n' ∉ line) (text : List Char) :
    linesOf (line ++ '\n' :: text) = withoutReturn line :: linesOf text := by
  have uncut : ∀ c ∈ line, (c == '\n') = false := fun c member =>
    beq_eq_false_iff_ne.2 (ne_of_mem_of_not_mem member unfed)
  obtain ⟨piece, others, found⟩ :=
    List.exists_cons_of_ne_nil (pieces_ne_nil (· == '\n') text)
  rw [linesOf, pieces_append (by simp), pieces_of_uncut uncut, linesOf, found]
  simp

/-- However its writer has ended them, the lines of a text are found. -/
theorem EndedLines.linesOf_eq {lines : List (List Char)} {text : List Char}
    (ended : EndedLines lines text) : linesOf text = lines := by
  induction ended with
  | empty => rfl
  | unfinished written unfed => exact linesOf_of_unfed written unfed
  | @fed line _ _ unfed bare _ inductionHypothesis =>
      rw [linesOf_fed unfed, inductionHypothesis, withoutReturn, if_neg bare]
  | @returned line text _ unfed _ inductionHypothesis =>
      have unfedWithReturn : '\n' ∉ line ++ ['\r'] := by simpa using unfed
      rw [show line ++ '\r' :: '\n' :: text = (line ++ ['\r']) ++ '\n' :: text by simp,
        linesOf_fed unfedWithReturn, inductionHypothesis, withoutReturn]
      simp

/-- In every text each line has an end of its own, but for the last. -/
theorem endedLines_linesOf (text : List Char) : EndedLines (linesOf text) text := by
  suffices found : ∀ lines text, IsLines lines text → EndedLines (linesOf text) text from
    found _ _ (isLines_pieces text)
  intro lines
  induction lines with
  | nil =>
      rintro text ⟨rfl, -⟩
      exact .empty
  | cons line others inductionHypothesis =>
      rintro text ⟨rfl, unfed⟩
      have unfedLine := unfed line List.mem_cons_self
      by_cases last : others = []
      · subst last
        rw [List.intercalate_singleton]
        by_cases empty : line = []
        · subst empty
          exact .empty
        · rw [linesOf_of_unfed empty unfedLine]
          exact .unfinished empty unfedLine
      · rw [List.intercalate_cons_of_ne_nil last, List.append_assoc, List.singleton_append,
          linesOf_fed unfedLine]
        have rest := inductionHypothesis _ ⟨rfl, fun other member =>
          unfed other (List.mem_cons_of_mem line member)⟩
        by_cases returns : line.getLast? = some '\r'
        · obtain ⟨front, rfl⟩ := List.getLast?_eq_some_iff.1 returns
          rw [withoutReturn, if_pos returns, List.dropLast_concat, List.append_assoc,
            List.singleton_append]
          exact .returned (fun feed => unfedLine (List.mem_append_left _ feed)) rest
        · rw [withoutReturn, if_neg returns]
          exact .fed unfedLine returns rest

/-! ## Words -/

theorem unbroken_iff {text : List Char} :
    (∀ c ∈ text, isBlank c = false) ↔ text.any isBlank = false := by
  simp only [List.any_eq_false, Bool.not_eq_true]

theorem wordsOf_append {c : Char} (blank : isBlank c = true) (front back : List Char) :
    wordsOf (front ++ c :: back) = wordsOf front ++ wordsOf back := by
  rw [wordsOf, pieces_append blank, List.filter_append]
  rfl

theorem wordsOf_of_unbroken {word : List Char} (written : word ≠ [])
    (unbroken : ∀ c ∈ word, isBlank c = false) : wordsOf word = [word] := by
  rw [wordsOf, pieces_of_uncut unbroken]
  simpa using written

theorem wordsOf_of_blank {text : List Char} (blank : ∀ c ∈ text, isBlank c = true) :
    wordsOf text = [] := by
  induction text with
  | nil => rfl
  | cons c rest inductionHypothesis =>
    have first : isBlank c = true := blank c List.mem_cons_self
    rw [← List.nil_append (c :: rest), wordsOf_append first,
      inductionHypothesis fun d member => blank d (List.mem_cons_of_mem c member)]
    rfl

theorem wordsOf_return (line : List Char) : wordsOf (line ++ ['\r']) = wordsOf line := by
  rw [wordsOf_append (by rfl)]
  exact List.append_nil _

/-! ## Trimming -/

theorem trimEnd_append {text blanks : List Char} (blank : ∀ c ∈ blanks, isBlank c = true) :
    trimEnd (text ++ blanks) = trimEnd text := by
  rw [trimEnd, List.reverse_append,
    List.dropWhile_append_of_pos fun c member => blank c (List.mem_reverse.1 member), trimEnd]

theorem trimmed_append {text blanks : List Char} (blank : ∀ c ∈ blanks, isBlank c = true) :
    trimmed (text ++ blanks) = trimmed text := by
  rw [trimmed, trimmed, List.dropWhile_append]
  split
  · rename_i none
    rw [List.isEmpty_iff.1 none, List.dropWhile_eq_nil_iff.2 blank]
  · exact trimEnd_append blank

/-- Blanks around a text do not count. -/
theorem trimmed_padded {before text after : List Char} (blankBefore : ∀ c ∈ before, isBlank c = true)
    (blankAfter : ∀ c ∈ after, isBlank c = true) :
    trimmed (before ++ text ++ after) = trimmed text := by
  rw [trimmed_append blankAfter, trimmed, List.dropWhile_append_of_pos blankBefore, trimmed]

theorem trimEnd_append_cons {c : Char} (solid : isBlank c = false) (front back : List Char) :
    trimEnd (front ++ c :: back) = front ++ c :: trimEnd back := by
  have shape : (front ++ c :: back).reverse = back.reverse ++ c :: front.reverse := by simp
  rw [trimEnd, shape, List.dropWhile_append, trimEnd]
  split
  · rename_i none
    rw [List.isEmpty_iff.1 none]
    simp [solid]
  · simp

theorem exists_trimEnd (text : List Char) :
    ∃ blanks, (∀ c ∈ blanks, isBlank c = true) ∧ text = trimEnd text ++ blanks := by
  refine ⟨(text.reverse.takeWhile isBlank).reverse, fun c member => ?_, ?_⟩
  · exact List.mem_takeWhile_imp (List.mem_reverse.1 member)
  · rw [trimEnd, ← List.reverse_append, List.takeWhile_append_dropWhile, List.reverse_reverse]

theorem trimmed_trimEnd (text : List Char) : trimmed (trimEnd text) = trimmed text := by
  obtain ⟨blanks, blank, whole⟩ := exists_trimEnd text
  calc
    trimmed (trimEnd text) = trimmed (trimEnd text ++ blanks) := (trimmed_append blank).symm
    _ = trimmed text := by rw [← whole]

theorem trimmed_of_solid {c : Char} (solid : isBlank c = false) (rest : List Char) :
    trimmed (c :: rest) = trimEnd (c :: rest) := by
  rw [trimmed, List.dropWhile_cons_of_neg (by simp [solid])]

theorem trimmed_return (line : List Char) : trimmed (line ++ ['\r']) = trimmed line :=
  trimmed_append (List.forall_mem_singleton.2 rfl)

end Steward.Text

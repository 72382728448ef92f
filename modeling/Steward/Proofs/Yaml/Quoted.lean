import Steward.Proofs.Text.Digits
import Steward.Proofs.Yaml.Gaps

/-!
# Quoted scalars that are written and read

Between single quotes a line that goes on is indented, and its indentation is
passed over with the break before it; between double quotes everything but a
space is a character or an escape of its own.
-/

namespace Steward.Yaml

namespace Emit

variable {first second : Char → Bool} {front rest : List Char}

/-- A text without a pair has none further on. -/
theorem hasPair_of_append (none : hasPair first second (front ++ rest) = false) :
    hasPair first second rest = false := by
  induction front with
  | nil => exact none
  | cons c front inductionHypothesis =>
    apply inductionHypothesis
    cases text : front ++ rest with
    | nil => rfl
    | cons d more =>
      rw [List.cons_append, text, hasPair, Bool.or_eq_false_iff] at none
      exact none.2

/-- What follows a character of the first kind is not of the second. -/
theorem head_of_hasPair {c : Char} (none : hasPair first second (front ++ c :: rest) = false)
    (kind : first c = true) : ∀ d ∈ rest.head?, second d = false := by
  have none := hasPair_of_append none
  cases rest with
  | nil => simp
  | cons d rest =>
    rw [hasPair, kind, Bool.true_and, Bool.or_eq_false_iff] at none
    simpa using none.1

end Emit

/-! ## Single quotes -/

namespace SingleQuoted

open Emit

variable {indent : Nat} {cs run more text rest : List Char}

/-- A character between single quotes. -/
def doubled (c : Char) : List Char :=
  if c == '\'' then ['\'', '\''] else [c]

theorem singleQuotedFrom_run (unbroken : ∀ c ∈ run, isBreak c = false) :
    singleQuotedFrom indent false (run ++ more) =
      run.flatMap doubled ++ singleQuotedFrom indent false more := by
  induction run with
  | nil => rfl
  | cons c run inductionHypothesis =>
    have here := unbroken c List.mem_cons_self
    rw [List.cons_append, singleQuotedFrom, here]
    rw [inductionHypothesis fun d member => unbroken d (List.mem_cons_of_mem c member)]
    simp [doubled]

theorem singleQuotedFrom_breaks {c : Char} {breaks : List Char}
    (breaking : ∀ d ∈ c :: breaks, isBreak d = true) (broken : Bool) :
    singleQuotedFrom indent broken (c :: breaks ++ more) =
      c :: breaks ++ singleQuotedFrom indent true more := by
  induction breaks generalizing c broken with
  | nil =>
    have here := breaking c List.mem_cons_self
    simp [singleQuotedFrom, here]
  | cons d breaks inductionHypothesis =>
    have here := breaking c List.mem_cons_self
    rw [List.cons_append, singleQuotedFrom, here, if_pos rfl]
    rw [inductionHypothesis fun e member => breaking e (List.mem_cons_of_mem c member)]
    rfl

/-- A line that goes on is indented. -/
theorem singleQuotedFrom_line (unbroken : ∀ c ∈ more.head?, isBreak c = false) :
    singleQuotedFrom indent true more = margin indent ++ singleQuotedFrom indent false more := by
  cases more with
  | nil => simp [singleQuotedFrom]
  | cons c more => simp [singleQuotedFrom, unbroken c rfl]

/-- A run is read up to where none goes on. -/
theorem readRun_doubled (solid : ∀ c ∈ run, isGap c = false) (stop : readRun text = ([], text)) :
    readRun (run.flatMap doubled ++ text) = (run, text) := by
  induction run with
  | nil => exact stop
  | cons c run inductionHypothesis =>
    have here := solid c List.mem_cons_self
    have onward := inductionHypothesis fun d member => solid d (List.mem_cons_of_mem c member)
    rw [List.flatMap_cons, List.append_assoc]
    by_cases quote : c = '\''
    · subst quote
      simp [doubled, readRun, onward]
    · simp [doubled, quote, readRun, here, onward]

/-- What can be read between single quotes when it is written there on several lines. -/
structure IsFoldable (cs : List Char) : Prop where
  spaces : ∀ c ∈ cs, isGap c = true → c = ' ' ∨ isBreak c = true
  feeds : '\n' ∉ cs
  before : hasPair isBlank isBreak cs = false
  after : hasPair isBreak isBlank cs = false

theorem IsFoldable.of_append (foldable : IsFoldable (run ++ more)) : IsFoldable more where
  spaces c member := foldable.spaces c (List.mem_append_right run member)
  feeds member := foldable.feeds (List.mem_append_right run member)
  before := hasPair_of_append foldable.before
  after := hasPair_of_append foldable.after

/-- A gap is made of spaces or of breaks. -/
theorem IsFoldable.exists_gap {c : Char} (foldable : IsFoldable (c :: more))
    (gap : isGap c = true) :
    (∃ count rest, c :: more = List.replicate (count + 1) ' ' ++ rest ∧ IsSolid rest) ∨
      ∃ breaks rest, c :: more = c :: breaks ++ rest ∧
        (∀ d ∈ c :: breaks, isBreak d = true) ∧ IsSolid rest := by
  rcases foldable.spaces c List.mem_cons_self gap with rfl | breaking
  · left
    rcases exists_spaces more with ⟨count, rest, rfl, other⟩
    refine ⟨count, rest, by simp [List.replicate_succ], ?_⟩
    intro d first
    -- No break can follow the last of the spaces.
    have unbroken : isBreak d = false := by
      have before := foldable.before
      rw [← List.cons_append, ← List.replicate_succ, List.replicate_succ', List.append_assoc]
        at before
      exact head_of_hasPair before rfl d first
    by_contra gapped
    rcases foldable.spaces d (by simp [List.mem_of_mem_head? first]) (by simpa using gapped) with
      space | breaking
    · exact other d first space
    · simp [unbroken] at breaking
  · right
    rcases exists_stretch isBreak more with ⟨breaks, rest, rfl, breakings, unbroken⟩
    have all : ∀ d ∈ c :: breaks, isBreak d = true := List.forall_mem_cons.2 ⟨breaking, breakings⟩
    refine ⟨breaks, rest, rfl, all, ?_⟩
    intro d first
    have unbroken : isBreak d = false := unbroken d first
    -- No space can follow the last of the breaks.
    have other : isBlank d = false := by
      have after := foldable.after
      rw [← List.cons_append, ← List.dropLast_concat_getLast (List.cons_ne_nil c breaks),
        List.append_assoc] at after
      exact head_of_hasPair after (all _ (List.getLast_mem _)) d first
    by_contra gapped
    rcases foldable.spaces d (by simp [List.mem_of_mem_head? first]) (by simpa using gapped) with
      rfl | breaking
    · exact absurd other (by decide)
    · simp [unbroken] at breaking

/-- Breaks without line feeds stand for themselves. -/
theorem foldBreaks_of_not_mem {breaks : List Char} (feeds : '\n' ∉ breaks) :
    foldBreaks breaks = breaks := by
  unfold foldBreaks
  split
  · rfl
  · simp at feeds
  · simp at feeds
  · rfl

/-- A run is read, the gap after it, and what follows. -/
theorem readFrom_gap {fuel : Nat} {c : Char} {left after : List Char} {gap : Gap}
    (solid : ∀ c ∈ run, isGap c = false) (gapped : isGap c = true)
    (gapRead : readGap (c :: left) = (gap, after)) :
    readFrom (fuel + 1) false (run.flatMap doubled ++ c :: left) =
      (readFrom fuel gap.endsAtLineStart after).map fun (more, rest) =>
        (run ++ gap.folded ++ more, rest) := by
  have other : c ≠ '\'' := by
    rintro rfl
    exact absurd gapped (by decide)
  have stop : readRun (c :: left) = ([], c :: left) := by simp [readRun, gapped, other]
  have cut := readRun_doubled solid stop
  have written : (run.flatMap doubled ++ c :: left).isEmpty = false := by simp
  rw [readFrom, cut, written]
  simp only [Bool.false_and, Bool.false_eq_true, if_false]
  split
  · rename_i same
    exact absurd (List.cons.inj (Prod.mk.inj same).2).1 other
  · rename_i same
    cases same
    rw [gapRead]
    cases readFrom fuel gap.endsAtLineStart after with
    | error failure => rfl
    | ok reading => rfl

/-- A run is read, the spaces after it, and what follows. -/
theorem readFrom_spaces {fuel : Nat} (solid : ∀ c ∈ run, isGap c = false) (count : Nat)
    (ahead : IsSolid text) :
    readFrom (fuel + 1) false
        (run.flatMap doubled ++ (List.replicate (count + 1) ' ' ++ text)) =
      (readFrom fuel false text).map fun (more, rest) =>
        (run ++ List.replicate (count + 1) ' ' ++ more, rest) := by
  have space : isGap ' ' = true := by decide
  have gapRead := readGap_spaces ahead (count + 1)
  rw [List.replicate_succ, List.cons_append] at gapRead ⊢
  exact readFrom_gap solid space gapRead

/-- A run is read, the breaks after it with the indentation of the next line, and what follows. -/
theorem readFrom_breaks {fuel : Nat} {c : Char} {breaks : List Char}
    (solid : ∀ c ∈ run, isGap c = false) (breaking : ∀ d ∈ c :: breaks, isBreak d = true)
    (feeds : '\n' ∉ c :: breaks) (indented : indent ≠ 0) (ahead : IsSolid text) :
    readFrom (fuel + 1) false
        (run.flatMap doubled ++ (c :: breaks ++ (List.replicate indent ' ' ++ text))) =
      (readFrom fuel false text).map fun (more, rest) => (run ++ c :: breaks ++ more, rest) := by
  have gapped : isGap c = true := by simp [isGap, breaking c List.mem_cons_self]
  have gapRead := readGap_breaks breaking ahead indent
  have inside : Gap.endsAtLineStart ⟨[], c :: breaks, indent⟩ = false := by
    simp [Gap.endsAtLineStart, indented]
  have folded : Gap.folded ⟨[], c :: breaks, indent⟩ = c :: breaks := by
    simp [Gap.folded, foldBreaks_of_not_mem feeds]
  rw [List.cons_append] at gapRead ⊢
  rw [readFrom_gap solid gapped gapRead, inside, folded]

/-- A run is read up to the closing quote. -/
theorem readFrom_close {fuel : Nat} (solid : ∀ c ∈ run, isGap c = false)
    (after : ∀ c ∈ rest.head?, c ≠ '\'') :
    readFrom (fuel + 1) false (run.flatMap doubled ++ '\'' :: rest) = .ok (run, rest) := by
  have stop : readRun ('\'' :: rest) = ([], '\'' :: rest) := by
    cases rest with
    | nil => simp [readRun]
    | cons c rest => simp [readRun, after c rfl]
  have cut := readRun_doubled solid stop
  have written : (run.flatMap doubled ++ '\'' :: rest).isEmpty = false := by simp
  simp [readFrom, cut, written]

theorem isSolid_singleQuotedFrom (indent : Nat) (ahead : IsSolid more) (rest : List Char) :
    IsSolid (singleQuotedFrom indent false more ++ '\'' :: rest) := by
  cases more with
  | nil => exact isSolid_cons.2 (by decide)
  | cons c more =>
    have solid := isSolid_cons.1 ahead
    by_cases quote : c = '\''
    · subst quote
      simpa [singleQuotedFrom, isBreak_of_not_isGap solid] using isSolid_cons.2 solid
    · simpa [singleQuotedFrom, isBreak_of_not_isGap solid, quote] using isSolid_cons.2 solid

theorem singleQuotedFrom_spaces (count : Nat) (more : List Char) :
    singleQuotedFrom indent false (List.replicate count ' ' ++ more) =
      List.replicate count ' ' ++ singleQuotedFrom indent false more := by
  induction count with
  | zero => rfl
  | succ count inductionHypothesis =>
    have space : isBreak ' ' = false := by decide
    simp [List.replicate_succ, singleQuotedFrom, space, inductionHypothesis]

/-- What is written between single quotes is read up to the closing quote. -/
theorem readFrom_of_foldable {fuel : Nat} (indented : indent ≠ 0) (foldable : IsFoldable cs)
    (long : cs.length < fuel) (after : ∀ c ∈ rest.head?, c ≠ '\'') :
    readFrom fuel false (singleQuotedFrom indent false cs ++ '\'' :: rest) = .ok (cs, rest) := by
  induction fuel generalizing cs with
  | zero => exact absurd long (Nat.not_lt_zero _)
  | succ fuel inductionHypothesis =>
    rcases exists_stretch (fun c => !isGap c) cs with ⟨run, tail, rfl, solid, gapped⟩
    have solid : ∀ c ∈ run, isGap c = false := by simpa using solid
    rw [singleQuotedFrom_run fun c member => isBreak_of_not_isGap (solid c member),
      List.append_assoc]
    have tailFoldable := foldable.of_append
    cases tail with
    | nil => simpa [singleQuotedFrom] using readFrom_close solid after
    | cons c tail =>
      rcases tailFoldable.exists_gap (by simpa using gapped) with
        ⟨count, more, split, ahead⟩ | ⟨breaks, more, split, breaking, ahead⟩
      · rw [split] at tailFoldable long ⊢
        have aheadRest := isSolid_singleQuotedFrom indent ahead rest
        rw [singleQuotedFrom_spaces, List.append_assoc, readFrom_spaces solid count aheadRest]
        rw [inductionHypothesis tailFoldable.of_append (by simp at long; omega)]
        simp [Except.map]
      · rw [split] at tailFoldable long ⊢
        have aheadRest := isSolid_singleQuotedFrom indent ahead rest
        have feeds : '\n' ∉ c :: breaks := fun member =>
          tailFoldable.feeds (List.mem_append_left more member)
        rw [singleQuotedFrom_breaks breaking, singleQuotedFrom_line fun d first =>
          isBreak_of_not_isGap (ahead d first)]
        rw [List.append_assoc, List.append_assoc, margin,
          readFrom_breaks solid breaking feeds indented aheadRest]
        rw [inductionHypothesis tailFoldable.of_append (by simp at long; omega)]
        simp [Except.map]

theorem length_le_singleQuotedFrom (indent : Nat) (broken : Bool) (cs : List Char) :
    cs.length ≤ (singleQuotedFrom indent broken cs).length := by
  induction cs generalizing broken with
  | nil => simp
  | cons c cs inductionHypothesis =>
    rw [singleQuotedFrom]
    split
    · simpa using inductionHypothesis true
    · have onward := inductionHypothesis false
      have here : 1 ≤ (if c == '\'' then ['\'', '\''] else [c]).length := by split <;> simp
      simp only [List.length_append, List.length_cons] at *
      omega

/-- What fits between single quotes is read as it is. -/
theorem read_of_fits (indented : indent ≠ 0) (fits : fitsSingleQuotes cs = true)
    (feeds : '\n' ∉ cs) (after : ∀ c ∈ rest.head?, c ≠ '\'') :
    read (singleQuotedFrom indent false cs ++ '\'' :: rest) = .ok (cs, rest) := by
  simp only [fitsSingleQuotes, Bool.not_eq_true', Bool.or_eq_false_iff] at fits
  rcases fits with ⟨⟨special, before⟩, afterwards⟩
  have foldable : IsFoldable cs := by
    refine ⟨fun c member gap => ?_, feeds, before, afterwards⟩
    have printable : isPrintable c = true := by
      simp only [hasSpecial, List.any_eq_false] at special
      simpa using special c member
    rw [isGap_of_isPrintable printable] at gap
    simpa [isEdge, isBlank] using gap
  have long : cs.length < (singleQuotedFrom indent false cs ++ '\'' :: rest).length + 1 := by
    have written := length_le_singleQuotedFrom indent false cs
    simp only [List.length_append]
    omega
  exact readFrom_of_foldable indented foldable long after

end SingleQuoted

/-! ## Double quotes -/

namespace DoubleQuoted

open Emit

variable {cs run more text rest : List Char}

theorem charOf?_capitalHex (width : Nat) (c : Char) :
    charOf? (Text.capitalHex width c.toNat).toList = some c := by
  have valid : c.toNat.isValidChar := c.valid
  simp [charOf?, Text.numeral?_capitalHex, valid]

/-- An escape of one character is read as that character. -/
theorem readRun_escape {c mark : Char} (known : escapes.lookup mark = some c)
    (more : List Char) : readRun ('\\' :: mark :: more) = consEscaped (some c) (readRun more) := by
  have unknown : ['x', 'u', 'U', '\n', lineSeparator, paragraphSeparator].all
      (escapes.lookup · |>.isNone) = true := by
    decide
  have single : mark ∉ ['x', 'u', 'U', '\n', lineSeparator, paragraphSeparator] := by
    intro member
    have absent := List.all_eq_true.1 unknown mark member
    simp [known] at absent
  simp only [List.mem_cons, List.not_mem_nil, not_or] at single
  rcases single with ⟨short, long, longer, feed, line, paragraph, -⟩
  simp [readRun, isBreak, short, long, longer, feed, line, paragraph, known]

/-- The marks of escapes by number, with how many digits follow each of them. -/
def numbered : List (Char × Nat) :=
  [('x', 2), ('u', 4), ('U', 8)]

/-- An escape by number is read as the character that has the number. -/
theorem readRun_numbered {mark : Char} {width : Nat} (known : (mark, width) ∈ numbered) (c : Char)
    (short : (Nat.toDigits 16 c.toNat).length ≤ width) (more : List Char) :
    readRun ('\\' :: mark :: ((Text.capitalHex width c.toNat).toList ++ more)) =
      consEscaped (some c) (readRun more) := by
  have read := charOf?_capitalHex width c
  have length := Text.length_capitalHex width c.toNat short
  generalize (Text.capitalHex width c.toNat).toList = digits at read length ⊢
  simp only [numbered, List.mem_cons, Prod.mk.injEq, List.not_mem_nil, or_false] at known
  rcases known with ⟨rfl, rfl⟩ | ⟨rfl, rfl⟩ | ⟨rfl, rfl⟩
  · match digits, length with
    | [a, b], _ => simp [readRun, read]
  · match digits, length with
    | [a, b, d, e], _ => simp [readRun, read]
  · match digits, length with
    | [a, b, d, e, f, g, h, i], _ => simp [readRun, read]

/-- What is neither a space nor a break can stand for itself. -/
theorem isGap_of_plain {c : Char} (other : c ≠ ' ') (printable : isPrintable c = true)
    (unbroken : isBreak c = false) : isGap c = false := by
  simp [isGap_of_isPrintable printable, isEdge, isBlank, other, unbroken]

theorem readRun_printable {c : Char} (quote : c ≠ '"') (backslash : c ≠ '\\') (other : c ≠ ' ')
    (printable : isPrintable c = true) (unbroken : isBreak c = false) (more : List Char) :
    readRun (c :: more) = consEscaped (some c) (readRun more) := by
  simp [readRun, isGap_of_plain other printable unbroken, quote, backslash]

/-- Everything but a space is read as one character. -/
theorem readRun_escaped {c : Char} (other : c ≠ ' ') (more : List Char) :
    readRun (escaped c ++ more) = consEscaped (some c) (readRun more) := by
  unfold escaped
  split
  case h_6 quote backslash _ _ _ =>
    split
    · rename_i plain
      rw [Bool.and_eq_true, Bool.not_eq_true'] at plain
      exact readRun_printable quote backslash other plain.1 plain.2 more
    · split
      case h_10 =>
        split
        · rename_i small
          apply readRun_numbered (by decide) c
          exact (Nat.length_toDigits_le_iff (by decide) (by decide)).2 (by omega)
        · split
          · rename_i small
            apply readRun_numbered (by decide) c
            exact (Nat.length_toDigits_le_iff (by decide) (by decide)).2 (by omega)
          · have bounded : c.toNat < 2 ^ 32 := c.val.toNat_lt
            apply readRun_numbered (by decide) c
            exact (Nat.length_toDigits_le_iff (by decide) (by decide)).2 (by omega)
      all_goals
        rename_i number
        refine readRun_escape ?_ more
        rw [← Char.ofNat_toNat c, number]
        rfl
  all_goals exact readRun_escape rfl more

/-- A run without spaces is read up to where none goes on. -/
theorem readRun_flatMap (unspaced : ' ' ∉ run) (stop : readRun text = .ok ([], false, text)) :
    readRun (run.flatMap escaped ++ text) = .ok (run, false, text) := by
  induction run with
  | nil => exact stop
  | cons c run inductionHypothesis =>
    rw [List.mem_cons, not_or] at unspaced
    rw [List.flatMap_cons, List.append_assoc, readRun_escaped (Ne.symm unspaced.1),
      inductionHypothesis unspaced.2]
    rfl

/-- A character stands for itself or has an escape. -/
theorem escaped_cases (c : Char) :
    (escaped c = [c] ∧ isPrintable c = true ∧ isBreak c = false) ∨
      ∃ code, escaped c = '\\' :: code := by
  unfold escaped
  split
  case h_6 =>
    split
    · rename_i plain
      rw [Bool.and_eq_true, Bool.not_eq_true'] at plain
      exact .inl ⟨rfl, plain⟩
    · right
      split
      case h_10 =>
        split
        · exact ⟨_, rfl⟩
        · split <;> exact ⟨_, rfl⟩
      all_goals exact ⟨_, rfl⟩
  all_goals exact .inr ⟨_, rfl⟩

theorem isSolid_escaped {c : Char} (other : c ≠ ' ') : IsSolid (escaped c ++ text) := by
  rcases escaped_cases c with ⟨itself, printable, unbroken⟩ | ⟨code, escape⟩
  · rw [itself]
    exact isSolid_cons.2 (isGap_of_plain other printable unbroken)
  · rw [escape]
    exact isSolid_cons.2 (by decide)

theorem flatMap_spaces (count : Nat) :
    (List.replicate count ' ').flatMap escaped = List.replicate count ' ' := by
  have space : escaped ' ' = [' '] := by decide
  induction count with
  | zero => rfl
  | succ count inductionHypothesis => simp [List.replicate_succ, space, inductionHypothesis]

/-- A run is read, the spaces after it, and what follows. -/
theorem readFrom_spaces {fuel : Nat} (unspaced : ' ' ∉ run) (count : Nat)
    (ahead : IsSolid text) :
    readFrom (fuel + 1) false
        (run.flatMap escaped ++ (List.replicate (count + 1) ' ' ++ text)) =
      (readFrom fuel false text).map fun (more, rest) =>
        (run ++ List.replicate (count + 1) ' ' ++ more, rest) := by
  have gapRead := readGap_spaces ahead (count + 1)
  have stop : readRun (List.replicate (count + 1) ' ' ++ text) =
      .ok ([], false, List.replicate (count + 1) ' ' ++ text) := by
    have space : isGap ' ' = true := by decide
    simp [List.replicate_succ, readRun, space]
  have cut := readRun_flatMap unspaced stop
  rw [List.replicate_succ, List.cons_append] at cut gapRead ⊢
  have written : (run.flatMap escaped ++ ' ' :: (List.replicate count ' ' ++ text)).isEmpty =
      false := by
    simp
  rw [readFrom, cut, written]
  simp only [Bool.false_and, Bool.false_eq_true, if_false, bind, Except.bind]
  split
  · rename_i same
    simp at same
  · rename_i same
    simp at same
  · rename_i same
    cases same
    rw [gapRead]
    cases ended : readFrom fuel false text with
    | error failure => simp [Gap.endsAtLineStart, Gap.isBroken, ended, Except.map]
    | ok reading => simp [Gap.endsAtLineStart, Gap.isBroken, Gap.folded, ended, Except.map]

/-- What is written between double quotes is read up to the closing quote. -/
theorem readFrom_flatMap {fuel : Nat} (long : cs.length < fuel) :
    readFrom fuel false (cs.flatMap escaped ++ '"' :: rest) = .ok (cs, rest) := by
  induction fuel generalizing cs with
  | zero => exact absurd long (Nat.not_lt_zero _)
  | succ fuel inductionHypothesis =>
    rcases exists_stretch (· != ' ') cs with ⟨run, tail, rfl, solid, gapped⟩
    have unspaced : ' ' ∉ run := fun member => by simpa using solid ' ' member
    rw [List.flatMap_append, List.append_assoc]
    cases tail with
    | nil =>
      have stop : readRun ('"' :: rest) = .ok ([], false, '"' :: rest) := by simp [readRun]
      have written : (run.flatMap escaped ++ '"' :: rest).isEmpty = false := by simp
      simp [readFrom, readRun_flatMap unspaced stop, written, bind, Except.bind]
    | cons c tail =>
      obtain rfl : c = ' ' := by simpa using gapped
      rcases exists_spaces tail with ⟨count, more, rfl, other⟩
      have ahead : IsSolid (more.flatMap escaped ++ '"' :: rest) := by
        cases more with
        | nil => exact isSolid_cons.2 (by decide)
        | cons d more =>
          rw [List.flatMap_cons, List.append_assoc]
          exact isSolid_escaped (other d rfl)
      rw [← List.cons_append, ← List.replicate_succ, List.flatMap_append, flatMap_spaces,
        List.append_assoc, readFrom_spaces unspaced count ahead]
      rw [inductionHypothesis (by simp at long; omega)]
      simp [Except.map]

theorem length_le_flatMap (cs : List Char) : cs.length ≤ (cs.flatMap escaped).length := by
  have some : ∀ c, 1 ≤ (escaped c).length := by
    intro c
    rcases escaped_cases c with ⟨itself, -⟩ | ⟨code, escape⟩
    · simp [itself]
    · simp [escape]
  induction cs with
  | nil => simp
  | cons c cs inductionHypothesis =>
    have here := some c
    simp only [List.flatMap_cons, List.length_append, List.length_cons]
    omega

/-- A text between double quotes is read. -/
theorem read_doubleQuoted (cs rest : List Char) :
    read (cs.flatMap escaped ++ '"' :: rest) = .ok (cs, rest) := by
  have long : cs.length < (cs.flatMap escaped ++ '"' :: rest).length + 1 := by
    have written := length_le_flatMap cs
    simp only [List.length_append]
    omega
  exact readFrom_flatMap long

end DoubleQuoted

end Steward.Yaml

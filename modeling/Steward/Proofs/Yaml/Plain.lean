import Steward.Proofs.Yaml.Gaps
import Steward.Yaml.Scalar.Plain

/-!
# Plain scalars that are written and read

What can be written plain is read as it was written, whether it is a key, with
a colon after it, or a value at the end of its line.
-/

namespace Steward.Yaml

namespace Plain

variable {margin column count : Nat} {cs text rest next : List Char} {spaced : Bool}

/-- What follows a plain scalar in a block with a margin, what is left when it has been read, and
whether the line has ended. -/
inductive Ends (margin : Nat) : List Char → List Char → Bool → Prop
  /-- The colon of a key. -/
  | colon {rest : List Char} (spaced : atGap rest = true) :
      Ends margin (':' :: rest) (':' :: rest) false
  /-- The end of the line, and what stands left of the margin. -/
  | line {count : Nat} {next : List Char} (outside : count < margin) (solid : IsSolid next) :
      Ends margin ('\n' :: (List.replicate count ' ' ++ next)) next true

theorem hasEarlyTab_spaces (margin count : Nat) (solid : IsSolid next) (column : Nat) :
    hasEarlyTab margin column (List.replicate count ' ' ++ next) = false := by
  induction count generalizing column with
  | zero =>
    cases next with
    | nil => rfl
    | cons c rest =>
      have solid := isSolid_cons.1 solid
      have space := isSpace_of_not_isGap solid
      simp only [isSpace, Bool.or_eq_false_iff] at space
      simp [hasEarlyTab, isBreak_of_not_isGap solid, space]
  | succ count inductionHypothesis =>
    have space : isBreak ' ' = false := by decide
    rw [List.replicate_succ, List.cons_append, hasEarlyTab, space]
    simpa using inductionHypothesis (column + 1)

/-! ## Runs -/

/-- What is not marked as something else is a run up to its first gap. -/
theorem readRun_of_unmarked (unmarked : Emit.holdsMark spaced cs = false)
    (stop : readRun false text = .ok ([], text)) :
    readRun false (cs ++ text) =
      .ok (cs.takeWhile (fun c => !isGap c), cs.dropWhile (fun c => !isGap c) ++ text) := by
  induction cs generalizing spaced with
  | nil => exact stop
  | cons c cs inductionHypothesis =>
    simp only [Emit.holdsMark, Bool.or_eq_false_iff] at unmarked
    rcases unmarked with ⟨⟨colon, -⟩, unmarked⟩
    rw [List.cons_append, readRun]
    cases gap : isGap c with
    | true => simp [gap]
    | false =>
      have onward : (c == ':' && atGap (cs ++ text)) = false := by
        cases cs with
        | nil =>
          have other : c ≠ ':' := by simpa [atGap] using colon
          simp [other]
        | cons d rest => exact colon
      simp [gap, onward, inductionHypothesis unmarked, bind, Except.bind]

/-- What stands after a gap is not marked as something else either. -/
theorem unmarked_of_append {front : List Char} {c : Char} {rest : List Char}
    (unmarked : Emit.holdsMark spaced (front ++ c :: rest) = false) :
    Emit.holdsMark (isGap c) rest = false := by
  induction front generalizing spaced with
  | nil =>
    simp only [List.nil_append, Emit.holdsMark, Bool.or_eq_false_iff] at unmarked
    exact unmarked.2
  | cons d front inductionHypothesis =>
    simp only [List.cons_append, Emit.holdsMark, Bool.or_eq_false_iff] at unmarked
    exact inductionHypothesis unmarked.2

/-! ## Scalars -/

/-- What stands between two places without gaps on one line: words with spaces between them. -/
structure IsWords (cs : List Char) : Prop where
  spaces : ∀ c ∈ cs, isGap c = true → c = ' '
  head : ∀ c ∈ cs.head?, isGap c = false
  last : ∀ c ∈ cs.getLast?, isGap c = false

/-- Words are one word, or a word, spaces and further words. -/
theorem IsWords.exists_gap (words : IsWords cs) (gapped : ¬∀ c ∈ cs, isGap c = false) :
    ∃ run count more, cs = run ++ List.replicate (count + 1) ' ' ++ more ∧ run ≠ [] ∧ more ≠ [] ∧
      (∀ c ∈ run, isGap c = false) ∧ IsWords more := by
  rcases exists_stretch (fun c => !isGap c) cs with ⟨run, rest, rfl, solid, gap⟩
  have solid : ∀ c ∈ run, isGap c = false := by simpa using solid
  cases rest with
  | nil => exact absurd (by simpa using solid) gapped
  | cons c rest =>
    have gap : isGap c = true := by simpa using gap
    obtain rfl : c = ' ' := words.spaces c (by simp) gap
    rcases exists_spaces rest with ⟨count, more, rfl, other⟩
    have started : run ≠ [] := by
      rintro rfl
      exact absurd (words.head ' ' rfl) (by decide)
    have unended : more ≠ [] := by
      rintro rfl
      have last : (run ++ ' ' :: (List.replicate count ' ' ++ [])).getLast? = some ' ' := by
        rw [List.append_nil, ← List.replicate_succ, List.getLast?_append, List.getLast?_replicate]
        rfl
      exact absurd (words.last ' ' last) (by decide)
    refine ⟨run, count, more, by simp [List.replicate_succ], started, unended, solid, ?_, ?_, ?_⟩
    · exact fun c member => words.spaces c (by simp [member])
    · intro c first
      have member := List.mem_of_mem_head? first
      by_contra gapped
      exact other c first (words.spaces c (by simp [member]) (by simpa using gapped))
    · intro c last
      apply words.last
      rw [← List.cons_append, ← List.append_assoc, List.getLast?_append]
      rw [Option.mem_def] at last
      rw [last]
      rfl

theorem stops_of_unmarked (unmarked : Emit.holdsMark true cs = false) (some : cs ≠ [])
    (opens : (column == 0 && atDocumentMark (cs ++ text)) = false) :
    stops column (cs ++ text) = false := by
  cases cs with
  | nil => exact absurd rfl some
  | cons c rest =>
    simp only [Emit.holdsMark, Bool.or_eq_false_iff, Bool.and_true] at unmarked
    simp only [stops, opens, Bool.false_or]
    simpa using unmarked.1.2

theorem Ends.readRun {broken : Bool} (ends : Ends margin text rest broken) :
    Plain.readRun false text = .ok ([], text) := by
  cases ends with
  | colon spaced =>
    have solid : isGap ':' = false := by decide
    simp [Plain.readRun, solid, spaced]
  | line =>
    have gap : isGap '\n' = true := by decide
    simp [Plain.readRun, gap]

/-- Nothing is read at a colon. -/
theorem readFrom_colon (spaced : atGap rest = true) (fuel : Nat) (gap : Gap) (column : Nat) :
    readFrom false margin fuel gap column (':' :: rest) =
      .ok ⟨[], ':' :: rest, gap.isBroken⟩ := by
  have run := (show Ends margin _ _ _ from .colon spaced).readRun
  have stop : stops column (':' :: rest) = false := by simp [stops, atDocumentMark]
  cases fuel with
  | zero => rfl
  | succ fuel => simp [readFrom, stop, run, bind, Except.bind]

/-- One word is read, and the gap after it. -/
theorem readFrom_succ {fuel : Nat} {gap next : Gap} {run left after : List Char}
    (onward : stops column text = false) (cut : readRun false text = .ok (run, left))
    (some : run ≠ []) (gapRead : readGap left = (next, after))
    (clean : hasEarlyTab margin 0 (left.dropWhile isSpace) = false) :
    readFrom false margin (fuel + 1) gap column text =
      if next.columnAfter (column + run.length) < margin then
        .ok ⟨gap.folded ++ run, after, next.isBroken⟩
      else
        (readFrom false margin fuel next (next.columnAfter (column + run.length)) after).map
          (·.after (gap.folded ++ run)) := by
  have written : run.isEmpty = false := by simpa using some
  rw [readFrom, onward, cut]
  simp only [Bool.false_eq_true, if_false, bind, Except.bind, written, gapRead, clean]
  cases readFrom false margin fuel next (next.columnAfter (column + run.length)) after with
  | error failure => simp [Except.map]
  | ok reading => simp [Except.map, pure, Except.pure]

/-- The last word, and what follows it. -/
theorem readFrom_last {broken : Bool} {fuel : Nat} (gap : Gap) (some : cs ≠ [])
    (solid : ∀ c ∈ cs, isGap c = false) (unmarked : Emit.holdsMark true cs = false)
    (opens : (column == 0 && atDocumentMark (cs ++ text)) = false)
    (ends : Ends margin text rest broken) :
    readFrom false margin (fuel + 1) gap column (cs ++ text) =
      .ok ⟨gap.folded ++ cs, rest, broken⟩ := by
  have onward := stops_of_unmarked unmarked some opens
  have cut := readRun_of_unmarked unmarked ends.readRun
  have run : cs.takeWhile (fun c => !isGap c) = cs ∧ cs.dropWhile (fun c => !isGap c) = [] := by
    simpa [List.takeWhile_eq_self_iff, List.dropWhile_eq_nil_iff] using solid
  rw [run.1, run.2, List.nil_append] at cut
  cases ends with
  | @colon after spaced =>
    have ahead : IsSolid (':' :: after) := isSolid_cons.2 (by decide)
    have gapRead := readGap_spaces ahead 0
    have clean := hasEarlyTab_spaces margin 0 ahead 0
    have same := (dropWhile_isSpace_spaces ahead 0).1
    simp only [List.replicate_zero, List.nil_append] at gapRead clean same
    rw [← same] at clean
    rw [readFrom_succ onward cut some gapRead clean, readFrom_colon spaced]
    split
    · rfl
    · simp [Reading.after, Except.map, Gap.isBroken]
  | line outside ahead =>
    rename_i count
    have lineFeed : isSpace '\n' = false ∧ isBreak '\n' = true := by decide
    have gapRead : readGap ('\n' :: (List.replicate count ' ' ++ rest)) =
        (⟨[], ['\n'], count⟩, rest) := by
      simp [readGap, readBreaks, lineFeed, readBreaks_spaces ahead]
    have clean : hasEarlyTab margin 0
        (('\n' :: (List.replicate count ' ' ++ rest)).dropWhile isSpace) = false := by
      simp [lineFeed, hasEarlyTab, hasEarlyTab_spaces margin count ahead]
    rw [readFrom_succ onward cut some gapRead clean]
    exact if_pos outside

/-- Words are read up to where they end, whatever gap stands before them. -/
theorem readFrom_words {broken : Bool} {fuel : Nat} (gap : Gap) (words : IsWords cs)
    (some : cs ≠ []) (long : cs.length < fuel) (unmarked : Emit.holdsMark true cs = false)
    (opens : (column == 0 && atDocumentMark (cs ++ text)) = false) (inside : margin ≤ column + 1)
    (ends : Ends margin text rest broken) :
    readFrom false margin fuel gap column (cs ++ text) = .ok ⟨gap.folded ++ cs, rest, broken⟩ := by
  -- A step reads one word, so that the fuel lasts while the words get shorter.
  induction fuel generalizing gap column cs with
  | zero => exact absurd long (Nat.not_lt_zero _)
  | succ fuel inductionHypothesis =>
    by_cases solid : ∀ c ∈ cs, isGap c = false
    · exact readFrom_last gap some solid unmarked opens ends
    · rcases words.exists_gap solid with
        ⟨run, count, more, rfl, started, unended, runSolid, moreWords⟩
      have onward := stops_of_unmarked unmarked some opens
      have cut : readRun false (run ++ List.replicate (count + 1) ' ' ++ more ++ text) =
          .ok (run, List.replicate (count + 1) ' ' ++ (more ++ text)) := by
        have runSolid : ∀ c ∈ run, (!isGap c) = true := by simpa using runSolid
        have gapped : (!isGap ' ') = false := by decide
        rw [readRun_of_unmarked unmarked ends.readRun, List.append_assoc run,
          List.takeWhile_append_of_pos runSolid, List.dropWhile_append_of_pos runSolid]
        simp [List.replicate_succ, gapped]
      have unmarkedMore : Emit.holdsMark true more = false := by
        rw [List.replicate_succ', ← List.append_assoc, List.append_assoc] at unmarked
        exact unmarked_of_append unmarked
      have ahead : IsSolid (more ++ text) := by
        cases more with
        | nil => exact absurd rfl unended
        | cons c more => exact isSolid_cons.2 (moreWords.head c rfl)
      have clean := hasEarlyTab_spaces margin 0 ahead 0
      rw [List.replicate_zero, List.nil_append, ← (dropWhile_isSpace_spaces ahead (count + 1)).1]
        at clean
      have column' : Gap.columnAfter ⟨List.replicate (count + 1) ' ', [], 0⟩
          (column + run.length) = column + run.length + (count + 1) := by
        simp [Gap.columnAfter, Gap.isBroken]
      -- The next word stands no further left than this one, which is inside the block.
      have far : ¬column + run.length + (count + 1) < margin := by omega
      rw [readFrom_succ onward cut started (readGap_spaces ahead _) clean, column', if_neg far]
      rw [inductionHypothesis _ moreWords unended (by simp at long; omega) unmarkedMore (by simp)
        (by omega)]
      simp [Reading.after, Except.map, Gap.folded]

/-- The scalar that a text begins with is read. -/
theorem read_words {broken : Bool} (words : IsWords cs) (some : cs ≠ [])
    (unmarked : Emit.holdsMark true cs = false)
    (opens : (column == 0 && atDocumentMark (cs ++ text)) = false) (inside : margin ≤ column + 1)
    (ends : Ends margin text rest broken) :
    read false margin column (cs ++ text) = .ok ⟨cs, rest, broken⟩ := by
  have long : cs.length < (cs ++ text).length + 1 := by
    rw [List.length_append]
    omega
  exact readFrom_words ⟨[], [], 0⟩ words some long unmarked opens inside ends

/-! ## What fits -/

theorem exists_of_atDocumentMark (marked : atDocumentMark text = true) :
    ∃ mark rest, (mark = '-' ∨ mark = '.') ∧ text = mark :: mark :: mark :: rest := by
  unfold atDocumentMark at marked
  split at marked
  · exact ⟨'-', _, .inl rfl, rfl⟩
  · exact ⟨'.', _, .inr rfl, rfl⟩
  · exact absurd marked Bool.false_ne_true

/-- What there is to a text that can be written plain. -/
structure IsFit (cs : List Char) : Prop where
  printable : ∀ c ∈ cs, Emit.isPrintable c = true
  unbroken : ∀ c ∈ cs, isBreak c = false
  head : cs.head?.any Emit.isBlank = false
  last : cs.getLast?.any Emit.isBlank = false
  begins : Emit.beginsOtherwise cs = false
  /-- Something is written, and no mark of something else follows its first character. -/
  unmarked : ∃ c rest, cs = c :: rest ∧ Emit.holdsMark (isGap c) rest = false

section Fits

variable (fits : Emit.fitsPlain cs = true)
include fits

theorem isFit_of_fits : IsFit cs := by
  simp only [Emit.fitsPlain, Bool.not_eq_true', Bool.or_eq_false_iff] at fits
  rcases fits with ⟨⟨⟨⟨⟨special, breaks⟩, head⟩, last⟩, begins⟩, marks⟩
  refine ⟨?_, ?_, head, last, begins, ?_⟩
  · simpa [Emit.hasSpecial] using special
  · simpa using breaks
  · cases cs with
    | nil => simp at marks
    | cons c rest => exact ⟨c, rest, rfl, marks⟩

theorem ne_nil_of_fits : cs ≠ [] := by
  rcases (isFit_of_fits fits).unmarked with ⟨c, rest, rfl, -⟩
  exact List.cons_ne_nil c rest

theorem beginsOtherwise_of_fits : Emit.beginsOtherwise cs = false :=
  (isFit_of_fits fits).begins

/-- Only a space can be a gap in what fits. -/
theorem eq_space_of_fits {c : Char} (member : c ∈ cs) (gap : isGap c = true) : c = ' ' := by
  have fit := isFit_of_fits fits
  rw [isGap_of_isPrintable (fit.printable c member), Emit.isEdge, fit.unbroken c member,
    Bool.or_false] at gap
  exact eq_of_beq gap

theorem isWords_of_fits : IsWords cs := by
  have fit := isFit_of_fits fits
  constructor
  · exact fun c member gap => eq_space_of_fits fits member gap
  · intro c first
    by_contra gapped
    obtain rfl := eq_space_of_fits fits (List.mem_of_mem_head? first) (by simpa using gapped)
    have head := fit.head
    rw [Option.mem_def.1 first] at head
    exact absurd head (by decide)
  · intro c final
    by_contra gapped
    obtain rfl := eq_space_of_fits fits (List.mem_of_getLast? final) (by simpa using gapped)
    have last := fit.last
    rw [Option.mem_def.1 final] at last
    exact absurd last (by decide)

theorem unmarked_of_fits : Emit.holdsMark true cs = false := by
  have begins := beginsOtherwise_of_fits fits
  rcases (isFit_of_fits fits).unmarked with ⟨c, rest, rfl, marks⟩
  simp only [Emit.beginsOtherwise, Bool.or_eq_false_iff] at begins
  rcases begins with ⟨⟨-, opening⟩, spaced⟩
  have colon : (c == ':' && atGap rest) = false := by
    cases same : c == ':' with
    | false => rfl
    | true => simpa [same] using spaced
  have comment : c ≠ '#' := by
    rintro rfl
    exact absurd opening (by decide)
  simp [Emit.holdsMark, colon, comment, marks]

/-- What fits begins like no mark between documents. -/
theorem atDocumentMark_of_fits (after : ∀ c ∈ text.head?, c ≠ '-' ∧ c ≠ '.') :
    atDocumentMark (cs ++ text) = false := by
  have begins := beginsOtherwise_of_fits fits
  have some := ne_nil_of_fits fits
  by_contra marked
  rcases exists_of_atDocumentMark (by simpa using marked) with ⟨mark, rest, dash, split⟩
  have other : text.head? ≠ Option.some mark := by
    intro first
    rcases after mark first with ⟨notDash, notDot⟩
    exact dash.elim notDash notDot
  match cs, split with
  | [], _ => exact some rfl
  | [_], split =>
    simp only [List.cons_append, List.nil_append, List.cons.injEq] at split
    exact other (by simp [split.2])
  | [_, _], split =>
    simp only [List.cons_append, List.nil_append, List.cons.injEq] at split
    exact other (by simp [split.2.2])
  | first :: second :: third :: more, split =>
    simp only [List.cons_append, List.cons.injEq] at split
    rcases split with ⟨rfl, rfl, rfl, -⟩
    rcases dash with rfl | rfl <;> simp [Emit.beginsOtherwise] at begins

/-- What fits is read as it is. -/
theorem read_of_fits {broken : Bool} (inside : margin ≤ column + 1)
    (ends : Ends margin text rest broken) :
    read false margin column (cs ++ text) = .ok ⟨cs, rest, broken⟩ := by
  have after : ∀ c ∈ text.head?, c ≠ '-' ∧ c ≠ '.' := by
    cases ends with
    | colon => simp
    | line => simp
  have opens : (column == 0 && atDocumentMark (cs ++ text)) = false := by
    rw [atDocumentMark_of_fits fits after, Bool.and_false]
  exact read_words (isWords_of_fits fits) (ne_nil_of_fits fits) (unmarked_of_fits fits) opens
    inside ends

end Fits

/-! ## Names -/

/-- A letter, a digit or an underscore. -/
def isNameChar (c : Char) : Bool :=
  c.isAlphanum || c == '_'

theorem range_of_isNameChar {c : Char} (named : isNameChar c = true) :
    48 ≤ c.toNat ∧ c.toNat ≤ 122 := by
  have letter : c.isAlpha = (decide (65 ≤ c.val ∧ c.val ≤ 90) ||
      decide (97 ≤ c.val) && decide (c.val ≤ 122)) := rfl
  simp only [isNameChar, Char.isAlphanum, letter, Char.isDigit, Bool.or_eq_true, Bool.and_eq_true,
    decide_eq_true_eq, beq_iff_eq, UInt32.le_iff_toNat_le, Char.reduceVal, UInt32.reduceToNat]
    at named
  rcases named with ((⟨least, most⟩ | ⟨least, most⟩) | ⟨least, most⟩) | rfl
  · exact ⟨least.trans' (by decide), most.trans (by decide)⟩
  · exact ⟨least.trans' (by decide), most.trans (by decide)⟩
  · exact ⟨least.trans' (by decide), most.trans (by decide)⟩
  · decide

theorem isPrintable_of_isNameChar {c : Char} (named : isNameChar c = true) :
    Emit.isPrintable c = true := by
  rcases range_of_isNameChar named with ⟨least, most⟩
  simp only [Emit.isPrintable, Bool.or_eq_true, Bool.and_eq_true, decide_eq_true_eq]
  exact .inl (.inl (.inl (.inr ⟨least.trans' (by decide), most.trans (by decide)⟩)))

theorem ne_of_isNameChar {c : Char} (other : Char) (named : isNameChar c = true)
    (unnamed : isNameChar other = false) : c ≠ other := by
  rintro rfl
  exact absurd named (by simp [unnamed])

theorem isGap_of_isNameChar {c : Char} (named : isNameChar c = true) : isGap c = false := by
  have other := fun other => ne_of_isNameChar other named
  simp [isGap, isSpace, isBreak, other ' ' (by decide), other '\t' (by decide),
    other '\n' (by decide), other lineSeparator (by decide), other paragraphSeparator (by decide)]

theorem isOpening_of_isNameChar {c : Char} (named : isNameChar c = true) :
    Emit.isOpening c = false := by
  have openings : "#,[]\x7b\x7d&*!|>'\"%@\x60".toList.all (!isNameChar ·) = true := by decide
  rw [Emit.isOpening, Bool.eq_false_iff, Ne, List.contains_iff_mem]
  intro opening
  have unnamed := List.all_eq_true.1 openings c opening
  simp [named] at unnamed

theorem holdsMark_of_name (named : ∀ c ∈ cs, isNameChar c = true) (spaced : Bool) :
    Emit.holdsMark spaced cs = false := by
  induction cs generalizing spaced with
  | nil => rfl
  | cons c cs inductionHypothesis =>
    have name := named c List.mem_cons_self
    have rest := fun d member => named d (List.mem_cons_of_mem c member)
    simp [Emit.holdsMark, ne_of_isNameChar ':' name (by decide),
      ne_of_isNameChar '#' name (by decide), inductionHypothesis rest]

/-- A name can be written plain. -/
theorem fits_of_name (some : cs ≠ []) (named : ∀ c ∈ cs, isNameChar c = true) :
    Emit.fitsPlain cs = true := by
  have unblank : ∀ c ∈ cs, Emit.isBlank c = false := fun c member =>
    beq_eq_false_iff_ne.2 (ne_of_isNameChar ' ' (named c member) (by decide))
  have special : Emit.hasSpecial cs = false := by
    simpa [Emit.hasSpecial] using fun c member => isPrintable_of_isNameChar (named c member)
  have breaks : cs.any isBreak = false := by
    simpa using fun c member => isBreak_of_not_isGap (isGap_of_isNameChar (named c member))
  have head : cs.head?.any Emit.isBlank = false := by
    cases first : cs.head? with
    | none => rfl
    | some c => exact unblank c (List.mem_of_mem_head? first)
  have last : cs.getLast?.any Emit.isBlank = false := by
    cases final : cs.getLast? with
    | none => rfl
    | some c => exact unblank c (List.mem_of_getLast? final)
  cases cs with
  | nil => exact absurd rfl some
  | cons c rest =>
    have name := named c List.mem_cons_self
    have other := fun other => ne_of_isNameChar other name
    have begins : Emit.beginsOtherwise (c :: rest) = false := by
      simp [Emit.beginsOtherwise, List.isPrefixOf_cons_cons, isOpening_of_isNameChar name,
        other '-' (by decide), other '?' (by decide), other ':' (by decide),
        (other '-' (by decide)).symm, (other '.' (by decide)).symm]
    have marks := holdsMark_of_name (fun d member => named d (List.mem_cons_of_mem c member))
      (isGap c)
    simp only [Emit.fitsPlain, special, breaks, head, last, begins, marks]
    rfl

end Plain

end Steward.Yaml

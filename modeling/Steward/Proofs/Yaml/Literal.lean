import Steward.Proofs.Yaml.Gaps
import Steward.Yaml.Scalar.Block

/-!
# Literal blocks that are written and read

The lines of a literal block are indented one column further than the block
around them demands, and what stands after the block less.  Its header says
what becomes of the breaks at its end, and how far the lines are indented where
the first line does not show it.
-/

namespace Steward.Yaml.Block

open Emit

variable {indent most count : Nat} {limit : Option Nat} {broken : Bool}
  {breaks cs line more rest body tail next : List Char}

/-! ## Lines as they are written -/

theorem literalLines_breaks (indent : Nat) (breaking : ∀ c ∈ breaks, isBreak c = true)
    (more : List Char) :
    literalLines indent true (breaks ++ more) = breaks ++ literalLines indent true more := by
  induction breaks with
  | nil => rfl
  | cons c breaks inductionHypothesis =>
    have here := breaking c List.mem_cons_self
    rw [List.cons_append, literalLines, here, if_pos rfl]
    rw [inductionHypothesis fun d member => breaking d (List.mem_cons_of_mem c member)]
    rfl

theorem literalLines_line (unbroken : ∀ c ∈ line, isBreak c = false) (more : List Char) :
    literalLines indent false (line ++ more) = line ++ literalLines indent false more := by
  induction line with
  | nil => rfl
  | cons c line inductionHypothesis =>
    have here := unbroken c List.mem_cons_self
    rw [List.cons_append, literalLines, here]
    rw [inductionHypothesis fun d member => unbroken d (List.mem_cons_of_mem c member)]
    rfl

/-- A line that is not empty is indented. -/
theorem literalLines_indented {c : Char} (unbroken : isBreak c = false) (more : List Char) :
    literalLines indent true (c :: more) =
      List.replicate indent ' ' ++ literalLines indent false (c :: more) := by
  simp [literalLines, unbroken, margin]

/-- A last line without a break gets one. -/
theorem literalLines_concat {c : Char} (unbroken : isBreak c = false) (front : List Char)
    (broken : Bool) : literalLines indent broken (front ++ [c]) =
      literalLines indent broken (front ++ [c] ++ ['\n']) := by
  have feed : isBreak '\n' = true := by decide
  induction front generalizing broken with
  | nil => simp [literalLines, unbroken, feed]
  | cons d front inductionHypothesis =>
    simp only [List.cons_append, literalLines] at inductionHypothesis ⊢
    rw [inductionHypothesis true, inductionHypothesis false]

/-- The last line ends. -/
theorem exists_literalLines_break (indent : Nat) (some : cs ≠ []) :
    ∃ front b, isBreak b = true ∧ literalLines indent true cs = front ++ [b] := by
  have ends : ∀ broken, cs ≠ [] ∨ broken = false →
      ∃ front b, isBreak b = true ∧ literalLines indent broken cs = front ++ [b] := by
    clear some
    induction cs with
    | nil =>
      intro broken unbroken
      obtain rfl := unbroken.resolve_left (absurd rfl)
      exact ⟨[], '\n', by decide, rfl⟩
    | cons c cs inductionHypothesis =>
      intro broken _
      rw [literalLines]
      cases here : isBreak c with
      | false =>
        rcases inductionHypothesis false (.inr rfl) with ⟨front, b, breaking, lines⟩
        exact ⟨(if broken then margin indent else []) ++ c :: front, b, breaking, by simp [lines]⟩
      | true =>
        by_cases last : cs = []
        · exact ⟨[], c, here, by simp [last, literalLines]⟩
        · rcases inductionHypothesis true (.inl last) with ⟨front, b, breaking, lines⟩
          exact ⟨c :: front, b, breaking, by simp [lines]⟩
  exact ends true (.inl some)

/-! ## Leads -/

/-- Spaces are passed over as far as the limit allows. -/
theorem readLead_spaces (column most : Nat)
    (within : ∀ passed < column + count, limit.all (passed < ·) = true)
    (stop : ∀ c ∈ rest.head?, isBreak c = false ∧
      (limit.all (column + count < ·) = true → isSpace c = false)) :
    readLead limit column most (List.replicate count ' ' ++ rest) =
      .ok ⟨[], column + count, if count = 0 then most else max most (column + count), rest⟩ := by
  induction count generalizing column most with
  | zero =>
    cases rest with
    | nil => rfl
    | cons c rest =>
      rcases stop c rfl with ⟨unbroken, unspaced⟩
      rw [List.replicate_zero, List.nil_append, readLead]
      cases within : limit.all (column < ·) with
      | false => simp [unbroken]
      | true =>
        have space := unspaced within
        simp only [isSpace, Bool.or_eq_false_iff] at space
        simp [space, unbroken]
  | succ count inductionHypothesis =>
    have here := within column (by omega)
    have onward := inductionHypothesis (column + 1) (max most (column + 1))
      (fun passed earlier => within passed (by omega))
      (by rwa [Nat.add_assoc, Nat.add_comm 1])
    rw [List.replicate_succ, List.cons_append, readLead]
    simp only [here, beq_self_eq_true, Bool.and_self, if_true, onward, Except.ok.injEq,
      Lead.mk.injEq, true_and, and_true]
    constructor
    · omega
    · rw [if_neg (Nat.succ_ne_zero count)]
      split <;> omega

/-- Empty lines are passed over. -/
theorem readLead_breaks (most : Nat) (breaking : ∀ c ∈ breaks, isBreak c = true)
    (within : ∀ passed < count, limit.all (passed < ·) = true)
    (stop : ∀ c ∈ rest.head?, isBreak c = false ∧
      (limit.all (count < ·) = true → isSpace c = false)) :
    ∃ most', readLead limit 0 most (breaks ++ (List.replicate count ' ' ++ rest)) =
      .ok ⟨breaks, count, most', rest⟩ := by
  induction breaks generalizing most with
  | nil =>
    rw [← Nat.zero_add count] at within stop
    have read := readLead_spaces 0 most within stop
    rw [Nat.zero_add] at read
    exact ⟨_, read⟩
  | cons c breaks inductionHypothesis =>
    have here := breaking c List.mem_cons_self
    rcases inductionHypothesis most
      fun d member => breaking d (List.mem_cons_of_mem c member) with ⟨most', read⟩
    refine ⟨most', ?_⟩
    have space := isSpace_of_isBreak here
    simp only [isSpace, Bool.or_eq_false_iff] at space
    simp [readLead, here, space, read, bind, Except.bind]

/-! ## Lines as they are read -/

/-- What stands after a block: spaces left of its lines, and something else. -/
structure Outside (indent : Nat) (tail next : List Char) : Prop where
  split : ∃ count < indent, tail = List.replicate count ' ' ++ next
  solid : IsSolid next

/-- What the lines of a block come to, when the given break stands before them. -/
def joined (chomping : Chomping) (body breaks broken : List Char) : List Char :=
  if body = [] then chomp broken breaks chomping
  else broken ++ body ++ chomp (breaks.take 1) (breaks.drop 1) chomping

/-- A line is read, and the lines after it. -/
theorem readLines_succ {chomping : Chomping} {fuel : Nat} {before : List Char} {spaced : Bool}
    {b : Char} {after : List Char} {lead : Lead}
    (unbroken : ∀ c ∈ line, isBreak c = false) (breaking : isBreak b = true)
    (read : readLead (.some indent) 0 0 after = .ok lead) :
    readLines .literal chomping indent (fuel + 1) before spaced
        ⟨breaks, indent, most, line ++ b :: after⟩ =
      (readLines .literal chomping indent fuel [b] (startsWithSpace (line ++ b :: after)) lead).map
        fun (more, rest) => (before ++ breaks ++ line ++ more, rest) := by
  have solid : ∀ c ∈ line, (!isBreak c) = true := by simpa using unbroken
  have stop : (!isBreak b) = false := by simpa using breaking
  have cut : (line ++ b :: after).takeWhile (fun c => !isBreak c) = line ∧
      (line ++ b :: after).dropWhile (fun c => !isBreak c) = b :: after := by
    rw [List.takeWhile_append_of_pos solid, List.dropWhile_append_of_pos solid]
    simp [stop]
  have onward : (indent == indent && !(line ++ b :: after).isEmpty) = true := by simp
  rw [readLines, if_pos onward]
  simp only [cut.1, cut.2, List.drop_succ_cons, List.drop_zero, List.take_succ_cons,
    List.take_zero, read, bind, Except.bind]
  cases readLines .literal chomping indent fuel [b] (startsWithSpace (line ++ b :: after)) lead with
  | error failure => rfl
  | ok reading => simp [Except.map, joint]

/-- A line is what stands before the next break. -/
theorem exists_line {c : Char} (unbroken : isBreak c = false) (lines : List Char) :
    ∃ line later, lines = line ++ later ∧ (∀ d ∈ c :: line, isBreak d = false) ∧
      ∀ d ∈ later.head?, isBreak d = true := by
  rcases exists_stretch (fun d => !isBreak d) lines with ⟨line, later, rfl, solid, broken⟩
  have solid : ∀ d ∈ line, isBreak d = false := by simpa using solid
  exact ⟨line, later, rfl, List.forall_mem_cons.2 ⟨unbroken, solid⟩, by simpa using broken⟩

/-- After a line comes its break, and the lines after that. -/
theorem exists_break (chomping : Chomping) {front later : List Char} (written : front ≠ [])
    (ended : ∀ c ∈ (front ++ later).getLast?, isBreak c = false)
    (broken : ∀ c ∈ later.head?, isBreak c = true) (breaking : ∀ c ∈ breaks, isBreak c = true)
    (closed : breaks ≠ []) :
    ∃ b body breaks', later ++ breaks = b :: (body ++ breaks') ∧ isBreak b = true ∧
      (∀ c ∈ body.getLast?, isBreak c = false) ∧ (∀ c ∈ breaks', isBreak c = true) ∧
      (body ≠ [] → breaks' ≠ []) ∧ body.length ≤ later.length ∧
      ∀ before, joined chomping (front ++ later) breaks before =
        before ++ front ++ joined chomping body breaks' [b] := by
  cases later with
  | nil =>
    cases breaks with
    | nil => exact absurd rfl closed
    | cons b breaks =>
      rw [List.forall_mem_cons] at breaking
      refine ⟨b, [], breaks, rfl, breaking.1, nofun, breaking.2, nofun, le_rfl, fun before => ?_⟩
      simp [joined, written]
  | cons b body =>
    have breakingFirst := broken b rfl
    have more : body ≠ [] := by
      rintro rfl
      have last := ended b (by simp)
      simp [breakingFirst] at last
    refine ⟨b, body, breaks, rfl, breakingFirst, fun c last => ended c ?_, breaking,
      fun _ => closed, Nat.le_succ _, fun before => ?_⟩
    · rw [Option.mem_def] at last
      rw [← List.singleton_append, ← List.append_assoc, List.getLast?_append, last]
      rfl
    · simp [joined, written, more]

/-- The lines of a block that a text begins with are read: what they come to after the break before
them, and what is left. -/
def Reads (chomping : Chomping) (indent fuel : Nat) (text : List Char)
    (value : List Char → List Char) (next : List Char) : Prop :=
  ∃ empty column rest,
    (∀ most, ∃ most', readLead (some indent) 0 most text = .ok ⟨empty, column, most', rest⟩) ∧
      ∀ before spaced most, readLines .literal chomping indent fuel before spaced
        ⟨empty, column, most, rest⟩ = .ok (value before, next)

/-- Breaks at the end are chomped. -/
theorem reads_outside {chomping : Chomping} {fuel : Nat} (breaking : ∀ c ∈ breaks, isBreak c = true)
    (outside : Outside indent tail next) :
    Reads chomping indent (fuel + 1) (breaks ++ tail) (chomp · breaks chomping) next := by
  rcases outside with ⟨⟨count, left, rfl⟩, solid⟩
  refine ⟨breaks, count, next, fun most => ?_, fun before spaced most => ?_⟩
  · apply readLead_breaks most breaking
    · intro passed earlier
      simp only [Option.all_some, decide_eq_true_eq]
      omega
    · intro c first
      have here := solid c first
      exact ⟨isBreak_of_not_isGap here, fun _ => isSpace_of_not_isGap here⟩
  · have other : (count == indent) = false := beq_eq_false_iff_ne.2 (Nat.ne_of_lt left)
    simp [readLines, other]

/-- A line is read after the empty lines before it. -/
theorem Reads.with_line {chomping : Chomping} {fuel : Nat} {value : List Char → List Char}
    {empty after : List Char} {b c : Char} (reads : Reads chomping indent fuel after value next)
    (breakings : ∀ d ∈ empty, isBreak d = true) (unbroken : ∀ d ∈ c :: line, isBreak d = false)
    (breaking : isBreak b = true) :
    Reads chomping indent (fuel + 1)
      (empty ++ (List.replicate indent ' ' ++ (c :: line ++ b :: after)))
      (fun before => before ++ (empty ++ c :: line) ++ value [b]) next := by
  rcases reads with ⟨emptyMore, column, rest, leads, reads⟩
  rcases leads 0 with ⟨most', lead⟩
  refine ⟨empty, indent, c :: line ++ b :: after, fun most => ?_, fun before spaced most => ?_⟩
  · apply readLead_breaks most breakings
    · intro passed earlier
      simpa using earlier
    · intro d head
      obtain rfl : c = d := by simpa using head
      exact ⟨unbroken c List.mem_cons_self, by simp⟩
  · rw [readLines_succ unbroken breaking lead, reads]
    simp [Except.map]

/-- The lines of a block that end in breaks are read as they were written. -/
theorem reads_literalLines (chomping : Chomping) {fuel : Nat} (outside : Outside indent tail next)
    (ended : ∀ c ∈ body.getLast?, isBreak c = false) (breaking : ∀ c ∈ breaks, isBreak c = true)
    (closed : body ≠ [] → breaks ≠ []) (long : body.length < fuel) :
    Reads chomping indent fuel (literalLines indent true (body ++ breaks) ++ tail)
      (joined chomping body breaks) next := by
  induction fuel generalizing body breaks with
  | zero => exact absurd long (Nat.not_lt_zero _)
  | succ fuel inductionHypothesis =>
    rcases exists_stretch isBreak body with ⟨empty, lines, rfl, breakings, unbroken⟩
    cases lines with
    | nil =>
      have none : empty = [] := by
        by_contra some
        rw [List.append_nil] at ended
        have last := ended _ (List.getLast?_eq_some_getLast some)
        simp [breakings _ (List.getLast_mem some)] at last
      subst none
      have written : literalLines indent true breaks = breaks := by
        simpa [literalLines] using literalLines_breaks indent breaking []
      rw [List.append_nil, List.nil_append, written]
      exact reads_outside breaking outside
    | cons c lines =>
      -- The line goes on to its break, which the lines after it are read with.
      rcases exists_line (unbroken c rfl) lines with ⟨line, later, rfl, solid, broken⟩
      rw [← List.cons_append, ← List.append_assoc] at ended closed long ⊢
      have front : empty ++ c :: line ≠ [] := by simp
      rcases exists_break chomping front ended broken breaking (closed (by simp)) with
        ⟨b, body, breaks', following, breakingFirst, endedMore, breakingMore, closedMore, shorter,
          joins⟩
      have reads := inductionHypothesis endedMore breakingMore closedMore
        (by simp at long; omega)
      have written : literalLines indent true (empty ++ c :: line ++ later ++ breaks) ++ tail =
          empty ++ (List.replicate indent ' ' ++
            (c :: line ++ b :: (literalLines indent true (body ++ breaks') ++ tail))) := by
        rw [List.append_assoc _ later, following, List.append_assoc,
          literalLines_breaks indent breakings, List.cons_append,
          literalLines_indented (unbroken c rfl), ← List.cons_append, literalLines_line solid,
          literalLines, breakingFirst]
        simp
      rw [written, funext joins]
      exact reads.with_line breakings solid breakingFirst

/-! ## Headers -/

/-- The mark of a chomping. -/
def markOf : Chomping → List Char
  | .strip => ['-']
  | .clip => []
  | .keep => ['+']

/-- The header is read, whether it tells the indentation or not. -/
theorem readIndicators_header (chomping : Chomping) (told : Bool) (rest : List Char) :
    readIndicators ((if told then ['2'] else []) ++ markOf chomping ++ '\n' :: rest) =
      .ok (⟨chomping, if told then some 2 else none⟩, '\n' :: rest) := by
  cases told <;> cases chomping <;> rfl

theorem exists_body (cs : List Char) :
    ∃ body breaks, cs = body ++ breaks ∧ (∀ c ∈ body.getLast?, isBreak c = false) ∧
      ∀ c ∈ breaks, isBreak c = true := by
  rcases exists_stretch isBreak cs.reverse with ⟨run, rest, split, breaking, other⟩
  refine ⟨rest.reverse, run.reverse, ?_, ?_, ?_⟩
  · rw [← List.reverse_append, ← split, List.reverse_reverse]
  · simpa using other
  · simpa using breaking

/-- All breaks are kept where there is more than the one after the last line. -/
theorem chompingMark_keep {front : List Char} (breaking : ∀ c ∈ breaks, isBreak c = true)
    (many : breaks ≠ []) (more : front = [] ∨ 2 ≤ breaks.length) :
    chompingMark (front ++ breaks) = ['+'] := by
  have reversed : ∀ c ∈ breaks.reverse, isBreak c = true := by simpa using breaking
  unfold chompingMark
  rw [List.reverse_append]
  match last : breaks.reverse, reversed with
  | [], _ => simp [many] at last
  | [b], reversed =>
    have single : breaks.length = 1 := by simpa using congrArg List.length last
    rcases more with rfl | many
    · simp [reversed b List.mem_cons_self]
    · omega
  | b :: b' :: earlier, reversed =>
    simp [reversed b List.mem_cons_self, reversed b' (List.mem_cons_of_mem b List.mem_cons_self)]

/-- The header says what becomes of the breaks that the lines end in, so that they come to the text
as it was. -/
theorem exists_chomping (some : cs ≠ []) (indent : Nat) :
    ∃ chomping body breaks, chompingMark cs = markOf chomping ∧
      literalLines indent true cs = literalLines indent true (body ++ breaks) ∧
      joined chomping body breaks [] = cs ∧ (∀ c ∈ body.getLast?, isBreak c = false) ∧
      (∀ c ∈ breaks, isBreak c = true) ∧ (body ≠ [] → breaks ≠ []) := by
  rcases exists_body cs with ⟨body, breaks, rfl, ended, breaking⟩
  obtain rfl | ⟨front, c, rfl⟩ : body = [] ∨ ∃ front c, body = front ++ [c] := by
    simpa using List.eq_nil_or_concat body
  · have many : breaks ≠ [] := some
    exact ⟨.keep, [], breaks, chompingMark_keep breaking many (.inl rfl), rfl,
      by simp [joined, chomp], nofun, breaking, nofun⟩
  · have solid := ended c (by simp)
    match breaks, breaking with
    | [], _ =>
      rw [List.append_nil]
      refine ⟨.strip, front ++ [c], ['\n'], ?_, literalLines_concat solid front true, ?_, ended,
        by simp [isBreak], by simp⟩
      · cases earlier : front.reverse <;> simp [chompingMark, earlier, solid, markOf]
      · simp [joined, chomp]
    | [b], breaking =>
      refine ⟨.clip, front ++ [c], [b], ?_, rfl, by simp [joined, chomp], ended, breaking, by simp⟩
      have here := breaking b List.mem_cons_self
      simp [chompingMark, here, solid, markOf]
    | b :: b' :: breaks, breaking =>
      exact ⟨.keep, front ++ [c], b :: b' :: breaks,
        chompingMark_keep breaking (List.cons_ne_nil b _) (.inr (by simp)), rfl,
        by simp [joined, chomp], ended, breaking, by simp⟩

/-! ## Blocks -/

/-- A first line that begins with no gap shows how far the lines are indented. -/
theorem readLead_shown {c : Char} (solid : isGap c = false) (indented : indent ≠ 0)
    (within : ∀ passed < indent, limit.all (passed < ·) = true) (cs tail : List Char) :
    readLead limit 0 0 (literalLines indent true (c :: cs) ++ tail) =
      .ok ⟨[], indent, indent, c :: literalLines indent false cs ++ tail⟩ := by
  have unbroken := isBreak_of_not_isGap solid
  have space := isSpace_of_not_isGap solid
  have written : literalLines indent true (c :: cs) ++ tail =
      List.replicate indent ' ' ++ (c :: literalLines indent false cs ++ tail) := by
    rw [literalLines_indented unbroken, literalLines, unbroken]
    simp
  have lead : readLead limit 0 0 (List.replicate indent ' ' ++
      (c :: literalLines indent false cs ++ tail)) =
        .ok ⟨[], 0 + indent, if indent = 0 then 0 else max 0 (0 + indent),
          c :: literalLines indent false cs ++ tail⟩ := by
    apply readLead_spaces
    · simpa using within
    · simp [unbroken, space]
  rw [written, lead, if_neg indented, Nat.zero_add, Nat.zero_max]

theorem length_le_literalLines (indent : Nat) (broken : Bool) (cs : List Char) :
    cs.length ≤ (literalLines indent broken cs).length := by
  induction cs generalizing broken with
  | nil => simp
  | cons c cs inductionHypothesis =>
    rw [literalLines]
    split
    · simpa using inductionHypothesis true
    · have onward := inductionHypothesis false
      simp only [List.length_append, List.length_cons]
      omega

/-- What can be a literal block and begins with no edge begins with no gap. -/
theorem isGap_of_fits {c : Char} (fits : fitsLiteral (c :: cs) = true)
    (told : (c :: cs).head?.any isEdge = false) : isGap c = false := by
  have printable : isPrintable c = true := by
    simp only [fitsLiteral, hasSpecial, List.any_cons, Bool.not_eq_true', Bool.or_eq_false_iff,
      Bool.not_eq_false'] at fits
    exact fits.1.1.1
  exact (isGap_of_isPrintable printable).trans told

/-- A block is read up to what stands left of its lines. -/
theorem read_of_fits {margin : Nat} (indented : margin ≠ 0) (fits : fitsLiteral cs = true)
    (some : cs ≠ []) (outside : Outside (margin + 1) tail next) :
    read .literal margin
      ((literalHeader cs).tail ++ literalLines (margin + 1) true cs ++ tail) = .ok (cs, next) := by
  rcases exists_chomping some (margin + 1) with
    ⟨chomping, body, breaks, mark, lines, joins, ended, breaking, closed⟩
  have header : ∀ rest, readIndicators ((literalHeader cs).tail ++ rest) =
      .ok (⟨chomping, if cs.head?.any isEdge then Option.some 2 else none⟩, '\n' :: rest) := by
    intro rest
    rw [← readIndicators_header, literalHeader, mark]
    simp
  have skip : ∀ rest, skipLineEnd ('\n' :: rest) = .ok rest := by
    intro rest
    have space : isSpace '\n' = false := by decide
    have feed : isBreak '\n' = true := by decide
    simp [skipLineEnd, space, feed]
  have long : body.length < (literalLines (margin + 1) true cs ++ tail).length + 1 := by
    have written := length_le_literalLines (margin + 1) true (body ++ breaks)
    simp only [lines, List.length_append] at written ⊢
    omega
  rcases reads_literalLines chomping outside ended breaking closed long with
    ⟨empty, column, rest, leads, reads⟩
  rw [← lines] at leads
  rcases leads 0 with ⟨most, lead⟩
  rw [List.append_assoc, read, header]
  simp only [bind, Except.bind, skip]
  -- The header tells the indentation, or the first line shows the same one.
  cases told : cs.head?.any isEdge with
  | true =>
    have known : margin - 1 + 2 = margin + 1 := by omega
    simp only [if_true, Option.map_some, known, lead, Option.getD_some]
    rw [reads, joins]
  | false =>
    cases cs with
    | nil => exact absurd rfl some
    | cons c cs =>
      have solid := isGap_of_fits fits told
      have within : ∀ passed < margin + 1, (Option.some (margin + 1)).all (passed < ·) = true := by
        simp
      have shown := readLead_shown solid (Nat.succ_ne_zero margin) within cs tail
      have untold := readLead_shown solid (Nat.succ_ne_zero margin)
        (fun passed earlier => (rfl : Option.all _ none = true)) cs tail
      have same := shown.symm.trans lead
      simp only [Except.ok.injEq, Lead.mk.injEq] at same
      rcases same with ⟨rfl, rfl, rfl, rfl⟩
      have indent : max (max (margin + 1) margin) 1 = margin + 1 := by omega
      simp only [Bool.false_eq_true, if_false, Option.map_none, untold, Option.getD_none, indent]
      rw [reads, joins]

end Steward.Yaml.Block

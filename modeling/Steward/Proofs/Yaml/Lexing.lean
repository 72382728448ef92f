import Steward.Proofs.Yaml.Literal
import Steward.Proofs.Yaml.Plain
import Steward.Proofs.Yaml.Quoted
import Steward.Yaml.Lexer

/-!
# Steps of the lexer in block layout

Outside of brackets, and where nothing may have become a key, the lexer knows
its place by what is left of the text, the column and the margins.  What the
lexer gives from such a place on is what it gives from the next one.
-/

namespace Steward.Yaml.Lexer

variable {rest front more : List Char} {line column margin fuel count : Nat} {outer : List Nat}
  {tokens given : List Token} {allowed : Bool} {lexer next : Lexer}

/-! ## Moving -/

theorem columnAfter_append (column : Nat) (front back : List Char) :
    columnAfter column (front ++ back) = columnAfter (columnAfter column front) back := by
  induction front generalizing column with
  | nil => rfl
  | cons c front inductionHypothesis => exact inductionHypothesis _

theorem columnAfter_of_unbroken (unbroken : ∀ c ∈ front, isBreak c = false) (column : Nat) :
    columnAfter column front = column + front.length := by
  induction front generalizing column with
  | nil => rfl
  | cons c front inductionHypothesis =>
    have here := unbroken c List.mem_cons_self
    rw [columnAfter, here, inductionHypothesis fun d member =>
      unbroken d (List.mem_cons_of_mem c member)]
    simp only [Bool.false_eq_true, if_false, List.length_cons]
    omega

theorem columnAfter_spaces (column count : Nat) :
    columnAfter column (List.replicate count ' ') = column + count := by
  have unbroken : ∀ c ∈ List.replicate count ' ', isBreak c = false := by
    intro c member
    rw [List.eq_of_mem_replicate member]
    rfl
  rw [columnAfter_of_unbroken unbroken, List.length_replicate]

/-- Spaces after a line break begin a line. -/
theorem columnAfter_break {c : Char} (breaking : isBreak c = true) (column : Nat)
    (front : List Char) (count : Nat) :
    columnAfter column (front ++ c :: List.replicate count ' ') = count := by
  rw [columnAfter_append, columnAfter, breaking, if_pos rfl, columnAfter_spaces, Nat.zero_add]

theorem moveTo_of_append (split : lexer.rest = front ++ rest) :
    lexer.moveTo rest = { lexer with
      rest := rest
      line := lexer.line + breaksIn front
      column := columnAfter lexer.column front } := by
  have passed : lexer.rest.take (lexer.rest.length - rest.length) = front := by
    simp [split]
  rw [moveTo, passed]

theorem moveTo_rest (lexer : Lexer) : lexer.moveTo lexer.rest = lexer :=
  moveTo_of_append (List.nil_append lexer.rest).symm

/-! ## Going on to a token -/

/-- What is left begins with a token, or nothing is left. -/
def Begins (rest : List Char) : Prop :=
  ∀ c ∈ rest.head?, isGap c = false ∧ c ≠ '#'

theorem begins_cons {c : Char} : Begins (c :: rest) ↔ isGap c = false ∧ c ≠ '#' := by
  simp [Begins]

theorem Begins.isSolid (begins : Begins rest) : IsSolid rest :=
  fun c first => (begins c first).1

theorem skipSpaces_spaces (begins : Begins rest) (tabs : Bool) (count : Nat) :
    skipSpaces tabs (List.replicate count ' ' ++ rest) = rest := by
  have spaces : ∀ c ∈ List.replicate count ' ', (c == ' ' || (tabs && c == '\t')) = true := by
    intro c member
    rw [List.eq_of_mem_replicate member]
    rfl
  rw [skipSpaces, List.dropWhile_append_of_pos spaces]
  cases rest with
  | nil => rfl
  | cons c rest =>
    rcases begins c rfl with ⟨solid, comment⟩
    have space := isSpace_of_not_isGap solid
    simp only [isSpace, Bool.or_eq_false_iff] at space
    simp [space, comment]

/-- Spaces before a token are passed over. -/
theorem toToken_spaces (count : Nat) (begins : Begins rest)
    (split : lexer.rest = List.replicate count ' ' ++ rest) :
    toToken (fuel + 1) lexer = lexer.moveTo rest := by
  rw [toToken, split, skipSpaces_spaces begins]
  have left : (lexer.moveTo rest).rest = rest := rfl
  simp only [left]
  cases rest with
  | nil => rfl
  | cons c rest =>
    have unbroken := isBreak_of_not_isGap (begins c rfl).1
    simp [unbroken]

theorem toToken_of_begins (begins : Begins lexer.rest) : toToken (fuel + 1) lexer = lexer := by
  rw [toToken_spaces 0 begins rfl, moveTo_rest]

/-- A line break is passed over. -/
theorem toToken_break (outside : lexer.inFlow = false) (split : lexer.rest = '\n' :: more) :
    toToken (fuel + 1) lexer = toToken fuel ((lexer.moveTo more).allowKey true) := by
  have feed : isBreak '\n' = true := by decide
  have skip : ∀ tabs, skipSpaces tabs ('\n' :: more) = '\n' :: more := by
    simp [skipSpaces]
  have same : lexer.moveTo ('\n' :: more) = lexer := by
    rw [← split, moveTo_rest]
  rw [toToken, split, skip, same]
  simp [split, feed, outside]

/-! ## Places -/

/-- The place where `rest` is left of a text, outside of brackets and where nothing may have become
a key. -/
def place (rest : List Char) (line column : Nat) (tokens : List Token) (margin : Nat)
    (outer : List Nat) (allowed : Bool) : Lexer :=
  { start rest with
    line := line
    column := column
    tokens := tokens
    margin := margin
    outerMargins := outer
    keyAllowed := allowed }

theorem moveTo_place (front rest : List Char) :
    (place (front ++ rest) line column tokens margin outer allowed).moveTo rest =
      place rest (line + breaksIn front) (columnAfter column front) tokens margin outer
        allowed := by
  rw [moveTo_of_append rfl]
  rfl

theorem allowKey_place (now : Bool) :
    (place rest line column tokens margin outer allowed).allowKey now =
      place rest line column tokens margin outer now :=
  rfl

theorem breaksIn_spaces (count : Nat) : breaksIn (List.replicate count ' ') = 0 := by
  have blank : isBreak ' ' = false := by decide
  simp [breaksIn, blank]

/-- The end of a line is passed over, and a key may begin on the next. -/
theorem toToken_line (begins : Begins rest) :
    toToken (fuel + 2)
        (place ('\n' :: (List.replicate count ' ' ++ rest)) line column tokens margin outer
          allowed) =
      place rest (line + 1) count tokens margin outer true := by
  have feed : (place ('\n' :: (List.replicate count ' ' ++ rest)) line column tokens margin outer
      allowed).moveTo (List.replicate count ' ' ++ rest) =
        place (List.replicate count ' ' ++ rest) (line + 1) 0 tokens margin outer allowed :=
    moveTo_place ['\n'] _
  rw [toToken_break rfl rfl, feed, allowKey_place, toToken_spaces count begins rfl, moveTo_place,
    breaksIn_spaces, columnAfter_spaces, Nat.add_zero, Nat.zero_add]

/-! ## Steps -/

/-- Reads the token at the place, or the end. -/
def here (lexer : Lexer) : Except Malformed Lexer :=
  match lexer.rest with
  | [] => lexer.streamEnd
  | c :: rest => lexer.token c rest

theorem step_eq (moved : toToken (lexer.rest.length + 1) lexer = next)
    (kept : next.dropStaleKeys = .ok next) : lexer.step = (next.unroll next.column).here := by
  rw [step, moved, kept]
  rfl

theorem dropStaleKeys_place :
    (place rest line column tokens margin outer allowed).dropStaleKeys =
      .ok (place rest line column tokens margin outer allowed) :=
  rfl

/-- No block ends where the margin is kept. -/
theorem unroll_of_inside (inside : lexer.margin ≤ column + 1) : lexer.unroll column = lexer := by
  have kept : ∀ outer, endBlocks column lexer.margin outer = (lexer.margin, outer, 0) := by
    intro outer
    cases outer with
    | nil => rfl
    | cons next outer => rw [endBlocks, if_neg (by omega)]
  unfold unroll
  split
  · rfl
  · rw [kept]
    rfl

/-- The step at a place where a token begins. -/
theorem step_place (begins : Begins rest) :
    (place rest line column tokens margin outer allowed).step =
      ((place rest line column tokens margin outer allowed).unroll column).here :=
  step_eq (toToken_of_begins begins) dropStaleKeys_place

/-- At the end of a line the step is the one on the next line. -/
theorem step_line (begins : Begins rest) :
    (place ('\n' :: (List.replicate count ' ' ++ rest)) line column tokens margin outer
        allowed).step =
      (place rest (line + 1) count tokens margin outer true).step := by
  rw [step_place begins]
  exact step_eq (toToken_line begins) dropStaleKeys_place

/-! ## What a lexer gives -/

/-- The lexer gives the tokens when it reads on to the end. -/
def Gives (lexer : Lexer) (given : List Token) : Prop :=
  ∀ fuel, lexer.rest.length + 2 ≤ fuel → lexer.steps fuel = .ok given

theorem Gives.of_step (gives : next.Gives given) (unfinished : lexer.finished = false)
    (stepped : lexer.step = .ok next) (shorter : next.rest.length < lexer.rest.length) :
    lexer.Gives given := by
  intro fuel enough
  obtain ⟨fuel, rfl⟩ : ∃ less, fuel = less + 1 := ⟨fuel - 1, by omega⟩
  rw [steps, unfinished, stepped]
  exact gives fuel (by omega)

theorem Gives.of_step_eq (gives : next.Gives given) (unfinished : lexer.finished = false)
    (unfinishedNext : next.finished = false) (same : lexer.step = next.step)
    (shorter : next.rest.length ≤ lexer.rest.length) : lexer.Gives given := by
  intro fuel enough
  have read := gives fuel (by omega)
  obtain ⟨fuel, rfl⟩ : ∃ less, fuel = less + 1 := ⟨fuel - 1, by omega⟩
  rw [steps, unfinishedNext] at read
  rw [steps, unfinished, same]
  exact read

/-- A line that has ended gives what the next one gives. -/
theorem gives_line (begins : Begins rest)
    (gives : (place rest (line + 1) count tokens margin outer true).Gives given) :
    (place ('\n' :: (List.replicate count ' ' ++ rest)) line column tokens margin outer
      allowed).Gives given := by
  apply gives.of_step_eq rfl rfl (step_line begins)
  simp only [place, start, List.length_cons, List.length_append]
  omega

/-! ## Keys -/

theorem isSolid_of_fits {c : Char} {cs : List Char} (fits : Emit.fitsPlain (c :: cs) = true) :
    isGap c = false :=
  (Plain.isWords_of_fits fits).head c rfl

/-- What begins a plain scalar is not taken for a mark of its own. -/
theorem atGap_of_fits {c : Char} {cs : List Char} (fits : Emit.fitsPlain (c :: cs) = true)
    (text : List Char) {mark : Char} (special : mark = '-' ∨ mark = '?' ∨ mark = ':') :
    (c == mark && atGap (cs ++ text)) = false := by
  have begins := Plain.beginsOtherwise_of_fits fits
  simp only [Emit.beginsOtherwise, Bool.or_eq_false_iff] at begins
  cases same : c == mark with
  | false => rfl
  | true =>
    obtain rfl := eq_of_beq same
    have gap : atGap cs = false := by
      rcases special with rfl | rfl | rfl <;> simpa using begins.2
    cases cs with
    | nil => exact absurd gap (by decide)
    | cons d cs => exact gap

/-- The indicators, apart from those that begin a plain scalar where no gap follows. -/
theorem isIndicator_eq (c : Char) :
    isIndicator c = (c == '-' || c == '?' || c == ':' || Emit.isOpening c) := by
  have listed : "-?:,[]\x7b\x7d#&*!|>'\"%@\x60".toList =
      ['-', '?', ':', ',', '[', ']', '\x7b', '\x7d', '#', '&', '*', '!', '|', '>', '\'', '"', '%',
        '@', '\x60'] := by
    decide
  have opening : "#,[]\x7b\x7d&*!|>'\"%@\x60".toList =
      ['#', ',', '[', ']', '\x7b', '\x7d', '&', '*', '!', '|', '>', '\'', '"', '%', '@',
        '\x60'] := by
    decide
  simp only [isIndicator, Emit.isOpening, listed, opening, List.contains_cons, List.contains_nil]
  grind

theorem startsPlain_of_fits {c : Char} {cs : List Char} (fits : Emit.fitsPlain (c :: cs) = true)
    (text : List Char) : startsPlain false c (cs ++ text) = true := by
  have begins := Plain.beginsOtherwise_of_fits fits
  simp only [Emit.beginsOtherwise, Bool.or_eq_false_iff] at begins
  by_cases special : c = '-' ∨ c = '?' ∨ c = ':'
  · have far : atGap (cs ++ text) = false := by
      simpa using atGap_of_fits fits text special
    have unspaced : (cs ++ text).head?.any isSpace = false := by
      cases following : cs ++ text with
      | nil => rfl
      | cons d more =>
        rw [following] at far
        exact isSpace_of_not_isGap far
    rw [startsPlain, far, unspaced]
    rcases special with rfl | rfl | rfl <;> simp
  · rw [not_or, not_or] at special
    have usual : isIndicator c = false := by
      simp [isIndicator_eq, special, begins.1.2]
    simp [startsPlain, isSolid_of_fits fits, usual]

/-- A plain scalar is read where one fits. -/
theorem token_of_fits {c : Char} {cs text : List Char} (outside : lexer.inFlow = false)
    (fits : Emit.fitsPlain (c :: cs) = true) (after : ∀ d ∈ text.head?, d ≠ '-' ∧ d ≠ '.') :
    lexer.token c (cs ++ text) = lexer.plainScalar := by
  have unmarked : atDocumentMark (c :: (cs ++ text)) = false :=
    Plain.atDocumentMark_of_fits fits after
  have entry := atGap_of_fits fits text (.inl rfl)
  have marked := atGap_of_fits fits text (.inr (.inl rfl))
  have colon := atGap_of_fits fits text (.inr (.inr rfl))
  have starts := startsPlain_of_fits fits text
  have begins := Plain.beginsOtherwise_of_fits fits
  simp only [Emit.beginsOtherwise, Bool.or_eq_false_iff] at begins
  have other : ∀ {d : Char}, Emit.isOpening d = true → (c == d) = false := by
    intro d opening
    rw [beq_eq_false_iff_ne]
    rintro rfl
    rw [begins.1.2] at opening
    exact absurd opening Bool.false_ne_true
  simp only [token, unmarked, outside, entry, marked, colon, starts, Bool.and_false, Bool.false_or,
    other (d := '%') (by decide), other (d := '[') (by decide), other (d := ']') (by decide),
    other (d := '\x7b') (by decide), other (d := '\x7d') (by decide), other (d := ',') (by decide),
    other (d := '*') (by decide), other (d := '&') (by decide), other (d := '!') (by decide),
    other (d := '|') (by decide), other (d := '>') (by decide), other (d := '\'') (by decide),
    other (d := '"') (by decide), Bool.false_and, Bool.false_eq_true, if_false, if_true]

section Keys

variable {name after : List Char}

/-- The place after a name that may become a key. -/
def atColon (name after : List Char) (line column : Nat) (tokens : List Token) (margin : Nat)
    (outer : List Nat) : Lexer :=
  { place (':' :: after) line (column + name.length) (.scalar .plain (String.ofList name) :: tokens)
      margin outer false with
    keyStart := some ⟨tokens.length, line, column, margin == column + 1⟩ }

theorem begins_of_fits (fits : Emit.fitsPlain name = true) (text : List Char) :
    Begins (name ++ text) := by
  cases name with
  | nil => exact absurd rfl (Plain.ne_nil_of_fits fits)
  | cons c name =>
    have begins := Plain.beginsOtherwise_of_fits fits
    simp only [Emit.beginsOtherwise, Bool.or_eq_false_iff] at begins
    intro d first
    obtain rfl : c = d := by simpa using first
    constructor
    · exact isSolid_of_fits fits
    · rintro rfl
      exact absurd begins.1.2 (by decide)

theorem here_of_fits (outside : lexer.inFlow = false) (fits : Emit.fitsPlain name = true)
    (split : lexer.rest = name ++ after) (stop : ∀ d ∈ after.head?, d ≠ '-' ∧ d ≠ '.') :
    lexer.here = lexer.plainScalar := by
  cases name with
  | nil => exact absurd rfl (Plain.ne_nil_of_fits fits)
  | cons c name =>
    rw [here, split]
    exact token_of_fits outside fits stop

theorem plainScalar_eq {reading : Plain.Reading} (noted : lexer.noteKey = .ok next)
    (read : Plain.read next.inFlow next.margin next.column next.rest = .ok reading) :
    lexer.plainScalar = .ok (((next.allowKey reading.broken).moveTo reading.rest).add
      (.scalar .plain (String.ofList reading.text))) := by
  simp only [plainScalar, noted, bind, Except.bind, read]
  rfl

/-- A name may become a key. -/
theorem step_name (fits : Emit.fitsPlain name = true) (spaced : atGap after = true)
    (inside : margin ≤ column + 1) :
    (place (name ++ ':' :: after) line column tokens margin outer true).step =
      .ok (atColon name after line column tokens margin outer) := by
  have unbroken := (Plain.isFit_of_fits fits).unbroken
  have stay : breaksIn name = 0 := by
    simpa [breaksIn, List.countP_eq_zero] using unbroken
  let noted : Lexer := { place (name ++ ':' :: after) line column tokens margin outer true with
    keyStart := some ⟨tokens.length, line, column, margin == column + 1⟩ }
  have note : (place (name ++ ':' :: after) line column tokens margin outer true).noteKey =
      .ok noted :=
    rfl
  have moved : (noted.allowKey false).moveTo (':' :: after) =
      { noted.allowKey false with rest := ':' :: after, column := column + name.length } := by
    have split : (noted.allowKey false).rest = name ++ ':' :: after := rfl
    rw [moveTo_of_append split, stay]
    simp [noted, allowKey, place, columnAfter_of_unbroken unbroken]
  have read : Plain.read noted.inFlow noted.margin noted.column noted.rest =
      .ok ⟨name, ':' :: after, false⟩ :=
    Plain.read_of_fits fits inside (.colon spaced)
  rw [step_place (begins_of_fits fits _), unroll_of_inside inside]
  rw [here_of_fits rfl fits rfl (by simp), plainScalar_eq note read, moved]
  rfl

/-- A name that is not too long can still become a key at the colon after it. -/
theorem dropStaleKeys_atColon (short : name.length ≤ 1024) :
    (atColon name after line column tokens margin outer).dropStaleKeys =
      .ok (atColon name after line column tokens margin outer) := by
  have fresh : (atColon name after line column tokens margin outer).isStale
      ⟨tokens.length, line, column, margin == column + 1⟩ = false := by
    simp [isStale, atColon, place, start]
    omega
  have kept : (atColon name after line column tokens margin outer).dropStale
      (some ⟨tokens.length, line, column, margin == column + 1⟩) =
        .ok (some ⟨tokens.length, line, column, margin == column + 1⟩) := by
    simp [dropStale, fresh]
  have noted : (atColon name after line column tokens margin outer).keyStart =
      some ⟨tokens.length, line, column, margin == column + 1⟩ :=
    rfl
  rw [dropStaleKeys, noted, kept]
  rfl

theorem here_atColon (spaced : atGap after = true) :
    (atColon name after line column tokens margin outer).here =
      (atColon name after line column tokens margin outer).value := by
  have unmarked : atDocumentMark (':' :: after) = false := by simp [atDocumentMark]
  change Lexer.token _ ':' after = _
  simp [token, unmarked, spaced]

/-- A name before a colon is a key. -/
theorem step_colon (spaced : atGap after = true) (short : name.length ≤ 1024)
    (inside : margin ≤ column + 1) :
    (atColon name after line column tokens margin outer).step =
      .ok (place after line (column + name.length + 1)
        (.value :: .scalar .plain (String.ofList name) ::
          ((if margin < column + 1 then [.key, .blockMappingStart] else [.key]) ++ tokens))
        (column + 1) (if margin < column + 1 then margin :: outer else outer) false) := by
  have begins : Begins (atColon name after line column tokens margin outer).rest := by
    intro c first
    obtain rfl : ':' = c := by simpa [atColon, place, start] using first
    decide
  have inside' : (atColon name after line column tokens margin outer).margin ≤
      (atColon name after line column tokens margin outer).column + 1 := by
    change margin ≤ column + name.length + 1
    omega
  rw [step_eq (toToken_of_begins begins) (dropStaleKeys_atColon short), unroll_of_inside inside',
    here_atColon spaced]
  have unbroken : isBreak ':' = false := by decide
  have after' : columnAfter (column + name.length) [':'] = column + name.length + 1 := rfl
  -- The first key of a block begins the block, in front of tokens that are already there.
  by_cases deeper : margin < column + 1
  · simp [value, atColon, beginsBlock, insert, deeper, place, start, indent, allowKey, skip, moveTo,
      add, inFlow, breaksIn, unbroken, after']
  · have same : margin = column + 1 := by omega
    simp [value, atColon, beginsBlock, insert, place, start, allowKey, skip, moveTo, add, inFlow,
      breaksIn, unbroken, after', same]

/-- A key is given with the beginning of its block, if it is the first there. -/
theorem gives_key (fits : Emit.fitsPlain name = true) (short : name.length ≤ 1024)
    (spaced : atGap after = true) (inside : margin ≤ column + 1)
    (gives : (place after line (column + name.length + 1)
      (.value :: .scalar .plain (String.ofList name) ::
        ((if margin < column + 1 then [.key, .blockMappingStart] else [.key]) ++ tokens))
      (column + 1) (if margin < column + 1 then margin :: outer else outer) false).Gives given) :
    (place (name ++ ':' :: after) line column tokens margin outer true).Gives given := by
  have passed : after.length < (':' :: after).length := by simp
  have named := gives.of_step rfl (step_colon spaced short inside) passed
  apply named.of_step rfl (step_name fits spaced inside)
  have some : 0 < name.length := List.length_pos_iff.2 (Plain.ne_nil_of_fits fits)
  simp only [atColon, place, start, List.length_append]
  omega

end Keys

/-! ## Values -/

section Values

variable {cs written : List Char}

/-- After a space comes the token of a value. -/
theorem step_value (begins : Begins rest) (inside : margin ≤ column + 2) :
    (place (' ' :: rest) line column tokens margin outer allowed).step =
      (place rest line (column + 1) tokens margin outer allowed).here := by
  have moved : toToken ((' ' :: rest).length + 1)
      (place (' ' :: rest) line column tokens margin outer allowed) =
        place rest line (column + 1) tokens margin outer allowed := by
    have one : (place (' ' :: rest) line column tokens margin outer allowed).rest =
        List.replicate 1 ' ' ++ rest :=
      rfl
    rw [toToken_spaces 1 begins one]
    exact moveTo_place [' '] rest
  rw [step_eq moved dropStaleKeys_place]
  rw [unroll_of_inside (show margin ≤ column + 1 + 1 from inside)]

theorem noteKey_place :
    (place rest line column tokens margin outer false).noteKey =
      .ok (place rest line column tokens margin outer false) :=
  rfl

theorem gives_value (begins : Begins written) (inside : margin ≤ column + 2)
    (stepped : (place written line (column + 1) tokens margin outer allowed).here = .ok next)
    (shorter : next.rest.length ≤ written.length) (gives : next.Gives given) :
    (place (' ' :: written) line column tokens margin outer allowed).Gives given := by
  apply gives.of_step rfl ((step_value begins inside).trans stepped)
  simpa [place, start] using Nat.lt_succ_of_le shorter

/-- A plain value is read up to what begins on the next line. -/
theorem here_plain (fits : Emit.fitsPlain cs = true) (begins : Begins rest)
    (inside : margin ≤ column + 1) (outside : count < margin) :
    (place (cs ++ '\n' :: (List.replicate count ' ' ++ rest)) line column tokens margin outer
      false).here =
        .ok (place rest (line + breaksIn (cs ++ '\n' :: List.replicate count ' ')) count
          (.scalar .plain (String.ofList cs) :: tokens) margin outer true) := by
  have read := Plain.read_of_fits fits inside (.line outside begins.isSolid)
  have split : cs ++ '\n' :: (List.replicate count ' ' ++ rest) =
      (cs ++ '\n' :: List.replicate count ' ') ++ rest := by
    simp
  rw [here_of_fits rfl fits rfl (by simp), plainScalar_eq noteKey_place read, split, allowKey_place,
    moveTo_place, columnAfter_break (by decide)]
  rfl

theorem quotedScalar_eq {style : Style}
    {read : List Char → Except Malformed (List Char × List Char)} (noted : lexer.noteKey = .ok next)
    (whole : read (next.rest.drop 1) = .ok (cs, rest)) :
    lexer.quotedScalar style read = .ok (((next.allowKey false).moveTo rest).add
      (.scalar style (String.ofList cs))) := by
  simp only [quotedScalar, noted, bind, Except.bind, whole]
  rfl

theorem blockScalar_eq {style : Style} (forgotten : lexer.forgetKey = .ok next)
    (whole : Block.read style next.margin (next.rest.drop 1) = .ok (cs, rest)) :
    lexer.blockScalar style = .ok (((next.allowKey true).moveTo rest).add
      (.scalar style (String.ofList cs))) := by
  simp only [blockScalar, forgotten, bind, Except.bind, whole]
  rfl

/-- A text between single quotes is read up to its closing quote. -/
theorem here_singleQuoted {indent : Nat} (indented : indent ≠ 0)
    (fits : Emit.fitsSingleQuotes cs = true) (feeds : '\n' ∉ cs)
    (other : ∀ c ∈ rest.head?, c ≠ '\'') :
    ∃ line' column', (place (Emit.singleQuoted indent cs ++ rest) line column tokens margin outer
      false).here = .ok (place rest line' column'
        (.scalar .singleQuoted (String.ofList cs) :: tokens) margin outer false) := by
  have quoted : (place (Emit.singleQuoted indent cs ++ rest) line column tokens margin outer
      false).here = (place (Emit.singleQuoted indent cs ++ rest) line column tokens margin outer
        false).quotedScalar .singleQuoted SingleQuoted.read := by
    change Lexer.token _ '\'' _ = _
    simp [token, atDocumentMark, place, start, inFlow]
  have whole : SingleQuoted.read ((Emit.singleQuoted indent cs ++ rest).drop 1) =
      .ok (cs, rest) := by
    simpa [Emit.singleQuoted] using SingleQuoted.read_of_fits indented fits feeds other
  rw [quoted, quotedScalar_eq noteKey_place whole, allowKey_place, moveTo_place]
  exact ⟨_, _, rfl⟩

/-- A text between double quotes is read up to its closing quote. -/
theorem here_doubleQuoted (cs : List Char) :
    ∃ line' column', (place (Emit.doubleQuoted cs ++ rest) line column tokens margin outer
      false).here = .ok (place rest line' column'
        (.scalar .doubleQuoted (String.ofList cs) :: tokens) margin outer false) := by
  have quoted : (place (Emit.doubleQuoted cs ++ rest) line column tokens margin outer
      false).here = (place (Emit.doubleQuoted cs ++ rest) line column tokens margin outer
        false).quotedScalar .doubleQuoted DoubleQuoted.read := by
    change Lexer.token _ '"' _ = _
    simp [token, atDocumentMark, place, start, inFlow]
  have whole : DoubleQuoted.read ((Emit.doubleQuoted cs ++ rest).drop 1) = .ok (cs, rest) := by
    simpa [Emit.doubleQuoted] using DoubleQuoted.read_doubleQuoted cs rest
  rw [quoted, quotedScalar_eq noteKey_place whole, allowKey_place, moveTo_place]
  exact ⟨_, _, rfl⟩

/-- A literal block is read up to what begins on the next line. -/
theorem here_literal (deep : margin ≠ 0) (fits : Emit.fitsLiteral cs = true) (some : cs ≠ [])
    (begins : Begins rest) (outside : count ≤ margin) :
    ∃ line', (place (Emit.literalHeader cs ++ Emit.literalLines (margin + 1) true cs ++
        (List.replicate count ' ' ++ rest)) line column tokens margin outer false).here =
      .ok (place rest line' count (.scalar .literal (String.ofList cs) :: tokens) margin outer
        true) := by
  rcases Block.exists_literalLines_break (margin + 1) some with ⟨front, c, breaking, lines⟩
  have split : Emit.literalHeader cs ++ Emit.literalLines (margin + 1) true cs ++
      (List.replicate count ' ' ++ rest) =
        (Emit.literalHeader cs ++ front ++ c :: List.replicate count ' ') ++ rest := by
    simp [lines]
  have whole := Block.read_of_fits deep fits some
    ⟨⟨count, Nat.lt_succ_of_le outside, rfl⟩, begins.isSolid⟩
  have read : Block.read .literal margin ((Emit.literalHeader cs ++ front ++
      c :: List.replicate count ' ' ++ rest).drop 1) = .ok (cs, rest) := by
    rw [← split]
    exact whole
  have block : ∀ text, (place (Emit.literalHeader cs ++ text) line column tokens margin outer
      false).here = (place (Emit.literalHeader cs ++ text) line column tokens margin outer
        false).blockScalar .literal := by
    intro text
    change Lexer.token _ '|' _ = _
    simp [token, atDocumentMark, place, start, inFlow]
  rw [List.append_assoc, block, ← List.append_assoc, split, blockScalar_eq rfl read, allowKey_place,
    moveTo_place, columnAfter_break breaking]
  exact ⟨_, rfl⟩

end Values

end Steward.Yaml.Lexer

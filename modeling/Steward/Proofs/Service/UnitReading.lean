import Mathlib.Algebra.BigOperators.Group.List.Defs
import Steward.Proofs.Service.UnitLines

/-!
# Reading a unit file

A supervisor reads a command line word by word: blanks separate words, quotes
of either kind group, and a backslash escapes.  In each word it then expands
specifiers and variables.  A path that stands alone is not split and not
unquoted; only its specifiers are expanded.  Words of a command line are
written for the first reading, and it gives them back unless an apostrophe
stands in one of them with nothing that calls for quotes.  For the second
reading nothing is written: the directory to start in is quoted like a word,
and the paths of the logs keep their specifiers.
-/

namespace Steward.UnitFile

/-! ## What a reader does -/

/-- What follows an opening in the first line that begins with it. -/
def after? (opening : String) (text : List Char) : Option (List Char) :=
  (Text.pieces (· == '\n') text).findSome? fun line => line.dropPrefix? opening.toList

/-- A text with its specifiers expanded.  Two per cent signs are one; after a single one a
character with a meaning is replaced by it together with the sign. -/
def expand (meaning : Char → Option (List Char)) : List Char → List Char
  | '%' :: '%' :: rest => '%' :: expand meaning rest
  | '%' :: c :: rest => (meaning c).getD ['%', c] ++ expand meaning rest
  | c :: rest => c :: expand meaning rest
  | [] => []

/-- A word without variables, in which two dollar signs are one.  A single one begins a variable. -/
def literal? : List Char → Option (List Char)
  | '$' :: '$' :: rest => (literal? rest).map ('$' :: ·)
  | '$' :: _ => none
  | c :: rest => (literal? rest).map (c :: ·)
  | [] => some []

/-- The blanks between words. -/
def separates (c : Char) : Bool :=
  c == ' ' || c == '\t' || c == '\n' || c == '\r'

/-- What a character stands for after a backslash.  The escapes by number are left out: a word with
one of them has no reading here. -/
def escaped? : Char → Option Char
  | 'a' => some '\x07'
  | 'b' => some '\x08'
  | 'f' => some '\x0c'
  | 'n' => some '\n'
  | 'r' => some '\r'
  | 't' => some '\t'
  | 'v' => some '\x0b'
  | 's' => some ' '
  | '\\' => some '\\'
  | '"' => some '"'
  | '\'' => some '\''
  | _ => none

/-- The words from here on, with the quote that is open and the word that has been begun. -/
def wordsFrom (quote : Option Char) (word : Option (List Char)) :
    List Char → Option (List (List Char))
  | [] => if quote.isSome then none else some word.toList
  | '\\' :: [] => none
  | '\\' :: c :: rest => do
    let meant ← escaped? c
    wordsFrom quote (some (word.getD [] ++ [meant])) rest
  | c :: rest =>
    match quote with
    | some mark =>
      if c = mark then wordsFrom none word rest
      else wordsFrom quote (some (word.getD [] ++ [c])) rest
    | none =>
      if separates c then (wordsFrom none none rest).map (word.toList ++ ·)
      else if c = '"' ∨ c = '\'' then wordsFrom (some c) (some (word.getD [])) rest
      else wordsFrom none (some (word.getD [] ++ [c])) rest

/-- The words of a command line, expanded. -/
def command? (meaning : Char → Option (List Char)) (text : List Char) : Option (List String) := do
  let words ← wordsFrom none none text
  words.mapM fun word => (literal? (expand meaning word)).map String.ofList

/-- A path that stands alone. -/
def pathIn (meaning : Char → Option (List Char)) (text : List Char) : Path :=
  ⟨String.ofList (expand meaning text)⟩

/-! ## Openings -/

theorem dropPrefix?_of_not_prefix {opening line : List Char} (other : ¬opening <+: line) :
    line.dropPrefix? opening = none := by
  cases dropped : line.dropPrefix? opening with
  | none => rfl
  | some rest =>
    obtain ⟨front, rfl, same⟩ := List.dropPrefix?_eq_some_iff.1 dropped
    obtain rfl := eq_of_beq same
    exact absurd (List.prefix_append front rest) other

/-- What follows the opening of a line is found where no line before it begins alike. -/
theorem after?_joined {opening rest : String} {earlier later : List String}
    (unfed : ∀ line ∈ earlier, '\n' ∉ line.toList)
    (others : ∀ line ∈ earlier, ¬opening.toList <+: line.toList)
    (whole : '\n' ∉ (opening ++ rest).toList) :
    after? opening (joined (earlier ++ (opening ++ rest) :: later)).toList =
      some rest.toList := by
  have skipped : (earlier.flatMap fun line => Text.pieces (· == '\n') line.toList).findSome?
      (fun line => line.dropPrefix? opening.toList) = none := by
    rw [List.findSome?_eq_none_iff]
    intro piece member
    obtain ⟨line, listed, here⟩ := List.mem_flatMap.1 member
    rw [pieces_of_unfed (unfed line listed), List.mem_singleton] at here
    rw [here]
    exact dropPrefix?_of_not_prefix (others line listed)
  have found : (opening ++ rest).toList.dropPrefix? opening.toList = some rest.toList := by
    rw [String.toList_append]
    exact List.dropPrefix?_append_of_beq _ (beq_self_eq_true _)
  rw [after?, pieces_joined, List.flatMap_append, List.append_assoc, List.findSome?_append,
    skipped, Option.none_or, List.flatMap_cons, pieces_of_unfed whole]
  rw [List.cons_append, List.cons_append, List.findSome?_cons, found]

theorem after?_line {descriptor : Descriptor} {opening rest : String} (count : Nat)
    (line : lines descriptor = (lines descriptor).take count ++
      (opening ++ rest) :: (lines descriptor).drop (count + 1))
    (unfed : ∀ line ∈ (lines descriptor).take count, '\n' ∉ line.toList)
    (others : ∀ line ∈ (lines descriptor).take count, ¬opening.toList <+: line.toList)
    (whole : '\n' ∉ (opening ++ rest).toList) :
    after? opening (render descriptor).toList = some rest.toList := by
  rw [show render descriptor = joined (lines descriptor) from rfl, line]
  exact after?_joined unfed others whole

/-! ## Specifiers -/

section Specifiers

variable {meaning : Char → Option (List Char)}

@[simp]
theorem expand_nil : expand meaning [] = [] := rfl

@[simp]
theorem expand_doubled (rest : List Char) :
    expand meaning ('%' :: '%' :: rest) = '%' :: expand meaning rest := by
  rw [expand]

theorem expand_cons {c : Char} (plain : c ≠ '%') (rest : List Char) :
    expand meaning (c :: rest) = c :: expand meaning rest := by
  rw [expand]
  · rintro rest rfl
    exact absurd rfl plain
  · rintro d rest rfl
    exact absurd rfl plain

/-- Characters that are expanded one by one. -/
theorem expand_flatMap {code shown : Char → List Char}
    (each : ∀ c rest, expand meaning (code c ++ rest) = shown c ++ expand meaning rest)
    (cs rest : List Char) :
    expand meaning (cs.flatMap code ++ rest) = cs.flatMap shown ++ expand meaning rest := by
  induction cs with
  | nil => rfl
  | cons c cs inductionHypothesis =>
    rw [List.flatMap_cons, List.append_assoc, each, inductionHypothesis, List.flatMap_cons,
      List.append_assoc]

/-- How a character is written where variables are expanded. -/
def dollarChar : Char → List Char
  | '$' => ['$', '$']
  | c => [c]

theorem expand_literalChar (c : Char) (rest : List Char) :
    expand meaning (literalChar c ++ rest) = dollarChar c ++ expand meaning rest := by
  unfold literalChar dollarChar
  split
  · exact expand_doubled rest
  · rw [List.cons_append, expand_cons (by decide), List.singleton_append,
      expand_cons (by decide)]
    rfl
  · rename_i c notPercent notDollar
    split
    · exact absurd rfl notDollar
    · exact expand_cons notPercent rest

/-- Expanding the specifiers of a word that is kept from it leaves its dollar signs doubled. -/
theorem expand_literal (raw : String) :
    expand meaning (literal raw) = raw.toList.flatMap dollarChar := by
  have expanded : expand meaning (raw.toList.flatMap literalChar ++ []) =
      raw.toList.flatMap dollarChar ++ expand meaning [] :=
    expand_flatMap expand_literalChar raw.toList []
  simpa [literal] using expanded

theorem literal?_cons {c : Char} (plain : c ≠ '$') (rest : List Char) :
    literal? (c :: rest) = (literal? rest).map (c :: ·) := by
  rw [literal?]
  · rintro rest rfl
    exact absurd rfl plain
  · rintro rfl
    exact absurd rfl plain

theorem literal?_flatMap (cs : List Char) : literal? (cs.flatMap dollarChar) = some cs := by
  induction cs with
  | nil => rfl
  | cons c cs inductionHypothesis =>
    by_cases dollar : c = '$'
    · subst dollar
      rw [List.flatMap_cons, dollarChar, List.cons_append, List.singleton_append, literal?,
        inductionHypothesis]
      rfl
    · rw [List.flatMap_cons, dollarChar]
      · rw [List.singleton_append, literal?_cons dollar, inductionHypothesis]
        rfl
      · exact dollar

/-- A word that is kept from being expanded comes back as it was. -/
theorem literal?_expand_literal (raw : String) :
    literal? (expand meaning (literal raw)) = some raw.toList := by
  rw [expand_literal, literal?_flatMap]

end Specifiers

/-! ## Words -/

section Words

variable {quote : Option Char} {word : Option (List Char)}

theorem wordsFrom_cons {c : Char} (plain : c ≠ '\\') (rest : List Char) :
    wordsFrom quote word (c :: rest) =
      match quote with
      | some mark =>
        if c = mark then wordsFrom none word rest
        else wordsFrom quote (some (word.getD [] ++ [c])) rest
      | none =>
        if separates c then (wordsFrom none none rest).map (word.toList ++ ·)
        else if c = '"' ∨ c = '\'' then wordsFrom (some c) (some (word.getD [])) rest
        else wordsFrom none (some (word.getD [] ++ [c])) rest := by
  cases quote with
  | none =>
    rw [wordsFrom]
    · exact fun backslash _ => plain backslash
    · exact fun _ _ backslash _ => plain backslash
  | some mark =>
    rw [wordsFrom]
    · exact fun backslash _ => plain backslash
    · exact fun _ _ backslash _ => plain backslash

theorem wordsFrom_escaped {c meant : Char} (escaped : escaped? c = some meant)
    (rest : List Char) :
    wordsFrom quote word ('\\' :: c :: rest) =
      wordsFrom quote (some (word.getD [] ++ [meant])) rest := by
  rw [wordsFrom, escaped]
  rfl

/-- A character that stands for itself outside quotes. -/
structure IsBare (c : Char) : Prop where
  unquoted : needsQuotes c = false
  closed : c ≠ '\''

theorem IsBare.wordsFrom {c : Char} (bare : IsBare c) (rest : List Char) :
    wordsFrom none word (c :: rest) = wordsFrom none (some (word.getD [] ++ [c])) rest := by
  obtain ⟨unquoted, closed⟩ := bare
  have apart : c ≠ '\\' ∧ separates c = false ∧ c ≠ '"' := by
    simp only [needsQuotes, Bool.or_eq_false_iff, beq_eq_false_iff_ne] at unquoted
    obtain ⟨⟨solid, notQuote⟩, notBackslash⟩ := unquoted
    refine ⟨notBackslash, ?_, notQuote⟩
    cases blank : separates c with
    | false => rfl
    | true =>
      simp only [separates, Bool.or_eq_true, beq_iff_eq] at blank
      rcases blank with ((rfl | rfl) | rfl) | rfl <;> exact absurd solid (by decide)
  obtain ⟨notBackslash, joined, notQuote⟩ := apart
  rw [wordsFrom_cons notBackslash]
  simp [joined, notQuote, closed]

/-- Characters outside quotes are added to the word. -/
theorem wordsFrom_bare {cs : List Char} (bare : ∀ c ∈ cs, IsBare c) (begun rest : List Char) :
    wordsFrom none (some begun) (cs ++ rest) = wordsFrom none (some (begun ++ cs)) rest := by
  induction cs generalizing begun with
  | nil => rw [List.nil_append, List.append_nil]
  | cons c cs inductionHypothesis =>
    have first : IsBare c := bare c List.mem_cons_self
    have others : ∀ d ∈ cs, IsBare d := fun d member => bare d (List.mem_cons_of_mem _ member)
    rw [List.cons_append, first.wordsFrom, Option.getD_some, inductionHypothesis others,
      List.append_assoc, List.singleton_append]

theorem wordsFrom_none_bare {cs : List Char} (bare : ∀ c ∈ cs, IsBare c) (some : cs ≠ [])
    (rest : List Char) :
    wordsFrom none none (cs ++ rest) = wordsFrom none (.some cs) rest := by
  cases cs with
  | nil => exact absurd rfl some
  | cons c cs =>
    have first : IsBare c := bare c List.mem_cons_self
    have others : ∀ d ∈ cs, IsBare d := fun d member => bare d (List.mem_cons_of_mem _ member)
    rw [List.cons_append, first.wordsFrom, wordsFrom_bare others]
    rfl

/-- Characters between double quotes are added to the word up to the closing quote. -/
theorem wordsFrom_quoted (cs begun rest : List Char) :
    wordsFrom (some '"') (some begun) (cs.flatMap quotedChar ++ '"' :: rest) =
      wordsFrom none (some (begun ++ cs)) rest := by
  induction cs generalizing begun with
  | nil =>
    rw [List.flatMap_nil, List.nil_append, List.append_nil, wordsFrom_cons (by decide)]
    rfl
  | cons c cs inductionHypothesis =>
    have each (rest : List Char) : wordsFrom (some '"') (some begun) (quotedChar c ++ rest) =
        wordsFrom (some '"') (some (begun ++ [c])) rest := by
      unfold quotedChar
      split
      · exact wordsFrom_escaped rfl rest
      · exact wordsFrom_escaped rfl rest
      · rename_i notBackslash notQuote
        rw [List.singleton_append, wordsFrom_cons notBackslash]
        exact if_neg notQuote
    rw [List.flatMap_cons, List.append_assoc, each, inductionHypothesis, List.append_assoc,
      List.singleton_append]

/-- An apostrophe stands in the word only where something else calls for quotes. -/
def IsFenced (raw : String) : Prop :=
  '\'' ∈ raw.toList → ∃ c ∈ raw.toList, needsQuotes c = true

theorem mem_literal {c : Char} {raw : String} : c ∈ literal raw ↔ c ∈ raw.toList := by
  have each (d : Char) : c ∈ literalChar d ↔ c = d := by
    unfold literalChar
    split <;> simp
  simp [literal, List.mem_flatMap, each]

theorem any_needsQuotes_literal {raw : String} :
    (literal raw).any needsQuotes = true ↔ ∃ c ∈ raw.toList, needsQuotes c = true := by
  simp [List.any_eq_true, mem_literal]

theorem literal_ne_nil {raw : String} (written : raw ≠ "") : literal raw ≠ [] := by
  intro blank
  exact written (literal_inj blank)

/-- A word that is written for a command line is read back, up to what is expanded in it. -/
theorem wordsFrom_quote {raw : String} (written : raw ≠ "") (fenced : IsFenced raw)
    (rest : List Char) :
    wordsFrom none none ((UnitFile.quote raw).toList ++ rest) =
      wordsFrom none (some (literal raw)) rest := by
  rw [toList_quote]
  by_cases quoted : (literal raw).any needsQuotes = true
  · rw [if_pos quoted, List.cons_append, List.append_assoc, wordsFrom_cons (by decide)]
    exact wordsFrom_quoted (literal raw) [] rest
  · rw [if_neg quoted]
    have bare : ∀ c ∈ literal raw, IsBare c := by
      intro c member
      constructor
      · by_contra needed
        exact quoted (List.any_eq_true.2 ⟨c, member, by simpa using needed⟩)
      · rintro rfl
        exact quoted (any_needsQuotes_literal.2 (fenced (mem_literal.1 member)))
    exact wordsFrom_none_bare bare (literal_ne_nil written) rest

theorem wordsFrom_space (word rest : List Char) :
    wordsFrom none (some word) (' ' :: rest) = (wordsFrom none none rest).map (word :: ·) := by
  rw [wordsFrom_cons (by decide)]
  rfl

/-- The words of a command line are read back, up to what is expanded in them. -/
theorem wordsFrom_commandLine {words : List String} (written : ∀ word ∈ words, word ≠ "")
    (fenced : ∀ word ∈ words, IsFenced word) :
    wordsFrom none none (commandLine words).toList = some (words.map literal) := by
  induction words with
  | nil =>
    rw [toList_commandLine_nil]
    rfl
  | cons word words inductionHypothesis =>
    have later : wordsFrom none none (commandLine words).toList = some (words.map literal) := by
      apply inductionHypothesis
      · exact fun other member => written other (List.mem_cons_of_mem _ member)
      · exact fun other member => fenced other (List.mem_cons_of_mem _ member)
    rw [toList_commandLine_cons,
      wordsFrom_quote (written word List.mem_cons_self) (fenced word List.mem_cons_self)]
    cases words with
    | nil => rfl
    | cons second words =>
      rw [following, wordsFrom_space, later]
      rfl

/-- The words of a command line come back as they were, expanded as any specifiers may mean. -/
theorem command?_commandLine {words : List String} (written : ∀ word ∈ words, word ≠ "")
    (fenced : ∀ word ∈ words, IsFenced word) (meaning : Char → Option (List Char)) :
    command? meaning (commandLine words).toList = some words := by
  have each (word : String) :
      (literal? (expand meaning (literal word))).map String.ofList = some word := by
    rw [literal?_expand_literal, Option.map_some, String.ofList_toList]
  rw [command?, wordsFrom_commandLine written fenced]
  clear written fenced
  induction words with
  | nil => rfl
  | cons word words inductionHypothesis =>
    simp only [Option.bind_eq_bind, Option.bind_some] at inductionHypothesis ⊢
    rw [List.map_cons, List.mapM_cons, each, inductionHypothesis]
    rfl

end Words

/-! ## Apostrophes -/

section Apostrophes

variable {quote : Option Char} {word : Option (List Char)}

theorem eq_apostrophe_of_escaped? {c : Char} (escaped : escaped? c = some '\'') : c = '\'' := by
  unfold escaped? at escaped
  split at escaped <;> simp_all

theorem count_concat_add (word rest : List Char) (c : Char) :
    (word ++ [c]).count '\'' + rest.count '\'' = word.count '\'' + (c :: rest).count '\'' := by
  rw [List.count_append, Nat.add_assoc, ← List.count_append, List.singleton_append]

/-- No apostrophe is in a word that is not in the text. -/
theorem count_wordsFrom_le {text : List Char} {words : List (List Char)}
    (read : wordsFrom quote word text = some words) :
    words.flatten.count '\'' ≤ (word.getD []).count '\'' + text.count '\'' := by
  fun_induction wordsFrom quote word text generalizing words with
  | case1 => cases read
  | case2 quote word closed =>
    cases read
    cases word <;> simp
  | case3 => cases read
  | case4 quote word c rest inductionHypothesis =>
    obtain ⟨meant, escaped, onward⟩ := Option.bind_eq_some_iff.1 read
    have bound := inductionHypothesis meant onward
    have kept : [meant].count '\'' ≤ (c :: rest).count '\'' - rest.count '\'' := by
      by_cases apostrophe : meant = '\''
      · subst apostrophe
        obtain rfl := eq_apostrophe_of_escaped? escaped
        simp
      · simp [apostrophe]
    have longer : rest.count '\'' ≤ (c :: rest).count '\'' := List.count_le_count_cons
    rw [Option.getD_some, List.count_append] at bound
    rw [List.count_cons_of_ne (by decide)]
    omega
  | case5 word rest mark _ _ inductionHypothesis =>
    have bound := inductionHypothesis read
    have longer : rest.count '\'' ≤ (mark :: rest).count '\'' := List.count_le_count_cons
    omega
  | case6 word c rest _ _ mark _ inductionHypothesis =>
    have bound := inductionHypothesis read
    rwa [Option.getD_some, count_concat_add] at bound
  | case7 word c rest _ _ _ inductionHypothesis =>
    obtain ⟨later, onward, rfl⟩ := Option.map_eq_some_iff.1 read
    have bound := inductionHypothesis onward
    have longer : rest.count '\'' ≤ (c :: rest).count '\'' := List.count_le_count_cons
    have begun : word.toList.flatten = word.getD [] := by cases word <;> simp
    rw [Option.getD_none, List.count_nil] at bound
    rw [List.flatten_append, List.count_append, begun]
    omega
  | case8 word c rest _ _ _ _ inductionHypothesis =>
    have bound := inductionHypothesis read
    have longer : rest.count '\'' ≤ (c :: rest).count '\'' := List.count_le_count_cons
    rw [Option.getD_some] at bound
    omega
  | case9 word c rest _ _ _ _ inductionHypothesis =>
    have bound := inductionHypothesis read
    rwa [Option.getD_some, count_concat_add] at bound

/-- An apostrophe outside quotes opens a quote and is in no word. -/
theorem wordsFrom_apostrophe {cs : List Char} (bare : ∀ c ∈ cs, IsBare c) (rest : List Char) :
    wordsFrom none none (cs ++ '\'' :: rest) = wordsFrom (some '\'') (some cs) rest := by
  have opens (word : Option (List Char)) : wordsFrom none word ('\'' :: rest) =
      wordsFrom (some '\'') (some (word.getD [])) rest := by
    rw [wordsFrom_cons (by decide)]
    rfl
  by_cases blank : cs = []
  · subst blank
    exact opens none
  · rw [wordsFrom_none_bare bare blank, opens]
    rfl

/-- Writing character by character keeps the apostrophes where each character keeps its own. -/
theorem count_flatMap_of_each {code : Char → List Char}
    (each : ∀ c, (code c).count '\'' = [c].count '\'') (cs : List Char) :
    (cs.flatMap code).count '\'' = cs.count '\'' := by
  induction cs with
  | nil => rfl
  | cons c cs inductionHypothesis =>
    rw [List.flatMap_cons, List.count_append, each, inductionHypothesis, ← List.count_append,
      List.singleton_append]

theorem count_literal (raw : String) : (literal raw).count '\'' = raw.toList.count '\'' := by
  apply count_flatMap_of_each
  intro c
  unfold literalChar
  split <;> rfl

theorem count_quote (raw : String) :
    (UnitFile.quote raw).toList.count '\'' = raw.toList.count '\'' := by
  have inside : ((literal raw).flatMap quotedChar).count '\'' = (literal raw).count '\'' := by
    apply count_flatMap_of_each
    intro c
    unfold quotedChar
    split <;> rfl
  rw [toList_quote, ← count_literal]
  by_cases quoted : (literal raw).any needsQuotes = true
  · rw [if_pos quoted, List.count_cons_of_ne (by decide), List.count_append, inside]
    rfl
  · rw [if_neg quoted]

theorem count_commandLine (words : List String) :
    (commandLine words).toList.count '\'' = (words.map String.toList).flatten.count '\'' := by
  induction words with
  | nil => rw [toList_commandLine_nil]; rfl
  | cons word words inductionHypothesis =>
    have later : (following words).count '\'' = (commandLine words).toList.count '\'' := by
      cases words with
      | nil => rw [toList_commandLine_nil]; rfl
      | cons second words => exact List.count_cons_of_ne (by decide)
    rw [toList_commandLine_cons, List.count_append, count_quote, later, inductionHypothesis,
      List.map_cons, List.flatten_cons, List.count_append]

/-- Where an apostrophe stands in a word with nothing that calls for quotes, it is lost. -/
theorem count_lt_of_unfenced {words : List String} {told : List (List Char)}
    (written : ∀ word ∈ words, word ≠ "") (unfenced : ∃ word ∈ words, ¬IsFenced word)
    (read : wordsFrom none none (commandLine words).toList = some told) :
    told.flatten.count '\'' < (commandLine words).toList.count '\'' := by
  induction words generalizing told with
  | nil => simp at unfenced
  | cons word words inductionHypothesis =>
    rw [toList_commandLine_cons] at read ⊢
    by_cases fenced : IsFenced word
    · rw [wordsFrom_quote (written word List.mem_cons_self) fenced] at read
      have unfencedLater : ∃ word ∈ words, ¬IsFenced word := by
        obtain ⟨other, member, unfenced⟩ := unfenced
        rcases List.mem_cons.1 member with rfl | member
        · exact absurd fenced unfenced
        · exact ⟨other, member, unfenced⟩
      have writtenLater : ∀ word ∈ words, word ≠ "" :=
        fun other member => written other (List.mem_cons_of_mem _ member)
      cases words with
      | nil => simp at unfencedLater
      | cons second words =>
        rw [following, wordsFrom_space] at read
        obtain ⟨later, onward, rfl⟩ := Option.map_eq_some_iff.1 read
        have fewer := inductionHypothesis writtenLater unfencedLater onward
        rw [List.flatten_cons, List.count_append, List.count_append, count_literal, count_quote,
          following, List.count_cons_of_ne (by decide)]
        omega
    · obtain ⟨here, unquoted⟩ := Classical.not_imp.1 fenced
      have plain : ¬(literal word).any needsQuotes = true := any_needsQuotes_literal.not.2 unquoted
      obtain ⟨front, back, split, first⟩ := List.eq_append_cons_of_mem (mem_literal.2 here)
      have bare : ∀ c ∈ front, IsBare c := by
        intro c member
        constructor
        · by_contra needed
          apply plain
          rw [split]
          exact List.any_eq_true.2 ⟨c, List.mem_append_left _ member, by simpa using needed⟩
        · rintro rfl
          exact first member
      rw [toList_quote, if_neg plain, split, List.append_assoc, List.cons_append] at read ⊢
      rw [wordsFrom_apostrophe bare] at read
      have bound := count_wordsFrom_le read
      rw [Option.getD_some] at bound
      rw [List.count_append, List.count_cons_self]
      omega

/-- Without a meaning for any specifier, expanding keeps apostrophes. -/
theorem count_expand (cs : List Char) : (expand (fun _ => none) cs).count '\'' = cs.count '\'' := by
  fun_induction expand (fun _ => none) cs with
  | case1 rest inductionHypothesis => simp [inductionHypothesis]
  | case2 c rest _ inductionHypothesis => simp [List.count_cons, inductionHypothesis]
  | case3 c rest _ _ inductionHypothesis => simp [List.count_cons, inductionHypothesis]
  | case4 => rfl

theorem count_literal? {cs word : List Char} (read : literal? cs = some word) :
    word.count '\'' = cs.count '\'' := by
  fun_induction literal? cs generalizing word with
  | case1 rest inductionHypothesis =>
    obtain ⟨later, onward, rfl⟩ := Option.map_eq_some_iff.1 read
    simp [inductionHypothesis onward]
  | case2 => cases read
  | case3 c rest _ _ inductionHypothesis =>
    obtain ⟨later, onward, rfl⟩ := Option.map_eq_some_iff.1 read
    simp [List.count_cons, inductionHypothesis onward]
  | case4 =>
    cases read
    rfl

/-- Expanding words without a meaning for any specifier keeps their apostrophes. -/
theorem count_mapM {told : List (List Char)} {words : List String}
    (read : told.mapM (fun word => (literal? (expand (fun _ => none) word)).map String.ofList) =
      some words) :
    (words.map String.toList).flatten.count '\'' = told.flatten.count '\'' := by
  induction told generalizing words with
  | nil =>
    cases read
    rfl
  | cons word told inductionHypothesis =>
    rw [List.mapM_cons] at read
    obtain ⟨first, shown, rest⟩ := Option.bind_eq_some_iff.1 read
    obtain ⟨later, onward, same⟩ := Option.bind_eq_some_iff.1 rest
    obtain ⟨letters, spoken, rfl⟩ := Option.map_eq_some_iff.1 shown
    cases same
    have counted : letters.count '\'' = word.count '\'' :=
      (count_literal? spoken).trans (count_expand word)
    rw [List.map_cons, List.flatten_cons, List.count_append, String.toList_ofList, counted,
      inductionHypothesis onward, List.flatten_cons, List.count_append]

/-- A command line comes back as it was, whatever the specifiers mean, exactly when every
apostrophe stands in a word that is written between quotes. -/
theorem command?_commandLine_iff {words : List String} (written : ∀ word ∈ words, word ≠ "") :
    (∀ meaning, command? meaning (commandLine words).toList = some words) ↔
      ∀ word ∈ words, IsFenced word := by
  constructor
  · intro back
    by_contra loose
    have unfenced : ∃ word ∈ words, ¬IsFenced word := by simpa using loose
    obtain ⟨told, read, shown⟩ := Option.bind_eq_some_iff.1 (back fun _ => none)
    have lost := count_lt_of_unfenced written unfenced read
    rw [count_commandLine, count_mapM shown] at lost
    exact absurd lost (Nat.lt_irrefl _)
  · intro fenced
    exact command?_commandLine written fenced

end Apostrophes

/-! ## Command lines of services -/

theorem after?_execStart {descriptor : Descriptor} (named : '\n' ∉ descriptor.name.text.toList)
    (unbroken : ∀ argument ∈ descriptor.arguments, '\n' ∉ argument.toList) :
    after? "ExecStart=" (render descriptor).toList =
      some (commandLine descriptor.arguments).toList := by
  have whole : '\n' ∉ (commandLine descriptor.arguments).toList := by
    rw [lineFeed_mem_commandLine]
    rintro ⟨argument, member, fed⟩
    exact unbroken argument member fed
  apply after?_line 6 rfl
  · simp [lines, named]
  · simp [lines]
  · simp [whole]

/-- The command line of a service that is built is read back as its arguments, whatever the
specifiers mean, exactly when every apostrophe in them stands in an argument that something else
puts between quotes. -/
theorem command_reads_back_iff (request : InstallRequest) (descriptor : Descriptor)
    (files later : FileSystem) (built : request.build files = (.ok descriptor, later))
    (unbroken : ∀ argument ∈ descriptor.arguments, '\n' ∉ argument.toList) :
    (∀ meaning, (after? "ExecStart=" (render descriptor).toList).bind (command? meaning) =
        some descriptor.arguments) ↔
      ∀ argument ∈ descriptor.arguments, IsFenced argument := by
  have isBuilt : descriptor.IsBuilt := request.build_yields _ _ _ built
  have named : '\n' ∉ descriptor.name.text.toList := lineFeed_not_mem_of_valid isBuilt.named
  rw [after?_execStart named unbroken, ← command?_commandLine_iff isBuilt.written]
  rfl

/-- A request for a program, to be run as the caller. -/
def requestFor (program : String) : InstallRequest :=
  { requestAs "" with executable := ⟨program⟩ }

/-- The descriptor for such a request, if the program is not there yet. -/
def descriptorFor (program directory : String) : Descriptor :=
  { descriptorAs "" with
    executable := ⟨program⟩
    arguments := [program]
    workingDirectory := ⟨directory⟩
    user := none }

theorem command_reads_back_fenced :
    let program := "/opt/o'neil \\o/100%$run"
    let built := (requestFor program).build ⟨[], [], []⟩
    let descriptor := descriptorFor program "/opt/o'neil \\o"
    built = (.ok descriptor, built.2) ∧
      (∀ argument ∈ descriptor.arguments, '\n' ∉ argument.toList) ∧
      ∀ meaning, (after? "ExecStart=" (render descriptor).toList).bind (command? meaning) =
        some [program] := by
  intro program built descriptor
  have ended : built = (.ok descriptor, built.2) := Prod.ext (by decide +kernel) rfl
  have unbroken : ∀ argument ∈ descriptor.arguments, '\n' ∉ argument.toList := by decide +kernel
  have fenced : ∀ argument ∈ descriptor.arguments, IsFenced argument := by
    intro argument member _
    obtain rfl := List.mem_singleton.1 member
    exact ⟨' ', by decide +kernel, by decide⟩
  exact ⟨ended, unbroken, (command_reads_back_iff _ _ _ _ ended unbroken).2 fenced⟩

/-- An apostrophe in the path of a program opens a quote that nothing closes, so the command line
cannot be read. -/
theorem command_broken_by_apostrophe :
    let program := "/opt/o'neil/run"
    let descriptor := descriptorFor program "/opt/o'neil"
    ((requestFor program).build ⟨[], [], []⟩).1 = .ok descriptor ∧
      (∀ argument ∈ descriptor.arguments, '\n' ∉ argument.toList) ∧
      ∀ meaning, (after? "ExecStart=" (render descriptor).toList).bind (command? meaning) =
        none := by
  intro program descriptor
  have built : ((requestFor program).build ⟨[], [], []⟩).1 = .ok descriptor := by decide +kernel
  have named : '\n' ∉ descriptor.name.text.toList := by decide +kernel
  have unbroken : ∀ argument ∈ descriptor.arguments, '\n' ∉ argument.toList := by decide +kernel
  have unread : wordsFrom none none (commandLine descriptor.arguments).toList = none := by
    decide +kernel
  refine ⟨built, unbroken, fun meaning => ?_⟩
  rw [after?_execStart named unbroken, Option.bind_some, command?, unread]
  rfl

/-! ## Paths that stand alone -/

theorem dollarChar_of_ne {c : Char} (plain : c ≠ '$') : dollarChar c = [c] := by
  unfold dollarChar
  split
  · exact absurd rfl plain
  · rfl

theorem length_le_flatMap {code : Char → List Char} (each : ∀ c, code c ≠ []) (cs : List Char) :
    cs.length ≤ (cs.flatMap code).length := by
  induction cs with
  | nil => exact Nat.le_refl 0
  | cons c cs inductionHypothesis =>
    have here : 0 < (code c).length := List.length_pos_of_ne_nil (each c)
    rw [List.flatMap_cons, List.length_append, List.length_cons]
    omega

theorem dollarChar_ne_nil (c : Char) : dollarChar c ≠ [] := by
  unfold dollarChar
  split <;> simp

theorem flatMap_dollarChar_eq_iff {cs : List Char} : cs.flatMap dollarChar = cs ↔ '$' ∉ cs := by
  induction cs with
  | nil => simp
  | cons c cs inductionHypothesis =>
    by_cases dollar : c = '$'
    · subst dollar
      have longer := length_le_flatMap dollarChar_ne_nil cs
      constructor
      · intro same
        have lengths := congrArg List.length same
        rw [List.flatMap_cons, dollarChar, List.length_append] at lengths
        simp only [List.length_cons, List.length_nil] at lengths
        omega
      · intro absent
        exact absurd List.mem_cons_self absent
    · rw [List.flatMap_cons, dollarChar_of_ne dollar, List.singleton_append, List.cons_inj_right,
        inductionHypothesis, List.mem_cons, not_or]
      exact (and_iff_right (Ne.symm dollar)).symm

/-- How a character of a quoted word is shown once the specifiers are expanded. -/
theorem expand_quotedChar {meaning : Char → Option (List Char)} (c : Char) (rest : List Char) :
    expand meaning ((literalChar c).flatMap quotedChar ++ rest) =
      (dollarChar c).flatMap quotedChar ++ expand meaning rest := by
  have plain {d : Char} (notPercent : d ≠ '%') (rest : List Char) :
      expand meaning (quotedChar d ++ rest) = quotedChar d ++ expand meaning rest := by
    unfold quotedChar
    split
    · exact (expand_cons (by decide) _).trans (congrArg _ (expand_cons (by decide) rest))
    · exact (expand_cons (by decide) _).trans (congrArg _ (expand_cons (by decide) rest))
    · exact expand_cons notPercent rest
  by_cases percent : c = '%'
  · subst percent
    exact expand_doubled rest
  · by_cases dollar : c = '$'
    · subst dollar
      exact (expand_cons (by decide) _).trans (congrArg _ (expand_cons (by decide) rest))
    · have single : literalChar c = [c] := by
        unfold literalChar
        split <;> simp_all
      rw [single, dollarChar_of_ne dollar, List.flatMap_singleton]
      exact plain percent rest

/-- A path can be read back from where it is written like a word exactly when nothing in it is
quoted or doubled. -/
theorem expand_quote_eq_iff {meaning : Char → Option (List Char)} {raw : String} :
    expand meaning (quote raw).toList = raw.toList ↔
      ∀ c ∈ raw.toList, c ≠ '$' ∧ needsQuotes c = false := by
  rw [toList_quote]
  by_cases quoted : (literal raw).any needsQuotes = true
  · have shown : expand meaning ('"' :: ((literal raw).flatMap quotedChar ++ ['"'])) =
        '"' :: (raw.toList.flatMap (fun c => (dollarChar c).flatMap quotedChar) ++ ['"']) := by
      rw [expand_cons (by decide), literal, List.flatMap_assoc,
        expand_flatMap expand_quotedChar]
      rfl
    have some (c : Char) : (dollarChar c).flatMap quotedChar ≠ [] := by
      unfold dollarChar
      split
      · simp [quotedChar]
      · rw [List.flatMap_singleton]
        unfold quotedChar
        split <;> simp
    have longer := length_le_flatMap some raw.toList
    rw [if_pos quoted, shown]
    constructor
    -- The quotes alone make the text longer than the path.
    · intro same
      have lengths := congrArg List.length same
      simp only [List.length_cons, List.length_append, List.length_nil] at lengths
      omega
    · intro plain
      obtain ⟨c, member, needed⟩ := any_needsQuotes_literal.1 quoted
      rw [(plain c member).2] at needed
      cases needed
  · rw [if_neg quoted, expand_literal, flatMap_dollarChar_eq_iff]
    constructor
    · intro absent c member
      constructor
      · rintro rfl
        exact absent member
      · by_contra needed
        exact quoted (any_needsQuotes_literal.2 ⟨c, member, by simpa using needed⟩)
    · intro plain member
      exact (plain '$' member).1 rfl

/-- A per cent sign with a character after it. -/
def HasSpecifier (cs : List Char) : Prop :=
  ∃ front c rest, cs = front ++ '%' :: c :: rest

theorem HasSpecifier.mem {cs : List Char} (given : HasSpecifier cs) : '%' ∈ cs := by
  obtain ⟨front, c, rest, rfl⟩ := given
  exact List.mem_append_right front List.mem_cons_self

theorem HasSpecifier.cons {cs : List Char} (d : Char) (later : HasSpecifier cs) :
    HasSpecifier (d :: cs) := by
  obtain ⟨front, c, rest, rfl⟩ := later
  exact ⟨d :: front, c, rest, rfl⟩

/-- A specifier stands at the start of a text or after its first character. -/
theorem HasSpecifier.of_cons {d : Char} {cs : List Char} (given : HasSpecifier (d :: cs)) :
    (d = '%' ∧ cs ≠ []) ∨ HasSpecifier cs := by
  obtain ⟨front, c, rest, split⟩ := given
  cases front with
  | nil =>
    cases split
    exact .inl ⟨rfl, List.cons_ne_nil c rest⟩
  | cons first front =>
    cases split
    exact .inr ⟨front, c, rest, rfl⟩

/-- Where specifiers mean nothing at all, expanding makes a text shorter if it has one. -/
theorem length_expand (cs : List Char) :
    (expand (fun _ => some []) cs).length ≤ cs.length ∧
      (HasSpecifier cs → (expand (fun _ => some []) cs).length < cs.length) := by
  fun_induction expand (fun _ => some []) cs with
  | case1 rest inductionHypothesis =>
    have shorter := inductionHypothesis.1
    simp only [List.length_cons]
    omega
  | case2 c rest _ inductionHypothesis =>
    have shorter := inductionHypothesis.1
    simp only [Option.getD_some, List.nil_append, List.length_cons]
    omega
  | case3 c rest notDoubled notSingle inductionHypothesis =>
    obtain ⟨shorter, strictly⟩ := inductionHypothesis
    simp only [List.length_cons]
    constructor
    · omega
    · intro given
      rcases given.of_cons with ⟨percent, more⟩ | later
      · obtain ⟨next, rest, rfl⟩ := List.exists_cons_of_ne_nil more
        exact absurd rfl (notSingle next rest percent)
      · have shorterStill := strictly later
        omega
  | case4 =>
    constructor
    · exact Nat.le_refl 0
    · rintro ⟨front, c, rest, split⟩
      simp at split

theorem expand_of_unspecified {meaning : Char → Option (List Char)} {cs : List Char}
    (unspecified : ¬HasSpecifier cs) : expand meaning cs = cs := by
  fun_induction expand meaning cs with
  | case1 rest => exact absurd ⟨[], '%', rest, rfl⟩ unspecified
  | case2 c rest => exact absurd ⟨[], c, rest, rfl⟩ unspecified
  | case3 c rest _ _ inductionHypothesis =>
    have later : ¬HasSpecifier rest := fun given => unspecified (given.cons c)
    rw [inductionHypothesis later]
  | case4 => rfl

/-- A text comes back from its expansion, whatever the specifiers mean, exactly when it has none. -/
theorem expand_eq_iff {cs : List Char} :
    (∀ meaning, expand meaning cs = cs) ↔ ¬HasSpecifier cs := by
  constructor
  · intro back given
    -- One meaning that no specifier survives is enough.
    have shorter := (length_expand cs).2 given
    rw [back] at shorter
    exact absurd shorter (Nat.lt_irrefl _)
  · intro unspecified meaning
    exact expand_of_unspecified unspecified

/-! ## Paths of services -/

/-- Every path of a service is written as it is read. -/
structure IsLiteral (descriptor : Descriptor) : Prop where
  workingDirectory : ∀ c ∈ descriptor.workingDirectory.text.toList, c ≠ '$' ∧ needsQuotes c = false
  stdoutPath : ¬HasSpecifier descriptor.stdoutPath.text.toList
  stderrPath : ¬HasSpecifier descriptor.stderrPath.text.toList

/-- The path after an opening in the text of a unit file. -/
def pathAfter? (meaning : Char → Option (List Char)) (opening : String) (text : String) :
    Option Path :=
  (after? opening text.toList).map (pathIn meaning)

theorem pathIn_eq_iff {meaning : Char → Option (List Char)} {text : List Char} {path : Path} :
    pathIn meaning text = path ↔ expand meaning text = path.text.toList := by
  rcases path with ⟨path⟩
  rw [pathIn, Path.mk.injEq]
  exact ⟨fun same => by rw [← same, String.toList_ofList],
    fun same => by rw [same, String.ofList_toList]⟩

section Unfed

variable {descriptor : Descriptor} (unfed : ∀ line ∈ lines descriptor, '\n' ∉ line.toList)
  {meaning : Char → Option (List Char)}
include unfed

theorem pathAfter?_line {opening rest : String} (count : Nat)
    (line : lines descriptor = (lines descriptor).take count ++
      (opening ++ rest) :: (lines descriptor).drop (count + 1))
    (others : ∀ line ∈ (lines descriptor).take count, ¬opening.toList <+: line.toList) :
    pathAfter? meaning opening (render descriptor) = some (pathIn meaning rest.toList) := by
  have whole : '\n' ∉ (opening ++ rest).toList := by
    apply unfed
    rw [line]
    exact List.mem_append_right _ List.mem_cons_self
  have earlier : ∀ line ∈ (lines descriptor).take count, '\n' ∉ line.toList :=
    fun line member => unfed line (List.mem_of_mem_take member)
  rw [pathAfter?, after?_line count line earlier others whole, Option.map_some]

theorem pathAfter?_workingDirectory :
    pathAfter? meaning "WorkingDirectory=" (render descriptor) =
      some (pathIn meaning (quote descriptor.workingDirectory.text).toList) := by
  apply pathAfter?_line unfed 7 rfl
  simp [lines]

theorem pathAfter?_standardOutput :
    pathAfter? meaning "StandardOutput=append:" (render descriptor) =
      some (pathIn meaning descriptor.stdoutPath.text.toList) := by
  apply pathAfter?_line unfed 10 rfl
  simp [lines]

theorem pathAfter?_standardError :
    pathAfter? meaning "StandardError=append:" (render descriptor) =
      some (pathIn meaning descriptor.stderrPath.text.toList) := by
  apply pathAfter?_line unfed 11 rfl
  simp [lines]

end Unfed

/-- The paths in the unit file of a service are those of the service, whatever the specifiers mean,
exactly when nothing in the directory to start in is quoted or doubled and no specifier stands in
the paths of the logs. -/
theorem paths_read_back_iff (descriptor : Descriptor)
    (named : '\n' ∉ descriptor.name.text.toList) (unbroken : descriptor.IsUnbroken) :
    (∀ meaning,
      pathAfter? meaning "WorkingDirectory=" (render descriptor) =
          some descriptor.workingDirectory ∧
        pathAfter? meaning "StandardOutput=append:" (render descriptor) =
          some descriptor.stdoutPath ∧
        pathAfter? meaning "StandardError=append:" (render descriptor) =
          some descriptor.stderrPath) ↔
      IsLiteral descriptor := by
  have unfed := (unfed_iff_of_named named).2 unbroken
  simp only [pathAfter?_workingDirectory unfed, pathAfter?_standardOutput unfed,
    pathAfter?_standardError unfed, Option.some.injEq, pathIn_eq_iff, expand_quote_eq_iff]
  constructor
  · intro back
    constructor
    · exact (back fun _ => none).1
    · exact expand_eq_iff.1 fun meaning => (back meaning).2.1
    · exact expand_eq_iff.1 fun meaning => (back meaning).2.2
  · rintro ⟨plain, output, errors⟩ meaning
    exact ⟨plain, expand_of_unspecified output, expand_of_unspecified errors⟩

theorem paths_read_back_percent :
    let descriptor := descriptorFor "/opt/run" "/srv/o'neil/100%n"
    '\n' ∉ descriptor.name.text.toList ∧ descriptor.IsUnbroken ∧
      ∀ meaning, pathAfter? meaning "WorkingDirectory=" (render descriptor) =
        some ⟨"/srv/o'neil/100%n"⟩ := by
  intro descriptor
  have named : '\n' ∉ descriptor.name.text.toList := by decide +kernel
  have unbroken : descriptor.IsUnbroken := Descriptor.isUnbroken_iff.2 (by decide +kernel)
  have plain : descriptor.workingDirectory.text.toList.all
      (fun c => c ≠ '$' && !needsQuotes c) = true := by
    decide +kernel
  have literal : IsLiteral descriptor := by
    constructor
    · intro c member
      simpa using List.all_eq_true.1 plain c member
    · exact fun given => absurd given.mem (by decide +kernel)
    · exact fun given => absurd given.mem (by decide +kernel)
  refine ⟨named, unbroken, fun meaning => ?_⟩
  exact ((paths_read_back_iff descriptor named unbroken).2 literal meaning).1

/-- A directory with a blank is read with the quotes around it, and of two per cent signs in the
path of a log only one is left. -/
theorem paths_read_otherwise :
    let descriptor := { descriptorFor "/opt/run" "/srv/my bridge" with
      stdoutPath := ⟨"/logs/50%%/bridge.log"⟩ }
    '\n' ∉ descriptor.name.text.toList ∧ descriptor.IsUnbroken ∧
      pathAfter? (fun _ => none) "WorkingDirectory=" (render descriptor) =
        some ⟨"\"/srv/my bridge\""⟩ ∧
      pathAfter? (fun _ => none) "StandardOutput=append:" (render descriptor) =
        some ⟨"/logs/50%/bridge.log"⟩ := by
  intro descriptor
  have named : '\n' ∉ descriptor.name.text.toList := by decide +kernel
  have unbroken : descriptor.IsUnbroken := Descriptor.isUnbroken_iff.2 (by decide +kernel)
  have unfed := (unfed_iff_of_named named).2 unbroken
  rw [pathAfter?_workingDirectory unfed, pathAfter?_standardOutput unfed]
  exact ⟨named, unbroken, by decide +kernel, by decide +kernel⟩

end Steward.UnitFile

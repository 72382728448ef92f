import Steward.Proofs.Text.Lines
import Steward.Proofs.Text.Numerals
import Steward.Service.Launchd

/-!
# Listings that are read back

A listing is a header and a row for each loaded service.  What is read from it about a service is
what its rows say, for every name but one: the header is read as if it were a row, and so a service
that is called as the column of the labels is found in every listing.
-/

namespace Steward.Launchd

open Text (Numeral Sign)

/-! ## Process ids -/

/-- The process id that a numeral stands for, if its number can be one. -/
def pidOf (numeral : Numeral) : Option UInt32 :=
  if 1 ≤ numeral.value ∧ numeral.value ≤ mostPid then
    some (UInt32.ofNat numeral.value.toNat)
  else none

theorem value_of_ne_minus {numeral : Numeral} (unsigned : numeral.sign ≠ some .minus) :
    numeral.value = Text.numberOf numeral.digits := by
  unfold Numeral.value
  split
  · exact absurd ‹_› unsigned
  · rfl
  · rfl

theorem ne_minus_of_value {numeral : Numeral} (positive : 1 ≤ numeral.value) :
    numeral.sign ≠ some .minus := by
  intro negative
  simp only [Numeral.value, negative] at positive
  omega

theorem pid?_of_numeral {numeral : Numeral} {text : String}
    (spelt : numeral.text = text.toList) : pid? text = pidOf numeral := by
  unfold pid? pidOf
  by_cases fits : 1 ≤ numeral.value ∧ numeral.value ≤ mostPid
  · have unsigned := ne_minus_of_value fits.1
    have number := value_of_ne_minus unsigned
    have read : Text.natUpTo? mostPid text = some numeral.value.toNat :=
      Text.natUpTo?_eq_some_iff.2 ⟨by omega, numeral, spelt, unsigned, by omega⟩
    have nonzero : numeral.value.toNat ≠ 0 := by omega
    simp only [read, if_neg nonzero, if_pos fits]
  · rw [if_neg fits]
    cases read : Text.natUpTo? mostPid text with
    | none => rfl
    | some n =>
      obtain ⟨small, other, alike, unsigned, number⟩ := Text.natUpTo?_eq_some_iff.1 read
      cases Text.Numeral.text_inj (alike.trans spelt.symm)
      have zero : n = 0 := by
        rw [value_of_ne_minus unsigned, number] at fits
        omega
      exact if_pos zero

theorem pid?_of_no_numeral {text : String} (none : ∀ numeral : Numeral, numeral.text ≠ text.toList) :
    pid? text = Option.none := by
  unfold pid?
  cases read : Text.natUpTo? mostPid text with
  | none => rfl
  | some n =>
    obtain ⟨-, numeral, spelt, -⟩ := Text.natUpTo?_eq_some_iff.1 read
    exact absurd spelt (none numeral)

/-- A process id is read from a numeral of its number. -/
theorem exists_of_pid? {text : String} {pid : UInt32} (read : pid? text = some pid) :
    ∃ numeral : Numeral,
      numeral.text = text.toList ∧ 1 ≤ numeral.value ∧ numeral.value = pid.toNat := by
  by_cases numbered : ∃ numeral : Numeral, numeral.text = text.toList
  · obtain ⟨numeral, spelt⟩ := numbered
    rw [pid?_of_numeral spelt, pidOf] at read
    by_cases fits : 1 ≤ numeral.value ∧ numeral.value ≤ mostPid
    · rw [if_pos fits] at read
      have small : numeral.value.toNat < 4294967296 := by
        have most : (mostPid : Int) = 4294967295 := rfl
        omega
      rw [← Option.some.inj read, UInt32.toNat_ofNat_of_lt' small]
      exact ⟨numeral, spelt, fits.1, by omega⟩
    · simp [fits] at read
  · rw [pid?_of_no_numeral fun numeral spelt => numbered ⟨numeral, spelt⟩] at read
    cases read

theorem not_fits_of_pid? {text : String} (read : pid? text = none) {numeral : Numeral}
    (spelt : numeral.text = text.toList) : ¬(1 ≤ numeral.value ∧ numeral.value ≤ mostPid) := by
  intro fits
  rw [pid?_of_numeral spelt, pidOf, if_pos fits] at read
  cases read

/-! ## Tables -/

/-- What can stand in a column: a text that is not empty and holds no blank. -/
structure Column where
  text : List Char
  written : text ≠ []
  unbroken : ∀ c ∈ text, Text.isBlank c = false

/-- A row of a listing. -/
structure Row where
  /-- The process id, or nothing where the listing has a dash. -/
  process : Option Numeral
  status : Column
  label : Column

/-- The texts of the three columns, in a line. -/
def inColumns (process status label : List Char) : List Char :=
  process ++ '\t' :: (status ++ '\t' :: label)

def header : List Char :=
  inColumns "PID".toList "Status".toList "Label".toList

namespace Row

def processText (row : Row) : List Char :=
  match row.process with
  | some numeral => numeral.text
  | none => ['-']

def line (row : Row) : List Char :=
  inColumns row.processText row.status.text row.label.text

/-- What a row says about its service. -/
def liveness (row : Row) : Liveness :=
  match row.process.bind pidOf with
  | some pid => .running pid
  | none => .loaded

end Row

/-- What a table says about a service: the first row with its label counts. -/
def told (table : List Row) (name : ServiceName) : Liveness :=
  ((table.find? fun row => row.label.text = name.text.toList).map Row.liveness).getD .notLoaded

/-- The listing shows the table: the header and then a line for each row, with lines that hold
nothing but blanks anywhere. -/
def Shows (listing : String) (table : List Row) : Prop :=
  ∃ lines, Text.IsLines lines listing.toList ∧
    (lines.filter fun line => !line.all Text.isBlank) = header :: table.map Row.line

/-! ## Rows that are read -/

theorem isBlank_digitChar (digit : Fin 10) : Text.isBlank digit.val.digitChar = false := by
  have every : ∀ d : Fin 10, Text.isBlank d.val.digitChar = false := by decide
  exact every digit

namespace Row

variable (row : Row)

theorem processText_ne_nil : row.processText ≠ [] := by
  unfold processText
  split
  · rename_i numeral _
    simp [Numeral.text, numeral.written]
  · simp

theorem processText_unbroken : ∀ c ∈ row.processText, Text.isBlank c = false := by
  unfold processText
  split
  · rename_i numeral _
    intro c member
    rcases List.mem_append.1 member with mark | digit
    · obtain ⟨sign, -, rfl⟩ := List.mem_map.1 mark
      cases sign <;> rfl
    · obtain ⟨value, -, rfl⟩ := List.mem_map.1 digit
      exact isBlank_digitChar value
  · exact List.forall_mem_singleton.2 rfl

theorem pid?_processText : pid? (String.ofList row.processText) = row.process.bind pidOf := by
  unfold processText
  cases process : row.process with
  | some numeral => exact pid?_of_numeral String.toList_ofList.symm
  | none => decide

end Row

theorem words_inColumns {process status label : List Char}
    (processColumn : process ≠ [] ∧ ∀ c ∈ process, Text.isBlank c = false)
    (statusColumn : status ≠ [] ∧ ∀ c ∈ status, Text.isBlank c = false)
    (labelColumn : label ≠ [] ∧ ∀ c ∈ label, Text.isBlank c = false) :
    Text.words (String.ofList (inColumns process status label)) =
      [String.ofList process, String.ofList status, String.ofList label] := by
  rw [Text.words, String.toList_ofList, inColumns, Text.wordsOf_append (by rfl),
    Text.wordsOf_append (by rfl), Text.wordsOf_of_unbroken processColumn.1 processColumn.2,
    Text.wordsOf_of_unbroken statusColumn.1 statusColumn.2,
    Text.wordsOf_of_unbroken labelColumn.1 labelColumn.2]
  rfl

variable (name : ServiceName)

theorem readRow?_line (row : Row) :
    readRow? name (String.ofList row.line) =
      if row.label.text = name.text.toList then some row.liveness else none := by
  have named : String.ofList row.label.text = name.text ↔ row.label.text = name.text.toList := by
    rw [← String.toList_inj, String.toList_ofList]
  rw [readRow?, Row.line, words_inColumns ⟨row.processText_ne_nil, row.processText_unbroken⟩
    ⟨row.status.written, row.status.unbroken⟩ ⟨row.label.written, row.label.unbroken⟩]
  by_cases here : row.label.text = name.text.toList
  · simp only [if_pos here, if_pos (named.2 here), row.pid?_processText]
    rfl
  · simp only [if_neg here, if_neg (mt named.1 here)]

/-- The header is read as a row of a service that is loaded and is called `Label`. -/
theorem readRow?_header :
    readRow? name (String.ofList header) = if "Label" = name.text then some .loaded else none := by
  rw [readRow?, header, words_inColumns ⟨by decide, Text.unbroken_iff.2 (by decide)⟩
    ⟨by decide, Text.unbroken_iff.2 (by decide)⟩ ⟨by decide, Text.unbroken_iff.2 (by decide)⟩]
  have none : pid? "PID" = none := by decide
  simp only [String.ofList_toList, none]

theorem readRow?_blank {line : List Char} (blank : ∀ c ∈ line, Text.isBlank c = true) :
    readRow? name (String.ofList line) = none := by
  rw [readRow?, Text.words, String.toList_ofList, Text.wordsOf_of_blank blank]
  rfl

theorem findSome?_rows (table : List Row) :
    ((table.map Row.line).findSome? fun line => readRow? name (String.ofList line)) =
      (table.find? fun row => row.label.text = name.text.toList).map Row.liveness := by
  induction table with
  | nil => rfl
  | cons row rest inductionHypothesis =>
    rw [List.map_cons, List.findSome?_cons, readRow?_line, List.find?_cons]
    by_cases here : row.label.text = name.text.toList
    · simp [here]
    · simp only [here, if_false, decide_false]
      exact inductionHypothesis

/-- Only the lines that are not blank are read, each line without regard to a carriage return. -/
theorem findSome?_lines {listing : String} {lines : List (List Char)}
    (spelt : Text.IsLines lines listing.toList) :
    (Text.lines listing).findSome? (readRow? name) =
      (lines.filter fun line => !line.all Text.isBlank).findSome?
        fun line => readRow? name (String.ofList line) := by
  have unreturned (line : List Char) :
      readRow? name (String.ofList (line ++ ['\r'])) = readRow? name (String.ofList line) := by
    simp only [readRow?, Text.words, String.toList_ofList, Text.wordsOf_return]
  have unblank : (fun line => if (!line.all Text.isBlank) = true then
      readRow? name (String.ofList line) else none) =
        fun line => readRow? name (String.ofList line) := by
    funext line
    by_cases blank : line.all Text.isBlank = true
    · simp [blank, readRow?_blank name (List.all_eq_true.1 blank)]
    · simp [blank]
  rw [Text.lines, List.findSome?_map, ← List.head?_filterMap, ← List.head?_filterMap,
    List.filterMap_filter, unblank]
  congr 1
  exact Text.filterMap_linesOf (readRow?_blank name (List.forall_mem_nil _)) unreturned spelt

/-- What is read from a listing is what its table says, but for a service that is called as the
header's last column, which is found in any listing. -/
theorem readListing_of_shows {listing : String} {table : List Row} (shows : Shows listing table) :
    readListing listing name = if name.text = "Label" then .loaded else told table name := by
  obtain ⟨lines, spelt, rows⟩ := shows
  rw [readListing, findSome?_lines name spelt, rows, List.findSome?_cons, readRow?_header]
  by_cases label : name.text = "Label"
  · simp [label]
  · rw [if_neg (Ne.symm label), if_neg label, told, findSome?_rows]

/-- Two rows of one label, the first with a number too great for a process id, after a row whose label
only begins like it. -/
def repeated : List Row :=
  [{ process := some ⟨none, [1, 2], by decide⟩
     status := ⟨['0'], by decide, Text.unbroken_iff.2 (by decide)⟩
     label := ⟨"agent.helper".toList, by decide, Text.unbroken_iff.2 (by decide)⟩ },
   { process := some ⟨none, [4, 2, 9, 4, 9, 6, 7, 2, 9, 6], by decide⟩
     status := ⟨['-', '9'], by decide, Text.unbroken_iff.2 (by decide)⟩
     label := ⟨"agent".toList, by decide, Text.unbroken_iff.2 (by decide)⟩ },
   { process := some ⟨none, [7], by decide⟩
     status := ⟨['0'], by decide, Text.unbroken_iff.2 (by decide)⟩
     label := ⟨"agent".toList, by decide, Text.unbroken_iff.2 (by decide)⟩ }]

def repeatedListing : String :=
  "\nPID\tStatus\tLabel\n12\t0\tagent.helper\n \n4294967296\t-9\tagent\n7\t0\tagent"

theorem readListing_of_shows_repeated :
    Shows repeatedListing repeated ∧ readListing repeatedListing ⟨"agent"⟩ = .loaded := by
  have shows : Shows repeatedListing repeated :=
    ⟨Text.pieces (· == '\n') repeatedListing.toList, by decide +kernel, by decide +kernel⟩
  have read := readListing_of_shows ⟨"agent"⟩ shows
  have answer : told repeated ⟨"agent"⟩ = .loaded := by decide +kernel
  rw [answer] at read
  exact ⟨shows, read⟩

/-- A service called `Label` is found in a listing that has no rows. -/
theorem readListing_header :
    (⟨"Label"⟩ : ServiceName).isValid = true ∧ Shows "PID\tStatus\tLabel\n" [] ∧
      told [] ⟨"Label"⟩ = .notLoaded ∧
      readListing "PID\tStatus\tLabel\n" ⟨"Label"⟩ = .loaded :=
  ⟨by decide, ⟨[header, []], by decide +kernel, by decide +kernel⟩, rfl, by decide +kernel⟩

end Steward.Launchd

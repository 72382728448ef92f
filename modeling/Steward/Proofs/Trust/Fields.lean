import Steward.Proofs.Text.Padding
import Steward.Tool.Toolbox
import Steward.Trust.Response

/-!
# Fields that tools print

A tool prints on two streams, and what it says is read from both as one text.  Here it is said which
lines spell a field; that the one text has the fields of the two streams, those of the first stream
first; and that a reader takes the first field of its kind, however that is spelt and whatever other
lines stand around it.
-/

namespace Steward.Response

open Text (isBlank trimmed linesOf IsLines IgnoresBlanks)

/-! ## Lines that spell a field -/

/-- The line spells a field with the key, which is in small letters, and the value: a separator
stands between them, the first in the line, with blanks around either, and the key may be in letters
of either case. -/
inductive Spells (key value : List Char) : List Char → Prop
  | spelt {margin spelling gap before after : List Char} {separator : Char}
      (blankMargin : ∀ c ∈ margin, isBlank c = true) (blankGap : ∀ c ∈ gap, isBlank c = true)
      (blankBefore : ∀ c ∈ before, isBlank c = true) (blankAfter : ∀ c ∈ after, isBlank c = true)
      (cased : spelling.map Char.toLower = key)
      (unseparated : ∀ c ∈ spelling, isSeparator c = false)
      (separates : isSeparator separator = true) :
      Spells key value (margin ++ spelling ++ gap ++ separator :: (before ++ value ++ after))

theorem isSeparator_of_isBlank {c : Char} (blank : isBlank c = true) : isSeparator c = false := by
  have colon : c ≠ ':' := by
    rintro rfl
    exact absurd blank (by decide)
  have equals : c ≠ '=' := by
    rintro rfl
    exact absurd blank (by decide)
  simp [isSeparator, colon, equals]

theorem splitAtSeparator_eq_none {line : List Char}
    (unseparated : ∀ c ∈ line, isSeparator c = false) : splitAtSeparator line = none := by
  induction line with
  | nil => rfl
  | cons c rest inductionHypothesis =>
    obtain ⟨first, later⟩ := List.forall_mem_cons.1 unseparated
    simp [splitAtSeparator, first, inductionHypothesis later]

theorem splitAtSeparator_append {front : List Char} {separator : Char}
    (unseparated : ∀ c ∈ front, isSeparator c = false) (separates : isSeparator separator = true)
    (back : List Char) : splitAtSeparator (front ++ separator :: back) = some (front, back) := by
  induction front with
  | nil => simp [splitAtSeparator, separates]
  | cons c rest inductionHypothesis =>
    obtain ⟨first, later⟩ := List.forall_mem_cons.1 unseparated
    simp [splitAtSeparator, first, inductionHypothesis later]

/-- A line has no separator, or a first one. -/
theorem separator_cases (line : List Char) :
    (∀ c ∈ line, isSeparator c = false) ∨
      ∃ front separator back, (∀ c ∈ front, isSeparator c = false) ∧
        isSeparator separator = true ∧ line = front ++ separator :: back := by
  induction line with
  | nil => exact .inl (List.forall_mem_nil _)
  | cons c rest inductionHypothesis =>
    by_cases separates : isSeparator c = true
    · exact .inr ⟨[], c, rest, List.forall_mem_nil _, separates, rfl⟩
    · have first : isSeparator c = false := Bool.of_not_eq_true separates
      rcases inductionHypothesis with none | ⟨front, separator, back, unseparated, found, rfl⟩
      · exact .inl (List.forall_mem_cons.2 ⟨first, none⟩)
      · exact .inr ⟨c :: front, separator, back, List.forall_mem_cons.2 ⟨first, unseparated⟩,
          found, rfl⟩

/-- The field in a line. -/
def fieldIn? (line : List Char) : Option Field :=
  field? (String.ofList line)

theorem fieldIn?_eq_none {line : List Char} (unseparated : ∀ c ∈ line, isSeparator c = false) :
    fieldIn? line = none := by
  rw [fieldIn?, field?, String.toList_ofList, splitAtSeparator_eq_none unseparated]

theorem fieldIn?_append {front : List Char} {separator : Char}
    (unseparated : ∀ c ∈ front, isSeparator c = false) (separates : isSeparator separator = true)
    (back : List Char) :
    fieldIn? (front ++ separator :: back) =
      some ⟨String.ofList ((trimmed front).map Char.toLower), String.ofList (trimmed back)⟩ := by
  rw [fieldIn?, field?, String.toList_ofList, splitAtSeparator_append unseparated separates]
  simp [Text.lowered]

/-- What is read from a line that spells a field. -/
theorem Spells.fieldIn? {key value line : List Char} (spells : Spells key value line) :
    fieldIn? line = some ⟨String.ofList (trimmed key), String.ofList (trimmed value)⟩ := by
  cases spells with
  | spelt blankMargin blankGap blankBefore blankAfter cased unseparated separates =>
    rw [fieldIn?_append _ separates, Text.trimmed_padded blankMargin blankGap,
      Text.trimmed_padded blankBefore blankAfter, ← Text.trimmed_map Text.isBlank_toLower, cased]
    simp only [List.forall_mem_append]
    exact ⟨⟨fun c member => isSeparator_of_isBlank (blankMargin c member), unseparated⟩,
      fun c member => isSeparator_of_isBlank (blankGap c member)⟩

/-- A field is read only from a line that spells it. -/
theorem spells_of_fieldIn? {line : List Char} {field : Field} (read : fieldIn? line = some field) :
    Spells field.key.toList field.value.toList line := by
  rcases separator_cases line with none | ⟨front, separator, back, unseparated, separates, rfl⟩
  · rw [fieldIn?_eq_none none] at read
    cases read
  · rw [fieldIn?_append unseparated separates] at read
    cases read
    obtain ⟨margin, gap, blankMargin, blankGap, key⟩ := Text.exists_trimmed front
    obtain ⟨before, after, blankBefore, blankAfter, value⟩ := Text.exists_trimmed back
    have spelling : ∀ c ∈ trimmed front, isSeparator c = false := by
      rw [key, List.forall_mem_append, List.forall_mem_append] at unseparated
      exact unseparated.1.2
    have whole : Spells ((trimmed front).map Char.toLower) (trimmed back)
        (margin ++ trimmed front ++ gap ++ separator :: (before ++ trimmed back ++ after)) :=
      .spelt blankMargin blankGap blankBefore blankAfter rfl spelling separates
    rw [← key, ← value] at whole
    simpa using whole

/-- No blanks stand around the value of a field that was read. -/
theorem trimmed_of_fieldIn? {line : List Char} {field : Field} (read : fieldIn? line = some field) :
    trimmed field.value.toList = field.value.toList := by
  rcases separator_cases line with none | ⟨front, separator, back, unseparated, separates, rfl⟩
  · rw [fieldIn?_eq_none none] at read
    cases read
  · rw [fieldIn?_append unseparated separates] at read
    cases read
    rw [String.toList_ofList, Text.trimmed_trimmed]

theorem ignoresBlanks_fieldIn? : IgnoresBlanks fieldIn? where
  blank := rfl
  padded := by
    intro before line after blankBefore blankAfter
    have unseparated {front : List Char} (none : ∀ c ∈ front, isSeparator c = false) :
        ∀ c ∈ before ++ front, isSeparator c = false :=
      List.forall_mem_append.2
        ⟨fun c member => isSeparator_of_isBlank (blankBefore c member), none⟩
    rcases separator_cases line with none | ⟨front, separator, back, first, separates, rfl⟩
    · rw [fieldIn?_eq_none none]
      exact fieldIn?_eq_none (List.forall_mem_append.2
        ⟨unseparated none, fun c member => isSeparator_of_isBlank (blankAfter c member)⟩)
    · rw [fieldIn?_append first separates, List.append_assoc, List.append_assoc,
        ← List.append_assoc, List.cons_append, fieldIn?_append (unseparated first) separates,
        Text.trimmed_append blankAfter]
      have same : trimmed (before ++ front ++ []) = trimmed front :=
        Text.trimmed_padded blankBefore (List.forall_mem_nil _)
      rw [List.append_nil] at same
      rw [same]

/-! ## Fields in a text -/

/-- The fields that a text holds, from its first line to its last. -/
def fields (output : String) : List Field :=
  (Text.lines output).filterMap field?

theorem fields_eq (output : String) :
    fields output = (linesOf output.toList).filterMap fieldIn? := by
  rw [fields, Text.lines, List.filterMap_map]
  rfl

theorem fields_of_isLines {lines : List (List Char)} {output : String}
    (spelt : IsLines lines output.toList) : fields output = lines.filterMap fieldIn? := by
  rw [fields_eq, ignoresBlanks_fieldIn?.of_lines spelt]

/-- Blanks around a text hold no field. -/
theorem fields_trim (output : String) : fields (Text.trim output) = fields output := by
  rw [fields_eq, fields_eq, Text.trim, String.toList_ofList, ignoresBlanks_fieldIn?.trimmed]

theorem fields_joined (first second : String) :
    fields (first ++ "\n" ++ second) = fields first ++ fields second := by
  rw [fields_eq, fields_eq first, fields_eq second, ← ignoresBlanks_fieldIn?.joined]
  simp

/-- What a tool printed holds the fields of the one stream and then those of the other. -/
theorem fields_combined (output : ToolOutput) :
    fields output.combined = fields output.stdout ++ fields output.stderr := by
  rw [ToolOutput.combined, ToolOutput.combine, ← fields_trim output.stdout,
    ← fields_trim output.stderr]
  have nothing : fields "" = [] := rfl
  by_cases first : Text.trim output.stdout = ""
  · by_cases second : Text.trim output.stderr = ""
    · simp [first, second, nothing]
    · simp [first, second, nothing]
  · by_cases second : Text.trim output.stderr = ""
    · simp [first, second, nothing]
    · simpa [first, second] using fields_joined (Text.trim output.stdout) (Text.trim output.stderr)

/-! ## Fields of one kind -/

/-- A kind of field: its keys in small letters, and which values it has. -/
structure Kind where
  keys : List String
  IsValue : List Char → Prop

namespace Kind

/-- The ids of submissions: ASCII letters, digits and dashes. -/
def trackingId : Kind where
  keys := trackingKeys
  IsValue value := value ≠ [] ∧ ∀ c ∈ value, c.isAlphanum = true ∨ c = '-'

/-- The statuses of submissions: any text without blanks around it. -/
def status : Kind where
  keys := ["status"]
  IsValue value := value ≠ [] ∧ trimmed value = value

/-- The line is a field of the kind, with the value. -/
def Has (kind : Kind) (value line : List Char) : Prop :=
  kind.IsValue value ∧ ∃ key ∈ kind.keys, Spells key.toList value line

/-- Two texts, given as lines, hold the same fields of the kind: any line that is no field of the
kind may stand in the one and not in the other, and any field may be spelt in different ways. -/
inductive Alike (kind : Kind) : List (List Char) → List (List Char) → Prop
  | nil : Alike kind [] []
  | left {line : List Char} {lines others : List (List Char)}
      (foreign : ∀ value, ¬kind.Has value line) (rest : Alike kind lines others) :
      Alike kind (line :: lines) others
  | right {line : List Char} {lines others : List (List Char)}
      (foreign : ∀ value, ¬kind.Has value line) (rest : Alike kind lines others) :
      Alike kind lines (line :: others)
  | both {key value line other : List Char} {lines others : List (List Char)}
      (spells : Spells key value line) (spelt : Spells key value other)
      (rest : Alike kind lines others) : Alike kind (line :: lines) (other :: others)

/-- What is taken from a field is the value of a line that is a field of the kind. -/
def IsTakenBy {α : Type} (kind : Kind) (text : α → String) (take : Field → Option α) : Prop :=
  ∀ line found, (fieldIn? line).bind take = some found ↔ kind.Has (text found).toList line

variable {α : Type} {kind : Kind} {text : α → String} {take : Field → Option α}

theorem IsTakenBy.eq_none (taken : kind.IsTakenBy text take) {line : List Char}
    (foreign : ∀ value, ¬kind.Has value line) : (fieldIn? line).bind take = none := by
  cases found : (fieldIn? line).bind take with
  | none => rfl
  | some value => exact absurd ((taken line value).1 found) (foreign _)

/-- The first field of the kind is that of the first line that is one. -/
theorem findSome?_filterMap (take : Field → Option α) (lines : List (List Char)) :
    (lines.filterMap fieldIn?).findSome? take =
      lines.findSome? fun line => (fieldIn? line).bind take := by
  induction lines with
  | nil => rfl
  | cons line rest inductionHypothesis =>
    rw [List.filterMap_cons, List.findSome?_cons, ← inductionHypothesis]
    cases fieldIn? line <;> rfl

/-- The first field of the kind is the same in texts that hold the same fields of the kind. -/
theorem Alike.findSome?_eq (taken : kind.IsTakenBy text take) {lines others : List (List Char)}
    (alike : kind.Alike lines others) :
    (lines.findSome? fun line => (fieldIn? line).bind take) =
      others.findSome? fun line => (fieldIn? line).bind take := by
  induction alike with
  | nil => rfl
  | left foreign _ inductionHypothesis =>
    rw [List.findSome?_cons, taken.eq_none foreign, inductionHypothesis]
  | right foreign _ inductionHypothesis =>
    rw [List.findSome?_cons, taken.eq_none foreign, inductionHypothesis]
  | both spells spelt _ inductionHypothesis =>
    rw [List.findSome?_cons, List.findSome?_cons, spells.fieldIn?, spelt.fieldIn?,
      inductionHypothesis]

end Kind

/-! ## The two readers -/

/-- How a reader reads fields of one kind. -/
structure ReadsFirst {α : Type} (kind : Kind) (text : α → String) (read : String → Option α) :
    Prop where
  /-- What is read from a tool is read from the one stream, or else from the other. -/
  combined : ∀ output : ToolOutput,
    read output.combined = (read output.stdout).or (read output.stderr)
  /-- Texts are read alike that hold the same fields of the kind. -/
  alike : ∀ {lines others : List (List Char)} {output other : String},
    IsLines lines output.toList → IsLines others other.toList → kind.Alike lines others →
      read output = read other
  /-- What is read is the value of the first line that is a field of the kind. -/
  first_iff : ∀ {lines : List (List Char)} {output : String} {found : α},
    IsLines lines output.toList →
      (read output = some found ↔ ∃ earlier line later, lines = earlier ++ line :: later ∧
        (∀ other ∈ earlier, ∀ value, ¬kind.Has value other) ∧ kind.Has (text found).toList line)

theorem Kind.IsTakenBy.readsFirst {α : Type} {kind : Kind} {text : α → String}
    {take : Field → Option α} (taken : kind.IsTakenBy text take)
    (any : ∀ value, kind.IsValue value → ∃ found, (text found).toList = value) :
    ReadsFirst kind text fun output => (fields output).findSome? take where
  combined output := by rw [fields_combined, List.findSome?_append]
  alike := by
    intro lines others output other spelt spells alike
    rw [fields_of_isLines spelt, fields_of_isLines spells, findSome?_filterMap, findSome?_filterMap,
      alike.findSome?_eq taken]
  first_iff := by
    intro lines output found spelt
    have foreign_iff (line : List Char) :
        (fieldIn? line).bind take = none ↔ ∀ value, ¬kind.Has value line := by
      refine ⟨fun none value has => ?_, taken.eq_none⟩
      obtain ⟨found, rfl⟩ := any value has.1
      cases none.symm.trans ((taken line found).2 has)
    rw [fields_of_isLines spelt, findSome?_filterMap, List.findSome?_eq_some_iff]
    constructor
    · rintro ⟨earlier, line, later, rfl, here, before⟩
      exact ⟨earlier, line, later, rfl,
        fun other member => (foreign_iff other).1 (before other member),
        (taken line found).1 here⟩
    · rintro ⟨earlier, line, later, rfl, before, here⟩
      exact ⟨earlier, line, later, rfl, (taken line found).2 here,
        fun other member => (foreign_iff other).2 (before other member)⟩

/-- An id stands in the response as it is given back. -/
theorem isTakenBy_trackingIdOf? : Kind.trackingId.IsTakenBy TrackingId.text trackingIdOf? := by
  intro line id
  constructor
  · intro taken
    obtain ⟨field, read, taken⟩ := Option.bind_eq_some_iff.1 taken
    rw [trackingIdOf?] at taken
    split at taken
    · rename_i accepted
      cases taken
      obtain ⟨keyed, formed⟩ := Bool.and_eq_true_iff.1 accepted
      refine ⟨?_, field.key, of_decide_eq_true keyed, spells_of_fieldIn? read⟩
      simpa [isId, Kind.trackingId] using formed
    · cases taken
  · rintro ⟨⟨written, formed⟩, key, keyed, spells⟩
    have solid : ∀ c ∈ id.text.toList, isBlank c = false := by
      intro c member
      rcases formed c member with alphanumeric | rfl
      · exact Text.isBlank_of_isAlphanum alphanumeric
      · rfl
    have kept : ∀ key ∈ trackingKeys, trimmed key.toList = key.toList := by decide
    have accepted : isId id.text = true := by
      simpa [isId, String.isEmpty_iff, ← String.toList_eq_nil_iff] using And.intro written formed
    rw [spells.fieldIn?, kept key keyed, Text.trimmed_of_unbroken solid]
    simp only [String.ofList_toList, Option.bind_some, trackingIdOf?]
    exact if_pos (Bool.and_eq_true_iff.2 ⟨decide_eq_true keyed, accepted⟩)

theorem isTakenBy_statusOf? : Kind.status.IsTakenBy id statusOf? := by
  intro line token
  constructor
  · intro taken
    obtain ⟨field, read, taken⟩ := Option.bind_eq_some_iff.1 taken
    rw [statusOf?] at taken
    split at taken
    · rename_i accepted
      cases taken
      obtain ⟨keyed, written⟩ := Bool.and_eq_true_iff.1 accepted
      refine ⟨⟨by simpa using written, trimmed_of_fieldIn? read⟩, field.key, ?_,
        spells_of_fieldIn? read⟩
      exact List.mem_singleton.2 (of_decide_eq_true keyed)
    · cases taken
  · rintro ⟨⟨written, left⟩, key, keyed, spells⟩
    obtain rfl := List.mem_singleton.1 keyed
    have kept : trimmed "status".toList = "status".toList := by decide
    have accepted : (!token.isEmpty) = true := by simpa using written
    rw [spells.fieldIn?, kept, left]
    simp only [String.ofList_toList, Option.bind_some, statusOf?]
    exact if_pos (Bool.and_eq_true_iff.2 ⟨rfl, accepted⟩)

/-- What a tool printed holds the fields of its two streams one after the other, and from fields in
lines both readers take the first of their kind. -/
theorem readers_take_first :
    (∀ output : ToolOutput,
      fields output.combined = fields output.stdout ++ fields output.stderr) ∧
      ReadsFirst .trackingId TrackingId.text trackingId? ∧ ReadsFirst .status id statusToken? :=
  ⟨fields_combined,
    isTakenBy_trackingIdOf?.readsFirst fun value _ => ⟨⟨String.ofList value⟩, String.toList_ofList⟩,
    isTakenBy_statusOf?.readsFirst fun value _ => ⟨String.ofList value, String.toList_ofList⟩⟩

/-- A line that says nothing of the id, and lines that end in a carriage return. -/
def responseLines : List (List Char) :=
  ["Submission ID received\r", "  Request UUID =\t2efe-1 \r", ""].map String.toList

theorem readers_take_first_respelt :
    trackingId? "Submission ID received\r\n  Request UUID =\t2efe-1 \r\n" =
        trackingId? "request uuid:2efe-1" ∧
      trackingId? "request uuid:2efe-1" = some ⟨"2efe-1"⟩ := by
  obtain ⟨-, ids, -⟩ := readers_take_first
  have foreign {line : List Char} (none : (fieldIn? line).bind trackingIdOf? = none)
      (value : List Char) : ¬Kind.trackingId.Has value line := by
    intro has
    have taken := (isTakenBy_trackingIdOf? line ⟨String.ofList value⟩).2 (by simpa using has)
    cases none.symm.trans taken
  let field : Field := ⟨"request uuid", "2efe-1"⟩
  have padded : fieldIn? "  Request UUID =\t2efe-1 \r".toList = some field := by decide +kernel
  have bare : fieldIn? "request uuid:2efe-1".toList = some field := by decide +kernel
  have alike : Kind.trackingId.Alike responseLines ["request uuid:2efe-1".toList] := by
    apply Kind.Alike.left (foreign (by decide +kernel))
    apply Kind.Alike.both (spells_of_fieldIn? padded) (spells_of_fieldIn? bare)
    exact .left (foreign (by decide +kernel)) .nil
  exact ⟨ids.alike (by decide +kernel) (by decide +kernel) alike, by decide +kernel⟩

end Steward.Response

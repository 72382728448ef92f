import Steward.Proofs.Files.Siblings
import Steward.Proofs.Text.Digits
import Steward.Service.Request

/-!
# The lines of a unit file

A unit file is read line by line, so a value that holds a line feed would be
read as more than one line.  The words of the command line stand between
quotes where that is needed, but a line feed stays what it is between quotes,
and the paths of the logs and the user are written as they come.  The lines of
the text are those of the template exactly when no value holds a line feed,
and then no value is lost: two services that are written alike are alike.
-/

namespace Steward

namespace Descriptor

/-- What holds of every descriptor that is built. -/
structure IsBuilt (descriptor : Descriptor) : Prop where
  named : descriptor.name.isValid = true
  program : descriptor.arguments.head? = some descriptor.executable.text
  written : ∀ argument ∈ descriptor.arguments, argument ≠ ""

/-- No value of the descriptor holds a line feed. -/
structure IsUnbroken (descriptor : Descriptor) : Prop where
  arguments : ∀ argument ∈ descriptor.arguments, '\n' ∉ argument.toList
  workingDirectory : '\n' ∉ descriptor.workingDirectory.text.toList
  stdoutPath : '\n' ∉ descriptor.stdoutPath.text.toList
  stderrPath : '\n' ∉ descriptor.stderrPath.text.toList
  user : ∀ user ∈ descriptor.user, '\n' ∉ user.toList

theorem isUnbroken_iff {descriptor : Descriptor} :
    descriptor.IsUnbroken ↔
      (∀ argument ∈ descriptor.arguments, '\n' ∉ argument.toList) ∧
        '\n' ∉ descriptor.workingDirectory.text.toList ∧
        '\n' ∉ descriptor.stdoutPath.text.toList ∧
        '\n' ∉ descriptor.stderrPath.text.toList ∧
        ∀ user ∈ descriptor.user, '\n' ∉ user.toList :=
  ⟨fun ⟨arguments, workingDirectory, stdoutPath, stderrPath, user⟩ =>
      ⟨arguments, workingDirectory, stdoutPath, stderrPath, user⟩,
    fun ⟨arguments, workingDirectory, stdoutPath, stderrPath, user⟩ =>
      ⟨arguments, workingDirectory, stdoutPath, stderrPath, user⟩⟩

end Descriptor

namespace InstallRequest

/-- A path that has been resolved is not empty. -/
theorem resolve_yields (path : Path) (what : String) :
    FileAct.Yields (fun resolved : Path => resolved.text ≠ "") (resolve path what) := by
  unfold resolve
  apply FileAct.Yields.ite
  · intro relative
    exact .throw_bind _ _
  · intro absolute
    have written : path.text ≠ "" := by
      intro blank
      simp [Path.isAbsolute, blank] at absolute
    apply FileAct.Yields.get
    intro files
    split
    · rename_i resolved found
      rcases Except.bind_eq_ok_iff.1 found with ⟨place, -, named⟩
      cases stands : files.find? place with
      | none => simp [stands] at named
      | some entry =>
        rw [stands] at named
        cases named
        exact .pure (by simp [FileSystem.pathOf])
    · exact .pure written
    · exact .throw _

theorem configArguments_yields (config : Option Path) :
    FileAct.Yields (fun arguments => ∀ argument ∈ arguments, argument ≠ "")
      (configArguments config) := by
  cases config with
  | none => exact .pure nofun
  | some config =>
    apply FileAct.Yields.ite
    · intro blank
      exact .pure nofun
    · intro given
      refine .bind (resolve_yields config "config") fun resolved written => .pure ?_
      simp [configFlag, written]

theorem build_yields (request : InstallRequest) :
    FileAct.Yields Descriptor.IsBuilt request.build := by
  unfold build
  apply FileAct.Yields.ite
  · intro invalid
    exact .throw_bind _ _
  · intro valid
    refine .bind (resolve_yields _ _) fun executable written => ?_
    dsimp only
    cases request.workingDirectory
    case' none => refine .bind (.any _) fun directory _ => ?_
    case' some directory => refine .bind (.any _) fun directory _ => ?_
    all_goals
      apply FileAct.Yields.ite
      · intro relative
        exact .throw_bind _ _
      · intro absolute
        refine .bind (.any _) fun _ _ => .bind (.any _) fun logs _ =>
          .bind (configArguments_yields _) fun arguments given => .pure ?_
        exact ⟨by simpa using valid, rfl, by simpa [written] using given⟩

end InstallRequest

namespace UnitFile

/-! ## Words between quotes -/

/-- Writing character by character loses nothing where no character is written like the start of
another, and what follows the text does not look like a character. -/
theorem flatMap_append_inj {code : Char → List Char}
    (distinct : ∀ c d s t, code c ++ s = code d ++ t → c = d ∧ s = t) {s t : List Char}
    (ends : ∀ c u, code c ++ u ≠ s) (ends' : ∀ c u, code c ++ u ≠ t) (x y : List Char)
    (same : x.flatMap code ++ s = y.flatMap code ++ t) : x = y ∧ s = t := by
  induction x generalizing y with
  | nil =>
    cases y with
    | nil => exact ⟨rfl, same⟩
    | cons d y =>
      rw [List.flatMap_cons, List.append_assoc] at same
      exact absurd same.symm (ends _ _)
  | cons c x inductionHypothesis =>
    cases y with
    | nil =>
      rw [List.flatMap_cons, List.append_assoc] at same
      exact absurd same (ends' _ _)
    | cons d y =>
      rw [List.flatMap_cons, List.flatMap_cons, List.append_assoc, List.append_assoc] at same
      rcases distinct _ _ _ _ same with ⟨rfl, rest⟩
      rcases inductionHypothesis y rest with ⟨rfl, alike⟩
      exact ⟨rfl, alike⟩

theorem literalChar_append_inj (c d : Char) (s t : List Char)
    (same : literalChar c ++ s = literalChar d ++ t) : c = d ∧ s = t := by
  unfold literalChar at same
  split at same <;> split at same <;> grind

theorem quotedChar_append_inj (c d : Char) (s t : List Char)
    (same : quotedChar c ++ s = quotedChar d ++ t) : c = d ∧ s = t := by
  unfold quotedChar at same
  split at same <;> split at same <;> grind

theorem literalChar_ne_nil (c : Char) : literalChar c ≠ [] := by
  unfold literalChar
  split <;> simp

/-- A word with its specifiers and variables kept from being expanded. -/
def literal (raw : String) : List Char :=
  raw.toList.flatMap literalChar

theorem literal_inj {a b : String} (same : literal a = literal b) : a = b := by
  have ends (c : Char) (u : List Char) : literalChar c ++ u ≠ [] := by
    simp [literalChar_ne_nil]
  have alike := flatMap_append_inj literalChar_append_inj ends ends a.toList b.toList
    (by simpa [literal] using same)
  exact String.toList_inj.1 alike.1

theorem toList_quote (raw : String) :
    (quote raw).toList =
      if (literal raw).any needsQuotes then
        '"' :: ((literal raw).flatMap quotedChar ++ ['"'])
      else literal raw := by
  change (if (literal raw).any needsQuotes then
      String.ofList ('"' :: (literal raw).flatMap quotedChar ++ ['"'])
    else String.ofList (literal raw)).toList = _
  split <;> simp

/-- A text that can follow a word: nothing, or a space first. -/
def EndsWord (rest : List Char) : Prop :=
  rest = [] ∨ ∃ more, rest = ' ' :: more

/-- Where a word ends can be seen from the word itself. -/
theorem quote_append_inj {a b : String} {s t : List Char} (endsA : EndsWord s)
    (endsB : EndsWord t) (same : (quote a).toList ++ s = (quote b).toList ++ t) :
    a = b ∧ s = t := by
  have bare {w : String} {u : List Char} (ends : EndsWord u)
      (plain : ¬(literal w).any needsQuotes = true) :
      (literal w ++ u).takeWhile (fun c => !needsQuotes c) = literal w := by
    have unquoted : ∀ c ∈ literal w, (!needsQuotes c) = true := by simpa using plain
    rw [List.takeWhile_append_of_pos unquoted]
    rcases ends with rfl | ⟨more, rfl⟩ <;> simp [needsQuotes, Text.isBlank]
  -- A word between quotes begins with a character that no other word can begin with.
  have apart {w v : String} {u r : List Char} (ends : EndsWord u)
      (plain : ¬(literal w).any needsQuotes = true) :
      literal w ++ u ≠ '"' :: ((literal v).flatMap quotedChar ++ ['"']) ++ r := by
    intro alike
    have none := bare ends plain
    rw [alike] at none
    have blank : literal w = [] := by simpa [needsQuotes] using none.symm
    rw [blank] at alike
    rcases ends with rfl | ⟨more, rfl⟩ <;> simp at alike
  rw [toList_quote, toList_quote] at same
  by_cases quotedA : (literal a).any needsQuotes = true <;>
    by_cases quotedB : (literal b).any needsQuotes = true
  · rw [if_pos quotedA, if_pos quotedB] at same
    have ends (u : List Char) (c : Char) (r : List Char) : quotedChar c ++ r ≠ '"' :: u := by
      unfold quotedChar
      split <;> simp_all
    have alike := flatMap_append_inj quotedChar_append_inj (ends s) (ends t) (literal a)
      (literal b) (by simpa using same)
    exact ⟨literal_inj alike.1, List.tail_eq_of_cons_eq alike.2⟩
  · rw [if_pos quotedA, if_neg quotedB] at same
    exact absurd same.symm (apart endsB quotedB)
  · rw [if_neg quotedA, if_pos quotedB] at same
    exact absurd same (apart endsA quotedA)
  · rw [if_neg quotedA, if_neg quotedB] at same
    have letters : literal a = literal b := by
      rw [← bare endsA quotedA, same, bare endsB quotedB]
    rw [letters] at same
    exact ⟨literal_inj letters, List.append_cancel_left same⟩

theorem quote_inj {a b : String} (same : quote a = quote b) : a = b :=
  (quote_append_inj (.inl rfl) (.inl rfl) (congrArg (fun word => word.toList ++ []) same)).1

/-! ## The command line -/

@[simp]
theorem toList_commandLine_nil : (commandLine []).toList = [] := by
  simp [commandLine]

/-- What stands before the words that follow the first. -/
def following : List String → List Char
  | [] => []
  | word :: words => ' ' :: (commandLine (word :: words)).toList

theorem endsWord_following (words : List String) : EndsWord (following words) := by
  cases words with
  | nil => exact .inl rfl
  | cons word words => exact .inr ⟨_, rfl⟩

theorem toList_commandLine_cons (word : String) (words : List String) :
    (commandLine (word :: words)).toList = (quote word).toList ++ following words := by
  cases words with
  | nil => simp [commandLine, following]
  | cons second words => simp [commandLine, following, String.toList_intercalate]

theorem quote_ne_empty {word : String} (written : word ≠ "") : (quote word).toList ≠ [] := by
  rw [toList_quote]
  split
  · simp
  · intro blank
    apply written
    exact literal_inj blank

/-- A command line falls into its words in one way only. -/
theorem commandLine_inj {words others : List String} (written : ∀ word ∈ words, word ≠ "")
    (written' : ∀ word ∈ others, word ≠ "")
    (same : (commandLine words).toList = (commandLine others).toList) : words = others := by
  induction words generalizing others with
  | nil =>
    cases others with
    | nil => rfl
    | cons other others =>
      have blank : (quote other).toList = [] := by
        rw [toList_commandLine_nil, toList_commandLine_cons] at same
        exact (List.append_eq_nil_iff.1 same.symm).1
      exact absurd blank (quote_ne_empty (written' other List.mem_cons_self))
  | cons word words inductionHypothesis =>
    cases others with
    | nil =>
      have blank : (quote word).toList = [] := by
        rw [toList_commandLine_nil, toList_commandLine_cons] at same
        exact (List.append_eq_nil_iff.1 same).1
      exact absurd blank (quote_ne_empty (written word List.mem_cons_self))
    | cons other others =>
      rw [toList_commandLine_cons, toList_commandLine_cons] at same
      rcases quote_append_inj (endsWord_following words) (endsWord_following others) same with
        ⟨rfl, rests⟩
      have lines : (commandLine words).toList = (commandLine others).toList := by
        cases words <;> cases others <;> simp_all [following]
      have later : words = others := by
        apply inductionHypothesis _ _ lines
        · exact fun other member => written other (List.mem_cons_of_mem _ member)
        · exact fun other member => written' other (List.mem_cons_of_mem _ member)
      rw [later]

/-! ## Line feeds -/

theorem lineFeed_not_mem_of_valid {name : ServiceName} (valid : name.isValid = true) :
    '\n' ∉ name.text.toList := by
  intro fed
  unfold ServiceName.isValid at valid
  split at valid
  · simp at valid
  · rename_i first rest letters
    rw [letters] at fed
    rw [Bool.and_eq_true, List.all_eq_true] at valid
    exact absurd (valid.2 _ fed) (by decide)

theorem lineFeed_mem_literal {raw : String} : '\n' ∈ literal raw ↔ '\n' ∈ raw.toList := by
  have each (c : Char) : '\n' ∈ literalChar c ↔ '\n' = c := by
    unfold literalChar
    split <;> simp
  simp [literal, List.mem_flatMap, each]

theorem lineFeed_mem_quote {raw : String} : '\n' ∈ (quote raw).toList ↔ '\n' ∈ raw.toList := by
  have each (c : Char) : '\n' ∈ quotedChar c ↔ '\n' = c := by
    unfold quotedChar
    split <;> simp
  rw [toList_quote]
  split <;> simp [List.mem_flatMap, each, lineFeed_mem_literal]

theorem lineFeed_mem_commandLine {words : List String} :
    '\n' ∈ (commandLine words).toList ↔ ∃ word ∈ words, '\n' ∈ word.toList := by
  induction words with
  | nil => simp
  | cons word words inductionHypothesis =>
    have later : '\n' ∈ following words ↔ ∃ word ∈ words, '\n' ∈ word.toList := by
      rw [← inductionHypothesis]
      cases words <;> simp [following]
    rw [toList_commandLine_cons]
    simp [lineFeed_mem_quote, later]

/-- The text of some lines, each with a line feed after it. -/
def joined (lines : List String) : String :=
  String.join (lines.map (fun line => line ++ "\n"))

/-- Lines that end in a line feed each are cut one by one. -/
theorem pieces_joined (lines : List String) :
    Text.pieces (· == '\n') (joined lines).toList =
      lines.flatMap (fun line => Text.pieces (· == '\n') line.toList) ++ [[]] := by
  induction lines with
  | nil => rfl
  | cons line lines inductionHypothesis =>
    have front : (joined (line :: lines)).toList =
        line.toList ++ '\n' :: (joined lines).toList := by
      simp [joined, String.join_cons]
    rw [front, Text.pieces_append (by rfl), inductionHypothesis, List.flatMap_cons,
      List.append_assoc]

/-- A line without a line feed of its own is one piece. -/
theorem pieces_of_unfed {line : String} (unfed : '\n' ∉ line.toList) :
    Text.pieces (· == '\n') line.toList = [line.toList] := by
  apply Text.pieces_of_uncut
  intro c here
  apply beq_eq_false_iff_ne.2
  rintro rfl
  exact unfed here

/-- Lines that end in a line feed each are cut into themselves exactly when none of them holds
another. -/
theorem pieces_joined_iff {lines : List String} :
    Text.pieces (· == '\n') (joined lines).toList = lines.map String.toList ++ [[]] ↔
      ∀ line ∈ lines, '\n' ∉ line.toList := by
  constructor
  · intro cut line member fed
    have piece : line.toList ∈ Text.pieces (· == '\n') (joined lines).toList := by
      rw [cut]
      exact List.mem_append_left _ (List.mem_map_of_mem member)
    simpa using Text.uncut_of_mem_pieces piece '\n' fed
  · intro unfed
    have each : ∀ line ∈ lines,
        Text.pieces (· == '\n') line.toList = [line.toList] :=
      fun line member => pieces_of_unfed (unfed line member)
    rw [pieces_joined, List.flatMap_congr each, List.map_eq_flatMap]

/-- Lines without line feeds of their own can be told from their text. -/
theorem joined_inj {lines others : List String} (unfed : ∀ line ∈ lines, '\n' ∉ line.toList)
    (unfed' : ∀ line ∈ others, '\n' ∉ line.toList) (same : joined lines = joined others) :
    lines = others := by
  have cut := pieces_joined_iff.2 unfed
  rw [same, pieces_joined_iff.2 unfed', List.append_left_inj] at cut
  exact (List.map_inj_right fun _ _ alike => String.toList_inj.1 alike).1 cut.symm

/-! ## The template -/

/-- A line of a unit file. -/
inductive Row
  | header (name : String)
  | directive (key value : String)
  | blank
  deriving DecidableEq, Repr

def Row.text : Row → String
  | header name => "[" ++ name ++ "]"
  | directive key value => key ++ "=" ++ value
  | blank => ""

/-- The lines of the unit file of a service, with one directive for each of its values. -/
def template (descriptor : Descriptor) : List Row :=
  [.header "Unit",
   .directive "Description" ("Bridge agent (" ++ descriptor.name.text ++ ")"),
   .directive "After" "network-online.target",
   .blank,
   .header "Service",
   .directive "Type" "simple",
   .directive "ExecStart" (commandLine descriptor.arguments),
   .directive "WorkingDirectory" (quote descriptor.workingDirectory.text),
   .directive "Restart" (if descriptor.restart.keepAlive then "on-failure" else "no"),
   .directive "RestartSec" (toString descriptor.restart.throttleSeconds.toNat),
   .directive "StandardOutput" ("append:" ++ descriptor.stdoutPath.text),
   .directive "StandardError" ("append:" ++ descriptor.stderrPath.text)] ++
  (match descriptor.user with
    | none => []
    | some user => [.directive "User" user]) ++
  (if descriptor.restart.runAtLoad then
    [.blank, .header "Install", .directive "WantedBy" "default.target"]
  else [])

theorem lines_eq_template (descriptor : Descriptor) :
    lines descriptor = (template descriptor).map Row.text := by
  rcases descriptor with
    ⟨name, executable, arguments, workingDirectory, stdoutPath, stderrPath,
      ⟨runAtLoad, keepAlive, throttleSeconds⟩, user⟩
  cases user <;> cases runAtLoad <;>
    simp [lines, template, Row.text, ← String.append_assoc]

/-- A line holds a line feed of its own exactly where a value of the descriptor does. -/
theorem unfed_iff_of_named {descriptor : Descriptor}
    (named : '\n' ∉ descriptor.name.text.toList) :
    (∀ line ∈ lines descriptor, '\n' ∉ line.toList) ↔ descriptor.IsUnbroken := by
  have numbered : '\n' ∉ Nat.toDigits 10 descriptor.restart.throttleSeconds.toNat := by
    intro fed
    exact absurd (Nat.isDigit_of_mem_toDigits (by decide) (by decide) fed) (by decide)
  rcases descriptor with
    ⟨name, executable, arguments, workingDirectory, stdoutPath, stderrPath,
      ⟨runAtLoad, keepAlive, throttleSeconds⟩, user⟩
  rw [Descriptor.isUnbroken_iff]
  cases user <;> cases runAtLoad <;> cases keepAlive <;>
    simp_all [lines, lineFeed_mem_commandLine, lineFeed_mem_quote]

theorem unfed_iff {descriptor : Descriptor} (built : descriptor.IsBuilt) :
    (∀ line ∈ lines descriptor, '\n' ∉ line.toList) ↔ descriptor.IsUnbroken :=
  unfed_iff_of_named (lineFeed_not_mem_of_valid built.named)

/-- The lines after the path of standard error tell the user and whether the service starts by
itself. -/
theorem ending_inj {user other : Option String} {runAtLoad runAtLoad' : Bool}
    (same : (match user with
        | none => []
        | some user => ["User=" ++ user]) ++
        (if runAtLoad then ["", "[Install]", "WantedBy=default.target"] else []) =
      (match other with
        | none => []
        | some user => ["User=" ++ user]) ++
        (if runAtLoad' then ["", "[Install]", "WantedBy=default.target"] else [])) :
    user = other ∧ runAtLoad = runAtLoad' := by
  cases user <;> cases other <;> cases runAtLoad <;> cases runAtLoad' <;> simp_all

/-- Two services that are written alike, line by line, are alike. -/
theorem eq_of_lines {descriptor other : Descriptor} (built : descriptor.IsBuilt)
    (built' : other.IsBuilt) (same : lines descriptor = lines other) : descriptor = other := by
  have programs := built.program
  have programs' := built'.program
  have written := built.written
  have written' := built'.written
  rcases descriptor with
    ⟨⟨name⟩, ⟨executable⟩, arguments, ⟨workingDirectory⟩, ⟨stdoutPath⟩, ⟨stderrPath⟩,
      ⟨runAtLoad, keepAlive, throttleSeconds⟩, user⟩
  rcases other with
    ⟨⟨name'⟩, ⟨executable'⟩, arguments', ⟨workingDirectory'⟩, ⟨stdoutPath'⟩, ⟨stderrPath'⟩,
      ⟨runAtLoad', keepAlive', throttleSeconds'⟩, user'⟩
  simp only [lines, List.cons_append, List.nil_append, List.cons.injEq, true_and,
    String.append_right_inj, String.append_left_inj] at same
  rcases same with
    ⟨rfl, words, directory, again, seconds, rfl, rfl, ending⟩
  rcases ending_inj ending with ⟨rfl, rfl⟩
  obtain rfl : arguments = arguments' :=
    commandLine_inj written written' (congrArg String.toList words)
  obtain rfl : executable = executable' := Option.some.inj (programs.symm.trans programs')
  obtain rfl : workingDirectory = workingDirectory' := quote_inj directory
  obtain rfl : keepAlive = keepAlive' := by
    cases keepAlive <;> cases keepAlive' <;> simp_all
  obtain rfl : throttleSeconds = throttleSeconds' :=
    UInt64.toNat_inj.1 (Text.toString_nat_inj seconds)
  rfl

/-- The text of a unit file falls into the lines of its template exactly when no value of the
service holds a line feed.  The text then tells every value. -/
theorem lines_of_build (request : InstallRequest) (descriptor : Descriptor)
    (files later : FileSystem) (built : request.build files = (.ok descriptor, later)) :
    (Text.pieces (· == '\n') (render descriptor).toList =
        (template descriptor).map (fun row => row.text.toList) ++ [[]] ↔
      descriptor.IsUnbroken) ∧
    ∀ (request' : InstallRequest) (other : Descriptor) (files' later' : FileSystem),
      request'.build files' = (.ok other, later') → descriptor.IsUnbroken → other.IsUnbroken →
        render descriptor = render other → descriptor = other := by
  have isBuilt : descriptor.IsBuilt := request.build_yields _ _ _ built
  constructor
  · have rows : (template descriptor).map (fun row => row.text.toList) =
        (lines descriptor).map String.toList := by
      rw [lines_eq_template, List.map_map]
      rfl
    rw [rows, ← unfed_iff isBuilt, ← pieces_joined_iff]
    rfl
  · intro request' other files' later' built' unbroken unbroken' same
    have isBuilt' : other.IsBuilt := request'.build_yields _ _ _ built'
    have alike : lines descriptor = lines other :=
      joined_inj ((unfed_iff isBuilt).2 unbroken) ((unfed_iff isBuilt').2 unbroken') same
    exact eq_of_lines isBuilt isBuilt' alike

/-! ## Two users -/

/-- A request for a program with a quote in its path, to be run as a user. -/
def requestAs (user : String) : InstallRequest where
  name := .standard
  executable := ⟨"/opt/my \"bridge\"/run"⟩
  config := none
  workingDirectory := none
  logDirectory := ⟨"/logs"⟩
  user := some user
  restart := .standard

/-- The descriptor for such a request. -/
def descriptorAs (user : String) : Descriptor where
  name := .standard
  executable := ⟨"/opt/my \"bridge\"/run"⟩
  arguments := ["/opt/my \"bridge\"/run"]
  workingDirectory := ⟨"/opt/my \"bridge\""⟩
  stdoutPath := ⟨"/logs/bridge.log"⟩
  stderrPath := ⟨"/logs/bridge-err.log"⟩
  restart := .standard
  user := some user

theorem lines_of_build_quoted :
    let built := (requestAs "ops").build ⟨[], [], []⟩
    built = (.ok (descriptorAs "ops"), built.2) ∧ (descriptorAs "ops").IsUnbroken ∧
      Text.pieces (· == '\n') (render (descriptorAs "ops")).toList =
        (template (descriptorAs "ops")).map (fun row => row.text.toList) ++ [[]] := by
  intro built
  have ended : built = (.ok (descriptorAs "ops"), built.2) :=
    Prod.ext (by decide +kernel) rfl
  have unbroken : (descriptorAs "ops").IsUnbroken :=
    Descriptor.isUnbroken_iff.2 (by decide +kernel)
  exact ⟨ended, unbroken, (lines_of_build _ _ _ _ ended).1.2 unbroken⟩

/-- A user with a line feed adds a directive of its own. -/
theorem lines_added_by_user :
    let user := "ops\nExecStartPre=/bin/evil"
    ((requestAs user).build ⟨[], [], []⟩).1 = .ok (descriptorAs user) ∧
      "ExecStartPre=/bin/evil".toList ∈
        Text.pieces (· == '\n') (render (descriptorAs user)).toList ∧
      Text.pieces (· == '\n') (render (descriptorAs user)).toList ≠
        (template (descriptorAs user)).map (fun row => row.text.toList) ++ [[]] := by
  intro user
  have built : ((requestAs user).build ⟨[], [], []⟩).1 = .ok (descriptorAs user) := by
    decide +kernel
  have added : "ExecStartPre=/bin/evil".toList ∈
      Text.pieces (· == '\n') (render (descriptorAs user)).toList := by
    have piece : "ExecStartPre=/bin/evil".toList ∈
        Text.pieces (· == '\n') ("User=" ++ user).toList := by decide +kernel
    change _ ∈ Text.pieces (· == '\n') (joined (lines (descriptorAs user))).toList
    rw [pieces_joined]
    exact List.mem_append_left _ (List.mem_flatMap.2 ⟨_, by simp [lines, descriptorAs], piece⟩)
  have foreign : "ExecStartPre=/bin/evil".toList ∉
      (template (descriptorAs user)).map (fun row => row.text.toList) ++ [[]] := by
    decide +kernel
  exact ⟨built, added, fun same => foreign (same ▸ added)⟩

end UnitFile

end Steward

import Mathlib.Data.List.Forall2
import Steward.Proofs.Service.Listing
import Steward.Service.Systemd

/-!
# Properties that are read back

The properties of a unit are shown as lines, each with a key, an equals sign and a value.  Two of
them decide what is said of the service.  Here it is said which lines give a property its value; that
nothing else in the output matters, neither other lines nor the order of the lines nor blanks around
them; and what the two values say.
-/

namespace Steward.Systemd

open Text (Numeral isBlank trimmed trimEnd)

/-! ## Keys and values -/

/-- The key of a line: what its text has before the first equals sign, if it has one. -/
def key? (line : List Char) : Option (List Char) :=
  if '=' ∈ trimmed line then some ((trimmed line).takeWhile (· != '=')) else none

/-- The line gives the property with the key the value, which may have blanks around it as the line
may. -/
def Gives (key value line : List Char) : Prop :=
  ∃ before after, (∀ c ∈ before, isBlank c = true) ∧ (∀ c ∈ after, isBlank c = true) ∧
    line = before ++ (key ++ '=' :: value) ++ after

/-- The lines with the key give it these values one after another; no other line has it. -/
def Give (key : List Char) (values lines : List (List Char)) : Prop :=
  List.Forall₂ (Gives key) values (lines.filter fun line => key? line = some key)

/-- What the two properties say about the service: the text of the load state, and of the main process
id if that is given. -/
inductive Tells (state : List Char) (pid : Option (List Char)) : Liveness → Prop
  | unknown (unloaded : trimmed state = [] ∨ trimmed state = "not-found".toList) :
      Tells state pid .notLoaded
  | running {text : List Char} {numeral : Numeral} {id : UInt32} (written : trimmed state ≠ [])
      (found : trimmed state ≠ "not-found".toList) (given : pid = some text)
      (spelt : numeral.text = trimmed text) (positive : 1 ≤ numeral.value)
      (value : numeral.value = id.toNat) : Tells state pid (.running id)
  | idle (written : trimmed state ≠ []) (found : trimmed state ≠ "not-found".toList)
      (none : ∀ text ∈ pid, ∀ numeral : Numeral, numeral.text = trimmed text →
        ¬(1 ≤ numeral.value ∧ numeral.value ≤ 4294967295)) : Tells state pid .loaded

/-! ## Lines that are read -/

theorem splitAtEquals_eq (cs : List Char) :
    splitAtEquals cs =
      if '=' ∈ cs then some (cs.takeWhile (· != '='), (cs.dropWhile (· != '=')).tail) else none := by
  induction cs with
  | nil => rfl
  | cons c rest inductionHypothesis =>
    by_cases equals : c = '='
    · subst equals
      simp [splitAtEquals]
    · rw [splitAtEquals, inductionHypothesis]
      · by_cases later : '=' ∈ rest
        · simp [later, equals]
        · simp [later, Ne.symm equals]
      · exact equals

/-- The value that a line gives the property with the key, if it is a line with that key. -/
def valueOf? (key line : List Char) : Option (List Char) :=
  if key? line = some key then
    some (trimmed ((trimmed line).dropWhile (· != '=')).tail)
  else none

theorem valueOf?_eq_none {key line : List Char} (other : key? line ≠ some key) :
    valueOf? key line = none :=
  if_neg other

theorem Gives.valueOf? {key value line : List Char} (solid : ∀ c ∈ key, isBlank c = false)
    (unequal : '=' ∉ key) (gives : Gives key value line) :
    valueOf? key line = some (trimmed value) := by
  obtain ⟨before, after, blankBefore, blankAfter, rfl⟩ := gives
  have text : trimmed (before ++ (key ++ '=' :: value) ++ after) = key ++ '=' :: trimEnd value := by
    rw [Text.trimmed_padded blankBefore blankAfter]
    cases key with
    | nil =>
      rw [List.nil_append, Text.trimmed_of_solid (by decide)]
      exact Text.trimEnd_append_cons (by decide) [] value
    | cons c rest =>
      rw [List.cons_append, Text.trimmed_of_solid (solid c List.mem_cons_self), ← List.cons_append,
        Text.trimEnd_append_cons (by decide)]
  have unlike : ∀ c ∈ key, (c != '=') = true := by
    intro c member
    apply bne_iff_ne.2
    rintro rfl
    exact unequal member
  have front : (key ++ '=' :: trimEnd value).takeWhile (· != '=') = key := by
    rw [List.takeWhile_append_of_pos unlike]
    simp
  have back : (key ++ '=' :: trimEnd value).dropWhile (· != '=') = '=' :: trimEnd value := by
    rw [List.dropWhile_append_of_pos unlike]
    simp
  have keyed : key? (before ++ (key ++ '=' :: value) ++ after) = some key := by
    rw [key?, text, if_pos (by simp), front]
  rw [Systemd.valueOf?, if_pos keyed, text, back, List.tail_cons, Text.trimmed_trimEnd]

theorem Give.filterMap_valueOf? {key : List Char} {values lines : List (List Char)}
    (solid : ∀ c ∈ key, isBlank c = false) (unequal : '=' ∉ key) (give : Give key values lines) :
    lines.filterMap (valueOf? key) = values.map trimmed := by
  have keyed : (fun line => if decide (key? line = some key) = true then valueOf? key line else none) =
      valueOf? key := by
    funext line
    by_cases same : key? line = some key
    · simp [same]
    · simp [same, valueOf?_eq_none same]
  rw [← keyed, ← List.filterMap_filter]
  unfold Give at give
  generalize (lines.filter fun line => decide (key? line = some key)) = chosen at give ⊢
  induction give with
  | nil => rfl
  | cons gives _ inductionHypothesis =>
    rw [List.filterMap_cons, gives.valueOf? solid unequal, List.map_cons, inductionHypothesis]

/-! ## Output that is read -/

def loadStateKey : List Char := "LoadState".toList

def mainPidKey : List Char := "MainPID".toList

theorem loadStateKey_solid : ∀ c ∈ loadStateKey, isBlank c = false :=
  Text.unbroken_iff.2 (by decide)

theorem mainPidKey_solid : ∀ c ∈ mainPidKey, isBlank c = false :=
  Text.unbroken_iff.2 (by decide)

/-- One line changes the property whose key it has, if it has one of the two keys. -/
theorem Properties.read_eq (properties : Properties) (line : List Char) :
    properties.read (String.ofList line) =
      ⟨((valueOf? loadStateKey line).map String.ofList).or properties.loadState,
        ((valueOf? mainPidKey line).map fun value => Launchd.pid? (String.ofList value)).getD
          properties.mainPid⟩ := by
  have stateNamed (key : List Char) : String.ofList key = "LoadState" ↔ key = loadStateKey := by
    rw [← String.toList_inj, String.toList_ofList]
    rfl
  have pidNamed (key : List Char) : String.ofList key = "MainPID" ↔ key = mainPidKey := by
    rw [← String.toList_inj, String.toList_ofList]
    rfl
  rw [read, String.toList_ofList, splitAtEquals_eq]
  unfold valueOf? key?
  by_cases equals : '=' ∈ trimmed line
  · simp only [if_pos equals, stateNamed, pidNamed, Option.some.injEq]
    by_cases state : (trimmed line).takeWhile (· != '=') = loadStateKey
    · have other : loadStateKey ≠ mainPidKey := by decide
      simp [state, other]
    · by_cases pid : (trimmed line).takeWhile (· != '=') = mainPidKey
      · have other : mainPidKey ≠ loadStateKey := by decide
        simp [pid, other]
      · simp [state, pid]
  · simp [equals]

theorem getLast?_filterMap_cons {α β : Type _} (f : α → Option β) (head : α) (rest : List α) :
    ((head :: rest).filterMap f).getLast? = (rest.filterMap f).getLast?.or (f head) := by
  rw [List.filterMap_cons]
  cases f head with
  | none => simp
  | some value => simp [List.getLast?_cons, Option.or_some]

/-- A whole output leaves each property as the last line with its key has it. -/
theorem Properties.foldl_read (properties : Properties) (lines : List (List Char)) :
    lines.foldl (fun properties line => properties.read (String.ofList line)) properties =
      ⟨((lines.filterMap (valueOf? loadStateKey)).getLast?.map String.ofList).or
          properties.loadState,
        ((lines.filterMap (valueOf? mainPidKey)).getLast?.map fun value =>
          Launchd.pid? (String.ofList value)).getD properties.mainPid⟩ := by
  induction lines generalizing properties with
  | nil => rfl
  | cons line rest inductionHypothesis =>
    rw [List.foldl_cons, inductionHypothesis, read_eq]
    simp only [getLast?_filterMap_cons, Option.map_or, Option.or_assoc, Option.getD_or]

theorem valueOf?_blank {key : List Char} : valueOf? key [] = none :=
  valueOf?_eq_none nofun

theorem valueOf?_return (key line : List Char) :
    valueOf? key (line ++ ['\r']) = valueOf? key line := by
  have keyed : key? (line ++ ['\r']) = key? line := by rw [key?, Text.trimmed_return, key?]
  rw [valueOf?, keyed, Text.trimmed_return, valueOf?]

/-- What is read from an output is what the last lines with the two keys give. -/
theorem readProperties_eq {output : String} {lines : List (List Char)}
    (spelt : Text.IsLines lines output.toList) :
    readProperties output =
      (Properties.mk ((lines.filterMap (valueOf? loadStateKey)).getLast?.map String.ofList)
        ((lines.filterMap (valueOf? mainPidKey)).getLast?.bind fun value =>
          Launchd.pid? (String.ofList value))).liveness := by
  have kept (key : List Char) : (Text.linesOf output.toList).filterMap (valueOf? key) =
      lines.filterMap (valueOf? key) :=
    Text.filterMap_linesOf valueOf?_blank (valueOf?_return key) spelt
  rw [readProperties, Text.lines, List.foldl_map, Properties.foldl_read, kept, kept, Option.or_none]
  cases (lines.filterMap (valueOf? mainPidKey)).getLast? <;> rfl

/-- The two properties decide what the service is said to be. -/
theorem tells_liveness (state : List Char) (pid : Option (List Char)) :
    Tells state pid
      (Properties.mk (some (String.ofList (trimmed state)))
        (pid.bind fun text => Launchd.pid? (String.ofList (trimmed text)))).liveness := by
  have unfound : String.ofList (trimmed state) = "not-found" ↔
      trimmed state = "not-found".toList := by
    rw [← String.toList_inj, String.toList_ofList]
  unfold Properties.liveness
  by_cases unloaded : trimmed state = [] ∨ trimmed state = "not-found".toList
  · have refused : (String.ofList (trimmed state) = "not-found" ||
        (String.ofList (trimmed state)).isEmpty) = true := by
      simpa [unfound, or_comm] using unloaded
    simp only [if_pos refused]
    exact .unknown unloaded
  · have taken : ¬(String.ofList (trimmed state) = "not-found" ||
        (String.ofList (trimmed state)).isEmpty) = true := by
      simpa [unfound, and_comm] using unloaded
    obtain ⟨written, found⟩ := not_or.1 unloaded
    simp only [if_neg taken]
    cases pid with
    | none => exact .idle written found nofun
    | some text =>
      rw [Option.bind_some]
      cases read : Launchd.pid? (String.ofList (trimmed text)) with
      | some id =>
        obtain ⟨numeral, spelt, positive, value⟩ := Launchd.exists_of_pid? read
        rw [String.toList_ofList] at spelt
        exact .running written found rfl spelt positive value
      | none =>
        refine .idle written found ?_
        rintro _ ⟨⟩ numeral spelt
        exact Launchd.not_fits_of_pid? read (spelt.trans String.toList_ofList.symm)

/-- What is read from an output depends on the values of the two properties alone, each given by one
line if at all, among any other lines; without a load state nothing is known of the service. -/
theorem readProperties_tells :
    (∀ (state : List Char) (pid : Option (List Char)), ∃ liveness, Tells state pid liveness ∧
      ∀ (output : String) (lines : List (List Char)), Text.IsLines lines output.toList →
        Give loadStateKey [state] lines → Give mainPidKey pid.toList lines →
          readProperties output = liveness) ∧
    ∀ (output : String) (lines : List (List Char)), Text.IsLines lines output.toList →
      Give loadStateKey [] lines → readProperties output = .notLoaded := by
  constructor
  · intro state pid
    refine ⟨_, tells_liveness state pid, fun output lines spelt givesState givesPid => ?_⟩
    rw [readProperties_eq spelt, givesState.filterMap_valueOf? loadStateKey_solid (by decide),
      givesPid.filterMap_valueOf? mainPidKey_solid (by decide)]
    cases pid <;> rfl
  · intro output lines spelt givesNothing
    rw [readProperties_eq spelt, givesNothing.filterMap_valueOf? loadStateKey_solid (by decide)]
    rfl

/-- The process id before the load state, lines that end in a carriage return, blanks around the
keys and the values, and a line that has a key only in its value. -/
def interleaved : List (List Char) :=
  ["\tMainPID= +2231 \r", "Id=LoadState=masked\r", "  LoadState=\tloaded\r", ""].map String.toList

theorem readProperties_tells_interleaved :
    Tells "\tloaded".toList (some " +2231 ".toList) (.running 2231) ∧
      readProperties "\tMainPID= +2231 \r\nId=LoadState=masked\r\n  LoadState=\tloaded\r\n" =
        .running 2231 := by
  obtain ⟨liveness, tells, reads⟩ :=
    readProperties_tells.1 "\tloaded".toList (some " +2231 ".toList)
  have givesState : Give loadStateKey ["\tloaded".toList] interleaved := by
    have chosen : (interleaved.filter fun line => key? line = some loadStateKey) =
        ["  LoadState=\tloaded\r".toList] := by decide +kernel
    rw [Give, chosen]
    exact .cons ⟨[' ', ' '], ['\r'], List.all_eq_true.1 (by decide),
      List.forall_mem_singleton.2 rfl, by decide⟩ .nil
  have givesPid : Give mainPidKey [" +2231 ".toList] interleaved := by
    have chosen : (interleaved.filter fun line => key? line = some mainPidKey) =
        ["\tMainPID= +2231 \r".toList] := by decide +kernel
    rw [Give, chosen]
    exact .cons ⟨['\t'], ['\r'], List.forall_mem_singleton.2 rfl,
      List.forall_mem_singleton.2 rfl, by decide⟩ .nil
  have read := reads "\tMainPID= +2231 \r\nId=LoadState=masked\r\n  LoadState=\tloaded\r\n"
    interleaved (by decide +kernel) givesState givesPid
  have value : readProperties
      "\tMainPID= +2231 \r\nId=LoadState=masked\r\n  LoadState=\tloaded\r\n" = .running 2231 := by
    decide +kernel
  rw [value] at read
  exact ⟨read ▸ tells, value⟩

end Steward.Systemd

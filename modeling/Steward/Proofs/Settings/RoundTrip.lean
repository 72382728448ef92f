import Steward.Proofs.Yaml.Composing
import Steward.Settings.Reader
import Steward.Settings.Writer

/-!
# Settings that are written and read

Settings that are written are read as they were: what is unset stays unset, and
every text comes back whatever it spells.
-/

namespace Steward.Settings

open Yaml Yaml.Emit Yaml.Compose

variable {σ : Type} {root : Node} {setters : List (Setter σ)} {fields : List Field}
  {given final : σ} {name : String} {seen : List String}

/-! ## Values -/

theorem text_valueNode (value : Value) : text root (valueNode value) = .ok value.content :=
  rfl

/-- A text that is written is never taken for nothing. -/
theorem isNothing_text (content : String) :
    isNothing ⟨none, (Value.text content).style, content⟩ = .ok false := by
  by_cases plain : (Value.text content).style = .plain
  · have itself : Word.isTakenForOther content = false := by
      change styleOf content.toList = .plain at plain
      unfold styleOf at plain
      split_ifs at plain with feeds fits itself
      rw [String.ofList_toList, Bool.and_eq_true, Bool.not_eq_true'] at itself
      exact itself.1
    simp only [Word.isTakenForOther, Bool.or_eq_false_iff] at itself
    rcases itself with ⟨⟨⟨⟨⟨some, unnull⟩, -⟩, -⟩, -⟩, -⟩
    have unempty : content.isEmpty = false := by simpa using some
    simp [isNothing, plain, unempty, unnull]
  · simp [isNothing, plain]

theorem optionalText_text (content : String) :
    optionalText root (valueNode (.text content)) = .ok (some content) := by
  have read : scalar root (valueNode (.text content)) =
      .ok ⟨none, (Value.text content).style, content⟩ :=
    rfl
  simp only [optionalText, read, bind, Except.bind, isNothing_text]
  rfl

theorem truth_truth (value : Bool) : truth root (valueNode (.truth value)) = .ok value := by
  cases value with
  | true => rfl
  | false => rfl

/-- A number that is written is spelled in the way that is read: in digits alone, with no zero in
front. -/
theorem nat?_toString (n : Nat) : Word.nat? (toString n).toList = some n := by
  have read : Text.numeral? 10 (Nat.toDigits 10 n) = some n :=
    Text.numeral?_toDigits (by decide) (by decide) n
  have digits : ∀ c ∈ Nat.toDigits 10 n, c.isDigit = true := fun c =>
    Nat.isDigit_of_mem_toDigits (by decide) (by decide)
  have leading : ∀ rest, Nat.toDigits 10 n = '0' :: rest → rest = [] := by
    intro rest split
    by_cases zero : n = 0
    · subst zero
      exact (List.cons.inj split).2.symm
    · have other : (Nat.toDigits 10 n).head? ≠ some '0' :=
        Text.head?_toDigits_ne (by decide) (by decide) zero
      rw [split] at other
      exact absurd rfl other
  rw [Nat.toString_eq_ofList_toDigits, String.toList_ofList]
  cases split : Nat.toDigits 10 n with
  | nil => exact absurd split Nat.toDigits_ne_nil
  | cons c rest =>
    rw [split] at read digits leading
    have unsigned : c ≠ '+' ∧ c ≠ '-' := by
      have digit := digits c List.mem_cons_self
      constructor <;> rintro rfl <;> exact absurd digit (by decide)
    have whole : Word.withoutPlus (c :: rest) = c :: rest ∧
        Word.withoutSign (c :: rest) = c :: rest := by
      simp [Word.withoutPlus, Word.withoutSign, unsigned]
    have decimal : Word.marked? (c :: rest) = none ∧ Word.hasLeadingZero (c :: rest) = false := by
      by_cases zero : c = '0'
      · subst zero
        obtain rfl := leading rest rfl
        exact ⟨rfl, rfl⟩
      · simp [Word.marked?, Word.hasLeadingZero, whole.2, zero]
    rw [Word.nat?, whole.1]
    simp [decimal, read]

theorem number_number (n : UInt64) : number root (valueNode (.number n.toNat)) = .ok n := by
  have bounded : n.toNat ≤ mostNumber := Nat.le_of_lt_succ n.toNat_lt
  have spelled : Word.natUpTo? mostNumber (toString n.toNat) = some n.toNat := by
    rw [Word.natUpTo?, nat?_toString]
    simp [Option.filter, bounded]
  have read : scalar root (valueNode (.number n.toNat)) = .ok ⟨none, .plain, toString n.toNat⟩ :=
    rfl
  simp only [number, read, bind, Except.bind, spelled]
  simp [isOpen]

theorem notaryTool_name (tool : NotaryTool) :
    notaryTool root (valueNode (.text tool.name)) = .ok tool := by
  cases tool with
  | notarytool => rfl
  | altool => rfl

/-! ## Sections -/

/-- The fields take `given` to `final`, each one by what its name sets. -/
inductive Sets (root : Node) (setters : List (Setter σ)) : List Field → σ → σ → Prop
  | nil (given : σ) : Sets root setters [] given given
  | missing {name : String} {fields : List Field} {given final : σ}
      (later : Sets root setters fields given final) :
      Sets root setters ((name, none) :: fields) given final
  | one {name : String} {value : Value} {set : Node → σ → Except Malformed σ} {fields : List Field}
      {given next final : σ} (known : setters.lookup name = some set)
      (here : set (valueNode value) given = .ok next)
      (later : Sets root setters fields next final) :
      Sets root setters ((name, some value) :: fields) given final

theorem setAll_cons {set : Node → σ → Except Malformed σ} {node : Node} {next : σ}
    (known : setters.lookup name = some set) (fresh : name ∉ seen)
    (here : set node given = .ok next) (rest : List (Node × Node)) :
    setAll root setters seen ((.scalar none ⟨none, .plain, name⟩, node) :: rest) given =
      setAll root setters (name :: seen) rest next := by
  have unseen : seen.contains name = false := by simpa using fresh
  have named : text root (.scalar none ⟨none, .plain, name⟩) = .ok name := rfl
  rw [setAll]
  simp only [named, bind, Except.bind, known, unseen, here]
  rfl

/-- The names in a list of fields are set one after the other. -/
theorem Sets.setAll (sets : Sets root setters fields given final)
    (distinct : (fields.map Prod.fst).Nodup) (fresh : ∀ name ∈ fields.map Prod.fst, name ∉ seen) :
    Settings.setAll root setters seen ((entriesOf fields).map fun entry =>
      (.scalar none ⟨none, .plain, entry.1⟩, valueNode entry.2)) given = .ok final := by
  induction sets generalizing seen with
  | nil given => rfl
  | missing later inductionHypothesis =>
    rw [List.map_cons, List.nodup_cons] at distinct
    rw [List.map_cons, List.forall_mem_cons] at fresh
    exact inductionHypothesis distinct.2 fresh.2
  | @one name value set fields given next final known here later inductionHypothesis =>
    rw [List.map_cons, List.nodup_cons] at distinct
    rw [List.map_cons, List.forall_mem_cons] at fresh
    have unset : ∀ other ∈ fields.map Prod.fst, other ∉ name :: seen := by
      intro other member
      rw [List.mem_cons, not_or]
      exact ⟨fun same => distinct.1 (same ▸ member), fresh.2 other member⟩
    exact (setAll_cons known fresh.1 here _).trans (inductionHypothesis distinct.2 unset)

/-- A value is read and kept. -/
theorem Sets.read {α : Type} {value : Value} {reader : Node → Except Malformed α}
    {update : α → σ → σ} {a : α}
    (known : setters.lookup name = some fun node given => do return update (← reader node) given)
    (here : reader (valueNode value) = .ok a)
    (later : Sets root setters fields (update a given) final) :
    Sets root setters ((name, some value) :: fields) given final := by
  apply Sets.one known _ later
  simp only [here, bind, Except.bind]
  rfl

/-- A text that may be absent is read and kept. -/
theorem Sets.optional {content : Option String} {update : Option String → σ → σ}
    (known : setters.lookup name =
      some fun node given => do return update (← optionalText root node) given)
    (absent : update none given = given)
    (later : Sets root setters fields (update content given) final) :
    Sets root setters (optionalField name content :: fields) given final := by
  cases content with
  | none =>
    rw [absent] at later
    exact .missing later
  | some content => exact .read known (optionalText_text content) later

theorem Sets.done (same : given = final) : Sets root setters [] given final := by
  rw [same]
  exact .nil final

theorem map_mk_map_text (path : Option Path) : (path.map Path.text).map Path.mk = path := by
  cases path <;> rfl

theorem sets_service (root : Node) (given : ServiceSection) :
    Sets root (serviceSetters root) (serviceFields given) .standard given := by
  apply Sets.read rfl (text_valueNode _)
  apply Sets.read rfl (text_valueNode _)
  apply Sets.optional rfl rfl
  apply Sets.optional rfl rfl
  apply Sets.optional rfl rfl
  apply Sets.optional rfl rfl
  apply Sets.read rfl (truth_truth _)
  apply Sets.read rfl (truth_truth _)
  apply Sets.read rfl (number_number _)
  apply Sets.done
  simp only [map_mk_map_text]
  rfl

theorem sets_lifecycle (root : Node) (given : LifecycleSection) :
    Sets root (lifecycleSetters root) (lifecycleFields given) .standard given := by
  apply Sets.read rfl (number_number _)
  apply Sets.read rfl (number_number _)
  apply Sets.read rfl (number_number _)
  apply Sets.read rfl (number_number _)
  exact .nil given

theorem sets_trust (root : Node) (given : TrustSection) :
    Sets root (trustSetters root) (trustFields given) .standard given := by
  apply Sets.read rfl (text_valueNode _)
  apply Sets.read rfl (text_valueNode _)
  apply Sets.optional rfl rfl
  apply Sets.optional rfl rfl
  apply Sets.optional rfl rfl
  apply Sets.optional rfl rfl
  apply Sets.optional rfl rfl
  apply Sets.read rfl (notaryTool_name _)
  apply Sets.read rfl (number_number _)
  apply Sets.read rfl (number_number _)
  apply Sets.done
  simp only [map_mk_map_text]
  rfl

/-! ## Settings -/

/-- The sections that settings are written in. -/
def sections (settings : Settings) : List (String × List Field) := [
  ("service", serviceFields settings.service),
  ("lifecycle", lifecycleFields settings.lifecycle),
  ("trust", trustFields settings.trust)]

theorem render_eq (settings : Settings) :
    settings.render = String.ofList (documentText (sections settings)) := by
  simp [render, documentText, sections]

/-- The names of all fields are keys, whether the fields have values or not. -/
theorem isSection_of_names (named : IsKey name) (keys : ∀ key ∈ fields.map Prod.fst, IsKey key)
    (some : entriesOf fields ≠ []) : IsSection (name, fields) where
  named := named
  keys := by
    intro entry listed
    rcases List.mem_filterMap.1 listed with ⟨⟨key, value⟩, member, same⟩
    rcases Option.map_eq_some_iff.1 same with ⟨value, -, rfl⟩
    exact keys key (List.mem_map_of_mem member)
  some := some

/-- The names do not depend on the settings, nor which of the fields come first. -/
theorem isSection_sections (settings : Settings) :
    ∀ given ∈ sections settings, IsSection given := by
  have serviceKeys : ∀ key ∈ (serviceFields .standard).map Prod.fst, IsKey key := by decide
  have lifecycleKeys : ∀ key ∈ (lifecycleFields .standard).map Prod.fst, IsKey key := by decide
  have trustKeys : ∀ key ∈ (trustFields .standard).map Prod.fst, IsKey key := by decide
  intro given listed
  simp only [sections, List.mem_cons, List.not_mem_nil, or_false] at listed
  rcases listed with rfl | rfl | rfl
  · exact isSection_of_names (by decide) serviceKeys (List.cons_ne_nil _ _)
  · exact isSection_of_names (by decide) lifecycleKeys (List.cons_ne_nil _ _)
  · exact isSection_of_names (by decide) trustKeys (List.cons_ne_nil _ _)

theorem mapping_sectionNode (sets : Sets root setters fields given final)
    (distinct : (fields.map Prod.fst).Nodup) :
    mapping root setters given (sectionNode fields) = .ok final :=
  sets.setAll distinct nofun

/-- The sections are set one after the other. -/
theorem ofNode_documentNode (settings : Settings) :
    ofNode (documentNode (sections settings)) = .ok settings := by
  have serviceNames : ((serviceFields .standard).map Prod.fst).Nodup := by decide
  have lifecycleNames : ((lifecycleFields .standard).map Prod.fst).Nodup := by decide
  have trustNames : ((trustFields .standard).map Prod.fst).Nodup := by decide
  have service := fun root =>
    mapping_sectionNode (sets_service root settings.service) serviceNames
  have lifecycle := fun root =>
    mapping_sectionNode (sets_lifecycle root settings.lifecycle) lifecycleNames
  have trust := fun root =>
    mapping_sectionNode (sets_trust root settings.trust) trustNames
  change setAll _ (setters _) [] [
    (.scalar none ⟨none, .plain, "service"⟩, sectionNode (serviceFields settings.service)),
    (.scalar none ⟨none, .plain, "lifecycle"⟩, sectionNode (lifecycleFields settings.lifecycle)),
    (.scalar none ⟨none, .plain, "trust"⟩, sectionNode (trustFields settings.trust))] standard = _
  rw [setAll_cons rfl (by decide) (by simp only [service]; rfl)]
  rw [setAll_cons rfl (by decide) (by simp only [lifecycle]; rfl)]
  rw [setAll_cons rfl (by decide) (by simp only [trust]; rfl)]
  rfl

/-- Settings that are written are read as they were. -/
theorem parse_render (settings : Settings) : parse settings.render = .ok settings := by
  have some : sections settings ≠ [] := List.cons_ne_nil _ _
  rw [parse, render_eq, document_documentText some (isSection_sections settings)]
  exact ofNode_documentNode settings

end Steward.Settings

import Steward.Proofs.Yaml.Printing
import Steward.Yaml.Node

/-!
# Nodes of what is written

The tokens of a document that is written are composed to the mapping of its
sections, and each section to the mapping of its entries.
-/

namespace Steward.Yaml

open Emit

namespace Compose

variable {handles : Handles} {anchors : List (String × Nat)} {tokens rest : List Token}
  {fuel enough : Nat} {tree : Node}

/-! ## Steps -/

theorem bind_of_ok {α β : Type} {first : Compose α} {next : α → Compose β} {a : α}
    {before after : Composer} (read : first before = .ok (a, after)) :
    (first >>= next) before = next a after := by
  simp only [bind, StateT.bind, Except.bind, read]

theorem peek_cons (token : Token) :
    peek ⟨token :: rest, anchors⟩ = .ok (token, ⟨token :: rest, anchors⟩) :=
  rfl

theorem advance_cons (token : Token) :
    advance ⟨token :: rest, anchors⟩ = .ok ((), ⟨rest, anchors⟩) :=
  rfl

/-- The tokens are composed to a node where an entry of a mapping wants one. -/
structure Composes (enough : Nat) (tokens : List Token) (tree : Node) : Prop where
  composed : ∀ handles fuel anchors rest, enough ≤ fuel →
    node handles fuel .entry ⟨tokens ++ rest, anchors⟩ = .ok (tree, ⟨rest, anchors⟩)
  begins : ∃ first more, tokens = first :: more ∧ first ∉ [Token.key, .value, .blockEnd]

theorem composes_scalar (style : Style) (text : String) :
    Composes 1 [.scalar style text] (.scalar none ⟨none, style, text⟩) where
  composed := by
    intro handles fuel anchors rest least
    obtain ⟨fuel, rfl⟩ : ∃ less, fuel = less + 1 := ⟨fuel - 1, by omega⟩
    rfl
  begins := ⟨_, _, rfl, by simp⟩

theorem Composes.mono {more : Nat} (composes : Composes enough tokens tree)
    (least : enough ≤ more) : Composes more tokens tree where
  composed := fun handles fuel anchors rest le =>
    composes.composed handles fuel anchors rest (least.trans le)
  begins := composes.begins

/-- A node is composed where one stands. -/
theorem Composes.optional (composes : Composes enough tokens tree) (least : enough < fuel) :
    Compose.optional handles fuel .entry [.key, .value, .blockEnd] ⟨tokens ++ rest, anchors⟩ =
      .ok (tree, ⟨rest, anchors⟩) := by
  obtain ⟨fuel, rfl⟩ : ∃ less, fuel = less + 1 := ⟨fuel - 1, by omega⟩
  rcases composes.begins with ⟨first, more, rfl, other⟩
  rw [Compose.optional, List.cons_append, bind_of_ok (peek_cons first), if_neg other]
  exact composes.composed handles fuel anchors rest (by omega)

theorem Composes.blockValue (composes : Composes enough tokens tree) (least : enough + 1 < fuel) :
    Compose.blockValue handles fuel ⟨.value :: (tokens ++ rest), anchors⟩ =
      .ok (tree, ⟨rest, anchors⟩) := by
  obtain ⟨fuel, rfl⟩ : ∃ less, fuel = less + 1 := ⟨fuel - 1, by omega⟩
  rw [Compose.blockValue, bind_of_ok (peek_cons .value)]
  change (advance >>= _) _ = _
  rw [bind_of_ok (advance_cons .value)]
  exact composes.optional (by omega)

theorem blockMapping_cons {name : String} {entries : List (Node × Node)} {left : Composer}
    (composes : Composes enough tokens tree) (least : enough + 1 < fuel)
    (others : blockMapping handles fuel ⟨rest, anchors⟩ = .ok (entries, left)) :
    blockMapping handles (fuel + 1)
      ⟨.key :: .scalar .plain name :: .value :: (tokens ++ rest), anchors⟩ =
        .ok ((.scalar none ⟨none, .plain, name⟩, tree) :: entries, left) := by
  have named : Compose.optional handles fuel .entry [.key, .value, .blockEnd]
      ⟨.scalar .plain name :: .value :: (tokens ++ rest), anchors⟩ =
        .ok (.scalar none ⟨none, .plain, name⟩, ⟨.value :: (tokens ++ rest), anchors⟩) :=
    (composes_scalar .plain name).optional (by omega)
  rw [blockMapping, bind_of_ok (peek_cons .key)]
  change (advance >>= _) _ = _
  rw [bind_of_ok (advance_cons .key), bind_of_ok named, bind_of_ok (composes.blockValue least),
    bind_of_ok others]
  rfl

/-- The entries of a mapping are composed one after the other. -/
theorem blockMapping_entries {ι : Type} (name : ι → String) (valueTokens : ι → List Token)
    (value : ι → Node) {entries : List ι}
    (composes : ∀ entry ∈ entries, Composes enough (valueTokens entry) (value entry))
    (least : entries.length + enough + 3 ≤ fuel) :
    blockMapping handles fuel
      ⟨(entries.flatMap fun entry =>
        [.key, .scalar .plain (name entry), .value] ++ valueTokens entry) ++ .blockEnd :: rest,
        anchors⟩ =
      .ok (entries.map fun entry => (.scalar none ⟨none, .plain, name entry⟩, value entry),
        ⟨rest, anchors⟩) := by
  induction entries generalizing fuel with
  | nil =>
    obtain ⟨fuel, rfl⟩ : ∃ less, fuel = less + 1 := ⟨fuel - 1, by omega⟩
    rfl
  | cons entry entries inductionHypothesis =>
    rw [List.forall_mem_cons] at composes
    rw [List.length_cons] at least
    obtain ⟨fuel, rfl⟩ : ∃ less, fuel = less + 1 := ⟨fuel - 1, by omega⟩
    have enoughLeft : entries.length + enough + 3 ≤ fuel := by omega
    have others := inductionHypothesis composes.2 enoughLeft
    simp only [List.flatMap_cons, List.append_assoc, List.cons_append, List.nil_append] at others ⊢
    exact blockMapping_cons composes.1 (by omega) others

/-- A block of entries is a mapping. -/
theorem node_mapping {place : Place} {entries : List (Node × Node)} {left : Composer}
    (block : place ≠ .flow)
    (read : blockMapping handles fuel ⟨rest, anchors⟩ = .ok (entries, left)) :
    node handles (fuel + 1) place ⟨.blockMappingStart :: rest, anchors⟩ =
      .ok (.mapping none entries, left) := by
  have opened : node handles (fuel + 1) place ⟨.blockMappingStart :: rest, anchors⟩ =
      (do return .mapping none (← blockMapping handles fuel) : Compose Node) ⟨rest, anchors⟩ := by
    cases place with
    | block => rfl
    | entry => rfl
    | flow => exact absurd rfl block
  rw [opened, bind_of_ok read]
  rfl

theorem composes_mapping {ι : Type} (name : ι → String) (valueTokens : ι → List Token)
    (value : ι → Node) {entries : List ι}
    (composes : ∀ entry ∈ entries, Composes enough (valueTokens entry) (value entry)) :
    Composes (entries.length + enough + 4)
      (.blockMappingStart :: (entries.flatMap fun entry =>
        [.key, .scalar .plain (name entry), .value] ++ valueTokens entry) ++ [.blockEnd])
      (.mapping none (entries.map fun entry =>
        (.scalar none ⟨none, .plain, name entry⟩, value entry))) where
  composed := by
    intro handles fuel anchors rest least
    obtain ⟨fuel, rfl⟩ : ∃ less, fuel = less + 1 := ⟨fuel - 1, by omega⟩
    rw [List.cons_append, List.cons_append, List.append_assoc]
    exact node_mapping (by decide) (blockMapping_entries name valueTokens value composes (by omega))
  begins := ⟨_, _, rfl, by simp⟩

/-! ## Documents -/

/-- The node of a value. -/
def valueNode (value : Value) : Node :=
  .scalar none ⟨none, value.style, value.content⟩

/-- The node of a section: the mapping of its entries. -/
def sectionNode (fields : List Field) : Node :=
  .mapping none ((entriesOf fields).map fun entry =>
    (.scalar none ⟨none, .plain, entry.1⟩, valueNode entry.2))

/-- The node of a document: the mapping of its sections. -/
def documentNode (sections : List (String × List Field)) : Node :=
  .mapping none (sections.map fun given =>
    (.scalar none ⟨none, .plain, given.1⟩, sectionNode given.2))

theorem composes_section (fields : List Field) :
    Composes ((entriesOf fields).length + 5)
      (.blockMappingStart :: (entriesOf fields).flatMap entryTokens ++ [.blockEnd])
      (sectionNode fields) :=
  composes_mapping Prod.fst (fun entry => [entry.2.token]) (fun entry => valueNode entry.2)
    fun entry _ => composes_scalar entry.2.style entry.2.content

theorem length_sectionTokens (given : String × List Field) :
    (sectionTokens given).length = 4 * (entriesOf given.2).length + 5 := by
  simp [sectionTokens, entryTokens, List.length_flatMap, List.map_const', Nat.mul_comm]

theorem length_sections_le (sections : List (String × List Field)) :
    sections.length ≤ (sections.flatMap sectionTokens).length := by
  induction sections with
  | nil => exact le_rfl
  | cons given sections inductionHypothesis =>
    rw [List.flatMap_cons, List.length_append, List.length_cons, length_sectionTokens]
    omega

theorem length_entries_le {sections : List (String × List Field)} {given : String × List Field}
    (listed : given ∈ sections) :
    (entriesOf given.2).length ≤ (sections.flatMap sectionTokens).length := by
  rcases List.append_of_mem listed with ⟨front, back, rfl⟩
  rw [List.flatMap_append, List.flatMap_cons, List.length_append, List.length_append,
    length_sectionTokens]
  omega

/-- The tokens of a document are composed to its node. -/
theorem run_document (sections : List (String × List Field)) :
    Compose.document (4 * (documentTokens sections).length + 8) ⟨documentTokens sections, []⟩ =
      .ok (some (documentNode sections), ⟨[.streamEnd], []⟩) := by
  -- Every section and every entry is written in tokens, so the fuel is enough for them.
  have long : (documentTokens sections).length = (sections.flatMap sectionTokens).length + 3 := by
    simp [documentTokens]
  have composes : ∀ given ∈ sections, Composes ((documentTokens sections).length + 2)
      (.blockMappingStart :: (entriesOf given.2).flatMap entryTokens ++ [.blockEnd])
      (sectionNode given.2) := by
    intro given listed
    have few := length_entries_le listed
    exact (composes_section given.2).mono (by omega)
  have few := length_sections_le sections
  have read : node standardHandles (4 * (documentTokens sections).length + 8) .block
      ⟨documentTokens sections, []⟩ = .ok (documentNode sections, ⟨[.streamEnd], []⟩) :=
    node_mapping (by decide) (blockMapping_entries Prod.fst _ (fun given => sectionNode given.2)
      composes (by omega))
  have ended : skipEnds (4 * (documentTokens sections).length + 8) ⟨[.streamEnd], []⟩ =
      .ok ((), ⟨[.streamEnd], []⟩) :=
    rfl
  have first : peek ⟨documentTokens sections, []⟩ =
      .ok (.blockMappingStart, ⟨documentTokens sections, []⟩) :=
    rfl
  have last : peek ⟨[.streamEnd], []⟩ = .ok (.streamEnd, ⟨[.streamEnd], []⟩) := rfl
  rw [document, bind_of_ok first, if_neg (by decide)]
  dsimp only
  rw [if_neg (by decide), bind_of_ok read, bind_of_ok ended, bind_of_ok last, if_neg (by decide)]
  rfl

end Compose

/-- What is written of a document is read as its node. -/
theorem document_documentText {sections : List (String × List Field)} (some : sections ≠ [])
    (written : ∀ given ∈ sections, IsSection given) :
    document (String.ofList (documentText sections)) =
      .ok (Option.some (Compose.documentNode sections)) := by
  rw [document, String.toList_ofList, tokens_documentText some written]
  simp only [bind, Except.bind, StateT.run, Compose.run_document]
  rfl

end Steward.Yaml

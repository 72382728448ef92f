import Mathlib.Data.List.TakeWhile
import Steward.Yaml.Emit

/-!
# Gaps and what stands after them

Texts cut where a kind of character ends, and what stands before and after gaps.
-/

namespace Steward.Yaml

/-! ## Stretches -/

/-- A text is a stretch of characters of one kind, and what begins with another or is empty. -/
theorem exists_stretch (kind : Char → Bool) (cs : List Char) :
    ∃ run rest, cs = run ++ rest ∧ (∀ c ∈ run, kind c = true) ∧
      ∀ c ∈ rest.head?, kind c = false := by
  refine ⟨cs.takeWhile kind, cs.dropWhile kind, List.takeWhile_append_dropWhile.symm, ?_, ?_⟩
  · exact fun c member => List.mem_takeWhile_imp member
  · intro c first
    have other := List.head?_dropWhile_not kind cs
    rwa [Option.mem_def.1 first] at other

/-- A text is spaces, and what begins with something else or is empty. -/
theorem exists_spaces (cs : List Char) :
    ∃ count rest, cs = List.replicate count ' ' ++ rest ∧ ∀ c ∈ rest.head?, c ≠ ' ' := by
  rcases exists_stretch (· == ' ') cs with ⟨spaces, rest, rfl, blank, other⟩
  have same : spaces = List.replicate spaces.length ' ' :=
    List.eq_replicate_iff.2 ⟨rfl, by simpa using blank⟩
  exact ⟨spaces.length, rest, by rw [← same], by simpa using other⟩

/-! ## Where gaps end -/

/-- A text does not begin with a gap. -/
def IsSolid (text : List Char) : Prop :=
  ∀ c ∈ text.head?, isGap c = false

theorem isSolid_cons {c : Char} {rest : List Char} :
    IsSolid (c :: rest) ↔ isGap c = false := by
  simp [IsSolid]

theorem isSpace_of_not_isGap {c : Char} (solid : isGap c = false) : isSpace c = false :=
  (Bool.or_eq_false_iff.1 solid).1

theorem isBreak_of_not_isGap {c : Char} (solid : isGap c = false) : isBreak c = false :=
  (Bool.or_eq_false_iff.1 solid).2

theorem isSpace_of_isBreak {c : Char} (breaking : isBreak c = true) : isSpace c = false := by
  simp only [isBreak, Bool.or_eq_true, beq_iff_eq] at breaking
  rcases breaking with (rfl | rfl) | rfl <;> decide

/-- Of what can be written as it is, only spaces and breaks are gaps. -/
theorem isGap_of_isPrintable {c : Char} (printable : Emit.isPrintable c = true) :
    isGap c = Emit.isEdge c := by
  have tab : (c == '\t') = false := by
    rw [beq_eq_false_iff_ne]
    rintro rfl
    exact absurd printable (by decide)
  simp [isGap, isSpace, Emit.isEdge, Emit.isBlank, tab]

/-- Spaces without a break are passed over. -/
theorem readBreaks_spaces {text : List Char} (solid : IsSolid text) (passed count : Nat) :
    readBreaks passed (List.replicate count ' ' ++ text) = ([], passed + count, text) := by
  induction count generalizing passed with
  | zero =>
    cases text with
    | nil => rfl
    | cons c rest =>
      have solid := isSolid_cons.1 solid
      simp [readBreaks, isBreak_of_not_isGap solid, isSpace_of_not_isGap solid]
  | succ count inductionHypothesis =>
    have space : isBreak ' ' = false ∧ isSpace ' ' = true := by decide
    rw [List.replicate_succ, List.cons_append, readBreaks, space.1, space.2]
    rw [if_neg (by decide), if_pos rfl, inductionHypothesis]
    rw [Nat.add_assoc, Nat.add_comm 1]

theorem dropWhile_isSpace_spaces {text : List Char} (solid : IsSolid text) (count : Nat) :
    (List.replicate count ' ' ++ text).dropWhile isSpace = text ∧
      (List.replicate count ' ' ++ text).takeWhile isSpace = List.replicate count ' ' := by
  have space : ∀ c ∈ List.replicate count ' ', isSpace c = true := by
    intro c member
    rw [List.eq_of_mem_replicate member]
    rfl
  rw [List.dropWhile_append_of_pos space, List.takeWhile_append_of_pos space]
  cases text with
  | nil => simp
  | cons c rest => simp [isSpace_of_not_isGap (isSolid_cons.1 solid)]

/-- Spaces without a break are a gap. -/
theorem readGap_spaces {text : List Char} (solid : IsSolid text) (count : Nat) :
    readGap (List.replicate count ' ' ++ text) = (⟨List.replicate count ' ', [], 0⟩, text) := by
  rcases dropWhile_isSpace_spaces solid count with ⟨after, spaces⟩
  have none := readBreaks_spaces solid 0 0
  simp only [List.replicate_zero, List.nil_append] at none
  rw [readGap, after, spaces, none]

/-- Breaks and the spaces after the last are a gap. -/
theorem readGap_breaks {c : Char} {breaks text : List Char}
    (breaking : ∀ d ∈ c :: breaks, isBreak d = true) (solid : IsSolid text) (count : Nat) :
    readGap (c :: breaks ++ (List.replicate count ' ' ++ text)) =
      (⟨[], c :: breaks, count⟩, text) := by
  have read : ∀ passed, readBreaks passed (c :: breaks ++ (List.replicate count ' ' ++ text)) =
      (c :: breaks, count, text) := by
    induction breaks generalizing c with
    | nil =>
      intro passed
      have here := breaking c List.mem_cons_self
      simp [readBreaks, here, readBreaks_spaces solid]
    | cons d breaks inductionHypothesis =>
      intro passed
      have here := breaking c List.mem_cons_self
      have onward := inductionHypothesis fun e member => breaking e (List.mem_cons_of_mem c member)
      rw [List.cons_append, readBreaks, here, if_pos rfl, onward]
  have space := isSpace_of_isBreak (breaking c List.mem_cons_self)
  have after : (c :: breaks ++ (List.replicate count ' ' ++ text)).dropWhile isSpace =
      c :: breaks ++ (List.replicate count ' ' ++ text) := by
    simp [space]
  rw [readGap, after, read]
  simp [space]

end Steward.Yaml

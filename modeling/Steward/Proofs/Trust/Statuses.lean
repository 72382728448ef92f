import Steward.Proofs.Text.Padding
import Steward.Trust.Status

/-!
# Reading statuses

A status is read from a word whatever its case and the blanks around it, and what is printed of a
status that was read is read as that status again.  Printing is not the inverse of reading, as
several words are read as one status and two kinds of statuses keep the word that was read; but a
word that is kept is one that is read as its own kind.
-/

namespace Steward.Status

/-! ## Kinds -/

/-- What a status says, whatever the word. -/
inductive Kind
  | success
  | invalid
  | inProgress
  | other
  deriving DecidableEq, Repr

def kind : Status → Kind
  | success => .success
  | invalid _ => .invalid
  | inProgress => .inProgress
  | other _ => .other

/-- The words in small letters that are final. -/
def finalWords : List String := ["success", "accepted", "invalid", "rejected"]

/-- The kind of status that a word in small letters stands for. -/
def kindOf (word : String) : Kind :=
  if word = "success" || word = "accepted" then .success
  else if word = "invalid" || word = "rejected" then .invalid
  else if word = "in progress" || word = "in_progress" || word = "inprogress" then .inProgress
  else .other

theorem kind_read (token : String) :
    (read token).kind = kindOf (Text.lowered (Text.trim token)) := by
  simp only [read, kindOf]
  split_ifs <;> rfl

theorem isTerminal_eq (status : Status) :
    status.isTerminal = true ↔ status.kind = .success ∨ status.kind = .invalid := by
  cases status <;> simp [isTerminal, kind]

/-! ## Padding and case -/

theorem read_padded {before after : String} (blankBefore : Text.isAllBlank before = true)
    (blankAfter : Text.isAllBlank after = true) (token : String) :
    read (before ++ token ++ after) = read token := by
  rw [read, Text.trim_padded blankBefore blankAfter, read]

theorem read_trim (token : String) : read (Text.trim token) = read token := by
  rw [read, Text.trim_trim, read]

theorem kind_read_of_lowered {token other : String}
    (alike : Text.lowered token = Text.lowered other) :
    (read token).kind = (read other).kind := by
  rw [kind_read, kind_read, ← Text.trim_lowered, alike, Text.trim_lowered]

/-! ## What is printed -/

theorem text_read (token : String) :
    read token = success ∨ read token = inProgress ∨ (read token).text = Text.trim token := by
  simp only [read]
  split_ifs <;> simp [text]

/-- What is printed of a status that was read is read as that status. -/
theorem read_text_read (token : String) : read (read token).text = read token := by
  rcases text_read token with accepted | pending | kept
  · rw [accepted]
    decide +kernel
  · rw [pending]
    decide +kernel
  · rw [kept, read_trim]

/-! ## Final words -/

theorem isTerminal_read (token : String) :
    (read token).isTerminal = true ↔ Text.lowered (Text.trim token) ∈ finalWords := by
  rw [isTerminal_eq, kind_read, kindOf, finalWords]
  generalize Text.lowered (Text.trim token) = word
  simp only [Bool.or_eq_true, decide_eq_true_eq]
  split_ifs with accepted refused pending
  · rcases accepted with rfl | rfl <;> decide
  · rcases refused with rfl | rfl <;> decide
  · rcases pending with (rfl | rfl) | rfl <;> decide
  · simp_all [not_or]

/-- A word is final exactly when it is one of the four up to case and the blanks around it. -/
theorem isTerminal_read_iff (token : String) :
    (read token).isTerminal = true ↔
      ∃ before word after, Text.isAllBlank before = true ∧ Text.isAllBlank after = true ∧
        Text.lowered word ∈ finalWords ∧ token = before ++ word ++ after := by
  rw [isTerminal_read]
  constructor
  · intro final
    obtain ⟨before, after, blankBefore, blankAfter, whole⟩ := Text.exists_trim token
    exact ⟨before, Text.trim token, after, blankBefore, blankAfter, final, whole⟩
  · rintro ⟨before, word, after, blankBefore, blankAfter, final, rfl⟩
    have trimmed : ∀ final ∈ finalWords, Text.trim final = final := by decide +kernel
    rwa [Text.trim_padded blankBefore blankAfter, ← Text.trim_lowered, trimmed _ final]

end Steward.Status

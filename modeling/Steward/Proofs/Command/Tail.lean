import Mathlib.Data.List.DropRight
import Steward.Command.Logs
import Steward.Proofs.Files.Making
import Steward.Proofs.Files.Route
import Steward.Proofs.Text.Lines

/-!
# The end of a log

The lines of a log come one after the other, and of those that have come the last are kept, as many
as there are places: that is what one line preserves.  So the end of a log is shown line by line,
however few or many lines it has.  Only the room for the lines, which is asked for before the log is
read, is as large as the number of lines asked for, and not as the log; where it cannot be had,
nothing is shown.
-/

namespace Steward.Logs

/-! ## The lines that are kept -/

section Keeping

variable {α : Type _}

theorem length_rtake (items : List α) (count : Nat) :
    (items.rtake count).length = min count items.length := by
  rw [List.rtake, List.length_drop]
  omega

/-- One more item is kept, and of the items before it the last that still have a place. -/
theorem keep_rtake (places : Nat) (seen : List α) (item : α) :
    keep places (seen.rtake places) item = (seen ++ [item]).rtake places := by
  cases places with
  | zero => simp [keep]
  | succ left =>
    rw [keep, if_neg (Nat.succ_ne_zero left), List.rtake_concat_succ, length_rtake]
    by_cases full : min (left + 1) seen.length = left + 1
    · have first : seen.length - (left + 1) + 1 = seen.length - left := by omega
      rw [if_pos full, List.rtake, List.tail_drop, first, List.rtake]
    · have all : seen.length ≤ left := by omega
      rw [if_neg full, List.rtake, List.rtake, Nat.sub_eq_zero_of_le all,
        Nat.sub_eq_zero_of_le (Nat.le_succ_of_le all)]

/-- When items have been seen and more come, what is kept in the end are the last of all. -/
theorem foldl_keep (places : Nat) (seen items : List α) :
    items.foldl (keep places) (seen.rtake places) = (seen ++ items).rtake places := by
  induction items generalizing seen with
  | nil => simp
  | cons item rest inductionHypothesis =>
    rw [List.foldl_cons, keep_rtake, inductionHypothesis, List.append_assoc, List.singleton_append]

/-- What is kept when all have come are the last of them. -/
theorem lastOf_eq (places : Nat) (items : List α) : lastOf places items = items.rtake places := by
  simpa [lastOf] using foldl_keep places [] items

end Keeping

/-! ## What is shown -/

section Showing

variable {files : FileSystem} {path : Path} {text : String}

theorem doesExist_of_readText (readable : files.readText path = .ok text) :
    files.doesExist path = true := by
  obtain ⟨bytes, read, -⟩ := Except.bind_eq_ok_iff.1 readable
  obtain ⟨place, leads, found⟩ := FileSystem.read_eq_ok_iff.1 read
  exact FileSystem.doesExist_eq_true_iff.2 ⟨place, .file bytes, leads, found⟩

/-- A log that can be read is shown once there is room for as many lines as were asked for. -/
theorem show?_eq (readable : files.readText path = .ok text) (room count : Nat) (title : String) :
    show? files room count title path = (reserve room count).map fun _ =>
      String.join ((heading path :: (Text.lines text).rtake count).map Answer.line) := by
  rw [show?, doesExist_of_readText readable, readable]
  simp only [lastOf_eq]
  cases reserve room count <;> rfl

theorem reserve_eq_ok {room count : Nat} (fits : count * lineBytes ≤ min room addressable) :
    reserve room count = .ok () := by
  rw [reserve, if_neg (by omega), if_neg (by omega)]

theorem reserve_eq_overflow (room : Nat) {count : Nat} (beyond : addressable < count * lineBytes) :
    reserve room count = .error overflow := by
  rw [reserve, if_pos beyond]

theorem reserve_eq_exhausted {room count : Nat} (scarce : room < count * lineBytes)
    (within : count * lineBytes ≤ addressable) :
    reserve room count = .error (exhausted (count * lineBytes)) := by
  rw [reserve, if_neg (by omega), if_pos scarce]

/-- Of a log that can be read exactly the last lines are shown, below its path and in their order:
as many as were asked for, or all if there are fewer; and each without the line feed, or the
carriage return and line feed, that ends it.  That is so as long as there is room for as many lines
as were asked for.  If there is not, or if so much room cannot even be addressed, nothing is shown,
though the log be short. -/
theorem show_tail (readable : files.readText path = .ok text) (room count : Nat) (title : String) :
    ∃ earlier shown : List (List Char),
      Text.EndedLines (earlier ++ shown) text.toList ∧
      (∀ lines, Text.EndedLines lines text.toList → lines = earlier ++ shown) ∧
      shown.length = min count (earlier ++ shown).length ∧
      (count * lineBytes ≤ min room addressable →
        show? files room count title path =
          .ok (String.join ((heading path :: shown.map String.ofList).map Answer.line))) ∧
      (room < count * lineBytes → count * lineBytes ≤ addressable →
        show? files room count title path = .error (exhausted (count * lineBytes))) ∧
      (addressable < count * lineBytes → show? files room count title path = .error overflow) := by
  let lines := Text.linesOf text.toList
  have whole : lines.rdrop count ++ lines.rtake count = lines := List.take_append_drop _ _
  have same : (Text.lines text).rtake count = (lines.rtake count).map String.ofList := by
    simp [Text.lines, lines, List.rtake, List.map_drop]
  refine ⟨lines.rdrop count, lines.rtake count, ?_, ?_, ?_, ?_, ?_, ?_⟩
  · rw [whole]
    exact Text.endedLines_linesOf text.toList
  · intro others ended
    rw [whole]
    exact ended.linesOf_eq.symm
  · rw [whole]
    exact length_rtake lines count
  · intro fits
    rw [show?_eq readable, reserve_eq_ok fits, same]
    rfl
  · intro scarce within
    rw [show?_eq readable, reserve_eq_exhausted scarce within]
    rfl
  · intro beyond
    rw [show?_eq readable, reserve_eq_overflow room beyond]
    rfl

end Showing

/-- The files where the log `/bridge.log` and nothing else stands. -/
def loneLog (text : String) : FileSystem := ⟨[(["bridge.log"], .file text.toUTF8)], [], []⟩

theorem show_tail_unfinished :
    (loneLog "one\r\ntwo\r\nthree").readText ⟨"/bridge.log"⟩ = .ok "one\r\ntwo\r\nthree" ∧
      show? (loneLog "one\r\ntwo\r\nthree") 48 2 "stdout" ⟨"/bridge.log"⟩ =
        .ok "==> /bridge.log <==\ntwo\nthree\n" := by
  have readable : (loneLog "one\r\ntwo\r\nthree").readText ⟨"/bridge.log"⟩ =
      .ok "one\r\ntwo\r\nthree" := by decide +kernel
  refine ⟨readable, ?_⟩
  obtain ⟨earlier, shown, -, unique, long, fits, -, -⟩ := show_tail readable 48 2 "stdout"
  have lines : [['o', 'n', 'e'], ['t', 'w', 'o'], ['t', 'h', 'r', 'e', 'e']] = earlier ++ shown :=
    unique _ (.returned (by decide) (.returned (by decide) (.unfinished (by decide) (by decide))))
  rw [← lines] at long
  obtain ⟨-, rfl⟩ : earlier = [['o', 'n', 'e']] ∧
      shown = [['t', 'w', 'o'], ['t', 'h', 'r', 'e', 'e']] := by
    apply List.append_inj' _ long
    simpa using lines.symm
  rw [fits (by decide)]
  decide +kernel

/-- A log of one line is not shown when more lines are asked for than there can be room for. -/
theorem show_overflows :
    (loneLog "line-1\n").readText ⟨"/bridge.log"⟩ = .ok "line-1\n" ∧
      ∀ room, show? (loneLog "line-1\n") room 18446744073709551615 "stdout" ⟨"/bridge.log"⟩ =
        .error ⟨"", "capacity overflow\n", 101⟩ := by
  have readable : (loneLog "line-1\n").readText ⟨"/bridge.log"⟩ = .ok "line-1\n" := by
    decide +kernel
  refine ⟨readable, fun room => ?_⟩
  rw [show?_eq readable, reserve_eq_overflow room (by decide)]
  rfl

end Steward.Logs

import Mathlib.Data.List.Forall2
import Steward.Trust.Tools

/-!
# Secrets on command lines

The authority's clients take a password as an argument.  What is recorded of
a command line goes through one scan from left to right, which knows the flags
in front of secrets and nothing else of the line.  The scan starts afresh
behind every argument that is no such flag, so the argument that announces the
account decides what happens to the password two places on: the password is
masked exactly when the account does not read like a flag itself, whatever
stands in front.
-/

namespace Steward

variable {α : Type}

namespace Toolbox

/-! ## The scan -/

theorem redact_of_secretFlag {argument : String} (announces : argument ∈ secretFlags)
    (secret : String) (rest : List String) :
    redact (argument :: secret :: rest) = argument :: mask :: redact rest := by
  rw [redact, if_pos announces]

theorem redact_of_ordinary {argument : String} (ordinary : argument ∉ secretFlags)
    (rest : List String) :
    redact (argument :: rest) = argument :: redact rest := by
  cases rest with
  | nil => rfl
  | cons next rest => rw [redact, if_neg ordinary]

/-- Behind an argument that is no secret flag, masked or not, the scan starts afresh. -/
theorem redact_append_of_ordinary {pivot : String} (ordinary : pivot ∉ secretFlags)
    (front back : List String) :
    redact (front ++ pivot :: back) = redact (front ++ [pivot]) ++ redact back := by
  induction front using redact.induct with
  | case1 => exact redact_of_ordinary ordinary back
  | case2 argument =>
      by_cases announces : argument ∈ secretFlags
      · calc
          redact (argument :: pivot :: back) = argument :: mask :: redact back :=
            redact_of_secretFlag announces pivot back
          _ = redact (argument :: pivot :: []) ++ redact back := by
            rw [redact_of_secretFlag announces pivot []]
            rfl
      · calc
          redact (argument :: pivot :: back) = argument :: pivot :: redact back := by
            rw [redact_of_ordinary announces, redact_of_ordinary ordinary]
          _ = redact (argument :: pivot :: []) ++ redact back := by
            rw [redact_of_ordinary announces]
            rfl
  | case3 argument next rest announces inductionHypothesis =>
      simp only [List.cons_append, redact_of_secretFlag announces, inductionHypothesis]
  | case4 argument next rest ordinaryArgument inductionHypothesis =>
      calc
        redact (argument :: (next :: rest ++ pivot :: back)) =
            argument :: redact (next :: rest ++ pivot :: back) :=
          redact_of_ordinary ordinaryArgument _
        _ = argument :: (redact (next :: rest ++ [pivot]) ++ redact back) := by
          rw [inductionHypothesis]
        _ = redact (argument :: (next :: rest ++ [pivot])) ++ redact back := by
          rw [redact_of_ordinary ordinaryArgument]
          rfl

/-- The scan shows every argument in its place, or a mask there. -/
theorem redact_shows (arguments : List String) :
    List.Forall₂ (fun argument shown => shown = argument ∨ shown = mask) arguments
      (redact arguments) := by
  induction arguments using redact.induct with
  | case1 => exact .nil
  | case2 argument => exact .cons (.inl rfl) .nil
  | case3 argument next rest announces inductionHypothesis =>
      rw [redact_of_secretFlag announces]
      exact .cons (.inl rfl) (.cons (.inr rfl) inductionHypothesis)
  | case4 argument next rest ordinary inductionHypothesis =>
      rw [redact_of_ordinary ordinary]
      exact .cons (.inl rfl) inductionHypothesis

theorem length_redact (arguments : List String) :
    (redact arguments).length = arguments.length :=
  (List.Forall₂.length_eq (redact_shows arguments)).symm

/-! ## What a record hides -/

/-- A record of a command line hides the argument at a place: a mask stands there, and at every
other place a mask or the argument of that place. -/
structure Hides (place : Nat) (arguments recorded : List String) : Prop where
  masked : recorded[place]? = some mask
  elsewhere : ∀ other shown, other ≠ place → recorded[other]? = some shown →
    shown = mask ∨ arguments[other]? = some shown

/-- What a record shows under no mask is an argument at another place. -/
theorem Hides.shown {place : Nat} {arguments recorded : List String}
    (hides : Hides place arguments recorded) {shown : String} (member : shown ∈ recorded) :
    shown = mask ∨ ∃ other, other ≠ place ∧ arguments[other]? = some shown := by
  obtain ⟨other, there⟩ := List.getElem?_of_mem member
  by_cases same : other = place
  · subst same
    exact .inl (Option.some.inj (there.symm.trans hides.masked))
  · exact (hides.elsewhere other shown same there).imp id fun unchanged => ⟨other, same, unchanged⟩

/-- The scan hides what it masks. -/
theorem hides_of_masked {place : Nat} {arguments : List String}
    (masked : (redact arguments)[place]? = some mask) :
    Hides place arguments (redact arguments) where
  masked := masked
  elsewhere := by
    intro other shown _ there
    obtain ⟨inRecord, shows⟩ := List.getElem?_eq_some_iff.1 there
    have inLine : other < arguments.length := length_redact arguments ▸ inRecord
    rcases (List.forall₂_iff_get.1 (redact_shows arguments)).2 other inLine inRecord with
      same | hidden
    · right
      rw [List.getElem?_eq_getElem inLine, ← shows]
      exact congrArg some same.symm
    · left
      exact shows ▸ hidden

/-- What stands in the password's place depends on the account and what is behind it only. -/
theorem redact_at_secret {accountFlag : String} (ordinaryFlag : accountFlag ∉ secretFlags)
    (front back : List String) :
    (redact (front ++ accountFlag :: back))[front.length + 3]? = (redact back)[2]? := by
  have length : (redact (front ++ [accountFlag])).length = front.length + 1 := by
    rw [length_redact, List.length_append, List.length_singleton]
  have place : front.length + 3 - (front.length + 1) = 2 := by omega
  rw [redact_append_of_ordinary ordinaryFlag, List.getElem?_append_right (by omega), length, place]

/-- Behind an account that reads like no flag, the scan masks the password, whatever stands in
front of the account's own flag. -/
theorem redact_hides {accountFlag account passwordFlag : String}
    (ordinaryFlag : accountFlag ∉ secretFlags) (ordinary : account ∉ secretFlags)
    (announces : passwordFlag ∈ secretFlags) (front back : List String) (secret : String) :
    Hides (front.length + 3)
      (front ++ accountFlag :: account :: passwordFlag :: secret :: back)
      (redact (front ++ accountFlag :: account :: passwordFlag :: secret :: back)) := by
  apply hides_of_masked
  rw [redact_at_secret ordinaryFlag, redact_of_ordinary ordinary, redact_of_secretFlag announces]
  rfl

theorem head_redact (argument : String) (rest : List String) :
    (redact (argument :: rest))[0]? = some argument := by
  cases rest with
  | nil => rfl
  | cons next rest =>
      rw [redact]
      split <;> rfl

/-- An account that reads like a secret flag takes the mask away from the password. -/
theorem redact_reveals {accountFlag account between : String}
    (ordinaryFlag : accountFlag ∉ secretFlags) (announces : account ∈ secretFlags)
    (front back : List String) (secret : String) :
    (redact (front ++ accountFlag :: account :: between :: secret :: back))[front.length + 3]? =
      some secret := by
  rw [redact_at_secret ordinaryFlag, redact_of_secretFlag announces]
  exact head_redact secret back

/-! ## Failures of tools -/

/-- Two requests in a row answer what the first says about a failure, and else what the second
answers. -/
theorem answer_bind {ω ε β γ : Type} (request : Call ω ε β) (next : β → Call ω ε γ) (world : ω) :
    ((request >>= next) world).answer =
      match (request world).answer with
      | .ok answer => (next answer (request world).world).answer
      | .error error => .error error := by
  show ((ExceptT.bindCont next (request world).answer) (request world).world).answer = _
  cases (request world).answer <;> rfl

theorem answer_adapt {ω ε ε' β : Type} (name : ε → ε') (request : Call ω ε β) (world : ω) :
    (ExceptT.adapt name request world).answer = (request world).answer.mapError name :=
  rfl

/-- A tool that ran and failed is recorded with its arguments as the scan leaves them. -/
theorem recorded_of_answer_run {tools : Toolbox α} {program failing : String}
    {arguments recorded : List String} {status : Option Int} {diagnostic : String}
    {world : World α}
    (failed : (tools.run program arguments world).answer =
      .error (.failed failing recorded status diagnostic)) :
    recorded = redact arguments := by
  unfold run at failed
  by_cases passable : (program :: arguments).all isPassable
  · rw [if_neg (by rw [passable]; exact Bool.false_ne_true)] at failed
    replace failed := (answer_bind _ _ world).symm.trans failed
    rw [answer_adapt] at failed
    generalize (tools program arguments world).answer = answer at failed
    cases answer with
    | error cause => cases failed
    | ok ending =>
        by_cases success : ending.status = some 0
        · dsimp only [Except.mapError] at failed
          rw [if_pos success] at failed
          cases failed
        · dsimp only [Except.mapError] at failed
          rw [if_neg success] at failed
          cases failed
          rfl
  · rw [if_pos (by rw [Bool.not_eq_true] at passable; rw [passable]; rfl)] at failed
    cases failed

end Toolbox

namespace NotaryTool

/-! ## Command lines with a password -/

/-- Both clients announce an account with a flag of their own and the password behind it. -/
theorem exists_credentialArguments (tool : NotaryTool) (account secret : String)
    (team : Option String) :
    ∃ accountFlag passwordFlag back, accountFlag ∉ Toolbox.secretFlags ∧
      passwordFlag ∈ Toolbox.secretFlags ∧
      tool.credentialArguments (.password account secret team) =
        accountFlag :: account :: passwordFlag :: secret :: back := by
  cases tool with
  | notarytool => exact ⟨"--apple-id", "--password", _, by decide, by decide, rfl⟩
  | altool => exact ⟨"--username", "--password", _, by decide, by decide, rfl⟩

/-- Where the password stands when an archive is handed in. -/
def secretPlaceOfSubmit : NotaryTool → Nat
  | notarytool => 6
  | altool => 9

/-- Where the password stands when a status is asked for. -/
def secretPlaceOfInfo : Nat := 6

/-- A command line that has a password at a place, and a record of it that hides the password: it
is nowhere in the record unless it reads like the mask or is another argument as well. -/
structure HidesSecret (place : Nat) (secret : String) (arguments recorded : List String) :
    Prop where
  present : arguments[place]? = some secret
  hides : Toolbox.Hides place arguments recorded
  absent : secret ∈ recorded →
    secret = Toolbox.mask ∨ ∃ other, other ≠ place ∧ arguments[other]? = some secret

/-- Whatever stands in front of a credential, its password is hidden if the account does not read
like a secret flag. -/
theorem hidesSecret_of_ordinary (tool : NotaryTool) {account : String}
    (ordinary : account ∉ Toolbox.secretFlags) (secret : String) (team : Option String)
    (front : List String) :
    HidesSecret (front.length + 3) secret
      (front ++ tool.credentialArguments (.password account secret team))
      (Toolbox.redact (front ++ tool.credentialArguments (.password account secret team))) := by
  obtain ⟨accountFlag, passwordFlag, back, ordinaryFlag, announces, shape⟩ :=
    tool.exists_credentialArguments account secret team
  rw [shape]
  have hides := Toolbox.redact_hides ordinaryFlag ordinary announces front back secret
  refine ⟨?_, hides, hides.shown⟩
  rw [List.getElem?_append_right (Nat.le_add_right _ _), Nat.add_sub_cancel_left]
  rfl

theorem submitArguments_hidesSecret (tool : NotaryTool) (archive : Path) (bundleId : String)
    {account : String} (ordinary : account ∉ Toolbox.secretFlags) (secret : String)
    (team : Option String) :
    let arguments := tool.submitArguments archive bundleId (.password account secret team)
    HidesSecret tool.secretPlaceOfSubmit secret arguments (Toolbox.redact arguments) := by
  cases tool with
  | notarytool => exact hidesSecret_of_ordinary .notarytool ordinary secret team [_, _, _]
  | altool => exact hidesSecret_of_ordinary .altool ordinary secret team [_, _, _, _, _, _]

theorem infoArguments_hidesSecret (tool : NotaryTool) (trackingId : TrackingId)
    {account : String} (ordinary : account ∉ Toolbox.secretFlags) (secret : String)
    (team : Option String) :
    let arguments := tool.infoArguments trackingId (.password account secret team)
    HidesSecret secretPlaceOfInfo secret arguments (Toolbox.redact arguments) := by
  cases tool with
  | notarytool => exact hidesSecret_of_ordinary .notarytool ordinary secret team [_, _, _]
  | altool => exact hidesSecret_of_ordinary .altool ordinary secret team [_, _, _]

/-- With an account that does not read like a secret flag, what is recorded of the requests that
hand in an archive or ask for a status hides the password.  The record is the same in the failure
of a client that ran. -/
theorem notary_hides_secret (tool : NotaryTool) (tools : Toolbox α) (archive : Path)
    (bundleId : String) (trackingId : TrackingId) (account secret : String)
    (team : Option String) (ordinary : account ∉ Toolbox.secretFlags) :
    let credential := Credential.password account secret team
    let submission := tool.submitArguments archive bundleId credential
    let query := tool.infoArguments trackingId credential
    HidesSecret tool.secretPlaceOfSubmit secret submission (Toolbox.redact submission) ∧
      HidesSecret secretPlaceOfInfo secret query (Toolbox.redact query) ∧
      ∀ world program recorded status diagnostic,
        (((tool.notary tools).submit archive bundleId credential world).answer =
            .error (.failed program recorded status diagnostic) →
          HidesSecret tool.secretPlaceOfSubmit secret submission recorded) ∧
        (((tool.notary tools).query trackingId credential world).answer =
            .error (.failed program recorded status diagnostic) →
          HidesSecret secretPlaceOfInfo secret query recorded) := by
  intro credential submission query
  have submitted : HidesSecret tool.secretPlaceOfSubmit secret submission
      (Toolbox.redact submission) :=
    tool.submitArguments_hidesSecret archive bundleId ordinary secret team
  have queried : HidesSecret secretPlaceOfInfo secret query (Toolbox.redact query) :=
    tool.infoArguments_hidesSecret trackingId ordinary secret team
  refine ⟨submitted, queried, fun world program recorded status diagnostic => ⟨?_, ?_⟩⟩
  · intro failed
    have redacted : recorded = Toolbox.redact submission :=
      Toolbox.recorded_of_answer_run failed
    exact redacted ▸ submitted
  · intro failed
    have redacted : recorded = Toolbox.redact query := Toolbox.recorded_of_answer_run failed
    exact redacted ▸ queried

/-- A client that refuses everything. -/
def refusing : Toolbox Unit := fun _ _ => pure ⟨.empty, .empty, some 1⟩

/-- The record of a refused submission has the mask in place of the password. -/
theorem refused_submission_hides_secret :
    let credential := Credential.password "dev@bridge.agent" "hunter2" (some "T1")
    let arguments := notarytool.submitArguments ⟨"a.zip"⟩ "dev.bridge.agent" credential
    let recorded := ["notarytool", "submit", "a.zip", "--apple-id", "dev@bridge.agent",
      "--password", "******", "--team-id", "T1"]
    "dev@bridge.agent" ∉ Toolbox.secretFlags ∧
      (∃ diagnostic, ((notarytool.notary refusing).submit ⟨"a.zip"⟩ "dev.bridge.agent" credential
        ⟨⟨[], [], []⟩, ()⟩).answer = .error (.failed "xcrun" recorded (some 1) diagnostic)) ∧
      HidesSecret 6 "hunter2" arguments recorded := by
  intro credential arguments recorded
  have ordinary : "dev@bridge.agent" ∉ Toolbox.secretFlags := by decide
  have refused : ((notarytool.notary refusing).submit ⟨"a.zip"⟩ "dev.bridge.agent" credential
      ⟨⟨[], [], []⟩, ()⟩).answer = .error (.failed "xcrun" recorded (some 1) _) := rfl
  exact ⟨ordinary, ⟨_, refused⟩, ((notary_hides_secret notarytool refusing ⟨"a.zip"⟩
    "dev.bridge.agent" ⟨""⟩ "dev@bridge.agent" "hunter2" (some "T1") ordinary).2.2 _ _ _ _ _).1
    refused⟩

/-- An account that reads like the password's flag has the flag masked in place of the password,
which no other argument repeats. -/
theorem redact_reveals_behind_flag :
    let arguments := notarytool.submitArguments ⟨"a.zip"⟩ "dev.bridge.agent"
      (.password "--password" "hunter2" (some "T1"))
    arguments[6]? = some "hunter2" ∧ "hunter2" ∉ arguments.eraseIdx 6 ∧
      Toolbox.redact arguments = ["notarytool", "submit", "a.zip", "--apple-id", "--password",
        "******", "hunter2", "--team-id", "T1"] ∧
      ¬HidesSecret 6 "hunter2" arguments (Toolbox.redact arguments) := by
  intro arguments
  refine ⟨rfl, by decide, by decide, fun hidden => ?_⟩
  have masked : (Toolbox.redact arguments)[6]? = some Toolbox.mask := hidden.hides.masked
  exact absurd masked (by decide)

end NotaryTool

end Steward

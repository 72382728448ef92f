import Steward.Proofs.Files.Canonical
import Steward.Proofs.Service.Preview

/-!
# What building gives

The paths of a descriptor are absolute.  Those that are looked up once the
directory for the logs is there are their own canonical paths, and so are the
program and the directory to start in where they were found.  What led to
nothing is taken as it was given, and so is the directory of a program that
led to nothing: it is not looked up, even if it is there.
-/

namespace Steward

open Relation (ReflTransGen)

namespace InstallRequest

variable {request : InstallRequest} {given found executable workingDirectory logs : Path}
  {configuration : Option Path} {files later : FileSystem} {made : Path → Prop}
  {descriptor : Descriptor}

/-! ## Paths that are looked up -/

/-- An absolute path has been looked up. -/
structure IsFound (files : FileSystem) (given found : Path) : Prop where
  isAbsolute : given.isAbsolute = true
  finds : Finds given files found

namespace IsFound

/-- What is missing is taken as it is given. -/
theorem eq_given (isFound : IsFound files given found)
    (missing : files.canonical given = .error .notFound) : found = given := by
  rcases isFound.finds with named | ⟨-, same⟩
  · cases missing.symm.trans named
  · exact same

theorem isAbsolute_found (isFound : IsFound files given found) : found.isAbsolute = true := by
  rcases isFound.finds with named | ⟨-, rfl⟩
  · exact FileSystem.isAbsolute_of_canonical named
  · exact isFound.isAbsolute

/-- What is found keeps its name when directories are made, unless it was missing and is there
afterwards. -/
theorem isOwnName (isFound : IsFound files given found)
    (grown : FileSystem.Grown made files later)
    (missing : files.canonical given = .error .notFound → later.IsOwnName given) :
    later.IsOwnName found := by
  rcases isFound.finds with named | ⟨absent, rfl⟩
  · exact FileSystem.isOwnName_of_canonical isFound.isAbsolute named grown
  · exact missing absent

/-- What has just been found is its own name. -/
theorem isOwnName_now (isFound : IsFound files given found) : files.IsOwnName found := by
  have grown : FileSystem.Grown (fun _ => False) files files := .refl files
  exact isFound.isOwnName grown FileSystem.isOwnName_of_missing

/-- The directory that a program is in keeps its name, unless the program was missing. -/
theorem isOwnName_parent {parent : Path} (isFound : IsFound files given found)
    (up : found.parent? = some parent) (grown : FileSystem.Grown made files later)
    (missing : files.canonical given = .error .notFound → given.parent? = some parent →
      later.IsOwnName parent) : later.IsOwnName parent := by
  rcases isFound.finds with named | ⟨absent, rfl⟩
  · exact FileSystem.isOwnName_of_canonical_parent isFound.isAbsolute named up grown
  · exact missing absent up

end IsFound

theorem of_resolve {what : String} (resolved : resolve given what files = (.ok found, later)) :
    later = files ∧ IsFound files given found := by
  obtain ⟨rfl, finds⟩ := resolve_ensures _ _ _ _ _ resolved
  refine ⟨rfl, ?_, finds⟩
  by_contra relative
  unfold resolve at resolved
  rw [if_pos (by simpa using relative)] at resolved
  cases resolved

/-! ## What is handed over -/

/-- The configuration that is asked for; an empty path is none. -/
def wanted (request : InstallRequest) : Option Path :=
  request.config.filter fun config => !config.text.isEmpty

/-- The arguments after the program. -/
def handingOver : Option Path → List String
  | none => []
  | some configuration => [configFlag, configuration.text]

theorem of_configArguments {arguments : List String}
    (configured : configArguments request.config files = (.ok arguments, later)) :
    later = files ∧ ∃ configuration, arguments = handingOver configuration ∧
      Option.Rel (IsFound files) request.wanted configuration := by
  cases asked : request.config with
  | none =>
    rw [asked] at configured
    cases configured
    have nothing : request.wanted = none := by simp [wanted, asked]
    exact ⟨rfl, none, rfl, by rw [nothing]; exact .none⟩
  | some config =>
    rw [asked, configArguments] at configured
    by_cases blank : config.text.isEmpty = true
    · rw [if_pos blank] at configured
      cases configured
      have nothing : request.wanted = none := by
        rw [wanted, asked, Option.filter_some_neg (by simpa using blank)]
      exact ⟨rfl, none, rfl, by rw [nothing]; exact .none⟩
    · rw [if_neg blank] at configured
      obtain ⟨resolved, _, looked, handed⟩ := FileAct.bind_eq_ok_iff.1 configured
      obtain ⟨rfl, isFound⟩ := of_resolve looked
      cases handed
      have something : request.wanted = some config := by
        rw [wanted, asked, Option.filter_some_pos (by simpa using blank)]
      exact ⟨rfl, some resolved, rfl, by rw [something]; exact .some isFound⟩

/-! ## What is built -/

/-- A descriptor is what a request asks for, with the directory for the logs and the configuration
under the names they are found by. -/
structure IsBuilt (request : InstallRequest) (files later : FileSystem) (descriptor : Descriptor)
    (logs : Path) (configuration : Option Path) : Prop where
  executable : IsFound files request.executable descriptor.executable
  workingDirectory :
    match request.workingDirectory with
    | some directory => IsFound files directory descriptor.workingDirectory
    | none => descriptor.executable.parent? = some descriptor.workingDirectory
  /-- The directory for the logs has been made, or was there. -/
  isDirectory : later.isDirectory request.logDirectory = true
  found : IsFound later request.logDirectory logs
  stdoutPath : descriptor.stdoutPath = Layout.stdoutLog logs
  stderrPath : descriptor.stderrPath = Layout.stderrLog logs
  configured : Option.Rel (IsFound later) request.wanted configuration
  arguments : descriptor.arguments = descriptor.executable.text :: handingOver configuration

theorem of_startingIn
    (started : request.startingIn executable files = (.ok workingDirectory, later)) :
    match request.workingDirectory with
    | some directory => IsFound files directory workingDirectory
    | none => executable.parent? = some workingDirectory := by
  have ensures := (startingIn_ensures _ _ _ _ _ started).2
  rw [startingIn] at started
  cases asked : request.workingDirectory with
  | none => rwa [asked] at ensures
  | some directory =>
    rw [asked] at started
    exact (of_resolve started).2

/-- The second half makes the directory for the logs, and then looks at it. -/
theorem of_finish
    (finished : request.finish executable workingDirectory files = (.ok descriptor, later)) :
    ∃ logs configuration, later.isDirectory request.logDirectory = true ∧
      IsFound later request.logDirectory logs ∧
      Option.Rel (IsFound later) request.wanted configuration ∧
      descriptor = {
        name := request.name
        executable := executable
        arguments := executable.text :: handingOver configuration
        workingDirectory := workingDirectory
        stdoutPath := Layout.stdoutLog logs
        stderrPath := Layout.stderrLog logs
        restart := request.restart
        user := request.user.filter (fun user => !user.isEmpty) } := by
  unfold finish at finished
  by_cases isAbsolute : request.logDirectory.isAbsolute = true
  · rw [if_neg (by simp [isAbsolute])] at finished
    obtain ⟨_, middle, makes, described⟩ := FileAct.bind_eq_ok_iff.1 finished
    have written : request.logDirectory.text ≠ "" := by
      intro blank
      simp [Path.isAbsolute, blank] at isAbsolute
    have directory : middle.isDirectory request.logDirectory = true :=
      FileSystem.isDirectory_of_makeDirectories written (FileAct.adapt_eq_ok_iff.1 makes)
    obtain ⟨logs, _, looked, rest⟩ := FileAct.bind_eq_ok_iff.1 described
    obtain ⟨rfl, isFound⟩ := of_resolve looked
    obtain ⟨arguments, _, configured, gives⟩ := FileAct.bind_eq_ok_iff.1 rest
    obtain ⟨rfl, configuration, rfl, asked⟩ := of_configArguments configured
    cases gives
    exact ⟨logs, configuration, directory, isFound, asked, rfl⟩
  · rw [if_pos (by simp [isAbsolute])] at finished
    cases finished

/-- What is built is what was asked for. -/
theorem isBuilt_of_build (built : request.build files = (.ok descriptor, later)) :
    ∃ logs configuration, request.IsBuilt files later descriptor logs configuration := by
  obtain ⟨executable, workingDirectory, resolved, started, finished⟩ := of_build built
  obtain ⟨logs, configuration, directory, isFound, asked, rfl⟩ := of_finish finished
  exact ⟨logs, configuration, (of_resolve resolved).2, of_startingIn started, directory, isFound,
    rfl, rfl, asked, rfl⟩

namespace IsBuilt

variable (isBuilt : request.IsBuilt files later descriptor logs configuration)
include isBuilt

theorem canonical_logDirectory : later.canonical request.logDirectory = .ok logs := by
  rcases isBuilt.found.finds with named | ⟨missing, -⟩
  · exact named
  · obtain ⟨place, resolved, directory⟩ := FileSystem.isDirectory_eq_true_iff.1 isBuilt.isDirectory
    rw [FileSystem.canonical_eq_ok_iff.2 ⟨place, _, resolved, directory, rfl⟩] at missing
    cases missing

theorem isFound_configuration {path : Path} (member : path ∈ configuration) :
    ∃ config, IsFound later config path := by
  have configured := isBuilt.configured
  cases member
  cases asked : request.wanted with
  | none =>
    rw [asked] at configured
    cases configured
  | some config =>
    rw [asked] at configured
    cases configured with
    | some isFound => exact ⟨config, isFound⟩

theorem isAbsolute_workingDirectory : descriptor.workingDirectory.isAbsolute = true := by
  have isFound := isBuilt.workingDirectory
  cases asked : request.workingDirectory with
  | some directory =>
    rw [asked] at isFound
    exact isFound.isAbsolute_found
  | none =>
    rw [asked] at isFound
    exact Path.isAbsolute_of_parent? isFound isBuilt.executable.isAbsolute_found

/-- The paths of a descriptor start at the root. -/
theorem isAbsolute : ∀ path ∈ [descriptor.executable, descriptor.workingDirectory, logs] ++
    configuration.toList, path.isAbsolute = true := by
  intro path member
  rcases List.mem_append.1 member with fixed | configured
  · simp only [List.mem_cons, List.not_mem_nil, or_false] at fixed
    rcases fixed with rfl | rfl | rfl
    · exact isBuilt.executable.isAbsolute_found
    · exact isBuilt.isAbsolute_workingDirectory
    · exact isBuilt.found.isAbsolute_found
  · obtain ⟨config, isFound⟩ := isBuilt.isFound_configuration (Option.mem_toList.1 configured)
    exact isFound.isAbsolute_found

/-- What is looked up last is its own name. -/
theorem isOwnName_late : ∀ path ∈ logs :: configuration.toList, later.IsOwnName path := by
  intro path member
  rcases List.mem_cons.1 member with rfl | configured
  · exact isBuilt.found.isOwnName_now
  · obtain ⟨config, isFound⟩ := isBuilt.isFound_configuration (Option.mem_toList.1 configured)
    exact isFound.isOwnName_now

end IsBuilt

/-! ## What is taken as it is given -/

/-- The paths that are taken as they are given: what leads to nothing when it is looked up, and the
directory of such a program if that is where it is to start. -/
inductive TakesAsGiven (request : InstallRequest) (files : FileSystem) : Path → Prop
  | executable (missing : files.canonical request.executable = .error .notFound) :
      TakesAsGiven request files request.executable
  | directory {parent : Path} (missing : files.canonical request.executable = .error .notFound)
      (unsaid : request.workingDirectory = none)
      (up : request.executable.parent? = some parent) : TakesAsGiven request files parent
  | workingDirectory {directory : Path} (said : request.workingDirectory = some directory)
      (missing : files.canonical directory = .error .notFound) :
      TakesAsGiven request files directory

namespace IsBuilt

variable (isBuilt : request.IsBuilt files later descriptor logs configuration)
include isBuilt

/-- What is taken as it is given is the program or the directory to start in. -/
theorem eq_of_takesAsGiven {path : Path} (takes : request.TakesAsGiven files path) :
    path = descriptor.executable ∨ path = descriptor.workingDirectory := by
  have starts := isBuilt.workingDirectory
  cases takes with
  | executable missing => exact .inl (isBuilt.executable.eq_given missing).symm
  | directory missing unsaid up =>
    rw [unsaid] at starts
    rw [← isBuilt.executable.eq_given missing] at up
    exact .inr (Option.some.inj (up.symm.trans starts))
  | workingDirectory said missing =>
    rw [said] at starts
    exact .inr (starts.eq_given missing).symm

variable (grown : FileSystem.Grown made files later)
  (taken : ∀ path, request.TakesAsGiven files path → later.IsOwnName path)
include grown taken

theorem isOwnName_executable : later.IsOwnName descriptor.executable :=
  isBuilt.executable.isOwnName grown fun missing => taken _ (.executable missing)

theorem isOwnName_workingDirectory : later.IsOwnName descriptor.workingDirectory := by
  have starts := isBuilt.workingDirectory
  cases asked : request.workingDirectory with
  | some directory =>
    rw [asked] at starts
    exact starts.isOwnName grown fun missing => taken _ (.workingDirectory asked missing)
  | none =>
    rw [asked] at starts
    exact isBuilt.executable.isOwnName_parent starts grown fun missing up =>
      taken _ (.directory missing asked up)

end IsBuilt

/-- Building gives absolute paths and the directory for the logs.  What is looked up once that is
there is its own name.  The program and the directory to start in are, exactly if that is so of
what is taken as it is given.  A failure leaves nothing but directories on the way to the logs. -/
theorem build_gives (request : InstallRequest) (files : FileSystem) :
    match request.build files with
    | (.ok descriptor, later) => ∃ logs configuration,
        request.IsBuilt files later descriptor logs configuration ∧
        later.canonical request.logDirectory = .ok logs ∧
        (∀ path ∈ [descriptor.executable, descriptor.workingDirectory, logs] ++
          configuration.toList, path.isAbsolute = true) ∧
        (∀ path ∈ logs :: configuration.toList, later.IsOwnName path) ∧
        (later.IsOwnName descriptor.executable ∧ later.IsOwnName descriptor.workingDirectory ↔
          ∀ path, request.TakesAsGiven files path → later.IsOwnName path)
    | (.error _, later) =>
        ReflTransGen (FileSystem.MakesDirectory request.logDirectory.IsAbove) files later := by
  rcases built : request.build files with ⟨failure | descriptor, later⟩
  · have steps := Controller.build_makes request files
    rwa [FileAct.StepsFrom, built] at steps
  -- Only directories are made between the first look and the last, so names that were found stay.
  · have grown := grown_of_build built
    obtain ⟨logs, configuration, isBuilt⟩ := isBuilt_of_build built
    refine ⟨logs, configuration, isBuilt, isBuilt.canonical_logDirectory, isBuilt.isAbsolute,
      isBuilt.isOwnName_late, ?_, fun taken => ?_⟩
    · rintro ⟨executable, workingDirectory⟩ path takes
      rcases isBuilt.eq_of_takesAsGiven takes with rfl | rfl
      · exact executable
      · exact workingDirectory
    · exact ⟨isBuilt.isOwnName_executable grown taken,
        isBuilt.isOwnName_workingDirectory grown taken⟩

/-- What is asked for when the agent is not there yet, in a directory that is reached through a
link. -/
def undeployed : InstallRequest :=
  { Controller.agentRequest with executable := ⟨"/link/agent"⟩ }

/-- The directory to start in is that of a program that is not there yet.  It is there itself, by
another name. -/
theorem build_leaves_link :
    let files : FileSystem := ⟨[(["real"], .directory), (["link"], .link "real")], [], []⟩
    ∃ descriptor later, undeployed.build files = (.ok descriptor, later) ∧
      descriptor.workingDirectory = ⟨"/link"⟩ ∧ later.doesExist ⟨"/link"⟩ = true ∧
      later.canonical ⟨"/link"⟩ = .ok ⟨"/real"⟩ ∧ ¬later.IsOwnName descriptor.workingDirectory := by
  intro files
  have starts : (undeployed.build files).1.toOption.map (·.workingDirectory) = some ⟨"/link"⟩ := by
    decide +kernel
  have present : (undeployed.build files).2.doesExist ⟨"/link"⟩ = true := by decide +kernel
  have named : (undeployed.build files).2.canonical ⟨"/link"⟩ = .ok ⟨"/real"⟩ := by
    decide +kernel
  rcases built : undeployed.build files with ⟨failure | descriptor, later⟩
  · rw [built] at starts
    cases starts
  · rw [built] at starts present named
    have given : descriptor.workingDirectory = ⟨"/link"⟩ := Option.some.inj starts
    refine ⟨descriptor, later, rfl, given, present, named, fun own => ?_⟩
    rw [given] at own
    have same : Path.mk "/real" = ⟨"/link"⟩ := Except.ok.inj (named.symm.trans (own present))
    exact absurd same (by decide)

end InstallRequest

end Steward

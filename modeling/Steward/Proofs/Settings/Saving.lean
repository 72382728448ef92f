import Steward.Proofs.Files.Drafting
import Steward.Proofs.Files.Making
import Steward.Proofs.Settings.RoundTrip
import Steward.Settings.Store

/-!
# Settings that are saved and loaded

Settings are saved as a draft that is moved to their file, so that loading gives
what was saved last.  Two links would come in between: one at the draft, which
is written through and moved in the place of the file, and one in the place of
the file that the directory of the settings is reached through.
-/

namespace Steward.Settings

open FileSystem

variable {files later : FileSystem} {home path : Path} {settings : Settings}

/-- Saves settings one after the other. -/
def saveAll (home : Path) : List Settings → FileAct SettingsError Unit
  | [] => pure ()
  | settings :: more => do
    let _ ← save home settings
    saveAll home more

/-! ## The file and its draft -/

theorem isProper_file : IsProper "config.yaml" :=
  ⟨by decide, by decide, by decide⟩

theorem unslashed_file : Unslashed "config.yaml" := by
  decide

theorem isFolder_root (home : Path) : (Layout.root home).IsFolder :=
  Path.isFolder_join home (by decide) (by decide)

theorem pathIn_eq (home : Path) : pathIn home = (Layout.root home).under "config.yaml" :=
  (isFolder_root home).under unslashed_file

theorem parent?_pathIn (home : Path) : (pathIn home).parent? = some (Layout.root home) := by
  rw [pathIn_eq]
  exact Path.parent?_under (isFolder_root home).written (isFolder_root home).ends unslashed_file
    (by decide)

/-- The settings are drafted beside their file. -/
theorem withExtension_pathIn (home : Path) :
    (pathIn home).withExtension "yaml.tmp" = (pathIn home).extend ".tmp" := by
  have named : (pathIn home).extend ".tmp" = (Layout.root home).under "config.yaml.tmp" := by
    simp [pathIn_eq, Path.extend, Path.under, String.append_assoc]
  rw [named, pathIn_eq]
  exact Path.withExtension_under (isFolder_root home).written unslashed_file (by decide)
    (by decide) (by decide) (by decide) (by decide)

/-- The files once the directory of the settings has been made. -/
def withDirectory (home : Path) (files : FileSystem) : FileSystem :=
  (ensureParent (pathIn home) files).2

/-- Settings can be put in place: no link stands at their draft, and none that their directory is
reached through stands where they are to be. -/
structure IsReplaceable (files : FileSystem) (home : Path) : Prop where
  bare : files.IsUnlinked ((pathIn home).extend ".tmp")
  apart : ∀ place, files.resolveTarget (pathIn home) = .ok place →
    place ∉ files.routeOf (Layout.root home)

/-- The settings are in their file, and no draft is left. -/
structure Holds (files : FileSystem) (home : Path) (settings : Settings) : Prop where
  file : files.lookupNoFollow (pathIn home) = .ok (.file settings.render.toUTF8)
  bare : files.IsVacant ((pathIn home).extend ".tmp")

/-- Settings that are saved have been drafted and moved once their directory was there. -/
theorem exists_moves_of_save
    (bare : (withDirectory home files).IsUnlinked ((pathIn home).extend ".tmp"))
    (saved : save home settings files = (.ok path, later)) :
    ∃ place goal, (withDirectory home files).Moves ((pathIn home).extend ".tmp") (pathIn home)
      settings.render.toUTF8 place goal later := by
  rw [save, FileAct.bind_apply] at saved
  rw [withDirectory] at bare ⊢
  rcases made : ensureParent (pathIn home) files with ⟨failure | _, middle⟩
  · rw [made] at saved
    cases saved
  · rw [made] at saved bare
    simp only [FileAct.bind_apply, FileAct.adapt_apply, withExtension_pathIn] at saved
    have ended := replacement bare settings.render
    generalize FileAct.replace (pathIn home) _ settings.render middle = replaced at saved ended
    cases ended with
    | refused | discarded | broken => cases saved
    | moved moves =>
      cases saved
      exact ⟨_, _, moves⟩

/-- Settings that are saved are in their file. -/
theorem holds_of_save (ready : IsReplaceable (withDirectory home files) home)
    (saved : save home settings files = (.ok path, later)) : Holds later home settings := by
  rcases exists_moves_of_save ready.bare saved with ⟨place, goal, moves⟩
  constructor
  · rcases ready with ⟨-, apart⟩
    rw [pathIn_eq] at apart moves ⊢
    exact moves.lookupNoFollow_under (isFolder_root home).written unslashed_file apart
  · exact moves.isVacant_draft

/-! ## What has been saved -/

theorem fromUTF8?_toUTF8 (text : String) : String.fromUTF8? text.toUTF8 = some text := by
  have valid : text.toUTF8.IsValidUTF8 := text.isValidUTF8
  rw [String.fromUTF8?, dif_pos valid]
  rfl

theorem read_of_file {bytes : ByteArray} (stands : files.lookupNoFollow path = .ok (.file bytes)) :
    files.read path = .ok bytes := by
  rcases lookupNoFollow_eq_ok_iff.1 stands with ⟨accepted, place, leads, found⟩
  have followed := leads.followed fun target link => by simp [found] at link
  exact read_eq_ok_iff.2 ⟨place, resolve_eq_ok_iff.2 ⟨accepted, followed⟩, found⟩

/-- Settings are never written as a blank text. -/
theorem isAllBlank_render (settings : Settings) : Text.isAllBlank settings.render = false := by
  have begins : settings.render.toList.head? = some 's' := by
    have name : "service".toList = ['s', 'e', 'r', 'v', 'i', 'c', 'e'] := by decide
    rw [render_eq, String.toList_ofList]
    simp [Yaml.Emit.documentText, sections, Yaml.Emit.mappingSection, name]
  cases text : settings.render.toList with
  | nil => simp [text] at begins
  | cons c rest =>
    obtain rfl : c = 's' := by simpa [text] using begins
    rw [Text.isAllBlank, text, List.all_cons, show Text.isBlank 's' = false by decide]
    rfl

namespace Holds

theorem exists_directory (holds : Holds files home settings) :
    ∃ parent, files.resolve (Layout.root home) = .ok parent ∧
      files.find? parent = some .directory := by
  have stands := holds.file
  rw [pathIn_eq] at stands
  rcases lookupNoFollow_eq_ok_iff.1 stands with ⟨accepted, place, leads, found⟩
  have written := (isFolder_root home).written
  rw [namesOf_under unslashed_file, startOf_under written] at leads
  rcases leads.last_name isProper_file.spoken isProper_file.downward with
    ⟨parent, before, directory, -⟩
  exact ⟨parent, resolve_eq_ok_iff.2 ⟨acceptable_of_under written accepted, before⟩, directory⟩

/-- The directory of settings that are saved is there. -/
theorem withDirectory_eq (holds : Holds files home settings) :
    withDirectory home files = files := by
  have made := makeDirectories_of_isDirectory (isDirectory_eq_true_iff.2 holds.exists_directory)
  simp only [withDirectory, ensureParent, parent?_pathIn, FileAct.adapt_apply, made]

/-- What has been saved can be replaced. -/
theorem isReplaceable (holds : Holds files home settings) : IsReplaceable files home where
  bare := holds.bare.isUnlinked
  apart := by
    intro place resolved member
    have unended : (pathIn home).endsInSlash = false :=
      Path.endsInSlash_join (Layout.root home) unslashed_file (by decide)
    rcases lookupNoFollow_eq_ok_iff.1 holds.file with ⟨-, goal, leads, found⟩
    obtain rfl := leads.unique (leads_of_resolveTarget unended resolved)
    -- What lies on the way to a directory is a directory or a link, and settings stand in a file.
    rcases holds.exists_directory with ⟨parent, reached, directory⟩
    rcases (resolve_eq_ok_iff.1 reached).2.on_route directory member with rfl | ⟨target, link⟩
    · simp [found] at directory
    · simp [found] at link

/-- What has been saved is loaded. -/
theorem load (holds : Holds files home settings) : Settings.load files home = .ok settings := by
  have exist := doesExist_of_file holds.file
  have read : files.readText (pathIn home) = .ok settings.render := by
    rw [readText, read_of_file holds.file]
    simp only [bind, Except.bind, fromUTF8?_toUTF8]
  simp only [Settings.load, exist, read, ofText, isAllBlank_render, parse_render]
  rfl

end Holds

/-- After settings have been saved one after the other, the last are in their file. -/
theorem holds_of_saveAll {earlier : List Settings}
    (ready : IsReplaceable (withDirectory home files) home)
    (saved : saveAll home (earlier ++ [settings]) files = (.ok (), later)) :
    Holds later home settings := by
  induction earlier generalizing files with
  | nil =>
    rw [List.nil_append, saveAll, FileAct.bind_apply] at saved
    rcases first : save home settings files with ⟨failure | path, middle⟩
    · rw [first] at saved
      cases saved
    · rw [first] at saved
      cases saved
      exact holds_of_save ready first
  | cons next earlier inductionHypothesis =>
    rw [List.cons_append, saveAll, FileAct.bind_apply] at saved
    rcases first : save home next files with ⟨failure | path, middle⟩
    · rw [first] at saved
      cases saved
    · rw [first] at saved
      have holds := holds_of_save ready first
      have again := holds.isReplaceable
      rw [← holds.withDirectory_eq] at again
      exact inductionHypothesis again saved

/-- What was saved last is loaded, whatever the settings are. -/
theorem load_saveAll {earlier : List Settings}
    (ready : IsReplaceable (withDirectory home files) home)
    (saved : (saveAll home (earlier ++ [settings]) files).1 = .ok ()) :
    load (saveAll home (earlier ++ [settings]) files).2 home = .ok settings := by
  rcases ended : saveAll home (earlier ++ [settings]) files with ⟨result, later⟩
  rw [ended] at saved
  subst saved
  exact (holds_of_saveAll ready ended).load

/-- Settings whose texts are read as something else if they are written carelessly. -/
def awkward : Settings where
  service := { ServiceSection.standard with
    name := ⟨"null"⟩
    config := some ⟨""⟩
    user := some "~"
    throttleSeconds := 18446744073709551615 }
  lifecycle := LifecycleSection.standard
  trust := { TrustSection.standard with
    identity := " a: 'b' # c"
    account := some "1e3"
    password := some "two\n  lines\t\n\n" }

/-- Files with a link in place of the settings. -/
def linked : FileSystem where
  table := [(["home"], .directory), (["home", ".bridge"], .directory),
    (["home", ".bridge", "config.yaml"], .link "../settings.yaml")]
  here := []
  mishaps := []

theorem load_saveAll_linked :
    IsReplaceable (withDirectory ⟨"home"⟩ linked) ⟨"home"⟩ ∧
      (saveAll ⟨"home"⟩ ([.standard] ++ [awkward]) linked).1 = .ok () ∧
      load (saveAll ⟨"home"⟩ ([.standard] ++ [awkward]) linked).2 ⟨"home"⟩ = .ok awkward := by
  have resolved : (withDirectory ⟨"home"⟩ linked).resolveTarget (pathIn ⟨"home"⟩) =
      .ok ["home", ".bridge", "config.yaml"] := by
    decide +kernel
  have ready : IsReplaceable (withDirectory ⟨"home"⟩ linked) ⟨"home"⟩ := by
    constructor
    · decide +kernel
    · intro place reached
      have same := Except.ok.inj (resolved.symm.trans reached)
      rw [← same]
      decide +kernel
  have saved : (saveAll ⟨"home"⟩ ([.standard] ++ [awkward]) linked).1 = .ok () := by
    decide +kernel
  exact ⟨ready, saved, load_saveAll ready saved⟩

/-! ## Links in between -/

def renamed : Settings :=
  { Settings.standard with service := { ServiceSection.standard with name := ⟨"second"⟩ } }

/-- Files with a link at the draft of the settings. -/
def draftLinked : FileSystem where
  table := [(["home"], .directory), (["home", ".bridge"], .directory),
    (["home", ".bridge", "config.yaml.tmp"], .link "config.yaml")]
  here := []
  mishaps := []

/-- Files in which the directory of the settings can be reached through a link in their place. -/
def turnedBack : FileSystem where
  table := [(["h"], .directory), (["h", ".bridge"], .directory),
    (["h", ".bridge", "config.yaml"], .link "..")]
  here := []
  mishaps := []

/-- A link at the draft ends up in the place of the file and leads to itself, and a link that the
directory is reached through is gone once the file is in its place.  Saving succeeds in both cases;
what it saved cannot be read at the path that it gives, and loading gives the standard settings. -/
theorem not_load_save :
    renamed ≠ .standard ∧
      (save ⟨"home"⟩ renamed draftLinked).1 = .ok ⟨"home/.bridge/config.yaml"⟩ ∧
      ((save ⟨"home"⟩ renamed draftLinked).2.readText ⟨"home/.bridge/config.yaml"⟩).isOk = false ∧
      load (save ⟨"home"⟩ renamed draftLinked).2 ⟨"home"⟩ = .ok .standard ∧
      (save ⟨"h/.bridge/config.yaml"⟩ renamed turnedBack).1 =
        .ok ⟨"h/.bridge/config.yaml/.bridge/config.yaml"⟩ ∧
      ((save ⟨"h/.bridge/config.yaml"⟩ renamed turnedBack).2.readText
        ⟨"h/.bridge/config.yaml/.bridge/config.yaml"⟩).isOk = false ∧
      load (save ⟨"h/.bridge/config.yaml"⟩ renamed turnedBack).2 ⟨"h/.bridge/config.yaml"⟩ =
        .ok .standard := by
  decide +kernel

end Steward.Settings

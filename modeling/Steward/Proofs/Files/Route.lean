import Steward.Proofs.Files.Changes

/-!
# What a path depends on

A walk depends on the directories that it comes through, on the links that it
follows and on what stands where it arrives.  Its route is the last two: what
can be removed without being on the route of a path can be removed without
loss to the path.
-/

namespace Steward.FileSystem

/-! ## Routes -/

/-- The links that a walk along names follows and the place where it arrives.  Where a link is
followed, `jump` goes on as in a walk. -/
def routeWith (files : FileSystem) (jump : Place → String → List String → List Place)
    (start : Place) : List String → List Place
  | [] => [start]
  | name :: rest =>
    if name = "" ∨ name = "." then routeWith files jump start rest
    else if name = ".." then routeWith files jump start.dropLast rest
    else
      match files.find? (start ++ [name]) with
      | some (.link target) => (start ++ [name]) :: jump start target rest
      | _ => routeWith files jump (start ++ [name]) rest

/-- The route of a walk that may follow so many more links. -/
def route (files : FileSystem) : (links : Nat) → Place → List String → List Place
  | 0 => files.routeWith fun _ _ _ => []
  | links + 1 => files.routeWith fun start target rest =>
    route files links (if (Path.mk target).isAbsolute then [] else start) (namesOf target ++ rest)

/-- The route of a path. -/
def routeOf (files : FileSystem) (path : Path) : List Place :=
  files.route linkBudget (files.startOf path) (namesOf path.text)

/-- The route of a path without its last name: the links that are followed on the way to the
directory of the path, and that directory. -/
def routeToParent (files : FileSystem) (path : Path) : List Place :=
  files.route linkBudget (files.startOf path) (namesOf path.text).dropLast

variable {files later : FileSystem} {links : Nat} {start place goal : Place} {name : String}
  {rest names : List String}

@[simp]
theorem route_nil : files.route links start [] = [start] := by
  cases links <;> rfl

theorem route_of_silent (silent : name = "" ∨ name = ".") :
    files.route links start (name :: rest) = files.route links start rest := by
  cases links <;> exact if_pos silent

theorem route_up :
    files.route links start (".." :: rest) = files.route links start.dropLast rest := by
  cases links <;> rfl

theorem route_of_link {target : String} (proper : IsProper name)
    (link : files.find? (start ++ [name]) = some (.link target)) :
    files.route (links + 1) start (name :: rest) =
      (start ++ [name]) ::
        files.route links (if (Path.mk target).isAbsolute then [] else start)
          (namesOf target ++ rest) := by
  rw [route, routeWith, if_neg proper.spoken, if_neg proper.downward, link]

theorem route_of_solid (proper : IsProper name)
    (solid : ∀ target, files.find? (start ++ [name]) ≠ some (.link target)) :
    files.route links start (name :: rest) = files.route links (start ++ [name]) rest := by
  cases links with
  | zero =>
    rw [route, routeWith, if_neg proper.spoken, if_neg proper.downward]
    split
    · exact absurd ‹_› (solid _)
    · rfl
  | succ links =>
    rw [route, routeWith, if_neg proper.spoken, if_neg proper.downward]
    split
    · exact absurd ‹_› (solid _)
    · rfl

/-- A walk arrives on its route. -/
theorem Leads.mem_route (leads : files.Leads true links start names goal) :
    goal ∈ files.route links start names := by
  induction leads with
  | arrived => simp
  | silent _ silent _ inductionHypothesis => rwa [route_of_silent silent]
  | up _ _ inductionHypothesis => rwa [route_up]
  | absent _ proper absent =>
      rw [route_of_solid proper (by simp [absent])]
      simp
  | unfollowed _ _ _ unfollowed => cases unfollowed
  | jump _ proper link _ _ _ inductionHypothesis =>
      rw [route_of_link proper link]
      exact List.mem_cons_of_mem _ inductionHypothesis
  | down _ proper found solid _ inductionHypothesis =>
      rwa [route_of_solid proper (by simpa [found] using solid)]

/-- A walk leads where it led if nothing has changed on its route and no directory has changed. -/
theorem Leads.of_route (agrees : files.AgreesOff place later)
    (undirected : files.find? place ≠ some .directory)
    (leads : files.Leads true links start names goal)
    (apart : place ∉ files.route links start names) :
    later.Leads true links start names goal := by
  have kept {other : Place} (directory : files.find? other = some .directory) :
      later.find? other = some .directory := by
    refine (agrees other ?_).trans directory
    rintro rfl
    exact undirected directory
  induction leads with
  | arrived => exact .arrived
  | silent directory silent _ inductionHypothesis =>
      rw [route_of_silent silent] at apart
      exact .silent (kept directory) silent (inductionHypothesis apart)
  | up directory _ inductionHypothesis =>
      rw [route_up] at apart
      exact .up (kept directory) (inductionHypothesis apart)
  | @absent _ start name directory proper absent =>
      rw [route_of_solid proper (by simp [absent])] at apart
      have elsewhere : start ++ [name] ≠ place := by simpa [eq_comm] using apart
      exact .absent (kept directory) proper ((agrees _ elsewhere).trans absent)
  | unfollowed _ _ _ unfollowed => cases unfollowed
  | jump directory proper link followed told _ inductionHypothesis =>
      rw [route_of_link proper link, List.mem_cons, not_or] at apart
      have linked := (agrees _ (Ne.symm apart.1)).trans link
      exact .jump (kept directory) proper linked followed told (inductionHypothesis apart.2)
  | @down _ start _ name _ entry directory proper found solid onward inductionHypothesis =>
      rw [route_of_solid proper (by simpa [found] using solid)] at apart
      by_cases here : start ++ [name] = place
      · -- Only a directory lets a walk go on, so it arrives here, on its route.
        subst here
        cases onward with
        | arrived => simp at apart
        | silent directory | up directory | absent directory | unfollowed directory
        | jump directory | down directory => exact absurd directory undirected
      · have entered := (agrees _ here).trans found
        exact .down (kept directory) proper entered solid (inductionHypothesis apart)

/-- What stands on the route of a walk to a directory is that directory, or a link. -/
theorem Leads.on_route (leads : files.Leads true links start names goal)
    (directory : files.find? goal = some .directory)
    (member : place ∈ files.route links start names) :
    place = goal ∨ ∃ target, files.find? place = some (.link target) := by
  induction leads with
  | arrived =>
      rw [route_nil, List.mem_singleton] at member
      exact .inl member
  | silent _ silent _ inductionHypothesis =>
      rw [route_of_silent silent] at member
      exact inductionHypothesis directory member
  | up _ _ inductionHypothesis =>
      rw [route_up] at member
      exact inductionHypothesis directory member
  | absent _ _ absent => simp [absent] at directory
  | unfollowed _ _ _ unfollowed => cases unfollowed
  | jump _ proper link _ _ _ inductionHypothesis =>
      rw [route_of_link proper link, List.mem_cons] at member
      rcases member with rfl | member
      · exact .inr ⟨_, link⟩
      · exact inductionHypothesis directory member
  | down _ proper found solid _ inductionHypothesis =>
      rw [route_of_solid proper (by simpa [found] using solid)] at member
      exact inductionHypothesis directory member

/-- A walk leads to the same directory as long as directories stay and the links on its route do. -/
theorem Leads.of_kept
    (directories : ∀ place, files.find? place = some .directory →
      later.find? place = some .directory)
    (links' : ∀ place ∈ files.route links start names, ∀ target,
      files.find? place = some (.link target) → later.find? place = some (.link target))
    (leads : files.Leads true links start names goal)
    (found : files.find? goal = some .directory) : later.Leads true links start names goal := by
  induction leads with
  | arrived => exact .arrived
  | silent directory silent _ inductionHypothesis =>
      rw [route_of_silent silent] at links'
      exact .silent (directories _ directory) silent (inductionHypothesis links' found)
  | up directory _ inductionHypothesis =>
      rw [route_up] at links'
      exact .up (directories _ directory) (inductionHypothesis links' found)
  | absent _ _ absent => simp [absent] at found
  | unfollowed _ _ _ unfollowed => cases unfollowed
  | jump directory proper link followed told _ inductionHypothesis =>
      rw [route_of_link proper link, List.forall_mem_cons] at links'
      exact .jump (directories _ directory) proper (links'.1 _ link) followed told
        (inductionHypothesis links'.2 found)
  | @down _ _ _ _ _ entry directory proper entered solid onward inductionHypothesis =>
      rw [route_of_solid proper (by simpa [entered] using solid)] at links'
      -- A walk that comes through a file would end there.
      have isDirectory : entry = .directory := by
        cases onward with
        | arrived => exact Option.some.inj (entered.symm.trans found)
        | silent stands | up stands | absent stands | unfollowed stands | jump stands
        | down stands => exact Option.some.inj (entered.symm.trans stands)
      subst isDirectory
      exact .down (directories _ directory) proper (directories _ entered) nofun
        (inductionHypothesis links' found)

/-! ## Reading -/

theorem read_eq_ok_iff {path : Path} {bytes : ByteArray} :
    files.read path = .ok bytes ↔
      ∃ place, files.resolve path = .ok place ∧ files.find? place = some (.file bytes) := by
  rw [read, lookup]
  cases resolved : files.resolve path with
  | error failure => simp [bind, Except.bind]
  | ok place =>
    cases found : files.find? place with
    | none => simp [found, bind, Except.bind]
    | some entry => cases entry <;> simp [found, bind, Except.bind]

/-- A regular file can be read. -/
theorem exists_read_of_isFile {path : Path} (present : files.isFile path = true) :
    ∃ bytes, files.read path = .ok bytes := by
  unfold isFile at present
  unfold read
  cases found : files.lookup path with
  | error failure => simp [found] at present
  | ok entry =>
    cases entry with
    | file bytes => exact ⟨bytes, rfl⟩
    | directory | link => simp [found] at present

/-- Removing what is not on the route of a path leaves what the path reads. -/
theorem read_of_remove {path other : Path} {bytes : ByteArray}
    (apart : ∀ place, files.resolveTarget other = .ok place → place ∉ files.routeOf path)
    (removed : files.remove other = .ok later) (read : files.read path = .ok bytes) :
    later.read path = .ok bytes := by
  obtain ⟨place, entry, resolved, found, solid, -, -, rfl⟩ := remove_eq_ok_iff.1 removed
  obtain ⟨goal, reached, stands⟩ := read_eq_ok_iff.1 read
  obtain ⟨accepted, leads⟩ := resolve_eq_ok_iff.1 reached
  have off := files.agreesOff_without place
  have clear := apart place resolved
  have undirected : files.find? place ≠ some .directory := by simpa [found] using solid
  have elsewhere : goal ≠ place := by
    rintro rfl
    exact clear leads.mem_route
  have arrives := resolve_eq_ok_iff.2 ⟨accepted, leads.of_route off undirected clear⟩
  exact read_eq_ok_iff.2 ⟨goal, arrives, (off goal elsewhere).trans stands⟩

end Steward.FileSystem

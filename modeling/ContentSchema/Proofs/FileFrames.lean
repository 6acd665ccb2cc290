import Mathlib
import ContentSchema.Compiler
import ContentSchema.Proofs.Locations

/-!
# What writing a module leaves alone

Before a module is written, directories that are missing on the way to it are made.
Making them changes nothing that was there: a store grows by directories at the
locations of the leading components of the path.  Writing then changes the one
location to which the path leads.

A directory that is there is not made again, so writing the same text to the same
path once more gives the same store.
-/

namespace ContentSchema

namespace FileStore

/-! ## Stores that grow by directories -/

/-- Nothing differs in a later store except for new directories at some locations. -/
def GrowsAt (new : List String → Prop) (store later : FileStore) : Prop :=
  ∀ location,
    later.lookup location = store.lookup location ∨
      store.lookup location = none ∧ later.lookup location = some .directory ∧ new location

namespace GrowsAt

variable {new : List String → Prop} {store middle later : FileStore}

theorem refl
    (new : List String → Prop)
    (store : FileStore) :
    GrowsAt new store store :=
  fun _ => .inl rfl

theorem mono
    (grows : GrowsAt new store later)
    {wider : List String → Prop}
    (weaker : ∀ location, new location → wider location) :
    GrowsAt wider store later := by
  intro location
  rcases grows location with same | ⟨missing, present, allowed⟩
  · exact .inl same
  · exact .inr ⟨missing, present, weaker location allowed⟩

theorem keeps
    (grows : GrowsAt new store later)
    {location : List String} {entry : Entry}
    (present : store.lookup location = some entry) :
    later.lookup location = some entry := by
  rcases grows location with same | ⟨missing, _, _⟩
  · rw [same, present]
  · rw [missing] at present
    cases present

theorem trans
    (first : GrowsAt new store middle)
    (second : GrowsAt new middle later) :
    GrowsAt new store later := by
  intro location
  rcases first location with same | ⟨missing, present, allowed⟩
  · rcases second location with again | ⟨missing, present, allowed⟩
    · exact .inl (again.trans same)
    · exact .inr ⟨same ▸ missing, present, allowed⟩
  · exact .inr ⟨missing, second.keeps present, allowed⟩

end GrowsAt

/-- Making a directory adds one, at the location of its path. -/
theorem growsAt_of_makeDirectory
    {store made : FileStore} {path : String}
    (success : store.makeDirectory path = .ok made) :
    GrowsAt (· = locationOf path) store made := by
  rcases namesIn_of_makeDirectory success with ⟨_, missing, rfl⟩
  intro location
  by_cases same : location = locationOf path
  · subst same
    exact .inr ⟨missing, lookup_put_self _ _ _, rfl⟩
  · exact .inl (lookup_put_of_ne _ _ same)

/-- A directory that was made is there. -/
theorem isDirectory_of_makeDirectory
    {store made : FileStore} {path : String}
    (success : store.makeDirectory path = .ok made) :
    made.isDirectory path = true := by
  rcases namesIn_of_makeDirectory success with ⟨⟨directory, name, named⟩, _, rfl⟩
  exact named.isDirectory_of_lookup (keepsDirectories_put_directory _ _)
    (lookup_put_self _ _ _)

/-! ## Making missing directories -/

/-- What comes of making the directory of a path after those of the components before it. -/
inductive Making (store : FileStore) (path : String) (before : List String) :
    Except Fault Unit → FileStore → Prop
  | made
      {later : FileStore}
      (success : store.makeDirectory path = .ok later) :
      Making store path before (.ok ()) later
  | stopped
      {fault : Fault} {reached : FileStore}
      (failure : store.makeDirectories before = (.error fault, reached)) :
      Making store path before (.error fault) reached
  | madeInside
      {reached later : FileStore}
      (inside : store.makeDirectories before = (.ok (), reached))
      (success : reached.makeDirectory path = .ok later) :
      Making store path before (.ok ()) later
  | refused
      {reached : FileStore}
      (grown : reached = store ∨ store.makeDirectories before = (.ok (), reached))
      (fault : Fault) :
      Making store path before (.error fault) reached
  | present
      {reached : FileStore}
      (grown : reached = store ∨ store.makeDirectories before = (.ok (), reached))
      (directory : reached.isDirectory path = true) :
      Making store path before (.ok ()) reached

/-- When making fails, it counts as success if a directory is there. -/
theorem making_unlessDirectory
    {store reached : FileStore} {path : String} {before : List String}
    (grown : reached = store ∨ store.makeDirectories before = (.ok (), reached))
    (fault : Fault) :
    Making store path before (reached.unlessDirectory path fault).1
      (reached.unlessDirectory path fault).2 := by
  unfold unlessDirectory
  by_cases directory : reached.isDirectory path = true
  · rw [if_pos directory]
    exact .present grown directory
  · rw [if_neg directory]
    exact .refused grown fault

theorem making_makeDirectories_cons
    (store : FileStore)
    (last : String)
    (before : List String) :
    Making store (ofComponents (last :: before).reverse) before
      (store.makeDirectories (last :: before)).1
      (store.makeDirectories (last :: before)).2 := by
  rw [makeDirectories]
  cases tried : store.makeDirectory (ofComponents (last :: before).reverse) with
  | ok made =>
      exact .made tried
  | error fault =>
      by_cases missing : fault = .notFound
      · subst missing
        rcases inside : store.makeDirectories before with ⟨outcome, reached⟩
        cases outcome with
        | error fault =>
            exact .stopped inside
        | ok done =>
            simp only
            cases retried : reached.makeDirectory (ofComponents (last :: before).reverse) with
            | ok made =>
                exact .madeInside inside retried
            | error fault =>
                exact making_unlessDirectory (.inr inside) fault
      · have stays := @making_unlessDirectory store store
          (ofComponents (last :: before).reverse) before (.inl rfl) fault
        cases fault <;> first | exact absurd rfl missing | exact stays

/-- The location of a path that leading components make up, with those last first. -/
def IsLeading (components location : List String) : Prop :=
  ∃ lead, lead ≠ [] ∧ lead <:+ components ∧ location = locationOf (ofComponents lead.reverse)

theorem IsLeading.cons
    {components location : List String}
    (leading : IsLeading components location)
    (last : String) :
    IsLeading (last :: components) location := by
  rcases leading with ⟨lead, filled, suffix, same⟩
  exact ⟨lead, filled, suffix.trans (List.suffix_cons last components), same⟩

/-- Whether it succeeds or not, making directories only adds directories on the way. -/
theorem growsAt_makeDirectories
    (store : FileStore)
    (components : List String) :
    GrowsAt (IsLeading components) store (store.makeDirectories components).2 := by
  -- The inner directories are made in the same store, so only the components vary.
  induction components with
  | nil =>
      exact .refl _ store
  | cons last before ih =>
      have wider : GrowsAt (IsLeading (last :: before)) store
          (store.makeDirectories before).2 :=
        ih.mono fun _ leading => leading.cons last
      have whole : ∀ location,
          location = locationOf (ofComponents (last :: before).reverse) →
            IsLeading (last :: before) location :=
        fun _ same => ⟨last :: before, List.cons_ne_nil _ _, List.suffix_refl _, same⟩
      have outcome := making_makeDirectories_cons store last before
      generalize (store.makeDirectories (last :: before)).1 = result at outcome
      generalize (store.makeDirectories (last :: before)).2 = later at outcome ⊢
      cases outcome with
      | made success =>
          exact (growsAt_of_makeDirectory success).mono whole
      | stopped failure =>
          rw [failure] at wider
          exact wider
      | madeInside inside success =>
          rw [inside] at wider
          exact wider.trans ((growsAt_of_makeDirectory success).mono whole)
      | refused grown | present grown =>
          rcases grown with rfl | inside
          · exact .refl _ _
          · rw [inside] at wider
            exact wider

/-- Directories that were made are there. -/
theorem isDirectory_of_makeDirectories
    {store made : FileStore} {components : List String}
    (success : store.makeDirectories components = (.ok (), made))
    (filled : components ≠ []) :
    made.isDirectory (ofComponents components.reverse) = true := by
  cases components with
  | nil =>
      exact absurd rfl filled
  | cons last before =>
      have outcome := making_makeDirectories_cons store last before
      rw [success] at outcome
      cases outcome with
      | made made | madeInside _ made =>
          exact isDirectory_of_makeDirectory made
      | present _ directory =>
          exact directory

/-- Nothing is to be made where there is a directory. -/
theorem makeDirectories_of_isDirectory
    {store : FileStore} {components : List String}
    (directory : components ≠ [] → store.isDirectory (ofComponents components.reverse) = true) :
    store.makeDirectories components = (.ok (), store) := by
  cases components with
  | nil =>
      rfl
  | cons last before =>
      have present := directory (List.cons_ne_nil _ _)
      rw [makeDirectories, makeDirectory_of_isDirectory present]
      simp only [unlessDirectory, present, if_true]

/-- Directories that were made once need not be made again. -/
theorem makeDirectoryPath_again
    {store made later : FileStore} {path : String}
    (success : store.makeDirectoryPath path = (.ok (), made))
    (kept : made.KeepsDirectories later) :
    later.makeDirectoryPath path = (.ok (), later) :=
  makeDirectories_of_isDirectory fun filled =>
    kept.isDirectory (isDirectory_of_makeDirectories success filled)

/-- A directory on the way to a path: the parent or what leading components of it name. -/
def IsAncestor (path : String) (location : List String) : Prop :=
  ∃ parent lead,
    Path.parent? path = some parent ∧
      lead ≠ [] ∧ lead <+: Path.components parent ∧ location = locationOf (ofComponents lead)

/-- The directories on the way to the parent of a path are ancestors of the path. -/
theorem isAncestor_of_isLeading
    {path parent : String} {location : List String}
    (held : Path.parent? path = some parent)
    (leading : IsLeading (Path.components parent).reverse location) :
    IsAncestor path location := by
  rcases leading with ⟨lead, filled, suffix, same⟩
  refine ⟨parent, lead.reverse, held, ?_, ?_, same⟩
  · exact mt List.reverse_eq_nil_iff.mp filled
  · rw [← List.reverse_suffix, List.reverse_reverse]
    exact suffix

end FileStore

/-! ## Writing a module -/

namespace Compiler

open FileStore

theorem accessing_eq_ok_iff
    {Result : Type} {path : String} {outcome : Except Fault Result} {result : Result} :
    accessing path outcome = .ok result ↔ outcome = .ok result := by
  cases outcome <;> simp [accessing]

/-- A fault of a file operation is reported with its path and its message. -/
theorem accessing_eq_error_iff
    {Result : Type} {path : String} {outcome : Except Fault Result} {error : Error} :
    accessing path outcome = .error error ↔
      ∃ fault, outcome = .error fault ∧ error = .fileAccess path fault.message := by
  cases outcome <;> simp [accessing, eq_comm]

/-- A file could not be accessed that lies at a path, or the directory of that path. -/
inductive AccessFailure (path : String) : Error → Prop
  | file (fault : Fault) :
      AccessFailure path (.fileAccess path fault.message)
  | directory
      {parent : String}
      (held : Path.parent? path = some parent)
      (fault : Fault) :
      AccessFailure path (.fileAccess parent fault.message)

/-- In a store, making the directory of a path is the operation of the store. -/
theorem prepareDirectory_eq
    (path : String)
    (store : FileStore) :
    prepareDirectory path store =
      match outputDirectory? path with
      | none => (.ok (), store)
      | some directory =>
        let (outcome, prepared) := store.makeDirectoryPath directory
        (accessing directory outcome, prepared) := by
  unfold prepareDirectory prepareDirectoryWith
  cases outputDirectory? path with
  | none =>
      rfl
  | some directory =>
      simp only [StateT.run_map, run_makeDirectoryPath]
      rfl

/-- In a store, writing a text is making its directory and then the operation of the store. -/
theorem writeOutput_eq
    (path text : String)
    (store : FileStore) :
    writeOutput path text store =
      match prepareDirectory path store with
      | (.error error, prepared) => (.error error, prepared)
      | (.ok (), prepared) =>
        match accessing path (prepared.writeText path text) with
        | .error error => (.error error, prepared)
        | .ok written => (.ok (), written) := by
  rcases ready : prepareDirectory path store with ⟨outcome, prepared⟩
  unfold prepareDirectory at ready
  unfold writeOutput writeOutputWith
  rw [StateT.run_bind, ready]
  cases outcome with
  | error error =>
      rfl
  | ok done =>
      change (accessing path <$> files.writeText path text).run prepared = _
      rw [StateT.run_map, run_writeText]
      simp only
      cases prepared.writeText path text <;> rfl

/-- There is a directory to make, or the store stays as it is. -/
theorem prepareDirectory_cases
    (path : String)
    (store : FileStore) :
    prepareDirectory path store = (.ok (), store) ∨
      ∃ parent, Path.parent? path = some parent ∧
        outputDirectory? path = some parent := by
  rw [prepareDirectory_eq]
  cases held : outputDirectory? path with
  | none =>
      exact .inl rfl
  | some parent =>
      exact .inr ⟨parent, (Option.filter_eq_some_iff.mp held).1, rfl⟩

/-- Preparing a path only adds directories above it, even when it fails. -/
theorem growsAt_prepareDirectory
    (path : String)
    (store : FileStore) :
    GrowsAt (IsAncestor path) store (prepareDirectory path store).2 := by
  rcases prepareDirectory_cases path store with none | ⟨parent, held, output⟩
  · rw [none]
    exact .refl _ store
  · rw [prepareDirectory_eq, output]
    exact (growsAt_makeDirectories store _).mono fun _ leading =>
      isAncestor_of_isLeading held leading

/-- When preparing a path fails, the error names what could not be accessed. -/
theorem accessFailure_of_prepareDirectory
    {path : String} {store prepared : FileStore} {error : Error}
    (failure : prepareDirectory path store = (.error error, prepared)) :
    AccessFailure path error := by
  rcases prepareDirectory_cases path store with none | ⟨parent, held, output⟩
  · rw [none] at failure
    cases failure
  · rw [prepareDirectory_eq, output] at failure
    rcases accessing_eq_error_iff.mp (congrArg Prod.fst failure) with ⟨fault, _, rfl⟩
    exact .directory held fault

/-- A path that was prepared needs no directory later on. -/
theorem prepareDirectory_again
    {path : String} {store prepared later : FileStore}
    (success : prepareDirectory path store = (.ok (), prepared))
    (kept : prepared.KeepsDirectories later) :
    prepareDirectory path later = (.ok (), later) := by
  rw [prepareDirectory_eq] at success ⊢
  cases output : outputDirectory? path with
  | none =>
      rfl
  | some parent =>
      simp only [output] at success
      have made : store.makeDirectoryPath parent = (.ok (), prepared) :=
        Prod.ext (accessing_eq_ok_iff.mp (Prod.mk.inj success).1) (Prod.mk.inj success).2
      simp only [makeDirectoryPath_again made kept]
      rfl

/-- What comes of writing a text: the directory fails, the file fails, or it is written. -/
inductive Writing (path text : String) (store : FileStore) :
    Except Error Unit × FileStore → Prop
  | noDirectory
      {error : Error} {prepared : FileStore}
      (failure : prepareDirectory path store = (.error error, prepared)) :
      Writing path text store (.error error, prepared)
  | noFile
      {prepared : FileStore} {fault : Fault}
      (ready : prepareDirectory path store = (.ok (), prepared))
      (failure : prepared.writeText path text = .error fault) :
      Writing path text store (.error (.fileAccess path fault.message), prepared)
  | written
      {prepared written : FileStore}
      (ready : prepareDirectory path store = (.ok (), prepared))
      (success : prepared.writeText path text = .ok written) :
      Writing path text store (.ok (), written)

theorem writing_writeOutput
    (path text : String)
    (store : FileStore) :
    Writing path text store (writeOutput path text store) := by
  rw [writeOutput_eq]
  rcases ready : prepareDirectory path store with ⟨outcome, prepared⟩
  cases outcome with
  | error error =>
      exact .noDirectory ready
  | ok done =>
      cases wrote : prepared.writeText path text with
      | error fault =>
          simp only [wrote, accessing]
          exact .noFile ready wrote
      | ok written =>
          simp only [wrote, accessing]
          exact .written ready wrote

/-- A text that could not be written leaves new directories on the way at most. -/
theorem writeOutput_failed
    {path text : String} {store after : FileStore} {error : Error}
    (failure : writeOutput path text store = (.error error, after)) :
    AccessFailure path error ∧ GrowsAt (IsAncestor path) store after := by
  have outcome := writing_writeOutput path text store
  have grows := growsAt_prepareDirectory path store
  rw [failure] at outcome
  cases outcome with
  | noDirectory failure =>
      rw [failure] at grows
      exact ⟨accessFailure_of_prepareDirectory failure, grows⟩
  | noFile ready failure =>
      rw [ready] at grows
      exact ⟨.file _, grows⟩

/--
A text was written to a path: it can be read there, and nothing differs elsewhere
but for new directories on the way.
-/
structure Written (path text : String) (store after : FileStore) : Prop where
  readable : after.readText path = .ok text
  present : after.lookup (locationOf path) = some (.file text.toUTF8)
  free : store.lookup (locationOf path) ≠ some .directory
  elsewhere : ∀ location, location ≠ locationOf path →
    after.lookup location = store.lookup location ∨
      store.lookup location = none ∧ after.lookup location = some .directory ∧
        IsAncestor path location

/-- A file that was written took the place of no directory. -/
theorem Written.keepsDirectories
    {path text : String} {store after : FileStore}
    (written : Written path text store after) :
    store.KeepsDirectories after := by
  intro location present
  by_cases output : location = locationOf path
  · subst output
    exact absurd present written.free
  · rcases written.elsewhere location output with equal | ⟨missing, _⟩
    · rw [equal, present]
    · rw [missing] at present
      cases present

/-- What lies elsewhere is read as before. -/
theorem Written.readText
    {path text : String} {store after : FileStore}
    (written : Written path text store after)
    {other contents : String}
    (apart : locationOf path ≠ locationOf other)
    (reads : store.readText other = .ok contents) :
    after.readText other = .ok contents := by
  rw [readText_eq_ok_iff, find_eq_ok_iff] at reads ⊢
  refine ⟨written.keepsDirectories.locate reads.1, ?_⟩
  rcases written.elsewhere _ apart.symm with equal | ⟨missing, _⟩
  · rw [equal, reads.2]
  · rw [missing] at reads
    cases reads.2

theorem writeOutput_eq_ok_iff
    {path text : String} {store after : FileStore} :
    writeOutput path text store = (.ok (), after) ↔
      ∃ prepared, prepareDirectory path store = (.ok (), prepared) ∧
        prepared.writeText path text = .ok after := by
  constructor
  · intro success
    have outcome := writing_writeOutput path text store
    rw [success] at outcome
    cases outcome with
    | written ready wrote =>
        exact ⟨_, ready, wrote⟩
  · rintro ⟨prepared, ready, wrote⟩
    rw [writeOutput_eq]
    simp only [ready, wrote, accessing]

theorem written_of_writeOutput
    {path text : String} {store after : FileStore}
    (success : writeOutput path text store = (.ok (), after)) :
    Written path text store after := by
  rcases writeOutput_eq_ok_iff.mp success with ⟨prepared, ready, wrote⟩
  rcases writeBytes_eq_ok_iff.mp wrote with ⟨⟨directory, name, named⟩, noSlash, free, rfl⟩
  have grows := growsAt_prepareDirectory path store
  rw [ready] at grows
  refine ⟨readText_eq_ok_iff.mpr ?_, lookup_put_self _ _ _, ?_, ?_⟩
  · exact named.find_of_lookup noSlash (keepsDirectories_put_file free _)
      (lookup_put_self _ _ _)
  · intro directory
    exact free (grows.keeps directory)
  · intro location other
    rw [lookup_put_of_ne _ _ other]
    exact grows location

/-- Writing the same once more gives the same store. -/
theorem writeOutput_again
    {path text : String} {store after : FileStore}
    (success : writeOutput path text store = (.ok (), after)) :
    writeOutput path text after = (.ok (), after) := by
  rcases writeOutput_eq_ok_iff.mp success with ⟨prepared, ready, wrote⟩
  rcases writeBytes_eq_ok_iff.mp wrote with ⟨⟨directory, name, named⟩, noSlash, free, same⟩
  have kept : prepared.KeepsDirectories after := by
    rw [same]
    exact keepsDirectories_put_file free _
  refine writeOutput_eq_ok_iff.mpr ⟨after, prepareDirectory_again ready kept, ?_⟩
  have present : after.lookup (locationOf path) = some (.file text.toUTF8) := by
    rw [same, lookup_put_self]
  refine writeBytes_eq_ok_iff.mpr ⟨⟨directory, name, named.keeps kept⟩, noSlash, ?_, ?_⟩
  · rw [present]
    simp
  · ext1 location
    by_cases here : location = locationOf path
    · rw [here, present, lookup_put_self]
    · rw [lookup_put_of_ne _ _ here]

end Compiler

end ContentSchema

import Mathlib
import ContentSchema.FileStore

/-!
# Where paths lead

The location to which a path leads depends on the path alone, as long as every
directory on the way is there: a store can only refuse the walk, not turn it aside.
What an operation on a store changes is therefore told by the location of its path.

Writing puts a file at the location of the path, and making a directory puts one
where nothing was.  Directories stay directories under both, so a walk that succeeds
once still succeeds afterwards, and what was written can be read back at its path.
Taking a path out of a store leaves nothing at its location and below, and changes
nothing elsewhere.
-/

namespace ContentSchema

/-! ## Segments -/

namespace Path

theorem getLast?_splitOn_eq_nil
    {characters : List Char}
    (last : (characters.splitOn '/').getLast? = some []) :
    characters = [] ∨ characters.getLast? = some '/' := by
  induction characters with
  | nil =>
      exact .inl rfl
  | cons character rest ih =>
      right
      rw [List.splitOn_cons_eq_if_modifyHead] at last
      rcases List.exists_cons_of_ne_nil (List.splitOn_ne_nil '/' rest) with
        ⟨first, others, split⟩
      rw [split] at last ih
      by_cases slash : character = '/'
      · subst slash
        simp only [BEq.rfl, if_true, List.getLast?_cons_cons] at last
        rcases ih last with rfl | ending
        · rfl
        · rw [List.getLast?_cons, ending]
          rfl
      · simp only [beq_iff_eq, slash, if_false, List.modifyHead_cons] at last
        cases others with
        | nil =>
            simp at last
        | cons second others =>
            rw [List.getLast?_cons_cons] at last ih
            rcases ih last with rfl | ending
            · simp at split
            · rw [List.getLast?_cons, ending]
              rfl

/-- Only a path with a slash at its end has an empty last segment. -/
theorem getLast?_segments_eq_empty
    {path : String}
    (last : (segments path).getLast? = some "") :
    path = "" ∨ path.toList.getLast? = some '/' := by
  rw [segments, List.getLast?_map, Option.map_eq_some_iff] at last
  rcases last with ⟨characters, found, empty⟩
  have nothing : characters = [] := by simpa using empty
  subst nothing
  rcases getLast?_splitOn_eq_nil found with none | slash
  · exact .inl (by simpa using none)
  · exact .inr slash

end Path

namespace FileStore

/-- The location of a path whose directories are all there. -/
def locationOf (path : String) : List String :=
  (start path).2.foldl enter (start path).1

@[ext]
theorem ext
    {left right : FileStore}
    (same : ∀ location, left.lookup location = right.lookup location) :
    left = right := by
  cases left
  cases right
  congr 1
  funext location
  exact same location

/-- What a path starts with is no segment of its walk, but all that follows is. -/
theorem segments_eq_start (path : String) :
    Path.segments path = (start path).2 ∨ Path.segments path = "" :: (start path).2 := by
  unfold start
  split
  · rename_i rest absolute
    exact .inr absolute
  · exact .inl rfl

theorem ne_empty_of_checkPath
    {path : String}
    (checked : checkPath path = .ok ()) :
    path ≠ "" := by
  rintro rfl
  cases checked

/-! ## Single steps -/

theorem requireDirectory_eq_ok_iff
    {store : FileStore} {location : List String} :
    store.requireDirectory location = .ok () ↔
      store.lookup location = some .directory := by
  unfold requireDirectory
  cases store.lookup location with
  | none =>
      simp
  | some entry =>
      cases entry <;> simp

@[simp]
theorem enter_empty (location : List String) : enter location "" = location := by
  simp [enter, Path.isSilent]

theorem enter_plain
    {name : String}
    (plain : isPlainName name = true)
    (location : List String) :
    enter location name = location ++ [name] := by
  rw [isPlainName, Bool.and_eq_true, bne_iff_ne, Bool.not_eq_true'] at plain
  simp [enter, plain.1, plain.2]

theorem ne_empty_of_isPlainName
    {name : String}
    (plain : isPlainName name = true) :
    name ≠ "" := by
  rintro rfl
  cases plain

theorem foldl_enter_silent
    {segments : List String}
    (silent : ∀ segment ∈ segments, segment = "")
    (location : List String) :
    segments.foldl enter location = location := by
  induction segments with
  | nil =>
      rfl
  | cons segment segments ih =>
      rw [List.forall_mem_cons] at silent
      rw [List.foldl_cons, silent.1, enter_empty]
      exact ih silent.2

/-! ## Walks -/

/-- A step of a walk needs a directory to start in and a segment that is short enough. -/
theorem walk_cons_eq_ok_iff
    {store : FileStore} {location target : List String}
    {segment : String} {rest : List String} :
    store.walk location (segment :: rest) = .ok target ↔
      store.lookup location = some .directory ∧
        isTooLong segment = false ∧
        store.walk (enter location segment) rest = .ok target := by
  rw [← requireDirectory_eq_ok_iff, walk]
  cases store.requireDirectory location with
  | error fault =>
      simp
  | ok done =>
      cases isTooLong segment <;> simp

theorem walk_append_eq_ok_iff
    {store : FileStore} {location target : List String}
    {before after : List String} :
    store.walk location (before ++ after) = .ok target ↔
      ∃ middle, store.walk location before = .ok middle ∧
        store.walk middle after = .ok target := by
  induction before generalizing location with
  | nil =>
      simp [walk]
  | cons segment before ih =>
      simp only [List.cons_append, walk_cons_eq_ok_iff, ih]
      constructor
      · rintro ⟨directory, short, middle, first, second⟩
        exact ⟨middle, ⟨directory, short, first⟩, second⟩
      · rintro ⟨middle, ⟨directory, short, first⟩, second⟩
        exact ⟨directory, short, middle, first, second⟩

/-- A walk that succeeds leads where its segments say. -/
theorem eq_foldl_of_walk
    {store : FileStore} {location target segments : List String}
    (success : store.walk location segments = .ok target) :
    target = segments.foldl enter location := by
  induction segments generalizing location with
  | nil =>
      cases success
      rfl
  | cons segment segments ih =>
      exact ih (walk_cons_eq_ok_iff.mp success).2.2

theorem walk_silent
    {store : FileStore} {location segments : List String}
    (directory : store.lookup location = some .directory)
    (silent : ∀ segment ∈ segments, segment = "") :
    store.walk location segments = .ok location := by
  induction segments with
  | nil =>
      rfl
  | cons segment segments ih =>
      rw [List.forall_mem_cons] at silent
      rw [silent.1]
      refine walk_cons_eq_ok_iff.mpr ⟨directory, rfl, ?_⟩
      rw [enter_empty]
      exact ih silent.2

/-- Every directory of a store is one of a later store. -/
def KeepsDirectories (store later : FileStore) : Prop :=
  ∀ location, store.lookup location = some .directory →
    later.lookup location = some .directory

/-- A walk that succeeds still does when the directories are kept. -/
theorem KeepsDirectories.walk
    {store later : FileStore}
    (kept : store.KeepsDirectories later)
    {location target segments : List String}
    (success : store.walk location segments = .ok target) :
    later.walk location segments = .ok target := by
  induction segments generalizing location with
  | nil =>
      exact success
  | cons segment segments ih =>
      rcases walk_cons_eq_ok_iff.mp success with ⟨directory, short, rest⟩
      exact walk_cons_eq_ok_iff.mpr ⟨kept location directory, short, ih rest⟩

/-! ## Paths -/

/-- A path is located when it may be asked for and every directory on its way is there. -/
theorem locate_eq_ok_iff
    {store : FileStore} {path : String} {target : List String} :
    store.locate path = .ok target ↔
      checkPath path = .ok () ∧
        store.walk (start path).1 (start path).2 = .ok target := by
  unfold locate
  cases checkPath path <;> simp

/-- Where a path leads does not depend on the store. -/
theorem locationOf_of_locate
    {store : FileStore} {path : String} {target : List String}
    (success : store.locate path = .ok target) :
    target = locationOf path :=
  eq_foldl_of_walk (locate_eq_ok_iff.mp success).2

/-- A path is found when it is located and something is there. -/
theorem find_eq_ok_iff
    {store : FileStore} {path : String} {entry : Entry} :
    store.find path = .ok entry ↔
      store.locate path = .ok (locationOf path) ∧
        store.lookup (locationOf path) = some entry := by
  unfold find
  cases located : store.locate path with
  | error fault =>
      simp
  | ok target =>
      rw [← locationOf_of_locate located]
      cases present : store.lookup target <;> simp [present]

theorem isDirectory_iff
    {store : FileStore} {path : String} :
    store.isDirectory path = true ↔ store.find path = .ok .directory := by
  unfold isDirectory
  cases store.find path with
  | error fault =>
      simp
  | ok entry =>
      cases entry <;> simp

theorem KeepsDirectories.locate
    {store later : FileStore}
    (kept : store.KeepsDirectories later)
    {path : String} {target : List String}
    (success : store.locate path = .ok target) :
    later.locate path = .ok target := by
  rw [locate_eq_ok_iff] at success ⊢
  exact ⟨success.1, kept.walk success.2⟩

theorem KeepsDirectories.isDirectory
    {store later : FileStore}
    (kept : store.KeepsDirectories later)
    {path : String}
    (directory : store.isDirectory path = true) :
    later.isDirectory path = true := by
  rw [isDirectory_iff, find_eq_ok_iff] at directory ⊢
  exact ⟨kept.locate directory.1, kept _ directory.2⟩

/-- The octets of a text are those from which it is read. -/
theorem fromUTF8?_eq_some_iff {bytes : ByteArray} {text : String} :
    String.fromUTF8? bytes = some text ↔ bytes = text.toUTF8 := by
  constructor
  · intro read
    rw [String.fromUTF8?, Option.dite_none_right_eq_some] at read
    rcases read with ⟨valid, same⟩
    cases same
    rfl
  · rintro rfl
    exact dif_pos text.isValidUTF8

/-- A text is read off a file with its bytes, and off no other file. -/
theorem readText_eq_ok_iff
    {store : FileStore} {path text : String} :
    store.readText path = .ok text ↔
      store.find path = .ok (.file text.toUTF8) := by
  unfold readText
  cases store.find path with
  | error fault =>
      simp
  | ok entry =>
      cases entry with
      | directory =>
          simp
      | file bytes =>
          simp only [Except.ok.injEq, Entry.file.injEq]
          rw [← fromUTF8?_eq_some_iff]
          cases String.fromUTF8? bytes <;> simp

/-! ## New entries -/

/-- The segments of a path that names something end in that name and a silent rest. -/
theorem splitLast_some
    {segments before : List String} {name : String}
    (split : splitLast segments = (before, some name)) :
    ∃ silent, segments = before ++ name :: silent ∧ ∀ segment ∈ silent, segment = "" := by
  rcases Prod.mk.inj split with ⟨lead, last⟩
  refine ⟨(segments.reverse.takeWhile (· == "")).reverse, ?_, ?_⟩
  · have whole := congrArg List.reverse
      (List.takeWhile_append_dropWhile (p := (· == "")) (l := segments.reverse))
    rw [List.reverse_append, List.reverse_reverse] at whole
    have named := List.dropLast_append_getLast? name last
    rw [lead] at named
    rw [← named, List.append_assoc] at whole
    exact whole.symm
  · intro segment member
    rw [List.mem_reverse] at member
    simpa using List.mem_takeWhile_imp member

theorem splitLast_append
    (before : List String) {name : String} {silent : List String}
    (empty : ∀ segment ∈ silent, segment = "")
    (filled : name ≠ "") :
    splitLast (before ++ name :: silent) = (before, some name) := by
  have dropped : (before ++ name :: silent).reverse.dropWhile (· == "") =
      name :: before.reverse := by
    rw [List.reverse_append, List.reverse_cons, List.append_assoc]
    rw [List.dropWhile_append_of_pos fun segment member => ?_]
    · simp [filled]
    · simpa using empty segment (List.mem_reverse.mp member)
  unfold splitLast
  rw [dropped]
  simp

/-- The segments of a path that names nothing are all silent. -/
theorem splitLast_none
    {segments before : List String}
    (split : splitLast segments = (before, none)) :
    before = [] ∧ ∀ segment ∈ segments, segment = "" := by
  rcases Prod.mk.inj split with ⟨lead, last⟩
  rw [List.getLast?_eq_none_iff] at last
  rw [last] at lead
  refine ⟨lead.symm, ?_⟩
  intro segment member
  rw [List.reverse_eq_nil_iff, List.dropWhile_eq_nil_iff] at last
  simpa using last segment (List.mem_reverse.mpr member)

/-- A new entry is located in a directory that a walk along the other segments reaches. -/
theorem locateNew_eq_ok_iff
    {store : FileStore} {path : String} {directory : List String} {last : Option String} :
    store.locateNew path = .ok (directory, last) ↔
      checkPath path = .ok () ∧
        ∃ before, splitLast (start path).2 = (before, last) ∧
          store.walk (start path).1 before = .ok directory ∧
          store.lookup directory = some .directory := by
  unfold locateNew
  cases checkPath path with
  | error fault =>
      simp
  | ok done =>
      rcases splitLast (start path).2 with ⟨before, found⟩
      simp only [true_and, Prod.mk.injEq]
      constructor
      · intro success
        split at success
        · cases success
        · rename_i reached walked
          split at success
          · cases success
          · rename_i required
            cases success
            exact ⟨before, ⟨rfl, rfl⟩, walked, requireDirectory_eq_ok_iff.mp required⟩
      · rintro ⟨_, ⟨rfl, rfl⟩, walked, present⟩
        rw [walked]
        simp only [requireDirectory_eq_ok_iff.mpr present]

/-- A path with a plain last name in a directory that is there. -/
structure NamesIn
    (store : FileStore) (path : String) (directory : List String) (name : String) :
    Prop where
  checked : checkPath path = .ok ()
  walked : ∃ before silent,
    (start path).2 = before ++ name :: silent ∧
      (∀ segment ∈ silent, segment = "") ∧
      store.walk (start path).1 before = .ok directory
  present : store.lookup directory = some .directory
  plain : isPlainName name = true
  short : isTooLong name = false

namespace NamesIn

variable {store : FileStore} {path : String} {directory : List String} {name : String}

theorem of_locateNew
    (success : store.locateNew path = .ok (directory, some name))
    (plain : isPlainName name = true)
    (short : isTooLong name = false) :
    NamesIn store path directory name := by
  rcases locateNew_eq_ok_iff.mp success with ⟨checked, before, split, walked, present⟩
  rcases splitLast_some split with ⟨silent, segments, empty⟩
  exact ⟨checked, ⟨before, silent, segments, empty, walked⟩, present, plain, short⟩

/-- The location of such a path is that name in the directory. -/
theorem locationOf_eq (named : NamesIn store path directory name) :
    locationOf path = directory ++ [name] := by
  rcases named.walked with ⟨before, silent, segments, empty, walked⟩
  rw [locationOf, segments, List.foldl_append, List.foldl_cons,
    ← eq_foldl_of_walk walked, enter_plain named.plain]
  exact foldl_enter_silent empty _

/-- The last name does not end the walk in a store that keeps the directories. -/
theorem walk_last
    (named : NamesIn store path directory name)
    {later : FileStore}
    (kept : store.KeepsDirectories later) :
    later.walk directory [name] = .ok (locationOf path) := by
  refine walk_cons_eq_ok_iff.mpr ⟨kept _ named.present, named.short, ?_⟩
  rw [named.locationOf_eq, enter_plain named.plain]
  rfl

/-- A directory at the location of the path is found there. -/
theorem isDirectory_of_lookup
    (named : NamesIn store path directory name)
    {later : FileStore}
    (kept : store.KeepsDirectories later)
    (present : later.lookup (locationOf path) = some .directory) :
    later.isDirectory path = true := by
  rcases named.walked with ⟨before, silent, segments, empty, walked⟩
  refine isDirectory_iff.mpr (find_eq_ok_iff.mpr ⟨?_, present⟩)
  refine locate_eq_ok_iff.mpr ⟨named.checked, ?_⟩
  rw [segments, List.append_cons]
  refine walk_append_eq_ok_iff.mpr ⟨locationOf path, ?_, walk_silent present empty⟩
  exact walk_append_eq_ok_iff.mpr ⟨directory, kept.walk walked, named.walk_last kept⟩

/-- A file at the location of the path is found there, unless a slash follows its name. -/
theorem find_of_lookup
    (named : NamesIn store path directory name)
    (noSlash : path.toList.getLast? ≠ some '/')
    {later : FileStore}
    (kept : store.KeepsDirectories later)
    {bytes : ByteArray}
    (present : later.lookup (locationOf path) = some (.file bytes)) :
    later.find path = .ok (.file bytes) := by
  rcases named.walked with ⟨before, silent, segments, empty, walked⟩
  have last : silent = [] := by
    by_contra filled
    have ending : (start path).2.getLast? = some "" := by
      rw [segments, List.getLast?_append, List.getLast?_cons_of_ne_nil filled,
        List.getLast?_eq_some_getLast filled, empty _ (List.getLast_mem filled)]
      rfl
    have whole : (Path.segments path).getLast? = some "" := by
      rcases segments_eq_start path with same | same
      · rw [same, ending]
      · rw [same, List.getLast?_cons, ending]
        rfl
    rcases Path.getLast?_segments_eq_empty whole with none | slash
    · exact ne_empty_of_checkPath named.checked none
    · exact noSlash slash
  subst last
  refine find_eq_ok_iff.mpr ⟨locate_eq_ok_iff.mpr ⟨named.checked, ?_⟩, present⟩
  rw [segments]
  exact walk_append_eq_ok_iff.mpr ⟨directory, kept.walk walked, named.walk_last kept⟩

theorem keeps
    (named : NamesIn store path directory name)
    {later : FileStore}
    (kept : store.KeepsDirectories later) :
    NamesIn later path directory name := by
  rcases named.walked with ⟨before, silent, segments, empty, walked⟩
  exact ⟨named.checked, ⟨before, silent, segments, empty, kept.walk walked⟩,
    kept _ named.present, named.plain, named.short⟩

theorem locateNew (named : NamesIn store path directory name) :
    store.locateNew path = .ok (directory, some name) := by
  rcases named.walked with ⟨before, silent, segments, empty, walked⟩
  refine locateNew_eq_ok_iff.mpr ⟨named.checked, before, ?_, walked, named.present⟩
  rw [segments]
  exact splitLast_append before empty (ne_empty_of_isPlainName named.plain)

end NamesIn

/-! ## Writing and making directories -/

/-- A file that does not take the place of a directory keeps all directories. -/
theorem keepsDirectories_put_file
    {store : FileStore} {location : List String}
    (free : store.lookup location ≠ some .directory)
    (bytes : ByteArray) :
    store.KeepsDirectories (store.put location (.file bytes)) := by
  intro other present
  by_cases same : other = location
  · rw [same] at present
    exact absurd present free
  · rw [lookup_put_of_ne store _ same]
    exact present

theorem keepsDirectories_put_directory
    (store : FileStore) (location : List String) :
    store.KeepsDirectories (store.put location .directory) := by
  intro other present
  by_cases same : other = location
  · rw [same, lookup_put_self]
  · rw [lookup_put_of_ne store _ same]
    exact present

/-- Writing succeeds where a plain name in a directory is no directory itself. -/
theorem writeBytes_eq_ok_iff
    {store written : FileStore} {path : String} {bytes : ByteArray} :
    store.writeBytes path bytes = .ok written ↔
      (∃ directory name, NamesIn store path directory name) ∧
        path.toList.getLast? ≠ some '/' ∧
        store.lookup (locationOf path) ≠ some .directory ∧
        written = store.put (locationOf path) (.file bytes) := by
  constructor
  · intro success
    unfold writeBytes at success
    split at success
    · cases success
    · cases success
    · rename_i directory name located
      split at success
      · cases success
      · rename_i usable
        split at success
        · cases success
        · rename_i short
          rw [Bool.or_eq_true, not_or, Bool.not_eq_true, Bool.not_eq_false'] at usable
          rw [Bool.not_eq_true] at short
          have named := NamesIn.of_locateNew located usable.1 short
          rw [← named.locationOf_eq] at success
          split at success
          · cases success
          · rename_i free
            cases success
            exact ⟨⟨directory, name, named⟩, by simpa using usable.2, free, rfl⟩
  · rintro ⟨⟨directory, name, named⟩, noSlash, free, rfl⟩
    have usable : (!isPlainName name || path.toList.getLast? == some '/') = false := by
      simp [named.plain, noSlash]
    unfold writeBytes
    simp only [named.locateNew, usable, named.short, ← named.locationOf_eq]
    cases present : store.lookup (locationOf path) with
    | none =>
        rfl
    | some entry =>
        cases entry with
        | directory =>
            exact absurd present free
        | file bytes =>
            rfl

/-- A new directory stands at the location of its path, where nothing was. -/
theorem namesIn_of_makeDirectory
    {store made : FileStore} {path : String}
    (success : store.makeDirectory path = .ok made) :
    (∃ directory name, NamesIn store path directory name) ∧
      store.lookup (locationOf path) = none ∧
      made = store.put (locationOf path) .directory := by
  unfold makeDirectory at success
  split at success
  · cases success
  · cases success
  · rename_i directory name located
    split at success
    · cases success
    · rename_i plain
      split at success
      · cases success
      · rename_i short
        rw [Bool.not_eq_true, Bool.not_eq_false'] at plain
        rw [Bool.not_eq_true] at short
        have named := NamesIn.of_locateNew located plain short
        rw [← named.locationOf_eq] at success
        split at success
        · cases success
        · rename_i free
          cases success
          exact ⟨⟨directory, name, named⟩, free, rfl⟩

/-- A directory is not made again, but nothing is missing for it either. -/
theorem makeDirectory_of_isDirectory
    {store : FileStore} {path : String}
    (directory : store.isDirectory path = true) :
    store.makeDirectory path = .error .alreadyExists := by
  rw [isDirectory_iff, find_eq_ok_iff, locate_eq_ok_iff] at directory
  rcases directory with ⟨⟨checked, walked⟩, present⟩
  rcases split : splitLast (start path).2 with ⟨before, last⟩
  cases last with
  | none =>
      rcases splitLast_none split with ⟨rfl, silent⟩
      have stays : locationOf path = (start path).1 := foldl_enter_silent silent _
      rw [stays] at present
      have located : store.locateNew path = .ok ((start path).1, none) :=
        locateNew_eq_ok_iff.mpr ⟨checked, [], split, rfl, present⟩
      unfold makeDirectory
      simp only [located]
  | some name =>
      rcases splitLast_some split with ⟨silent, segments, empty⟩
      rw [segments] at walked
      rcases walk_append_eq_ok_iff.mp walked with ⟨parent, reached, onwards⟩
      rcases walk_cons_eq_ok_iff.mp onwards with ⟨parentPresent, short, _⟩
      have located : store.locateNew path = .ok (parent, some name) :=
        locateNew_eq_ok_iff.mpr ⟨checked, before, split, reached, parentPresent⟩
      unfold makeDirectory
      simp only [located]
      by_cases plain : isPlainName name = true
      · have named := NamesIn.of_locateNew located plain short
        rw [named.locationOf_eq] at present
        simp only [plain, short, present]
        rfl
      · rw [Bool.not_eq_true] at plain
        simp only [plain]
        rfl

/-! ## Taking away -/

/-- Nothing is left at a location that was erased and below it, and all else stays. -/
theorem lookup_erase (store : FileStore) (location other : List String) :
    (store.erase location).lookup other =
      if location <+: other then none else store.lookup other := by
  simp only [erase, List.isPrefixOf_iff_prefix]

/-- A path leads nowhere once its location is erased. -/
theorem contains_erase_locationOf (store : FileStore) (path : String) :
    (store.erase (locationOf path)).contains path = false := by
  cases found : (store.erase (locationOf path)).find path with
  | error fault =>
      rw [contains, found]
      rfl
  | ok entry =>
      -- Whatever is found lies at the location of the path, where nothing is left.
      have present := (find_eq_ok_iff.mp found).2
      rw [lookup_erase, if_pos List.prefix_rfl] at present
      cases present

/-- A removal does nothing, or it takes away what lies at the location of its path. -/
theorem remove_cases (store : FileStore) (path : String) :
    (store.remove path = store ∧
      (isGiven (locationOf path) = true ∨ ∃ fault, store.locate path = .error fault)) ∨
    (store.remove path = store.erase (locationOf path) ∧
      isGiven (locationOf path) = false) := by
  unfold remove
  cases located : store.locate path with
  | error fault =>
      exact .inl ⟨rfl, .inr ⟨fault, rfl⟩⟩
  | ok location =>
      rw [locationOf_of_locate located]
      cases given : isGiven (locationOf path) with
      | true =>
          exact .inl ⟨if_pos given, .inl rfl⟩
      | false =>
          exact .inr ⟨if_neg (Bool.eq_false_iff.mp given), rfl⟩

/-- A path was taken out of a store: nothing changed but at its location and below. -/
structure Removed (path : String) (store after : FileStore) : Prop where
  elsewhere : ∀ other, ¬ locationOf path <+: other →
    after.lookup other = store.lookup other
  /-- What is still there was there before. -/
  kept : ∀ other entry, after.lookup other = some entry → store.lookup other = some entry
  /-- The working directory and those above it cannot be taken away. -/
  given : isGiven (locationOf path) = true → after = store
  absent : isGiven (locationOf path) = false → after.contains path = false

/-- Taking out a path does what it may do, whether anything was there or not. -/
theorem removed_remove (store : FileStore) (path : String) :
    Removed path store (store.remove path) := by
  rcases remove_cases store path with ⟨same, reason⟩ | ⟨same, free⟩
  · rw [same]
    refine ⟨fun _ _ => rfl, fun _ _ found => found, fun _ => rfl, fun free => ?_⟩
    rcases reason with given | ⟨fault, lost⟩
    · rw [free] at given
      cases given
    · rw [contains, find, lost]
      rfl
  · rw [same]
    refine ⟨?_, ?_, ?_, fun _ => contains_erase_locationOf store path⟩
    · intro other outside
      rw [lookup_erase, if_neg outside]
    · intro other entry found
      rw [lookup_erase] at found
      split at found
      · cases found
      · exact found
    · intro given
      rw [free] at given
      cases given

end FileStore

end ContentSchema

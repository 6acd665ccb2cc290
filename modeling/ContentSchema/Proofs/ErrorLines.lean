import Mathlib
import ContentSchema.Proofs.CommandRuns
import ContentSchema.Proofs.EntryPoints
import ContentSchema.Proofs.Quotations

/-!
# Errors on one line

An error is meant to be one line, so that a run that fails puts exactly one line on the
error channel.  A store has its own words for its faults, and a path of one line has only
directories of one line above it; so an error of a file is one line whenever its path is.
All other errors quote the name of the format or texts of the document.

What follows is exact.  The message of an error is one line when those texts are that
occur in it, and the run is held to the same: where a name, a locale or a kind of widget
has a line feed, the error that quotes it is broken, and nothing else breaks one.
-/

namespace ContentSchema

open DocumentGrammar
open Text (Composed OneLine Within oneLine_intercalate)
open Traversal (bind_eq_ok_iff bind_eq_error_iff)

/-! ## Faults of a store -/

namespace Fault

/-- A fault that has its own words, and not those of a disk. -/
def IsKnown : Fault → Prop
  | .other _ => False
  | _ => True

/-- The faults that a store can have are described in one line each. -/
theorem IsKnown.oneLine_message
    {fault : Fault}
    (known : fault.IsKnown) :
    OneLine fault.message := by
  cases fault with
  | other reason =>
      exact known.elim
  | notFound | alreadyExists | notDirectory | isDirectory | nameTooLong | nullInPath | notText =>
      decide

end Fault

namespace FileStore

variable {store : FileStore} {path : String} {fault : Fault}

theorem isKnown_of_checkPath
    (failure : checkPath path = .error fault) :
    fault.IsKnown := by
  unfold checkPath at failure
  split_ifs at failure <;> cases failure <;> trivial

theorem isKnown_of_requireDirectory
    {location : List String}
    (failure : store.requireDirectory location = .error fault) :
    fault.IsKnown := by
  unfold requireDirectory at failure
  split at failure <;> cases failure <;> trivial

theorem isKnown_of_walk
    {location segments : List String}
    (failure : store.walk location segments = .error fault) :
    fault.IsKnown := by
  induction segments generalizing location with
  | nil =>
      cases failure
  | cons segment rest ih =>
      rw [walk] at failure
      split at failure
      · rename_i refused
        cases failure
        exact isKnown_of_requireDirectory refused
      · split at failure
        · cases failure
          trivial
        · exact ih failure

theorem isKnown_of_locate
    (failure : store.locate path = .error fault) :
    fault.IsKnown := by
  unfold locate at failure
  split at failure
  · rename_i refused
    cases failure
    exact isKnown_of_checkPath refused
  · exact isKnown_of_walk failure

theorem isKnown_of_readText
    (failure : store.readText path = .error fault) :
    fault.IsKnown := by
  unfold readText find at failure
  split at failure
  · rename_i unfound
    cases failure
    split at unfound
    · rename_i lost
      cases unfound
      exact isKnown_of_locate lost
    · split at unfound <;> cases unfound
      trivial
  · cases failure
    trivial
  · split at failure <;> cases failure
    trivial

theorem isKnown_of_locateNew
    (failure : store.locateNew path = .error fault) :
    fault.IsKnown := by
  unfold locateNew at failure
  split at failure
  · rename_i refused
    cases failure
    exact isKnown_of_checkPath refused
  · simp only at failure
    split at failure
    · rename_i lost
      cases failure
      exact isKnown_of_walk lost
    · split at failure
      · rename_i refused
        cases failure
        exact isKnown_of_requireDirectory refused
      · cases failure

theorem isKnown_of_writeText
    {text : String}
    (failure : store.writeText path text = .error fault) :
    fault.IsKnown := by
  unfold writeText writeBytes at failure
  split at failure
  · rename_i lost
    cases failure
    exact isKnown_of_locateNew lost
  · cases failure
    trivial
  · split_ifs at failure
    · cases failure
      trivial
    · cases failure
      trivial
    · split at failure <;> cases failure
      trivial

theorem isKnown_of_makeDirectory
    (failure : store.makeDirectory path = .error fault) :
    fault.IsKnown := by
  unfold makeDirectory at failure
  split at failure
  · rename_i lost
    cases failure
    exact isKnown_of_locateNew lost
  · cases failure
    trivial
  · split_ifs at failure
    · cases failure
      trivial
    · cases failure
      trivial
    · split at failure <;> cases failure
      trivial

theorem isKnown_of_unlessDirectory
    {other : Fault}
    (known : other.IsKnown)
    (failure : (store.unlessDirectory path other).1 = .error fault) :
    fault.IsKnown := by
  unfold unlessDirectory at failure
  split at failure
  · cases failure
  · cases failure
    exact known

/-- Making directories has only the faults of a store, whichever step fails. -/
theorem isKnown_of_makeDirectories
    {components : List String}
    (failure : (store.makeDirectories components).1 = .error fault) :
    fault.IsKnown := by
  induction components generalizing fault with
  | nil =>
      cases failure
  | cons last before ih =>
      rw [makeDirectories] at failure
      split at failure
      · cases failure
      · split at failure
        · rename_i inside
          cases failure
          exact ih (congrArg Prod.fst inside)
        · split at failure
          · cases failure
          · rename_i tried
            exact isKnown_of_unlessDirectory (isKnown_of_makeDirectory tried) failure
      · rename_i tried
        exact isKnown_of_unlessDirectory (isKnown_of_makeDirectory tried) failure

end FileStore

/-! ## Paths of one line -/

namespace Path

theorem subset_of_mem_splitOn
    {characters part : List Char}
    (member : part ∈ characters.splitOn '/') :
    part ⊆ characters := by
  induction characters generalizing part with
  | nil =>
      simp_all
  | cons character rest ih =>
      rcases List.exists_cons_of_ne_nil (List.splitOn_ne_nil '/' rest) with
        ⟨first, others, split⟩
      rw [List.splitOn_cons_eq_if_modifyHead, split] at member
      rw [split] at ih
      split_ifs at member
      · rcases List.mem_cons.mp member with rfl | later
        · exact List.nil_subset _
        · exact List.subset_cons_of_subset _ (ih later)
      · rcases List.mem_cons.mp member with rfl | later
        · exact List.cons_subset_cons _ (ih List.mem_cons_self)
        · exact List.subset_cons_of_subset _ (ih (List.mem_cons_of_mem _ later))

theorem trimSilent_subset (segments : List String) :
    trimSilent segments ⊆ segments := by
  cases segments with
  | nil =>
      exact List.nil_subset _
  | cons first rest =>
      refine List.cons_subset_cons _ fun segment member => ?_
      have kept := (List.dropWhile_suffix _).subset (List.mem_reverse.mp member)
      exact List.mem_reverse.mp kept

/-- A path of one line is held by a directory whose path is one line. -/
theorem oneLine_parent
    {path parent : String}
    (oneLine : OneLine path)
    (held : parent? path = some parent) :
    OneLine parent := by
  have each : ∀ segment ∈ segments path, OneLine segment := by
    intro segment member
    rcases List.mem_map.mp member with ⟨characters, part, rfl⟩
    unfold OneLine
    rw [String.toList_ofList]
    exact fun found => oneLine (subset_of_mem_splitOn part found)
  have before : trimSilent (trimSilent (segments path)).dropLast ⊆ segments path := by
    intro segment member
    exact trimSilent_subset _ (List.dropLast_subset _ (trimSilent_subset _ member))
  unfold parent? at held
  simp only at held
  split_ifs at held
  · cases held
    decide
  · cases held
    exact oneLine_intercalate (by decide) fun segment member => each segment (before member)

end Path

/-! ## Errors of the library -/

namespace Compiler

open FileStore

variable {quoted : String → Prop} {error : Error}

/-- An error about a file shows its path, and quotes nothing when the path is one line. -/
theorem quotes_of_accessing
    {Result : Type} {path : String} {outcome : Except Fault Result}
    (oneLine : OneLine path)
    (known : ∀ fault, outcome = .error fault → fault.IsKnown)
    (failure : accessing path outcome = .error error) :
    error.Quotes quoted := by
  rcases accessing_eq_error_iff.mp failure with ⟨fault, refused, rfl⟩
  exact List.forall_mem_cons.mpr
    ⟨.line oneLine, List.forall_mem_singleton.mpr (.line (known fault refused).oneLine_message)⟩

/-- A module that cannot be written to a path of one line is reported on one line. -/
theorem quotes_of_writeOutput
    {path text : String} {store after : FileStore}
    (oneLine : OneLine path)
    (failure : writeOutput path text store = (.error error, after)) :
    error.Quotes quoted := by
  have outcome := writing_writeOutput path text store
  rw [failure] at outcome
  cases outcome with
  | noDirectory failure =>
      rcases prepareDirectory_cases path store with none | ⟨parent, held, output⟩
      · rw [none] at failure
        cases failure
      · rw [prepareDirectory_eq, output] at failure
        apply quotes_of_accessing (Path.oneLine_parent oneLine held) _
          (congrArg Prod.fst failure)
        exact fun fault refused => isKnown_of_makeDirectories refused
  | @noFile _ fault _ failure =>
      apply quotes_of_accessing oneLine (fun fault refused => isKnown_of_writeText refused)
      exact accessing_eq_error_iff.mpr ⟨fault, failure, rfl⟩

/-- What errors about a configuration text quote: its format, and texts of its document. -/
inductive SourceText (name source : String) : String → Prop
  | format :
      SourceText name source name
  | document {format document text}
      (chosen : Format.ofName name = .ok format)
      (reads : format.read? source = some document)
      (inside : DocumentText document text) :
      SourceText name source text

/-- What errors about a configuration file quote, if it reads as a text at all. -/
def FileText (options : Options) (store : FileStore) (text : String) : Prop :=
  ∃ source, store.readText options.configPath = .ok source ∧
    SourceText (formatName options) source text

variable {name source path : String} {format : Format} {lead : Option String} {config : Config}

theorem quotes_of_ofName
    (failure : Format.ofName name = .error error) :
    error.Quotes (SourceText name source) := by
  rw [Format.error_of_ofName failure]
  exact List.forall_mem_singleton.mpr (.quotation .format)

/-- The faults of a text that can be read are those of its document. -/
theorem quotes_of_configOfText
    (chosen : Format.ofName name = .ok format)
    (failure : configOfText format path lead source = .error error)
    (wellFormed : ¬ error.IsMalformed) :
    error.Quotes (SourceText name source) := by
  rcases bind_eq_error_iff.mp failure with unread | ⟨document, read, refused⟩
  · unfold Format.read at unread
    split at unread
    · cases unread
    · cases unread
      exact absurd ⟨_, _, rfl⟩ wellFormed
  · have reads := Format.read_eq_ok_iff.mp read
    exact (Descriptor.config_eq_error_iff.mp refused).quotes.mono (.document chosen reads)

/-- What the checks complain about is put together from texts of the document. -/
theorem quotes_of_configOfText_check
    (chosen : Format.ofName name = .ok format)
    (made : configOfText format path lead source = .ok config)
    (failure : Validity.check config = .error error) :
    error.Quotes (SourceText name source) := by
  rcases bind_eq_ok_iff.mp made with ⟨document, read, accepted⟩
  have reads := Format.read_eq_ok_iff.mp read
  exact (Validity.quotes_of_check accepted failure).mono (.document chosen reads)

theorem quotes_of_compileText
    (failure : compileText source name lead = .error error)
    (wellFormed : ¬ error.IsMalformed) :
    error.Quotes (SourceText name source) := by
  rcases bind_eq_error_iff.mp failure with unnamed | ⟨format, chosen, failure⟩
  · exact quotes_of_ofName unnamed
  · rcases bind_eq_error_iff.mp failure with refused | ⟨config, made, failure⟩
    · exact quotes_of_configOfText chosen refused wellFormed
    · rcases bind_eq_error_iff.mp failure with invalid | ⟨_, _, impossible⟩
      · exact quotes_of_configOfText_check chosen made invalid
      · cases impossible

variable {options : Options} {store : FileStore}

theorem quotes_of_loadConfig
    (oneLine : OneLine options.configPath)
    (failure : loadConfig options store = .error error)
    (wellFormed : ¬ error.IsMalformed) :
    error.Quotes (FileText options store) := by
  rcases bind_eq_error_iff.mp failure with unread | ⟨source, read, failure⟩
  · exact quotes_of_accessing oneLine (fun fault refused => isKnown_of_readText refused) unread
  · have reads := accessing_eq_ok_iff.mp read
    rw [formatOf_eq] at failure
    have quotes : error.Quotes (SourceText (formatName options) source) := by
      rcases bind_eq_error_iff.mp failure with unnamed | ⟨format, chosen, refused⟩
      · exact quotes_of_ofName unnamed
      · exact quotes_of_configOfText chosen refused wellFormed
    exact quotes.mono fun text => ⟨source, reads, text⟩

theorem quotes_of_generate
    (oneLine : OneLine options.configPath)
    (failure : generate options store = .error error)
    (wellFormed : ¬ error.IsMalformed) :
    error.Quotes (FileText options store) := by
  rcases bind_eq_error_iff.mp (generate_eq_error_iff.mp failure) with
    unloaded | ⟨config, loaded, failure⟩
  · exact quotes_of_loadConfig oneLine unloaded wellFormed
  · rcases bind_eq_error_iff.mp failure with invalid | ⟨_, _, impossible⟩
    · unfold validate at invalid
      split at invalid
      · cases invalid
      · rcases bind_eq_ok_iff.mp loaded with ⟨source, read, loaded⟩
        rw [formatOf_eq] at loaded
        rcases bind_eq_ok_iff.mp loaded with ⟨format, chosen, made⟩
        have reads := accessing_eq_ok_iff.mp read
        exact (quotes_of_configOfText_check chosen made invalid).mono
          fun text => ⟨source, reads, text⟩
    · cases impossible

/-- The errors of a compilation are those of its stages, the writing included. -/
theorem quotes_of_compile
    {after : FileStore}
    (configLine : OneLine options.configPath)
    (outputLine : OneLine options.outputPath)
    (failure : compile options store = (.error error, after))
    (wellFormed : ¬ error.IsMalformed) :
    error.Quotes (FileText options store) := by
  have outcome := compiling_compile options store
  rw [failure] at outcome
  cases outcome with
  | rejected refused =>
      exact quotes_of_generate configLine refused wellFormed
  | unwritten _ _ unwritten =>
      exact quotes_of_writeOutput outputLine unwritten

end Compiler

/-! ## Runs that fail -/

namespace CommandLine

open Arguments (libraryOptions libraryCall)
open Compiler

/-- A text of exactly one line: its last character is its one line feed. -/
structure IsSingleLine (text : String) : Prop where
  once : text.toList.count '\n' = 1
  last : text.toList.getLast? = some '\n'

theorem isSingleLine_append_newline {text : String} :
    IsSingleLine (text ++ "\n") ↔ OneLine text := by
  have characters : (text ++ "\n").toList = text.toList ++ ['\n'] :=
    String.toList_append
  constructor
  · rintro ⟨once, _⟩
    rw [characters, List.count_append] at once
    exact List.count_eq_zero.mp (Nat.add_right_cancel once)
  · intro oneLine
    refine ⟨?_, ?_⟩
    · rw [characters, List.count_append, List.count_eq_zero.mpr oneLine]
      rfl
    · rw [characters, List.getLast?_append_cons]
      rfl

/-- An error with which a call of the library or a run fails, and what it may quote. -/
inductive Arises : Error → (String → Prop) → Prop
  | text {source name lead error}
      (failure : compileText source name lead = .error error) :
      Arises error (SourceText name source)
  | loading {options store error}
      (configLine : OneLine options.configPath)
      (failure : loadConfig options store = .error error) :
      Arises error (FileText options store)
  | generation {options store error}
      (configLine : OneLine options.configPath)
      (failure : generate options store = .error error) :
      Arises error (FileText options store)
  | checking {options store error}
      (configLine : OneLine options.configPath)
      (failure : check options store = .error error) :
      Arises error (FileText options store)
  | compilation {options store error after}
      (configLine : OneLine options.configPath)
      (outputLine : OneLine options.outputPath)
      (failure : compile options store = (.error error, after)) :
      Arises error (FileText options store)
  | run {arguments elapsed store config error}
      (given : arguments.config = some config)
      (configLine : OneLine config)
      (outputLine : ∀ output, arguments.output = some output → OneLine output)
      (failure : (run arguments elapsed store).1.failure = some (.compilation error)) :
      Arises error (FileText (arguments.libraryOptions config) store)

/-- How far an error that may quote such texts keeps to one line. -/
structure ErrorLines (quoted : String → Prop) (error : Error) : Prop where
  /-- Every line feed of the message stands in a text that is quoted. -/
  message : OneLine error.message ↔
    ∀ text, quoted text → Within text error.message → OneLine text
  /-- A run that fails with the error puts one line on the error channel just as well. -/
  complaint : ∀ outcome : Outcome, outcome.failure = some (.compilation error) →
    outcome.exitCode = 1 ∧
      (IsSingleLine outcome.complaint ↔
        ∀ text, quoted text → Within text error.message → OneLine text)

/-- A run that fails in the library has called it. -/
theorem called_of_failure
    {arguments : Arguments} {elapsed config : String} {store : FileStore} {error : Error}
    (given : arguments.config = some config)
    (failure : (run arguments elapsed store).1.failure = some (.compilation error)) :
    ∃ after, arguments.libraryCall config store = (.error error, after) := by
  have running := running_run arguments elapsed store
  generalize run arguments elapsed store = result at running failure
  cases running with
  | noConfig absent =>
      rw [absent] at given
      cases given
  | noOutput | noInput | done =>
      cases failure
  | @refused _ _ after reached called =>
      cases reached.given.symm.trans given
      cases failure
      exact ⟨after, called⟩

/-- Wherever an error arises, its line feeds are those of the texts that it quotes. -/
theorem quotes_of_arises
    {quoted : String → Prop} {error : Error}
    (arises : Arises error quoted)
    (wellFormed : ¬ error.IsMalformed) :
    error.Quotes quoted := by
  cases arises with
  | text failure =>
      exact quotes_of_compileText failure wellFormed
  | loading configLine failure =>
      exact quotes_of_loadConfig configLine failure wellFormed
  | generation configLine failure =>
      exact quotes_of_generate configLine failure wellFormed
  | checking configLine failure =>
      exact quotes_of_generate configLine (check_eq_error_iff.mp failure) wellFormed
  | compilation configLine outputLine failure =>
      exact quotes_of_compile configLine outputLine failure wellFormed
  | @run arguments elapsed store config _ given configLine outputLine failure =>
      rcases called_of_failure given failure with ⟨after, called⟩
      have outputLine : OneLine (arguments.libraryOptions config).outputPath := by
        change OneLine (arguments.output.getD Options.default.outputPath)
        cases written : arguments.output with
        | none =>
            decide
        | some output =>
            exact outputLine output written
      unfold libraryCall at called
      split at called
      · have refused := check_eq_error_iff.mp (congrArg Prod.fst called)
        exact quotes_of_generate configLine refused wellFormed
      · exact quotes_of_compile configLine outputLine called wellFormed

/--
An error about anything but the form of its text is one line, and so is the complaint of a
run that fails with it, exactly when the texts that it quotes are one line each.
-/
theorem errorLines_of_arises
    {quoted : String → Prop} {error : Error}
    (arises : Arises error quoted)
    (wellFormed : ¬ error.IsMalformed) :
    ErrorLines quoted error where
  message := (quotes_of_arises arises wellFormed).message.oneLine_iff
  complaint := by
    intro outcome failed
    have lines := (quotes_of_arises arises wellFormed).message.oneLine_iff
    rw [Outcome.exitCode, Outcome.complaint, failed]
    refine ⟨rfl, isSingleLine_append_newline.trans ?_⟩
    rw [← lines, Text.oneLine_append]
    exact and_iff_right (by decide)

/-! ## Two runs on collections with line feeds -/

/-- A document with one collection, in a folder that has a line feed in its name. -/
def folderDocument (name : String) : Document :=
  Descriptor.documentOf name "bl\nog" []

/-- A store with nothing but the text of that document. -/
def folderStore (name : String) : FileStore :=
  FileStore.empty.put ["posts.json"] (.file (folderDocument name).pretty.toUTF8)

/-- What is typed to compile with a prefix that ends in a line feed. -/
def folderArguments : Arguments :=
  ⟨some "posts.json", some "out.ts", some "lead\n", none, false, false⟩

/-- The run has the error of its constant. -/
theorem failure_folder
    {name elapsed : String} {error : Error}
    (filled : Text.isBlank name = false)
    (invalid : Validity.check ⟨[⟨name, "bl\nog", [], some "lead\n"⟩], []⟩ = .error error) :
    (run folderArguments elapsed (folderStore name)).1.failure =
      some (.compilation error) := by
  have found : (folderStore name).find "posts.json" =
      .ok (.file (folderDocument name).pretty.toUTF8) :=
    FileStore.find_eq_ok_iff.mpr ⟨rfl, FileStore.lookup_put_self _ _ _⟩
  have reached : folderArguments.Reaches "posts.json" (folderStore name) := by
    refine ⟨⟨rfl, .inl rfl⟩, ?_⟩
    rw [FileStore.contains, found]
    rfl
  have reads : (folderStore name).readText "posts.json" = .ok (folderDocument name).pretty :=
    FileStore.readText_eq_ok_iff.mpr found
  have read : Json.read (folderDocument name).pretty = some (folderDocument name) :=
    read_documentOf (List.forall_mem_nil _) (List.forall_mem_nil _)
      (by decide : 0 + 4 ≤ Json.depthLimit)
  have chosen : formatOf (folderArguments.libraryOptions "posts.json") = .ok .json := by
    decide +kernel
  have loaded : configOfFile (folderArguments.libraryOptions "posts.json")
      ((folderStore name).readText "posts.json") =
        .ok ⟨[⟨name, "bl\nog", [], some "lead\n"⟩], []⟩ := by
    rw [reads, configOfFile_of_read chosen read]
    exact Descriptor.config_documentOf filled rfl rfl
  have refused : generate (folderArguments.libraryOptions "posts.json") (folderStore name) =
      .error error :=
    generate_eq_error_iff.mpr
      ((validConfigOfFile_eq_error_iff rfl).mpr (.inr ⟨_, loaded, invalid⟩))
  have called : folderArguments.libraryCall "posts.json" (folderStore name) =
      (.error error, folderStore name) := by
    have compiling : folderArguments.check ≠ true := Bool.false_ne_true
    rw [libraryCall, if_neg compiling]
    exact compile_of_generate_error refused
  rw [run_of_reaches reached, called]
  rfl

/-- Neither the folder nor the lead in front of it breaks the error. -/
theorem errorLines_folder :
    (run folderArguments "0" (folderStore "z")).1.failure =
        some (.compilation (.duplicateConstant "z")) ∧
      ErrorLines (FileText (folderArguments.libraryOptions "posts.json") (folderStore "z"))
        (.duplicateConstant "z") ∧
      OneLine (Error.duplicateConstant "z").message := by
  have failure : (run folderArguments "0" (folderStore "z")).1.failure =
      some (.compilation (.duplicateConstant "z")) :=
    failure_folder rfl (by decide +kernel)
  have outputLine : ∀ output, folderArguments.output = some output → OneLine output := by
    rintro output ⟨⟩
    decide
  refine ⟨failure, ?_, by decide⟩
  exact errorLines_of_arises (.run rfl (by decide) outputLine failure) (by rintro ⟨_, _, ⟨⟩⟩)

/-- A line feed in the name of a collection makes two lines of the error that quotes it. -/
theorem brokenLine_folder :
    (run folderArguments "0" (folderStore "po\nsts")).1.failure =
        some (.compilation (.invalidIdentifier "po\nsts")) ∧
      (run folderArguments "0" (folderStore "po\nsts")).1.exitCode = 1 ∧
      OneLine "posts.json" ∧ OneLine "out.ts" ∧
      ¬ OneLine (Error.invalidIdentifier "po\nsts").message ∧
      (run folderArguments "0" (folderStore "po\nsts")).1.complaint.toList.count '\n' = 2 := by
  have failure : (run folderArguments "0" (folderStore "po\nsts")).1.failure =
      some (.compilation (.invalidIdentifier "po\nsts")) :=
    failure_folder rfl (by decide +kernel)
  refine ⟨failure, ?_, by decide, by decide, by decide, ?_⟩
  · rw [Outcome.exitCode, failure]
    rfl
  · rw [Outcome.complaint, failure]
    decide

end CommandLine

end ContentSchema

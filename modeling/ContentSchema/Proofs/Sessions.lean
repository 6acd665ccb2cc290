import Mathlib
import ContentSchema.Proofs.EntryPoints

/-!
# What a session does to files

A session is a sequence of calls, each with options of its own.  A call that only
loads, generates or checks leaves the store alone.  A compilation that fails before
writing does so too; one that fails in writing leaves at most new directories on the
way to its output; one that succeeds writes the generated module to its output and
changes nothing else but for such directories.

By induction along a session, a file at its end is one from its start or the output of
one of its compilations, and nothing that was there at its start is missing at its end.
-/

namespace ContentSchema

namespace Compiler

open FileStore
open Traversal (bind_eq_ok_iff)

/-! ## Calls -/

/-- What a caller can ask for. -/
inductive Call where
  | load (options : Options)
  | generate (options : Options)
  | check (options : Options)
  | compile (options : Options)

/-- What a caller gets. -/
inductive Answer where
  | config (config : Config)
  | module (module : Module)
  | summary (summary : Summary)

/-- Do what a call asks for. -/
def Call.perform (store : FileStore) : Call → Except Error Answer × FileStore
  | .load options => ((loadConfig options store).map .config, store)
  | .generate options => ((Compiler.generate options store).map .module, store)
  | .check options => ((Compiler.check options store).map .summary, store)
  | .compile options =>
    ((Compiler.compile options store).1.map .summary, (Compiler.compile options store).2)

/-- One call of a session, with what it answered and the stores around it. -/
structure Step where
  call : Call
  before : FileStore
  answer : Except Error Answer
  after : FileStore

/-- A call that is done in a store. -/
def Call.step (call : Call) (store : FileStore) : Step :=
  ⟨call, store, (call.perform store).1, (call.perform store).2⟩

/-- The steps of a session. -/
def session (store : FileStore) : List Call → List Step
  | [] => []
  | call :: rest => call.step store :: session (call.step store).after rest

/-- The store after a session. -/
def storeAfter (store : FileStore) (calls : List Call) : FileStore :=
  calls.foldl (fun reached call => (call.step reached).after) store

theorem mem_session
    {store : FileStore} {calls : List Call} {step : Step}
    (member : step ∈ session store calls) :
    step = step.call.step step.before := by
  induction calls generalizing store with
  | nil =>
      cases member
  | cons call rest ih =>
      rcases List.mem_cons.mp member with rfl | later
      · rfl
      · exact ih later

/-! ## One step -/

/-- What a call does to the store, by what comes of it. -/
inductive Effect : Step → Prop
  /-- A call that is no compilation leaves the store alone. -/
  | reading
      {call : Call} {store : FileStore} {answer : Except Error Answer}
      (noCompilation : ∀ options, call ≠ .compile options) :
      Effect ⟨call, store, answer, store⟩
  /-- A compilation without a module to write fails like the generation. -/
  | rejected
      {options : Options} {store : FileStore} {error : Error}
      (failure : generate options store = .error error) :
      Effect ⟨.compile options, store, .error error, store⟩
  /-- A compilation that cannot write leaves new directories on the way at most. -/
  | unwritten
      {options : Options} {store after : FileStore} {module : Module} {error : Error}
      (generated : generate options store = .ok module)
      (failure : AccessFailure options.outputPath error)
      (grows : GrowsAt (IsAncestor options.outputPath) store after) :
      Effect ⟨.compile options, store, .error error, after⟩
  /-- A compilation that succeeds writes the module of the store before it. -/
  | written
      {options : Options} {store after : FileStore} {module : Module} {summary : Summary}
      (generated : generate options store = .ok module)
      (written : Written options.outputPath module.content store after) :
      Effect ⟨.compile options, store, .ok (.summary summary), after⟩

/-- Every call has one of these effects. -/
theorem effect_step
    (call : Call)
    (store : FileStore) :
    Effect (call.step store) := by
  cases call with
  | load options | generate options | check options =>
      apply Effect.reading
      intro other same
      cases same
  | compile options =>
      have outcome := compiling_compile options store
      simp only [Call.step, Call.perform]
      generalize (compile options store).1 = result at outcome ⊢
      generalize (compile options store).2 = after at outcome ⊢
      cases outcome with
      | rejected failure =>
          exact .rejected failure
      | unwritten generated _ failure =>
          rcases writeOutput_failed failure with ⟨refused, grows⟩
          exact .unwritten generated refused grows
      | written generated _ success =>
          exact .written generated (written_of_writeOutput success)

/-- What can differ at a location after steps. -/
inductive Change (steps : List Step) (store after : FileStore) (location : List String) : Prop
  /-- Nothing differs. -/
  | same
      (equal : after.lookup location = store.lookup location)
  /-- A directory is new that lies on the way to the output of a compilation. -/
  | directory
      {step : Step} {options : Options}
      (missing : store.lookup location = none)
      (present : after.lookup location = some .directory)
      (member : step ∈ steps)
      (called : step.call = .compile options)
      (ancestor : IsAncestor options.outputPath location)
  /-- A file is the output of a compilation that succeeded. -/
  | file
      {step : Step} {options : Options} {answer : Answer} {module : Module}
      (free : store.lookup location ≠ some .directory)
      (present : after.lookup location = some (.file module.content.toUTF8))
      (member : step ∈ steps)
      (called : step.call = .compile options)
      (answered : step.answer = .ok answer)
      (generated : generate options step.before = .ok module)
      (output : location = locationOf options.outputPath)

namespace Change

variable {steps further : List Step} {store middle after : FileStore}
variable {location : List String}

theorem mono
    (change : Change steps store after location)
    (included : steps ⊆ further) :
    Change further store after location := by
  cases change with
  | same equal =>
      exact .same equal
  | directory missing present member called ancestor =>
      exact .directory missing present (included member) called ancestor
  | file free present member called answered generated output =>
      exact .file free present (included member) called answered generated output

/-- What differs after two parts of a session was changed in one of them, or in both. -/
theorem trans
    (first : Change steps store middle location)
    (second : Change steps middle after location) :
    Change steps store after location := by
  cases second with
  | same equal =>
      cases first with
      | same before =>
          exact .same (equal.trans before)
      | directory missing present member called ancestor =>
          exact .directory missing (equal.trans present) member called ancestor
      | file free present member called answered generated output =>
          exact .file free (equal.trans present) member called answered generated output
  | directory missing present member called ancestor =>
      cases first with
      | same before =>
          exact .directory (before.symm.trans missing) present member called ancestor
      | directory _ there | file _ there =>
          rw [there] at missing
          cases missing
  | file free present member called answered generated output =>
      refine .file ?_ present member called answered generated output
      cases first with
      | same before =>
          rw [← before]
          exact free
      | directory missing =>
          rw [missing]
          exact nofun
      | file absent =>
          exact absent

end Change

/-- Each step explains its own changes. -/
theorem Effect.change
    {step : Step}
    (effect : Effect step)
    (location : List String) :
    Change [step] step.before step.after location := by
  cases effect with
  | reading | rejected =>
      exact .same rfl
  | unwritten _ _ grows =>
      rcases grows location with equal | ⟨missing, present, ancestor⟩
      · exact .same equal
      · exact .directory missing present (List.mem_singleton_self _) rfl ancestor
  | @written options _ _ _ _ generated written =>
      by_cases output : location = locationOf options.outputPath
      · subst output
        exact .file written.free written.present (List.mem_singleton_self _) rfl rfl
          generated rfl
      · rcases written.elsewhere location output with equal | ⟨missing, present, ancestor⟩
        · exact .same equal
        · exact .directory missing present (List.mem_singleton_self _) rfl ancestor

/-! ## Sessions -/

/-- What a whole session changes is what its steps change. -/
theorem change_session
    (store : FileStore)
    (calls : List Call)
    (location : List String) :
    Change (session store calls) store (storeAfter store calls) location := by
  -- One location is followed through all steps: what a step changed there is a file or a
  -- directory, and the later steps leave it or write over it.
  induction calls generalizing store with
  | nil =>
      exact .same rfl
  | cons call rest ih =>
      have first := (effect_step call store).change location
      have second := ih (call.step store).after
      refine (first.mono ?_).trans (second.mono ?_)
      · exact List.cons_subset_cons _ (List.nil_subset _)
      · exact List.subset_cons_self _ _

/-- Only a file that can be read is generated. -/
theorem exists_readText_of_generate
    {options : Options} {store : FileStore} {module : Module}
    (generated : generate options store = .ok module) :
    ∃ text, store.readText options.configPath = .ok text := by
  rcases generate_eq_ok_iff.mp generated with ⟨config, valid, _⟩
  rcases bind_eq_ok_iff.mp (validConfigOfFile_eq_ok_iff.mp valid).1 with ⟨text, reads, _⟩
  exact ⟨text, accessing_eq_ok_iff.mp reads⟩

/-- A compilation that succeeded succeeds again, which changes nothing. -/
theorem compile_again
    {options : Options} {store after : FileStore} {summary : Summary}
    (success : compile options store = (.ok summary, after))
    (apart : locationOf options.outputPath ≠ locationOf options.configPath) :
    compile options after = (.ok summary, after) := by
  rcases compile_eq_ok_iff.mp success with ⟨module, generated, checked, wrote⟩
  rcases exists_readText_of_generate generated with ⟨text, reads⟩
  have same : after.readText options.configPath = store.readText options.configPath := by
    rw [reads]
    exact (written_of_writeOutput wrote).readText apart reads
  refine compile_eq_ok_iff.mpr ⟨module, ?_, ?_, writeOutput_again wrote⟩
  · rw [← generated]
    unfold generate
    rw [same]
  · rw [← checked]
    rw [check_eq, check_eq, same]

/-- Sessions touch files only by compilations that succeed, and only at their outputs. -/
structure TouchesOnlyOutputs (store : FileStore) (calls : List Call) : Prop where
  /-- Every step does what its call may do. -/
  steps : ∀ step ∈ session store calls, Effect step
  /-- What differs at the end was changed by a step. -/
  changes : ∀ location, Change (session store calls) store (storeAfter store calls) location
  /-- A compilation that succeeded can be repeated at once, if its output is not its input. -/
  again : ∀ step ∈ session store calls, ∀ options answer,
    step.call = .compile options → step.answer = .ok answer →
      locationOf options.outputPath ≠ locationOf options.configPath →
        step.call.perform step.after = (.ok answer, step.after)

/-- Every sequence of calls in every store touches nothing but its outputs. -/
theorem touchesOnlyOutputs
    (store : FileStore)
    (calls : List Call) :
    TouchesOnlyOutputs store calls := by
  refine ⟨?_, change_session store calls, ?_⟩
  · intro step member
    rw [mem_session member]
    exact effect_step _ _
  · intro step member options answer called answered apart
    rw [mem_session member, called] at answered ⊢
    simp only [Call.step, Call.perform] at answered ⊢
    rcases compiled : compile options step.before with ⟨outcome, after⟩
    rw [compiled] at answered
    cases outcome with
    | error error =>
        cases answered
    | ok summary =>
        cases answered
        rw [compile_again compiled apart]
        rfl

theorem writeOutput_posts (text : String) :
    ∃ after, writeOutput "out/config.ts" text postsStore = (.ok (), after) :=
  ⟨(postsStore.put ["out"] .directory).put ["out", "config.ts"] (.file text.toUTF8),
    writeOutput_eq_ok_iff.mpr ⟨postsStore.put ["out"] .directory, rfl, rfl⟩⟩

/-- A compilation makes a directory and a file, and its repetition nothing. -/
theorem touchesOnlyOutputs_posts :
    ∃ summary after, compile postsOptions postsStore = (.ok summary, after) ∧
      Change (session postsStore [.compile postsOptions]) postsStore after ["out"] ∧
        (Call.compile postsOptions).perform after = (.ok (.summary summary), after) := by
  have generated := generate_eq_ok_iff.mpr ⟨postsConfig, validConfigOfFile_posts, rfl⟩
  have checked := check_eq_ok_iff.mpr ⟨postsConfig, validConfigOfFile_posts, rfl⟩
  rcases writeOutput_posts (Module.ofConfig postsConfig).content with ⟨after, wrote⟩
  have compiled := compile_eq_ok_iff.mpr ⟨_, generated, checked, wrote⟩
  have step : (Call.compile postsOptions).step postsStore =
      ⟨.compile postsOptions, postsStore, .ok (.summary (summarize postsOptions postsConfig)),
        after⟩ := by
    simp only [Call.step, Call.perform, compiled]
    rfl
  have touches := touchesOnlyOutputs postsStore [.compile postsOptions]
  have change := touches.changes ["out"]
  have again := touches.again ((Call.compile postsOptions).step postsStore)
    (List.mem_singleton_self _) postsOptions (.summary (summarize postsOptions postsConfig)) rfl
  rw [storeAfter, List.foldl_cons, List.foldl_nil, step] at change
  rw [step] at again
  exact ⟨_, after, compiled, change, again rfl (by decide)⟩

end Compiler

end ContentSchema

import Mathlib

/-!
# Traversals that can fail

A traversal of a list stops at its first failing element.  It succeeds exactly
when every element does, and its result then relates to the list element by
element.  Conversions and readings of lists are inverted through these lemmas,
so that no later proof opens a monadic block itself.
-/

namespace ContentSchema.Traversal

variable {Failure Source Target Result : Type}

@[simp]
theorem ok_bind
    (value : Source)
    (next : Source → Except Failure Target) :
    (Except.ok value >>= next) = next value :=
  rfl

/-- A sequence of two steps succeeds through an intermediate result. -/
theorem bind_eq_ok_iff
    {first : Except Failure Source}
    {next : Source → Except Failure Target}
    {result : Target} :
    (first >>= next) = .ok result ↔
      ∃ middle, first = .ok middle ∧ next middle = .ok result := by
  cases first with
  | error failure =>
      simp [bind, Except.bind]
  | ok middle =>
      simp [bind, Except.bind]

/-- A sequence of two steps fails in the first, or in the second after the first succeeded. -/
theorem bind_eq_error_iff
    {first : Except Failure Source}
    {next : Source → Except Failure Target}
    {failure : Failure} :
    (first >>= next) = .error failure ↔
      first = .error failure ∨
        ∃ middle, first = .ok middle ∧ next middle = .error failure := by
  cases first with
  | error other =>
      simp [bind, Except.bind]
  | ok middle =>
      simp [bind, Except.bind]

theorem map_eq_ok_iff
    {outcome : Except Failure Source}
    {change : Source → Target}
    {result : Target} :
    outcome.map change = .ok result ↔
      ∃ source, outcome = .ok source ∧ change source = result := by
  cases outcome <;> simp [Except.map]

theorem map_eq_error_iff
    {outcome : Except Failure Source}
    {change : Source → Target}
    {failure : Failure} :
    outcome.map change = .error failure ↔ outcome = .error failure := by
  cases outcome <;> simp [Except.map]

/-- A successful traversal relates the elements to the results one by one. -/
theorem mapM_eq_ok_iff
    {step : Source → Except Failure Target}
    {sources : List Source}
    {targets : List Target} :
    sources.mapM step = .ok targets ↔
      List.Forall₂ (fun source target => step source = .ok target)
        sources targets := by
  induction sources generalizing targets with
  | nil =>
      simp [pure, Except.pure, eq_comm]
  | cons source sources ih =>
      simp only [List.mapM_cons, bind_eq_ok_iff, ih, List.forall₂_cons_left_iff]
      constructor
      · rintro ⟨target, step, rest, steps, done⟩
        cases done
        exact ⟨target, rest, step, steps, rfl⟩
      · rintro ⟨target, rest, step, steps, rfl⟩
        exact ⟨target, step, rest, steps, rfl⟩

/-- A change of every result is a change of the results of the traversal. -/
theorem map_mapM
    (step : Source → Except Failure Target)
    (change : Target → Result)
    (sources : List Source) :
    (sources.mapM fun source => change <$> step source) =
      List.map change <$> sources.mapM step := by
  induction sources with
  | nil =>
      rfl
  | cons source sources ih =>
      rw [List.mapM_cons, List.mapM_cons, ih]
      simp only [map_bind, map_pure, bind_map_left, List.map_cons]

/-- Every result on the right of a relation has its source on the left. -/
theorem exists_source_of_mem
    {Related : Source → Target → Prop}
    {sources : List Source}
    {targets : List Target}
    (related : List.Forall₂ Related sources targets)
    {target : Target}
    (member : target ∈ targets) :
    ∃ source ∈ sources, Related source target := by
  induction related with
  | nil =>
      cases member
  | @cons source first sources rest step _ ih =>
      rcases List.mem_cons.mp member with rfl | later
      · exact ⟨source, List.mem_cons_self, step⟩
      · rcases ih later with ⟨origin, inside, step⟩
        exact ⟨origin, List.mem_cons_of_mem source inside, step⟩

/-- A relation to a list with an element in it splits at that element. -/
theorem exists_split_of_append_cons
    {Related : Source → Target → Prop}
    {before after : List Source}
    {source : Source}
    {targets : List Target}
    (related : List.Forall₂ Related (before ++ source :: after) targets) :
    ∃ left target right, targets = left ++ target :: right ∧
      List.Forall₂ Related before left ∧ Related source target ∧
        List.Forall₂ Related after right := by
  induction before generalizing targets with
  | nil =>
      rcases related with _ | ⟨here, later⟩
      exact ⟨[], _, _, rfl, .nil, here, later⟩
  | cons first before ih =>
      rcases related with _ | ⟨step, rest⟩
      rcases ih rest with ⟨left, target, right, rfl, front, here, back⟩
      exact ⟨_ :: left, target, right, rfl, .cons step front, here, back⟩

/-- A traversal succeeds exactly when every element does. -/
theorem exists_mapM_eq_ok_iff
    {step : Source → Except Failure Target}
    {sources : List Source} :
    (∃ targets, sources.mapM step = .ok targets) ↔
      ∀ source ∈ sources, ∃ target, step source = .ok target := by
  simp only [mapM_eq_ok_iff]
  induction sources with
  | nil =>
      simp
  | cons source sources ih =>
      rw [List.forall_mem_cons, ← ih]
      constructor
      · rintro ⟨_, _ | ⟨step, steps⟩⟩
        exact ⟨⟨_, step⟩, ⟨_, steps⟩⟩
      · rintro ⟨⟨target, step⟩, ⟨targets, steps⟩⟩
        exact ⟨target :: targets, .cons step steps⟩

/-- What precedes a failing element, if it succeeds, leaves its failure to the whole traversal. -/
theorem mapM_append_cons_eq_error_iff
    {step : Source → Except Failure Target}
    {before after : List Source}
    {source : Source}
    {failure : Failure}
    (succeeded : ∀ earlier ∈ before, ∃ target, step earlier = .ok target)
    (failed : ¬ ∃ target, step source = .ok target) :
    (before ++ source :: after).mapM step = .error failure ↔
      step source = .error failure := by
  induction before with
  | nil =>
      simp only [List.nil_append, List.mapM_cons, bind_eq_error_iff]
      constructor
      · rintro (first | ⟨target, success, _⟩)
        · exact first
        · exact absurd ⟨target, success⟩ failed
      · exact .inl
  | cons earlier before ih =>
      rcases succeeded earlier List.mem_cons_self with ⟨target, success⟩
      have rest := ih fun other member =>
        succeeded other (List.mem_cons_of_mem earlier member)
      rw [List.cons_append, List.mapM_cons, success, ok_bind, ← rest, bind_eq_error_iff]
      constructor
      · rintro (failing | ⟨_, _, impossible⟩)
        · exact failing
        · cases impossible
      · exact .inl

/-- A traversal fails with its first failing element. -/
theorem mapM_eq_error_iff
    {step : Source → Except Failure Target}
    {sources : List Source}
    {failure : Failure} :
    sources.mapM step = .error failure ↔
      ∃ before source after, sources = before ++ source :: after ∧
        (∀ earlier ∈ before, ∃ target, step earlier = .ok target) ∧
        step source = .error failure := by
  constructor
  · intro failing
    induction sources with
    | nil =>
        cases failing
    | cons source sources ih =>
        rw [List.mapM_cons] at failing
        rcases bind_eq_error_iff.mp failing with failed | ⟨target, success, failing⟩
        · exact ⟨[], source, sources, rfl, by simp, failed⟩
        · rcases bind_eq_error_iff.mp failing with failing | ⟨_, _, impossible⟩
          · rcases ih failing with ⟨before, culprit, after, rfl, succeeded, failed⟩
            refine ⟨source :: before, culprit, after, rfl, ?_, failed⟩
            exact List.forall_mem_cons.mpr ⟨⟨target, success⟩, succeeded⟩
          · cases impossible
  · rintro ⟨before, source, after, rfl, succeeded, failed⟩
    refine (mapM_append_cons_eq_error_iff succeeded ?_).mpr failed
    rintro ⟨target, success⟩
    rw [failed] at success
    cases success

/-- A successful traversal in its optional form relates elements to results one by one. -/
theorem mapM_eq_some_iff
    {step : Source → Option Target}
    {sources : List Source}
    {targets : List Target} :
    sources.mapM step = some targets ↔
      List.Forall₂ (fun source target => step source = some target) sources targets := by
  induction sources generalizing targets with
  | nil =>
      simp [eq_comm]
  | cons source sources ih =>
      simp only [List.mapM_cons, Option.bind_eq_bind, Option.bind_eq_some_iff, ih,
        List.forall₂_cons_left_iff]
      constructor
      · rintro ⟨target, step, rest, steps, done⟩
        cases done
        exact ⟨target, rest, step, steps, rfl⟩
      · rintro ⟨target, rest, step, steps, rfl⟩
        exact ⟨target, step, rest, steps, rfl⟩

/-- The optional form of a traversal succeeds exactly when every element does. -/
theorem exists_mapM_eq_some_iff
    {step : Source → Option Target}
    {sources : List Source} :
    (∃ targets, sources.mapM step = some targets) ↔
      ∀ source ∈ sources, ∃ target, step source = some target := by
  induction sources with
  | nil =>
      simp
  | cons source sources ih =>
      rw [List.forall_mem_cons, ← ih]
      simp only [List.mapM_cons, Option.bind_eq_bind, Option.bind_eq_some_iff]
      constructor
      · rintro ⟨_, target, step, targets, steps, _⟩
        exact ⟨⟨target, step⟩, ⟨targets, steps⟩⟩
      · rintro ⟨⟨target, step⟩, ⟨targets, steps⟩⟩
        exact ⟨target :: targets, target, step, targets, steps, rfl⟩

end ContentSchema.Traversal

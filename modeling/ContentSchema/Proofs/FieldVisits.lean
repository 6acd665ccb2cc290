import Mathlib
import ContentSchema.Proofs.SchemaTree
import ContentSchema.Validity

/-!
# The order in which fields are looked at

A configuration has many records: the fields of each collection, and the items of
every list that stands in a record.  The check of fields visits all of them in one
walk.  Within a record it goes from left to right, and it walks through the items of
a list right behind the list, before the next field.  A visit remembers how errors
speak of the record and which fields of the same record came before.

The walk is a list here, so "first" is a matter of that list alone: the check fails
with the first visit that repeats a name of its own record, and the visits are
exactly the fields of the records.
-/

namespace ContentSchema

open Traversal (ok_bind)

/-! ## Records and visits -/

/-- A record of a configuration, at any depth, with the words by which errors speak of it. -/
inductive Config.HasRecord (config : Config) : String → List Widget → Prop
  | collection {collection}
      (member : collection ∈ config.collections) :
      HasRecord config ("collection " ++ collection.name) collection.widgets
  | list {context record name required items}
      (outer : HasRecord config context record)
      (member : Widget.list name required items ∈ record) :
      HasRecord config ("list " ++ name) items

/-- A field on the walk, with the fields before it in its own record. -/
structure Visit where
  context : String
  before : List Widget
  widget : Widget

namespace Visit

/-- An earlier field of the same record has the same name. -/
def Repeats (visit : Visit) : Prop :=
  ∃ earlier ∈ visit.before, earlier.name = visit.widget.name

/-- Whether a visit repeats a name is decided over the fields in front of it. -/
instance : DecidablePred Repeats := fun visit =>
  inferInstanceAs (Decidable (∃ earlier ∈ visit.before, earlier.name = visit.widget.name))

theorem repeats_iff_mem_map (visit : Visit) :
    visit.Repeats ↔ visit.widget.name ∈ visit.before.map Widget.name :=
  List.mem_map.symm

/-- The error of the first repetition on a walk, if there is one. -/
def firstRepetition (visits : List Visit) : Except Error Unit :=
  match visits.find? fun visit => visit.Repeats with
  | none => .ok ()
  | some visit => .error (.duplicateField visit.widget.name visit.context)

theorem firstRepetition_cons (visit : Visit) (rest : List Visit) :
    firstRepetition (visit :: rest) =
      if visit.Repeats then .error (.duplicateField visit.widget.name visit.context)
      else firstRepetition rest := by
  by_cases repeats : visit.Repeats <;> simp [firstRepetition, repeats]

/-- Two walks one after the other: the second counts when the first has no repetition. -/
theorem firstRepetition_append (left right : List Visit) :
    firstRepetition (left ++ right) =
      (firstRepetition left >>= fun _ => firstRepetition right) := by
  unfold firstRepetition
  rw [List.find?_append]
  cases left.find? fun visit => visit.Repeats <;> rfl

/-- A walk passes when no visit repeats a name. -/
theorem firstRepetition_eq_ok_iff {visits : List Visit} :
    firstRepetition visits = .ok () ↔ ∀ visit ∈ visits, ¬ visit.Repeats := by
  unfold firstRepetition
  split
  · rename_i none
    simpa using List.find?_eq_none.mp none
  · rename_i visit found
    have repeats : visit.Repeats := by simpa using List.find?_some found
    simp only [reduceCtorEq, false_iff, not_forall, not_not]
    exact ⟨visit, List.mem_of_find?_eq_some found, repeats⟩

/-- The first repetition is reported, whatever follows it. -/
theorem firstRepetition_of_first
    {before after : List Visit} {visit : Visit}
    (earlier : ∀ other ∈ before, ¬ other.Repeats)
    (repeats : visit.Repeats) :
    firstRepetition (before ++ visit :: after) =
      .error (.duplicateField visit.widget.name visit.context) := by
  rw [firstRepetition_append, firstRepetition_eq_ok_iff.mpr earlier, ok_bind,
    firstRepetition_cons, if_pos repeats]

theorem exists_of_firstRepetition_error
    {visits : List Visit} {error : Error}
    (failure : firstRepetition visits = .error error) :
    ∃ visit ∈ visits, visit.Repeats ∧
      error = .duplicateField visit.widget.name visit.context := by
  unfold firstRepetition at failure
  split at failure
  · cases failure
  · rename_i visit found
    cases failure
    exact ⟨visit, List.mem_of_find?_eq_some found, by simpa using List.find?_some found, rfl⟩

end Visit

namespace Widget

mutual

/-- The walk through the rest of a record. -/
def recordVisits (context : String) (before : List Widget) : List Widget → List Visit
  | [] => []
  | widget :: rest =>
    ⟨context, before, widget⟩ ::
      (itemVisits widget ++ recordVisits context (before ++ [widget]) rest)

/-- The walk through what is inside a field. -/
def itemVisits : Widget → List Visit
  | .leaf _ _ _ => []
  | .list name _ items => recordVisits ("list " ++ name) [] items

end

end Widget

/-- The walk through a whole configuration. -/
def Config.visits (config : Config) : List Visit :=
  config.collections.flatMap fun collection =>
    Widget.recordVisits ("collection " ++ collection.name) [] collection.widgets

/-! ## The visits are the fields of the records -/

namespace Widget

/-- A visit belongs to the record itself or to what is inside one of its fields. -/
theorem mem_recordVisits_iff
    {context : String} {before widgets : List Widget} {visit : Visit} :
    visit ∈ recordVisits context before widgets ↔
      (∃ between after, widgets = between ++ visit.widget :: after ∧
          visit.context = context ∧ visit.before = before ++ between) ∨
        ∃ widget ∈ widgets, visit ∈ itemVisits widget := by
  induction widgets generalizing before with
  | nil =>
      simp [recordVisits]
  | cons widget rest ih =>
      rw [recordVisits, List.mem_cons, List.mem_append, ih]
      constructor
      · rintro (rfl | inside | ⟨between, after, rfl, named, passed⟩ | ⟨other, member, inside⟩)
        · exact .inl ⟨[], rest, rfl, rfl, by simp⟩
        · exact .inr ⟨widget, List.mem_cons_self, inside⟩
        · exact .inl ⟨widget :: between, after, rfl, named, by simp [passed]⟩
        · exact .inr ⟨other, List.mem_cons_of_mem _ member, inside⟩
      · rintro (⟨between, after, split, named, passed⟩ | ⟨other, member, inside⟩)
        · cases between with
          | nil =>
              cases split
              left
              cases visit
              simp_all
          | cons first between =>
              cases split
              exact .inr (.inr (.inl ⟨between, after, rfl, named, by simp [passed]⟩))
        · rcases List.mem_cons.mp member with rfl | later
          · exact .inr (.inl inside)
          · exact .inr (.inr (.inr ⟨other, later, inside⟩))

end Widget

namespace Config

/-- What is visited inside a field of a record is a field of a record. -/
theorem HasRecord.of_mem_itemVisits
    {config : Config} {widget : Widget}
    {context : String} {record : List Widget}
    (outer : config.HasRecord context record)
    (member : widget ∈ record)
    {visit : Visit}
    (visited : visit ∈ widget.itemVisits) :
    ∃ after, config.HasRecord visit.context (visit.before ++ visit.widget :: after) := by
  induction widget using Widget.induction generalizing context record with
  | leaf name required content =>
      cases visited
  | list name required items ih =>
      have inner : config.HasRecord ("list " ++ name) items := .list outer member
      rw [Widget.itemVisits, Widget.mem_recordVisits_iff] at visited
      rcases visited with ⟨between, after, rfl, named, passed⟩ | ⟨item, inside, visited⟩
      · rw [named, passed]
        exact ⟨after, inner⟩
      · exact ih item inside inner inside visited

/-- The whole walk through a record is part of the walk through the configuration. -/
theorem HasRecord.recordVisits_subset
    {config : Config} {context : String} {record : List Widget}
    (present : config.HasRecord context record) :
    Widget.recordVisits context [] record ⊆ config.visits := by
  induction present with
  | collection member =>
      exact fun visit visited => List.mem_flatMap.mpr ⟨_, member, visited⟩
  | list outer member ih =>
      intro visit visited
      exact ih (Widget.mem_recordVisits_iff.mpr (.inr ⟨_, member, visited⟩))

/-- Every field of every record is visited, and nothing else. -/
theorem mem_visits_iff {config : Config} {visit : Visit} :
    visit ∈ config.visits ↔
      ∃ after, config.HasRecord visit.context (visit.before ++ visit.widget :: after) := by
  constructor
  · intro visited
    rcases List.mem_flatMap.mp visited with ⟨collection, member, visited⟩
    have outer : config.HasRecord _ collection.widgets := .collection member
    rcases Widget.mem_recordVisits_iff.mp visited with
      ⟨between, after, split, named, passed⟩ | ⟨widget, inside, visited⟩
    · rw [split] at outer
      rw [named, passed]
      exact ⟨after, outer⟩
    · exact outer.of_mem_itemVisits inside visited
  · rintro ⟨after, present⟩
    apply present.recordVisits_subset
    exact Widget.mem_recordVisits_iff.mpr (.inl ⟨_, after, rfl, rfl, rfl⟩)

end Config

/-! ## The check follows the walk -/

namespace Validity

mutual

/-- The names seen so far are those of the fields before, in whatever order. -/
theorem checkRecord_eq
    {context : String} {seen : List String}
    (before : List Widget)
    (known : ∀ name, name ∈ seen ↔ name ∈ before.map Widget.name) :
    ∀ widgets : List Widget,
      checkRecord context seen widgets =
        Visit.firstRepetition (Widget.recordVisits context before widgets)
  | [] => rfl
  | widget :: rest => by
      have here : seen.contains widget.name = true ↔ Visit.Repeats ⟨context, before, widget⟩ := by
        rw [List.contains_iff_mem, known, Visit.repeats_iff_mem_map]
      have further : ∀ name, name ∈ widget.name :: seen ↔
          name ∈ (before ++ [widget]).map Widget.name := by
        intro name
        simp [known, or_comm]
      rw [checkRecord, Widget.recordVisits, Visit.firstRepetition_cons,
        Visit.firstRepetition_append, ← checkItems_eq widget,
        ← checkRecord_eq (before ++ [widget]) further rest]
      simp only [here]
      cases checkItems widget <;> rfl

theorem checkItems_eq :
    ∀ widget : Widget, checkItems widget = Visit.firstRepetition widget.itemVisits
  | .leaf _ _ _ => rfl
  | .list name _ items => by
      rw [checkItems, Widget.itemVisits]
      exact checkRecord_eq [] (by simp) items

end

/-- The check of fields fails with the first repetition on the walk. -/
theorem checkFields_eq (config : Config) :
    checkFields config.collections = Visit.firstRepetition config.visits := by
  unfold Config.visits
  induction config.collections with
  | nil =>
      rfl
  | cons collection rest ih =>
      rw [checkFields, List.flatMap_cons, Visit.firstRepetition_append, ih,
        checkRecord_eq [] (by simp)]
      cases Visit.firstRepetition (Widget.recordVisits _ [] collection.widgets) <;> rfl

/-- Names are distinct when none of them is among those before it. -/
theorem nodup_map_name_iff {record : List Widget} :
    (record.map Widget.name).Nodup ↔
      ∀ before widget after, record = before ++ widget :: after →
        widget.name ∉ before.map Widget.name := by
  constructor
  · rintro distinct before widget after rfl again
    rw [List.map_append, List.map_cons, List.nodup_append] at distinct
    exact distinct.2.2 _ again _ List.mem_cons_self rfl
  · intro fresh
    induction record using List.reverseRecOn with
    | nil =>
        exact List.nodup_nil
    | append_singleton record last ih =>
        have once : last.name ∉ record.map Widget.name := fresh record last [] rfl
        have earlier : (record.map Widget.name).Nodup := by
          apply ih
          rintro before widget after rfl
          exact fresh before widget (after ++ [last]) (by simp)
        rw [List.map_append, List.map_singleton, List.nodup_append]
        refine ⟨earlier, List.nodup_singleton _, ?_⟩
        rintro name member _ (_ | ⟨_, ⟨⟩⟩) rfl
        exact once member

/-- The fields of a configuration are in order when the names of each record are distinct. -/
theorem checkFields_eq_ok_iff {config : Config} :
    checkFields config.collections = .ok () ↔
      ∀ context record, config.HasRecord context record →
        (record.map Widget.name).Nodup := by
  rw [checkFields_eq, Visit.firstRepetition_eq_ok_iff]
  constructor
  · intro fresh context record present
    rw [nodup_map_name_iff]
    rintro before widget after rfl
    have visited : ⟨context, before, widget⟩ ∈ config.visits :=
      Config.mem_visits_iff.mpr ⟨after, present⟩
    rw [← Visit.repeats_iff_mem_map ⟨context, before, widget⟩]
    exact fresh _ visited
  · intro distinct visit visited
    rcases Config.mem_visits_iff.mp visited with ⟨after, present⟩
    rw [Visit.repeats_iff_mem_map]
    exact nodup_map_name_iff.mp (distinct _ _ present) _ _ _ rfl

end Validity

end ContentSchema

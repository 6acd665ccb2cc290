import Mathlib
import ContentSchema.Proofs.ConstantFaults
import ContentSchema.Proofs.ConvertedWidgets
import ContentSchema.Proofs.MessageLines

/-!
# What errors quote of a document

Errors speak of a field by its name, of a collection by its name, of a constant by the
name of its collection and its locale, and of a kind of widget by the text that is given
for it.  These texts of a document are quoted as they are, at whatever depth their field
lies.  A field without a name is spoken of by its whole descriptor, and a kind that is no
text by its value; both are compact and one line.

This is said twice, for the two stages that look at a document: every first fault of a
document quotes such texts only, and so does every complaint about the configuration that
an accepted document converts to.
-/

namespace ContentSchema

open Text (Composed OneLine)
open Traversal (mapM_eq_ok_iff mapM_eq_some_iff exists_source_of_mem)

namespace DocumentGrammar

open Descriptor (fieldContext collectionContext documentContext)

/-! ## Texts that are quoted as they are -/

/-- The texts of a field that errors quote: its name, its kind, and those of its items. -/
inductive FieldText : Document → String → Prop
  | name {field text}
      (present : field.member? "name" = some (.string text)) :
      FieldText field text
  | kind {field text}
      (present : field.member? "widget" = some (.string text)) :
      FieldText field text
  | item {field items item text}
      (listed : ListItems field items)
      (member : item ∈ items)
      (inside : FieldText item text) :
      FieldText field text

/-- The texts of a collection that errors quote: its name, and those of its fields. -/
inductive CollectionText (descriptor : Document) : String → Prop
  | name {text}
      (present : descriptor.member? "name" = some (.string text)) :
      CollectionText descriptor text
  | field {fields field text}
      (present : descriptor.member? "fields" = some (.array fields))
      (member : field ∈ fields)
      (inside : FieldText field text) :
      CollectionText descriptor text

/-- The texts of a document that errors quote: those of its collections, and its locales. -/
inductive DocumentText (document : Document) : String → Prop
  | collection {descriptors descriptor text}
      (present : document.member? "collections" = some (.array descriptors))
      (member : descriptor ∈ descriptors)
      (inside : CollectionText descriptor text) :
      DocumentText document text
  | locale {settings values text}
      (present : document.member? "i18n" = some settings)
      (listed : settings.member? "locales" = some (.array values))
      (member : .string text ∈ values) :
      DocumentText document text

/-! ## First faults -/

variable {descriptor document : Document} {property context name : String}
variable {quoted : String → Prop} {depth : Nat} {error : Error}

theorem composed_fieldContext
    (named : quoted name) :
    Composed quoted (fieldContext name) :=
  (Composed.quotation named).after (by decide)

theorem composed_collectionContext
    (named : quoted name) :
    Composed quoted (collectionContext name) :=
  (Composed.quotation named).after (by decide)

theorem TextFault.quotes
    (fault : TextFault descriptor property context error)
    (plain : OneLine property)
    (inContext : Composed quoted context) :
    error.Quotes quoted := by
  cases fault <;>
    exact List.forall_mem_cons.mpr ⟨.line plain, List.forall_mem_singleton.mpr inContext⟩

theorem FlagFault.quotes
    (fault : FlagFault descriptor property context error)
    (plain : OneLine property)
    (inContext : Composed quoted context) :
    error.Quotes quoted := by
  cases fault
  exact List.forall_mem_cons.mpr ⟨.line plain, List.forall_mem_singleton.mpr inContext⟩

theorem TextIs.fieldText
    (named : TextIs descriptor "name" name) :
    FieldText descriptor name :=
  .name named.present

/-- A fault of the kind quotes the kind, or shows it in one line where it is no text. -/
theorem KindFault.quotes
    (fault : KindFault descriptor name error)
    (named : FieldText descriptor name) :
    error.Quotes (FieldText descriptor) := by
  cases fault with
  | missing =>
      exact List.forall_mem_cons.mpr
        ⟨.line (by decide), List.forall_mem_singleton.mpr (composed_fieldContext named)⟩
  | unknown present =>
      exact List.forall_mem_cons.mpr
        ⟨.quotation named, List.forall_mem_singleton.mpr (.quotation (.kind present))⟩
  | @noText value =>
      exact List.forall_mem_cons.mpr
        ⟨.quotation named, List.forall_mem_singleton.mpr (.line value.visible_compact.oneLine)⟩

/-- A field without a name is shown in one line, so nothing of it is quoted. -/
theorem HeadingFault.quotes
    (fault : HeadingFault descriptor error) :
    error.Quotes (FieldText descriptor) := by
  cases fault with
  | name fault =>
      have whole : OneLine (fieldContext descriptor.compact) :=
        Text.oneLine_append.mpr ⟨by decide, descriptor.visible_compact.oneLine⟩
      exact fault.quotes (by decide) (.line whole)
  | kind named fault =>
      exact fault.quotes named.fieldText
  | required named _ fault =>
      exact fault.quotes (by decide) (composed_fieldContext named.fieldText)

/-- A fault of a field quotes texts of that field only, however deep it lies. -/
theorem FieldFault.quotes
    (fault : FieldFault depth descriptor error) :
    error.Quotes (FieldText descriptor) := by
  induction fault with
  | heading fault =>
      exact fault.quotes
  | options headed | target headed | tooDeep headed | noItems headed =>
      exact List.forall_mem_singleton.mpr (.quotation headed.named.fieldText)
  | multiple headed _ fault =>
      exact fault.quotes (by decide) (composed_fieldContext headed.named.fieldText)
  | item _ _ listed _ _ ih =>
      exact ih.mono (.item listed (List.mem_append_right _ List.mem_cons_self))

/-- The faults of a collection quote its name and the texts of its fields. -/
theorem CollectionFault.quotes
    (fault : CollectionFault descriptor error) :
    error.Quotes (CollectionText descriptor) := by
  cases fault with
  | name fault =>
      exact fault.quotes (by decide) (.line (by decide))
  | folder named fault =>
      exact fault.quotes (by decide) (composed_collectionContext (.name named.present))
  | missingFields named | invalidFields named =>
      exact List.forall_mem_cons.mpr ⟨.line (by decide),
        List.forall_mem_singleton.mpr (composed_collectionContext (.name named.present))⟩
  | field _ _ present _ fault =>
      exact fault.quotes.mono (.field present (List.mem_append_right _ List.mem_cons_self))

/-- The first fault of a document quotes texts of its collections only. -/
theorem ConfigurationFault.quotes
    (fault : ConfigurationFault document error) :
    error.Quotes (DocumentText document) := by
  have plain : ∀ {property}, OneLine property →
      ∀ text ∈ [property, documentContext], Composed (DocumentText document) text := by
    intro property oneLine
    exact List.forall_mem_cons.mpr
      ⟨.line oneLine, List.forall_mem_singleton.mpr (.line (by decide))⟩
  cases fault with
  | noObject | missingCollections | invalidCollections | locales =>
      exact plain (by decide)
  | collection present _ fault =>
      cases fault with
      | noObject =>
          exact plain (by decide)
      | inside _ fault =>
          exact fault.quotes.mono
            (.collection present (List.mem_append_right _ List.mem_cons_self))

end DocumentGrammar

/-! ## Complaints about a configuration -/

namespace Descriptor

open DocumentGrammar

variable {lead : Option String} {document : Document} {config : Config}

/-- The name of a widget is a text of its field. -/
theorem fieldText_of_widgetWithin
    {lists : Nat} {field : Document} {widget : Widget}
    (success : widgetWithin lists field = .ok widget) :
    FieldText field widget.name := by
  cases widgetWithin_eq_ok_iff.mp success with
  | scalar heading | select heading | relation heading | list heading =>
      exact .name (requiredText_eq_ok_iff.mp heading.named).1

/-- A collection comes from a descriptor of the document, whose texts are quoted. -/
theorem exists_descriptor_of_mem
    (accepted : Descriptor.config lead document = .ok config)
    {collection : Collection}
    (member : collection ∈ config.collections) :
    ∃ descriptor, Descriptor.collection lead descriptor = .ok collection ∧
      ∀ {text}, CollectionText descriptor text → DocumentText document text := by
  rcases config_eq_ok_iff.mp accepted with ⟨descriptors, _, _, listed, converted, _, rfl⟩
  rcases exists_source_of_mem (mapM_eq_ok_iff.mp converted) member with
    ⟨descriptor, inside, made⟩
  have present := (collectionDescriptors_eq_ok_iff.mp listed).2
  exact ⟨descriptor, (collectionObject_eq_ok_iff.mp made).2, .collection present inside⟩

theorem documentText_name
    (accepted : Descriptor.config lead document = .ok config)
    {collection : Collection}
    (member : collection ∈ config.collections) :
    DocumentText document collection.name := by
  rcases exists_descriptor_of_mem accepted member with ⟨descriptor, made, quoted⟩
  rcases collection_eq_ok_iff.mp made with ⟨_, _, _, _, named, _, _, _, rfl⟩
  exact quoted (.name (requiredText_eq_ok_iff.mp named).1)

theorem documentText_locale
    (accepted : Descriptor.config lead document = .ok config)
    {locale : String}
    (member : locale ∈ config.locales) :
    DocumentText document locale := by
  rcases config_eq_ok_iff.mp accepted with ⟨_, _, codes, _, _, read, rfl⟩
  unfold locales at read
  split at read
  · cases read
    cases member
  · cases read
    cases member
  · rename_i values given
    split at read
    · rename_i usable
      cases read
      rcases Option.bind_eq_some_iff.mp given with ⟨settings, present, listed⟩
      rcases exists_source_of_mem (mapM_eq_some_iff.mp usable) member with ⟨value, inside, text⟩
      rw [(usableText?_eq_some_iff.mp text).1] at inside
      exact .locale present listed inside
    · cases read
  · cases read

/-- The constants of a configuration are names with locales. -/
theorem composed_constant
    (accepted : Descriptor.config lead document = .ok config)
    {constant : String}
    (member : constant ∈ config.constants) :
    Composed (DocumentText document) constant := by
  rcases List.mem_map.mp member with ⟨declaration, declared, rfl⟩
  rcases List.mem_flatMap.mp declared with ⟨collection, among, placed⟩
  rcases List.mem_map.mp placed with ⟨locale, chosen, rfl⟩
  have name : Composed (DocumentText document) collection.name :=
    .quotation (documentText_name accepted among)
  cases locale with
  | none =>
      exact name
  | some locale =>
      have listed : locale ∈ config.locales := by
        unfold Config.localeChoices at chosen
        split at chosen
        · simp at chosen
        · simpa using chosen
      exact (name.before (by decide)).append (.quotation (documentText_locale accepted listed))

/-- Every record of a configuration is spoken of by a name, and its fields have names. -/
theorem quotes_record
    (accepted : Descriptor.config lead document = .ok config)
    {context : String} {record : List Widget}
    (present : config.HasRecord context record) :
    Composed (DocumentText document) context ∧
      ∀ widget ∈ record, ∃ lists field, widgetWithin lists field = .ok widget ∧
        ∀ {text}, FieldText field text → DocumentText document text := by
  induction present with
  | collection member =>
      refine ⟨composed_collectionContext (documentText_name accepted member), ?_⟩
      intro widget among
      rcases exists_descriptor_of_mem accepted member with ⟨descriptor, made, quoted⟩
      rcases collection_eq_ok_iff.mp made with ⟨_, _, fields, _, _, _, present, converted, rfl⟩
      rcases exists_source_of_mem (mapM_eq_ok_iff.mp converted) among with
        ⟨field, inside, success⟩
      exact ⟨listLimit, field, success, fun text => quoted (.field present inside text)⟩
  | list _ member ih =>
      rcases ih.2 _ member with ⟨_, outer, success, quoted⟩
      have name := quoted (fieldText_of_widgetWithin success)
      refine ⟨(Composed.quotation name).after (by decide), ?_⟩
      intro widget among
      rcases exists_of_widgetWithin_list success with ⟨further, _, _, listed, converted⟩
      rcases exists_source_of_mem converted among with ⟨field, inside, success⟩
      exact ⟨further, field, success, fun text => quoted (.item listed inside text)⟩

end Descriptor

namespace Validity

open DocumentGrammar

theorem exists_of_checkConstants_error
    {constants : List String} {error : Error}
    (failure : checkConstants Module.reservedBindings constants = .error error) :
    ∃ constant ∈ constants, error = .ofConstant constant := by
  have offence : ∃ position constant, Offends constants position constant := by
    by_contra none
    simp only [not_exists] at none
    rw [checkConstants_eq_ok_iff_offends.mpr none] at failure
    cases failure
  rcases offence with ⟨position, constant, offends⟩
  rcases offends.exists_first with ⟨first, culprit, least⟩
  rw [checkConstants_of_firstOffence least] at failure
  cases failure
  exact ⟨culprit, List.mem_of_getElem? least.offends.listed, rfl⟩

/-- A complaint about the configuration of a document quotes texts of that document only. -/
theorem quotes_of_check
    {lead : Option String} {document : Document} {config : Config} {error : Error}
    (accepted : Descriptor.config lead document = .ok config)
    (failure : check config = .error error) :
    error.Quotes (DocumentText document) := by
  unfold check at failure
  split at failure
  · rename_i refused
    cases failure
    rcases exists_of_checkConstants_error refused with ⟨constant, member, rfl⟩
    have composed := Descriptor.composed_constant accepted member
    rcases Error.ofConstant_cases constant with kind | kind <;>
      · rw [kind]
        exact List.forall_mem_singleton.mpr composed
  · rw [checkFields_eq] at failure
    rcases Visit.exists_of_firstRepetition_error failure with ⟨visit, visited, _, rfl⟩
    rcases Config.mem_visits_iff.mp visited with ⟨after, present⟩
    rcases Descriptor.quotes_record accepted present with ⟨context, described⟩
    rcases described visit.widget (List.mem_append_right _ List.mem_cons_self) with
      ⟨_, _, success, quoted⟩
    have name := quoted (Descriptor.fieldText_of_widgetWithin success)
    exact List.forall_mem_cons.mpr ⟨.quotation name, List.forall_mem_singleton.mpr context⟩

end Validity

end ContentSchema

import Mathlib
import ContentSchema.Proofs.DocumentGrammar

/-!
# The first fault of a document

A document that is not accepted has one error.  This module says which, in terms
of members and their values only: every relation below names one check after the
other, and each of its rules asks that all checks before it hold.  A field is
looked at in the order of its name, its kind, whether it is required, and what
its kind needs; a list counts the lists around it before it looks for its fields,
and has its own checks done before those of its fields, from left to right.

The conversion fails with an error exactly when the relation for it says so.  The
relations do not mention the lead in front of folders, so neither does the error.
-/

namespace ContentSchema

open Text (isBlank)
open Traversal
  (ok_bind bind_eq_error_iff mapM_eq_error_iff exists_mapM_eq_ok_iff)

/-! ## Faults -/

namespace DocumentGrammar

open Descriptor (fieldContext collectionContext documentContext)

/-- A property is a given text, and not a blank one. -/
structure TextIs (descriptor : Document) (property text : String) : Prop where
  present : descriptor.member? property = some (.string text)
  filled : isBlank text = false

/-- What is wrong with a property that has to be a text and not a blank one. -/
inductive TextFault (descriptor : Document) (property context : String) : Error → Prop
  | missing
      (absent : descriptor.member? property = none) :
      TextFault descriptor property context (.missingProperty property context)
  | invalid {value}
      (present : descriptor.member? property = some value)
      (unusable : ¬ IsText value) :
      TextFault descriptor property context (.invalidProperty property context)

/-- What is wrong with a property that has to be a truth value if it is there. -/
inductive FlagFault (descriptor : Document) (property context : String) : Error → Prop
  | invalid {value}
      (present : descriptor.member? property = some value)
      (unusable : ∀ truth, value ≠ .boolean truth) :
      FlagFault descriptor property context (.invalidProperty property context)

/-- What is wrong with the kind of a field of a given name. -/
inductive KindFault (descriptor : Document) (name : String) : Error → Prop
  | missing
      (absent : descriptor.member? "widget" = none) :
      KindFault descriptor name (.missingProperty "widget" (fieldContext name))
  | unknown {text}
      (present : descriptor.member? "widget" = some (.string text))
      (unknown : ∀ tag : Tag, text ≠ tag.text) :
      KindFault descriptor name (.unknownWidget name text)
  | noText {value}
      (present : descriptor.member? "widget" = some value)
      (noText : ∀ text, value ≠ .string text) :
      KindFault descriptor name (.unknownWidget name value.compact)

/-- The first fault among the properties that every field has. -/
inductive HeadingFault (descriptor : Document) : Error → Prop
  | name {error}
      (fault : TextFault descriptor "name" (fieldContext descriptor.compact) error) :
      HeadingFault descriptor error
  | kind {name error}
      (named : TextIs descriptor "name" name)
      (fault : KindFault descriptor name error) :
      HeadingFault descriptor error
  | required {name error} {tag : Tag}
      (named : TextIs descriptor "name" name)
      (tagged : descriptor.member? "widget" = some (.string tag.text))
      (fault : FlagFault descriptor "required" (fieldContext name) error) :
      HeadingFault descriptor error

/-- The properties that every field has are in order. -/
structure IsHeaded (descriptor : Document) (name : String) (tag : Tag) : Prop where
  named : TextIs descriptor "name" name
  tagged : descriptor.member? "widget" = some (.string tag.text)
  flagged : HasFlag descriptor "required"

/-- The options of a choice: at least one, and each of them usable. -/
def HasOptions (descriptor : Document) : Prop :=
  ∃ options,
    descriptor.member? "options" = some (.array options) ∧
      options ≠ [] ∧
      ∀ option ∈ options, IsOption option

/-- The fields of a list: an object in `field` comes before whatever is in `fields`. -/
inductive ListItems (descriptor : Document) : List Document → Prop
  | one {item}
      (present : descriptor.member? "field" = some item)
      (object : IsObject item) :
      ListItems descriptor [item]
  | several {items}
      (several : ∀ item, descriptor.member? "field" = some item → ¬ IsObject item)
      (present : descriptor.member? "fields" = some (.array items))
      (filled : items ≠ []) :
      ListItems descriptor items

/-- The first fault of a field with so many lists around it. -/
inductive FieldFault : Nat → Document → Error → Prop
  | heading {depth descriptor error}
      (fault : HeadingFault descriptor error) :
      FieldFault depth descriptor error
  | options {depth descriptor name}
      (headed : IsHeaded descriptor name .select)
      (unusable : ¬ HasOptions descriptor) :
      FieldFault depth descriptor (.invalidOptions name)
  | target {depth descriptor name}
      (headed : IsHeaded descriptor name .relation)
      (unusable : ¬ HasText descriptor "collection") :
      FieldFault depth descriptor (.invalidRelationTarget name)
  | multiple {depth descriptor name error}
      (headed : IsHeaded descriptor name .relation)
      (target : HasText descriptor "collection")
      (fault : FlagFault descriptor "multiple" (fieldContext name) error) :
      FieldFault depth descriptor error
  | tooDeep {depth descriptor name}
      (headed : IsHeaded descriptor name .list)
      (deep : 32 ≤ depth) :
      FieldFault depth descriptor (.nestedTooDeep name 32)
  | noItems {depth descriptor name}
      (headed : IsHeaded descriptor name .list)
      (shallow : depth < 32)
      (none : ∀ items, ¬ ListItems descriptor items) :
      FieldFault depth descriptor (.invalidListFields name)
  | item {depth descriptor name before item after error}
      (headed : IsHeaded descriptor name .list)
      (shallow : depth < 32)
      (listed : ListItems descriptor (before ++ item :: after))
      (accepted : ∀ earlier ∈ before, IsField (depth + 1) earlier)
      (fault : FieldFault (depth + 1) item error) :
      FieldFault depth descriptor error

/-- The first fault among the properties of a collection. -/
inductive CollectionFault (descriptor : Document) : Error → Prop
  | name {error}
      (fault : TextFault descriptor "name" "collection configuration" error) :
      CollectionFault descriptor error
  | folder {name error}
      (named : TextIs descriptor "name" name)
      (fault : TextFault descriptor "folder" (collectionContext name) error) :
      CollectionFault descriptor error
  | missingFields {name}
      (named : TextIs descriptor "name" name)
      (placed : HasText descriptor "folder")
      (absent : descriptor.member? "fields" = none) :
      CollectionFault descriptor (.missingProperty "fields" (collectionContext name))
  | invalidFields {name value}
      (named : TextIs descriptor "name" name)
      (placed : HasText descriptor "folder")
      (present : descriptor.member? "fields" = some value)
      (unusable : ∀ fields, value ≠ .array fields) :
      CollectionFault descriptor (.invalidProperty "fields" (collectionContext name))
  | field {name before field after error}
      (named : TextIs descriptor "name" name)
      (placed : HasText descriptor "folder")
      (present : descriptor.member? "fields" = some (.array (before ++ field :: after)))
      (accepted : ∀ earlier ∈ before, IsField 0 earlier)
      (fault : FieldFault 0 field error) :
      CollectionFault descriptor error

/-- The first fault of a collection in a document, where it has to be an object. -/
inductive CollectionObjectFault (descriptor : Document) : Error → Prop
  | noObject
      (unusable : ¬ IsObject descriptor) :
      CollectionObjectFault descriptor (.invalidProperty "collections" documentContext)
  | inside {error}
      (object : IsObject descriptor)
      (fault : CollectionFault descriptor error) :
      CollectionObjectFault descriptor error

/-- The first fault of a whole document: locales come after all collections. -/
inductive ConfigurationFault (document : Document) : Error → Prop
  | noObject
      (unusable : ¬ IsObject document) :
      ConfigurationFault document (.invalidProperty "root" documentContext)
  | missingCollections
      (object : IsObject document)
      (absent : document.member? "collections" = none) :
      ConfigurationFault document (.missingProperty "collections" documentContext)
  | invalidCollections {value}
      (present : document.member? "collections" = some value)
      (unusable : ∀ descriptors, value ≠ .array descriptors) :
      ConfigurationFault document (.invalidProperty "collections" documentContext)
  | collection {before descriptor after error}
      (present : document.member? "collections" =
        some (.array (before ++ descriptor :: after)))
      (accepted : ∀ earlier ∈ before, IsCollection earlier)
      (fault : CollectionObjectFault descriptor error) :
      ConfigurationFault document error
  | locales {descriptors}
      (present : document.member? "collections" = some (.array descriptors))
      (accepted : ∀ descriptor ∈ descriptors, IsCollection descriptor)
      (unusable : ¬ HasLocales document) :
      ConfigurationFault document (.invalidProperty "i18n.locales" documentContext)

theorem TextIs.hasText
    {descriptor : Document} {property text : String}
    (same : TextIs descriptor property text) :
    HasText descriptor property :=
  ⟨_, same.present, text, rfl, same.filled⟩

theorem HasText.exists_textIs
    {descriptor : Document} {property : String}
    (usable : HasText descriptor property) :
    ∃ text, TextIs descriptor property text := by
  rcases usable with ⟨_, present, text, rfl, filled⟩
  exact ⟨text, present, filled⟩

end DocumentGrammar

namespace Descriptor

open DocumentGrammar

/-! ## Single properties -/

theorem requiredText_eq_ok_iff_textIs
    {descriptor : Document} {property context text : String} :
    requiredText descriptor property context = .ok text ↔
      TextIs descriptor property text := by
  rw [requiredText_eq_ok_iff]
  constructor
  · rintro ⟨present, filled⟩
    exact ⟨present, filled⟩
  · rintro ⟨present, filled⟩
    exact ⟨present, filled⟩

theorem requiredText_eq_error_iff
    {descriptor : Document} {property context : String} {error : Error} :
    requiredText descriptor property context = .error error ↔
      TextFault descriptor property context error := by
  constructor
  · intro failed
    unfold requiredText at failed
    split at failed
    · rename_i absent
      cases failed
      exact .missing absent
    · rename_i value present
      split at failed
      · cases failed
      · rename_i unusable
        cases failed
        refine .invalid present ?_
        rw [← exists_usableText?_eq_some_iff]
        rintro ⟨text, usable⟩
        rw [unusable] at usable
        cases usable
  · intro fault
    cases fault with
    | missing absent =>
        simp only [requiredText, absent]
    | @invalid value present unusable =>
        cases usable : usableText? value with
        | none =>
            simp only [requiredText, present, usable]
        | some text =>
            exact absurd (exists_usableText?_eq_some_iff.mp ⟨text, usable⟩) unusable

theorem flag_eq_error_iff
    {descriptor : Document} {property context : String} {default : Bool} {error : Error} :
    flag descriptor property context default = .error error ↔
      FlagFault descriptor property context error := by
  constructor
  · intro failed
    unfold flag at failed
    split at failed
    · cases failed
    · cases failed
    · rename_i value noTruth present
      cases failed
      exact .invalid present fun truth same => noTruth truth same
  · rintro ⟨present, unusable⟩
    rename_i value
    cases value with
    | boolean truth =>
        exact absurd rfl (unusable truth)
    | _ =>
        simp only [flag, present]

/-- A kind is refused when it is missing or unknown; anything but a text counts as unknown. -/
theorem widgetTag_eq_error_iff
    {descriptor : Document} {name : String} {error : Error} :
    widgetTag descriptor name = .error error ↔
      KindFault descriptor name error := by
  constructor
  · intro failed
    unfold widgetTag at failed
    split at failed
    · rename_i absent
      cases failed
      exact .missing absent
    · rename_i text present
      split at failed
      · cases failed
      · rename_i unknown
        cases failed
        refine .unknown present ?_
        intro tag same
        rw [Tag.ofText?_eq_some_iff.mpr same] at unknown
        cases unknown
    · rename_i value noText present
      cases failed
      exact .noText present fun text same => noText text same
  · intro fault
    cases fault with
    | missing absent =>
        simp only [widgetTag, absent]
    | @unknown text present unknown =>
        cases found : Tag.ofText? text with
        | none =>
            simp only [widgetTag, present, found]
        | some tag =>
            exact absurd (Tag.ofText?_eq_some_iff.mp found) (unknown tag)
    | @noText value present noText =>
        cases value with
        | string text =>
            exact absurd rfl (noText text)
        | _ =>
            simp only [widgetTag, present]

/-- The heading of a field succeeds exactly when its properties are in order. -/
theorem isHeaded_iff {descriptor : Document} {name : String} {tag : Tag} :
    (∃ required, Heading descriptor name tag required) ↔
      IsHeaded descriptor name tag := by
  constructor
  · rintro ⟨required, heading⟩
    exact
      ⟨requiredText_eq_ok_iff_textIs.mp heading.named,
        widgetTag_eq_ok_iff.mp heading.tagged,
        exists_flag_eq_ok_iff.mp ⟨required, heading.flagged⟩⟩
  · intro headed
    rcases exists_flag_eq_ok_iff.mpr headed.flagged with ⟨required, flagged⟩
    exact
      ⟨required, requiredText_eq_ok_iff_textIs.mpr headed.named,
        widgetTag_eq_ok_iff.mpr headed.tagged, flagged⟩

/-! ## What the kinds of widget need -/

theorem selectLeaf_eq_error_iff
    {descriptor : Document} {name : String} {error : Error} :
    selectLeaf descriptor name = .error error ↔
      ¬ HasOptions descriptor ∧ error = .invalidOptions name := by
  have only : ∀ other, selectLeaf descriptor name = .error other →
      other = .invalidOptions name := by
    intro other failed
    unfold selectLeaf at failed
    split at failed
    · split at failed
      · cases failed
      · cases failed
        rfl
    · cases failed
      rfl
  rw [HasOptions, ← @exists_selectLeaf_eq_ok_iff descriptor name]
  cases made : selectLeaf descriptor name with
  | ok leaf =>
      simp
  | error other =>
      simp [only other made, eq_comm]

/-- The collection of a relation is looked at before its flag. -/
theorem relationLeaf_eq_error_iff
    {descriptor : Document} {name : String} {error : Error} :
    relationLeaf descriptor name = .error error ↔
      (¬ HasText descriptor "collection" ∧ error = .invalidRelationTarget name) ∨
        (HasText descriptor "collection" ∧
          FlagFault descriptor "multiple" (fieldContext name) error) := by
  have target : (∃ text, (descriptor.member? "collection").bind usableText? = some text) ↔
      HasText descriptor "collection" := by
    simp only [Option.bind_eq_some_iff, usableText?_eq_some_iff]
    constructor
    · rintro ⟨text, value, present, rfl, filled⟩
      exact ⟨_, present, text, rfl, filled⟩
    · rintro ⟨value, present, text, rfl, filled⟩
      exact ⟨text, _, present, rfl, filled⟩
  rw [← target, relationLeaf]
  cases found : (descriptor.member? "collection").bind usableText? with
  | none =>
      simp [eq_comm]
  | some collection =>
      simp [bind_eq_error_iff, flag_eq_error_iff, pure, Except.pure]

theorem listItems_eq_ok_iff_listItems
    {descriptor : Document} {name : String} {items : List Document} :
    listItems descriptor name = .ok items ↔ ListItems descriptor items := by
  rw [listItems_eq_ok_iff_isObject]
  constructor
  · rintro (⟨item, present, object, rfl⟩ | ⟨several, present, filled⟩)
    · exact .one present object
    · exact .several several present filled
  · intro listed
    cases listed with
    | one present object =>
        exact .inl ⟨_, present, object, rfl⟩
    | several several present filled =>
        exact .inr ⟨several, present, filled⟩

/-- A list without items is refused, whichever property lacks them. -/
theorem listItems_eq_error_iff
    {descriptor : Document} {name : String} {error : Error} :
    listItems descriptor name = .error error ↔
      (∀ items, ¬ ListItems descriptor items) ∧ error = .invalidListFields name := by
  have only : ∀ other, listItems descriptor name = .error other →
      other = .invalidListFields name := by
    intro other failed
    unfold listItems at failed
    split at failed
    · cases failed
    · cases failed
    · cases failed
      rfl
  simp only [← @listItems_eq_ok_iff_listItems descriptor name]
  cases made : listItems descriptor name with
  | ok items =>
      simp
  | error other =>
      simp [only other made, eq_comm]

/-! ## Fields -/

/-- The heading of a field has a fault or is in order. -/
theorem headingFault_or_isHeaded (descriptor : Document) :
    (∃ error, HeadingFault descriptor error) ∨
      ∃ name tag, IsHeaded descriptor name tag := by
  cases named : requiredText descriptor "name" (fieldContext descriptor.compact) with
  | error error =>
      exact .inl ⟨error, .name (requiredText_eq_error_iff.mp named)⟩
  | ok name =>
      have same := requiredText_eq_ok_iff_textIs.mp named
      cases tagged : widgetTag descriptor name with
      | error error =>
          exact .inl ⟨error, .kind same (widgetTag_eq_error_iff.mp tagged)⟩
      | ok tag =>
          cases flagged : flag descriptor "required" (fieldContext name) true with
          | error error =>
              exact .inl ⟨error, .required same (widgetTag_eq_ok_iff.mp tagged)
                (flag_eq_error_iff.mp flagged)⟩
          | ok required =>
              exact .inr ⟨name, tag, isHeaded_iff.mp ⟨required, named, tagged, flagged⟩⟩

/-- A fault of the heading comes before everything that the kind needs. -/
theorem widgetWithin_of_headingFault
    {lists : Nat} {descriptor : Document} {error : Error}
    (fault : HeadingFault descriptor error) :
    widgetWithin lists descriptor = .error error := by
  rw [widgetWithin.eq_def]
  cases fault with
  | name fault =>
      rw [requiredText_eq_error_iff.mpr fault]
      rfl
  | kind named fault =>
      simp only [requiredText_eq_ok_iff_textIs.mpr named, ok_bind,
        widgetTag_eq_error_iff.mpr fault]
      rfl
  | required named tagged fault =>
      simp only [requiredText_eq_ok_iff_textIs.mpr named, ok_bind,
        widgetTag_eq_ok_iff.mpr tagged, flag_eq_error_iff.mpr fault]
      rfl

section Headed

variable {lists : Nat} {descriptor : Document} {name : String} {error : Error}

/-- A scalar has no fault but in the properties that every field has. -/
theorem widgetWithin_scalar_ne_error
    {kind : Scalar}
    (headed : IsHeaded descriptor name (.scalar kind)) :
    widgetWithin lists descriptor ≠ .error error := by
  rcases isHeaded_iff.mpr headed with ⟨required, heading⟩
  rw [widgetWithin.eq_def]
  simp only [heading.named, heading.tagged, heading.flagged, ok_bind]
  intro impossible
  cases impossible

theorem widgetWithin_select_eq_error_iff
    (headed : IsHeaded descriptor name .select) :
    widgetWithin lists descriptor = .error error ↔
      ¬ HasOptions descriptor ∧ error = .invalidOptions name := by
  rcases isHeaded_iff.mpr headed with ⟨required, heading⟩
  rw [widgetWithin.eq_def, ← selectLeaf_eq_error_iff]
  simp only [heading.named, heading.tagged, heading.flagged, ok_bind, bind_eq_error_iff]
  simp [pure, Except.pure]

theorem widgetWithin_relation_eq_error_iff
    (headed : IsHeaded descriptor name .relation) :
    widgetWithin lists descriptor = .error error ↔
      (¬ HasText descriptor "collection" ∧ error = .invalidRelationTarget name) ∨
        (HasText descriptor "collection" ∧
          FlagFault descriptor "multiple" (fieldContext name) error) := by
  rcases isHeaded_iff.mpr headed with ⟨required, heading⟩
  rw [widgetWithin.eq_def, ← relationLeaf_eq_error_iff]
  simp only [heading.named, heading.tagged, heading.flagged, ok_bind, bind_eq_error_iff]
  simp [pure, Except.pure]

/-- A list is refused where no more lists are admitted, before its items are looked at. -/
theorem widgetWithin_zero_list
    (headed : IsHeaded descriptor name .list) :
    widgetWithin 0 descriptor = .error (.nestedTooDeep name listLimit) := by
  rcases isHeaded_iff.mpr headed with ⟨required, heading⟩
  rw [widgetWithin.eq_def]
  simp only [heading.named, heading.tagged, heading.flagged, ok_bind]
  rfl

/-- What refuses a list that is admitted: it has no items, or the first faulty one decides. -/
theorem widgetWithin_list_eq_error_iff
    (headed : IsHeaded descriptor name .list) :
    widgetWithin (lists + 1) descriptor = .error error ↔
      ((∀ items, ¬ ListItems descriptor items) ∧ error = .invalidListFields name) ∨
        ∃ items, ListItems descriptor items ∧
          items.mapM (widgetWithin lists) = .error error := by
  rcases isHeaded_iff.mpr headed with ⟨required, heading⟩
  rw [widgetWithin.eq_def, ← listItems_eq_error_iff]
  simp only [heading.named, heading.tagged, heading.flagged, ok_bind, bind_eq_error_iff,
    listItems_eq_ok_iff_listItems]
  simp [pure, Except.pure]

end Headed

/--
The step of the induction for fields: the error of a field is its first fault when
this holds one level deeper, as long as lists are still allowed.
-/
theorem widgetWithin_eq_error_step
    {lists depth : Nat}
    (left : 32 - depth = lists)
    (deeper : ∀ further, lists = further + 1 → ∀ item error,
      widgetWithin further item = .error error ↔ FieldFault (depth + 1) item error)
    (descriptor : Document)
    (error : Error) :
    widgetWithin lists descriptor = .error error ↔
      FieldFault depth descriptor error := by
  have accepted : ∀ further, lists = further + 1 → ∀ item,
      (∃ made, widgetWithin further item = .ok made) ↔ IsField (depth + 1) item := by
    intro further enough item
    have same : further = listLimit - (depth + 1) := by
      simp only [listLimit]
      omega
    rw [same]
    exact exists_widgetWithin_eq_ok_iff (depth + 1) item
  constructor
  · intro failed
    rcases headingFault_or_isHeaded descriptor with ⟨other, fault⟩ | ⟨name, tag, headed⟩
    · rw [widgetWithin_of_headingFault fault] at failed
      cases failed
      exact .heading fault
    cases tag with
    | scalar kind =>
        exact absurd failed (widgetWithin_scalar_ne_error headed)
    | select =>
        rcases (widgetWithin_select_eq_error_iff headed).mp failed with ⟨unusable, rfl⟩
        exact .options headed unusable
    | relation =>
        rcases (widgetWithin_relation_eq_error_iff headed).mp failed with
          ⟨unusable, rfl⟩ | ⟨target, fault⟩
        · exact .target headed unusable
        · exact .multiple headed target fault
    | list =>
        cases lists with
        | zero =>
            rw [widgetWithin_zero_list headed] at failed
            cases failed
            exact .tooDeep headed (by omega)
        | succ further =>
            have shallow : depth < 32 := by omega
            rcases (widgetWithin_list_eq_error_iff headed).mp failed with
              ⟨none, rfl⟩ | ⟨items, listed, failed⟩
            · exact .noItems headed shallow none
            · rcases mapM_eq_error_iff.mp failed with
                ⟨before, item, after, rfl, succeeded, failed⟩
              refine .item headed shallow listed ?_ ((deeper further rfl item error).mp failed)
              intro earlier member
              exact (accepted further rfl earlier).mp (succeeded earlier member)
  · intro fault
    cases fault with
    | heading fault =>
        exact widgetWithin_of_headingFault fault
    | options headed unusable =>
        exact (widgetWithin_select_eq_error_iff headed).mpr ⟨unusable, rfl⟩
    | target headed unusable =>
        exact (widgetWithin_relation_eq_error_iff headed).mpr (.inl ⟨unusable, rfl⟩)
    | multiple headed target fault =>
        exact (widgetWithin_relation_eq_error_iff headed).mpr (.inr ⟨target, fault⟩)
    | tooDeep headed deep =>
        have exhausted : lists = 0 := by omega
        subst exhausted
        exact widgetWithin_zero_list headed
    | noItems headed shallow none =>
        rcases Nat.exists_eq_succ_of_ne_zero (show lists ≠ 0 by omega) with ⟨further, rfl⟩
        exact (widgetWithin_list_eq_error_iff headed).mpr (.inl ⟨none, rfl⟩)
    | @item _ _ _ before item after _ headed shallow listed earlier fault =>
        rcases Nat.exists_eq_succ_of_ne_zero (show lists ≠ 0 by omega) with ⟨further, rfl⟩
        have succeeded : ∀ field ∈ before, ∃ made, widgetWithin further field = .ok made :=
          fun field member => (accepted further rfl field).mpr (earlier field member)
        have failed := (deeper further rfl item error).mpr fault
        refine (widgetWithin_list_eq_error_iff headed).mpr (.inr ⟨_, listed, ?_⟩)
        exact mapM_eq_error_iff.mpr ⟨before, item, after, rfl, succeeded, failed⟩

/-- The error of a field with so many lists around it is its first fault. -/
theorem widgetWithin_eq_error_iff (depth : Nat) (descriptor : Document) (error : Error) :
    widgetWithin (listLimit - depth) descriptor = .error error ↔
      FieldFault depth descriptor error := by
  have agree : ∀ lists depth, 32 - depth = lists → ∀ descriptor error,
      widgetWithin lists descriptor = .error error ↔
        FieldFault depth descriptor error := by
    intro lists
    induction lists with
    | zero =>
        intro depth left
        exact widgetWithin_eq_error_step left fun _ none => by cases none
    | succ lists ih =>
        intro depth left
        refine widgetWithin_eq_error_step left ?_
        intro further same
        cases same
        exact ih (depth + 1) (by omega)
  exact agree _ depth rfl descriptor error

/-! ## Collections and whole documents -/

/-- An array in a property, where it is one. -/
theorem collectionFields_eq_error_iff
    {descriptor : Document} {name : String} {error : Error} :
    collectionFields descriptor name = .error error ↔
      (descriptor.member? "fields" = none ∧
        error = .missingProperty "fields" (collectionContext name)) ∨
      ∃ value, descriptor.member? "fields" = some value ∧
        (∀ fields, value ≠ .array fields) ∧
        error = .invalidProperty "fields" (collectionContext name) := by
  unfold collectionFields
  cases descriptor.member? "fields" with
  | none =>
      simp [eq_comm]
  | some value =>
      cases value <;> simp [eq_comm]

/-- The properties of a collection are looked at in the order name, folder, fields. -/
theorem collection_eq_error_iff
    {lead : Option String} {descriptor : Document} {error : Error} :
    collection lead descriptor = .error error ↔
      CollectionFault descriptor error := by
  have fieldIff : ∀ field error, widget field = .error error ↔ FieldFault 0 field error :=
    widgetWithin_eq_error_iff 0
  have accepted : ∀ field, (∃ made, widget field = .ok made) ↔ IsField 0 field :=
    exists_widgetWithin_eq_ok_iff 0
  unfold collection
  simp only [bind_eq_error_iff, requiredText_eq_error_iff, collectionFields_eq_error_iff,
    requiredText_eq_ok_iff_textIs, collectionFields_eq_ok_iff]
  constructor
  · rintro (fault | ⟨name, named, fault | ⟨folder, placed, fault | ⟨fields, present, failed⟩⟩⟩)
    · exact .name fault
    · exact .folder named fault
    · rcases fault with ⟨absent, rfl⟩ | ⟨value, present, unusable, rfl⟩
      · exact .missingFields named placed.hasText absent
      · exact .invalidFields named placed.hasText present unusable
    · rcases failed with failed | ⟨_, _, impossible⟩
      · rcases mapM_eq_error_iff.mp failed with ⟨before, field, after, rfl, succeeded, failed⟩
        refine .field named placed.hasText present ?_ ((fieldIff field error).mp failed)
        intro earlier member
        exact (accepted earlier).mp (succeeded earlier member)
      · cases impossible
  · intro fault
    cases fault with
    | name fault =>
        exact .inl fault
    | @folder name _ named fault =>
        exact .inr ⟨name, named, .inl fault⟩
    | @missingFields name named placed absent =>
        rcases placed.exists_textIs with ⟨folder, placed⟩
        exact .inr ⟨name, named, .inr ⟨folder, placed, .inl (.inl ⟨absent, rfl⟩)⟩⟩
    | @invalidFields name value named placed present unusable =>
        rcases placed.exists_textIs with ⟨folder, placed⟩
        exact .inr ⟨name, named, .inr ⟨folder, placed,
          .inl (.inr ⟨value, present, unusable, rfl⟩)⟩⟩
    | @field name before field after _ named placed present earlier fault =>
        rcases placed.exists_textIs with ⟨folder, placed⟩
        refine .inr ⟨name, named, .inr ⟨folder, placed, .inr ⟨_, present, .inl ?_⟩⟩⟩
        exact mapM_eq_error_iff.mpr ⟨before, field, after, rfl,
          fun other member => (accepted other).mpr (earlier other member),
          (fieldIff field error).mpr fault⟩

/-- The error of a collection is its first fault, whatever the lead. -/
theorem collectionObject_eq_error_iff
    {lead : Option String} {descriptor : Document} {error : Error} :
    collectionObject lead descriptor = .error error ↔
      CollectionObjectFault descriptor error := by
  by_cases object : IsObject descriptor
  · have inside : collectionObject lead descriptor = collection lead descriptor := by
      rcases object with ⟨members, rfl⟩
      rfl
    rw [inside, collection_eq_error_iff]
    constructor
    · exact .inside object
    · intro fault
      cases fault with
      | noObject unusable =>
          exact absurd object unusable
      | inside _ fault =>
          exact fault
  · have refused : collectionObject lead descriptor =
        .error (.invalidProperty "collections" documentContext) := by
      cases descriptor with
      | object members =>
          exact absurd ⟨members, rfl⟩ object
      | _ =>
          rfl
    rw [refused]
    constructor
    · intro same
      cases same
      exact .noObject object
    · intro fault
      cases fault with
      | noObject _ =>
          rfl
      | inside given _ =>
          exact absurd given object

/-- A document is refused before its collections when it is no object or does not list them. -/
theorem collectionDescriptors_eq_error_iff
    {document : Document} {error : Error} :
    collectionDescriptors document = .error error ↔
      (¬ IsObject document ∧ error = .invalidProperty "root" documentContext) ∨
      (IsObject document ∧ document.member? "collections" = none ∧
        error = .missingProperty "collections" documentContext) ∨
      ∃ value, document.member? "collections" = some value ∧
        (∀ descriptors, value ≠ .array descriptors) ∧
        error = .invalidProperty "collections" documentContext := by
  cases document with
  | object members =>
      have object : IsObject (.object members) := ⟨members, rfl⟩
      unfold collectionDescriptors
      cases (Document.object members).member? "collections" with
      | none =>
          simp [object, eq_comm]
      | some value =>
          cases value <;> simp [object, eq_comm]
  | _ =>
      simp [collectionDescriptors, Document.member?, IsObject, eq_comm]

/--
Locales are refused when they are not as the grammar has them, always with the same
error.
-/
theorem locales_eq_error_iff
    {document : Document} {error : Error} :
    locales document = .error error ↔
      ¬ HasLocales document ∧ error = invalidLocales := by
  have only : ∀ other, locales document = .error other → other = invalidLocales := by
    intro other failed
    unfold locales at failed
    split at failed
    · cases failed
    · cases failed
    · split at failed
      · cases failed
      · cases failed
        rfl
    · cases failed
      rfl
  rw [← exists_locales_eq_ok_iff]
  cases made : locales document with
  | ok codes =>
      simp
  | error other =>
      simp [only other made, eq_comm]

/-- The error of a whole document is its first fault, whatever the lead. -/
theorem config_eq_error_iff
    {lead : Option String} {document : Document} {error : Error} :
    config lead document = .error error ↔ ConfigurationFault document error := by
  unfold config
  simp only [bind_eq_error_iff, collectionDescriptors_eq_error_iff, locales_eq_error_iff,
    collectionDescriptors_eq_ok_iff]
  constructor
  · rintro (fault | ⟨descriptors, ⟨_, present⟩, failed | ⟨collections, converted, failed⟩⟩)
    · rcases fault with ⟨unusable, rfl⟩ | ⟨object, absent, rfl⟩ | ⟨value, present, unusable, rfl⟩
      · exact .noObject unusable
      · exact .missingCollections object absent
      · exact .invalidCollections present unusable
    · rcases mapM_eq_error_iff.mp failed with
        ⟨before, descriptor, after, rfl, succeeded, failed⟩
      refine .collection present ?_ (collectionObject_eq_error_iff.mp failed)
      intro earlier member
      exact exists_collectionObject_eq_ok_iff.mp (succeeded earlier member)
    · rcases failed with ⟨unusable, rfl⟩ | ⟨_, _, impossible⟩
      · refine .locales present ?_ unusable
        intro descriptor member
        exact exists_collectionObject_eq_ok_iff.mp
          (exists_mapM_eq_ok_iff.mp ⟨collections, converted⟩ descriptor member)
      · cases impossible
  · intro fault
    cases fault with
    | noObject unusable =>
        exact .inl (.inl ⟨unusable, rfl⟩)
    | missingCollections object absent =>
        exact .inl (.inr (.inl ⟨object, absent, rfl⟩))
    | invalidCollections present unusable =>
        exact .inl (.inr (.inr ⟨_, present, unusable, rfl⟩))
    | @collection before descriptor after _ present earlier fault =>
        refine .inr ⟨_, ⟨isObject_of_member? present, present⟩, .inl ?_⟩
        exact mapM_eq_error_iff.mpr ⟨before, descriptor, after, rfl,
          fun other member => exists_collectionObject_eq_ok_iff.mpr (earlier other member),
          collectionObject_eq_error_iff.mpr fault⟩
    | locales present accepted unusable =>
        rcases exists_mapM_eq_ok_iff.mpr fun descriptor member =>
            exists_collectionObject_eq_ok_iff.mpr (accepted descriptor member) with
          ⟨collections, converted⟩
        exact .inr ⟨_, ⟨isObject_of_member? present, present⟩,
          .inr ⟨collections, converted, .inl ⟨unusable, rfl⟩⟩⟩

end Descriptor

end ContentSchema

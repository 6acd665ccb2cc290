import Mathlib
import ContentSchema.Proofs.ConvertedWidgets
import ContentSchema.Proofs.DocumentEdits

/-!
# What a field says about being required

A field asks to be required unless it says that it is not.  What becomes of that in the
expression of the field depends on its kind: lists and relations to several entries
ignore it and are always marked as optional, a date has an expression of its own for
either case, and every other field carries the optional mark exactly when it does not
ask.

In a list of several items the same holds of the entry of each item, and the rest of
the list does not change.  The one item of a list is written without a mark, so what
it says shows only if it is a date.
-/

namespace ContentSchema

open Traversal (exists_split_of_append_cons)
open DocumentGrammar

/-! ## Descriptors that say something else -/

namespace Document

/-- A document without one of its members. -/
def withoutMember (document : Document) (key : String) : Document :=
  match document with
  | .object members => .object (members.filter fun member => member.1 != key)
  | other => other

/-- The descriptor of a field that says whether it is required, or that says nothing of it. -/
def asking (descriptor : Document) : Option Bool → Document
  | some required => descriptor.withMember "required" (.boolean required)
  | none => descriptor.withoutMember "required"

theorem member?_withoutMember_self (document : Document) (key : String) :
    (document.withoutMember key).member? key = none := by
  cases document with
  | object members =>
      rw [withoutMember, member?_object, List.lookup_eq_none_iff]
      intro member kept
      have other := bne_iff_ne.mp (List.mem_filter.mp kept).2
      exact bne_iff_ne.mpr other.symm
  | _ =>
      rfl

theorem member?_withoutMember_of_ne
    {key other : String}
    (different : other ≠ key)
    (document : Document) :
    (document.withoutMember key).member? other = document.member? other := by
  cases document with
  | object members =>
      rw [withoutMember, member?_object, member?_object]
      induction members with
      | nil =>
          rfl
      | cons member rest ih =>
          rcases member with ⟨label, value⟩
          by_cases removed : label = key
          · subst removed
            have unequal : (other == label) = false := by simpa using different
            rw [List.filter_cons_of_neg (by simp), ih, List.lookup_cons, unequal]
          · rw [List.filter_cons_of_pos (by simpa using removed), List.lookup_cons,
              List.lookup_cons, ih]
  | _ =>
      rfl

end Document

/-- What is said about being required changes no other property. -/
theorem DocumentGrammar.agreeExcept_asking
    {descriptor : Document}
    (object : IsObject descriptor)
    (answer : Option Bool) :
    AgreeExcept ["required"] descriptor (descriptor.asking answer) := by
  cases answer with
  | some required =>
      refine ⟨object, object.withMember _ _, ?_⟩
      intro key other
      exact member?_withMember_of_ne (by simpa using other) _ descriptor
  | none =>
      refine ⟨object, ?_, ?_⟩
      · rcases object with ⟨members, rfl⟩
        exact ⟨_, rfl⟩
      · intro key other
        exact Document.member?_withoutMember_of_ne (by simpa using other) descriptor

namespace Descriptor

/-- A field that says nothing asks to be required. -/
theorem flag_asking
    {descriptor : Document}
    (object : IsObject descriptor)
    (answer : Option Bool)
    (context : String) :
    flag (descriptor.asking answer) "required" context true = .ok (answer.getD true) := by
  rw [flag_eq_ok_iff]
  cases answer with
  | some required =>
      exact .inr (object.member?_withMember_self _ _)
  | none =>
      exact .inl ⟨Document.member?_withoutMember_self descriptor "required", rfl⟩

end Descriptor

/-! ## Widgets that are required or not -/

namespace Widget

/-- A widget that is made required or not, as far as its kind allows. -/
def requiring (required : Bool) : Widget → Widget
  | .leaf name _ content => .ofLeaf name required content
  | .list name _ items => .ofItems name items

theorem name_requiring (required : Bool) (widget : Widget) :
    (widget.requiring required).name = widget.name := by
  cases widget <;> rfl

/-- A leaf is written by its kind, with a mark if it is not required and no date. -/
theorem expression_ofLeaf (name : String) (required : Bool) (content : Leaf) :
    (ofLeaf name required content).expression =
      content.expression (required && content.mayBeRequired) ++
        (ofLeaf name required content).mark := by
  rw [expression, ofLeaf, baseExpression]

theorem expression_ofItems (name : String) (items : List Widget) :
    (ofItems name items).expression =
      Expression.arrayOf (itemExpression items) ++ Expression.optionalMark := by
  rw [expression, ofItems, baseExpression]
  rfl

/-- Without its mark, only a date shows whether it is required. -/
theorem baseExpression_requiring
    {widget : Widget}
    (noDate : widget.tag ≠ .scalar .datetime)
    (required : Bool) :
    (widget.requiring required).baseExpression = widget.baseExpression := by
  cases widget with
  | leaf name stored content =>
      rw [requiring, ofLeaf, baseExpression, baseExpression]
      cases content with
      | scalar kind =>
          cases kind with
          | datetime => exact absurd rfl noDate
          | _ => rfl
      | _ =>
          rfl
  | list name stored items =>
      rw [requiring, ofItems, baseExpression, baseExpression]

end Widget

namespace Descriptor

/-- The properties that every field has stay, but for whether it is required. -/
theorem Heading.asking
    {descriptor : Document} {name : String} {tag : Tag} {required : Bool}
    (heading : Heading descriptor name tag required)
    (answer : Option Bool) :
    Heading (descriptor.asking answer) name tag (answer.getD true) := by
  have named := requiredText_eq_ok_iff.mp heading.named
  have object := isObject_of_member? named.1
  have rest := agreeExcept_asking object answer
  refine ⟨?_, ?_, flag_asking object answer _⟩
  · rw [requiredText_eq_ok_iff, rest.same "name" (by decide)]
    exact named
  · rw [widgetTag_congr (rest.same "widget" (by decide))]
    exact heading.tagged

theorem isObject_of_widgetWithin
    {lists : Nat} {descriptor : Document} {made : Widget}
    (success : widgetWithin lists descriptor = .ok made) :
    IsObject descriptor := by
  cases widgetWithin_eq_ok_iff.mp success with
  | scalar heading => exact isObject_of_member? (requiredText_eq_ok_iff.mp heading.named).1
  | select heading _ => exact isObject_of_member? (requiredText_eq_ok_iff.mp heading.named).1
  | relation heading _ => exact isObject_of_member? (requiredText_eq_ok_iff.mp heading.named).1
  | list heading _ _ => exact isObject_of_member? (requiredText_eq_ok_iff.mp heading.named).1

/-- An accepted field stays accepted whatever it says, and only its widget's mark may change. -/
theorem widgetWithin_asking
    {lists : Nat} {descriptor : Document} {made : Widget}
    (success : widgetWithin lists descriptor = .ok made)
    (answer : Option Bool) :
    widgetWithin lists (descriptor.asking answer) =
      .ok (made.requiring (answer.getD true)) := by
  have rest := agreeExcept_asking (isObject_of_widgetWithin success) answer
  rw [widgetWithin_eq_ok_iff]
  cases widgetWithin_eq_ok_iff.mp success with
  | scalar heading =>
      exact .scalar (heading.asking answer)
  | select heading choice =>
      rw [← selectLeaf_congr (rest.same "options" (by decide))] at choice
      exact .select (heading.asking answer) choice
  | @relation _ _ name required leaf heading target =>
      have multiple : ∀ context, flag (descriptor.asking answer) "multiple" context false =
          flag descriptor "multiple" context false :=
        fun context => flag_congr (rest.same "multiple" (by decide)) context false
      rw [← relationLeaf_congr (rest.same "collection" (by decide)) multiple] at target
      exact .relation (heading.asking answer) target
  | list heading inside converted =>
      rw [← listItems_congr (rest.same "field" (by decide)) (rest.same "fields" (by decide))]
        at inside
      exact .list (heading.asking answer) inside converted

/-- Room for more lists does not change what a field is converted to. -/
theorem widgetWithin_mono
    {lists more : Nat} {descriptor : Document} {made : Widget}
    (success : widgetWithin lists descriptor = .ok made)
    (room : lists ≤ more) :
    widgetWithin more descriptor = .ok made := by
  have grown : ∀ more ≥ lists, widgetWithin more descriptor = .ok made := by
    refine widgetWithin_induction
      (motive := fun lists descriptor made =>
        ∀ more ≥ lists, widgetWithin more descriptor = .ok made)
      ?_ ?_ ?_ ?_ success
    · intro lists descriptor name required kind heading more _
      exact widgetWithin_eq_ok_iff.mpr (.scalar heading)
    · intro lists descriptor name required leaf heading choice more _
      exact widgetWithin_eq_ok_iff.mpr (.select heading choice)
    · intro lists descriptor name required leaf heading target more _
      exact widgetWithin_eq_ok_iff.mpr (.relation heading target)
    · intro lists descriptor name required fields items heading inside converted more room
      rcases Nat.exists_eq_add_of_le' (Nat.le_of_add_left_le room) with ⟨further, rfl⟩
      refine widgetWithin_eq_ok_iff.mpr (.list heading inside ?_)
      exact converted.imp fun _ _ grown => grown further (by omega)
  exact grown more room

end Descriptor

/-! ## Expressions with and without the optional mark -/

namespace Expression

/-- An expression ends with the mark that makes it accept a missing value. -/
def Marked (expression : String) : Prop :=
  optionalMark.toList <:+ expression.toList

/-- Whether an expression is marked is decided at its end. -/
instance (expression : String) : Decidable (Marked expression) :=
  inferInstanceAs (Decidable (optionalMark.toList <:+ expression.toList))

/-- The last characters alone tell that an expression is not marked. -/
theorem not_marked_append
    {front behind : String}
    (short : behind.toList.length ≤ optionalMark.toList.length)
    (apart : ¬ behind.toList <:+ optionalMark.toList) :
    ¬ Marked (front ++ behind) := by
  intro marked
  apply apart
  refine List.suffix_of_suffix_length_le ?_ marked short
  rw [String.toList_append]
  exact List.suffix_append _ _

/-- A date is never marked; how it is written says whether it may be missing. -/
theorem not_marked_requiredDate : ¬ Marked requiredDate := by
  decide

theorem not_marked_optionalDate : ¬ Marked optionalDate :=
  not_marked_append (by decide) (by decide)

theorem not_marked_oneOf (options : List String) : ¬ Marked (oneOf options) :=
  not_marked_append (by decide) (by decide)

theorem not_marked_referenceTo (collection : String) : ¬ Marked (referenceTo collection) := by
  have written : referenceTo collection =
      "reference(" ++ "\"" ++ String.ofList (Text.Literal.encode collection.toList) ++ "\")" := by
    unfold referenceTo Text.literal
    simp only [String.append_assoc]
    rfl
  rw [written]
  exact not_marked_append (by decide) (by decide)

end Expression

/-- A field that is never required: a list, or a relation to several entries. -/
def DocumentGrammar.NeverRequired (descriptor : Document) : Prop :=
  HasKind descriptor .list ∨
    (HasKind descriptor .relation ∧ descriptor.member? "multiple" = some (.boolean true))

open Expression (Marked optionalMark)

/-- How the widgets of a field that asks to be required and that does not ask are written. -/
structure ShowsRequired (descriptor : Document) (asking unasking : Widget) : Prop where
  never : NeverRequired descriptor →
    asking.expression = unasking.expression ∧
      asking.baseExpression = unasking.baseExpression ∧
        asking.expression = asking.baseExpression ++ optionalMark
  date : HasKind descriptor (.scalar .datetime) →
    asking.expression = Expression.requiredDate ∧
      unasking.expression = Expression.optionalDate ∧
        ¬ Marked asking.expression ∧ ¬ Marked unasking.expression
  other : ¬ NeverRequired descriptor → ¬ HasKind descriptor (.scalar .datetime) →
    ¬ Marked asking.expression ∧ unasking.expression = asking.expression ++ optionalMark

/-- What the variants of a document are converted to, by what is said about being required. -/
structure ConvertsTo (variant : Option Bool → Document) (asking unasking : Widget) : Prop where
  explicit : Descriptor.widget (variant (some true)) = .ok asking
  understood : Descriptor.widget (variant none) = .ok asking
  denied : Descriptor.widget (variant (some false)) = .ok unasking

namespace Descriptor

theorem hasKind_unique
    {descriptor : Document} {tag other : Tag}
    (kind : HasKind descriptor tag)
    (again : HasKind descriptor other) :
    tag = other := by
  rw [HasKind, ← @widgetTag_eq_ok_iff _ ""] at kind again
  rw [kind] at again
  cases again
  rfl

theorem hasKind_of_heading
    {descriptor : Document} {name : String} {tag : Tag} {required : Bool}
    (heading : Heading descriptor name tag required) :
    HasKind descriptor tag :=
  widgetTag_eq_ok_iff.mp heading.tagged

/-- The kind of a widget is the one that its descriptor names. -/
theorem hasKind_of_widgetWithin
    {lists : Nat} {descriptor : Document} {made : Widget}
    (success : widgetWithin lists descriptor = .ok made) :
    HasKind descriptor made.tag := by
  cases widgetWithin_eq_ok_iff.mp success with
  | scalar heading =>
      exact hasKind_of_heading heading
  | select heading choice =>
      rcases selectLeaf_eq_ok_iff.mp choice with ⟨_, _, _, _, _, rfl⟩
      exact hasKind_of_heading heading
  | relation heading target =>
      rcases relationLeaf_eq_ok_iff.mp target with ⟨_, _, _, _, _, rfl⟩
      exact hasKind_of_heading heading
  | list heading _ _ =>
      exact hasKind_of_heading heading

/-- A field whose leaf may be required, and is no date, shows by the mark alone whether it asks. -/
theorem showsRequired_of_marked
    {descriptor : Document} {name : String} {content : Leaf}
    (never : ¬ NeverRequired descriptor)
    (noDate : ¬ HasKind descriptor (.scalar .datetime))
    (free : content.mayBeRequired = true)
    (plain : content.tag ≠ .scalar .datetime)
    (same : content.expression false = content.expression true)
    (unmarked : ¬ Marked (content.expression true)) :
    ShowsRequired descriptor (.ofLeaf name true content) (.ofLeaf name false content) := by
  have date : ∀ required, (Widget.leaf name required content).isDate = false := by
    intro required
    exact beq_eq_false_iff_ne.mpr plain
  have asking : (Widget.ofLeaf name true content).expression = content.expression true := by
    rw [Widget.expression_ofLeaf, ofLeaf_eq_leaf free, free, Widget.mark]
    simp [Widget.required]
  have unasking : (Widget.ofLeaf name false content).expression =
      content.expression true ++ optionalMark := by
    rw [Widget.expression_ofLeaf, ofLeaf_eq_leaf free, Bool.false_and, same, Widget.mark, date]
    rfl
  refine ⟨fun kind => absurd kind never, fun kind => absurd kind noDate, fun _ _ => ?_⟩
  rw [asking, unasking]
  exact ⟨unmarked, rfl⟩

/-- A field whose widget is the same in any case, and is no date, is never required. -/
theorem showsRequired_of_never
    {descriptor : Document} {made : Widget}
    (never : NeverRequired descriptor)
    (noDate : ¬ HasKind descriptor (.scalar .datetime))
    (marked : made.mark = optionalMark) :
    ShowsRequired descriptor made made := by
  refine ⟨fun _ => ⟨rfl, rfl, ?_⟩, fun kind => absurd kind noDate,
    fun required => absurd never required⟩
  rw [Widget.expression, marked]

/-- A scalar shows by its mark whether it is required, and a date by its expression. -/
theorem showsRequired_scalar
    {descriptor : Document} {kind : Scalar}
    (named : HasKind descriptor (.scalar kind))
    (name : String) :
    ShowsRequired descriptor (.ofLeaf name true (.scalar kind))
      (.ofLeaf name false (.scalar kind)) := by
  have never : ¬ NeverRequired descriptor := by
    rintro (list | ⟨relation, _⟩)
    · exact absurd (hasKind_unique named list) nofun
    · exact absurd (hasKind_unique named relation) nofun
  by_cases date : kind = .datetime
  · subst date
    have asking : (Widget.ofLeaf name true (.scalar .datetime)).expression =
        Expression.requiredDate := by
      rw [Widget.expression_ofLeaf]
      rfl
    have unasking : (Widget.ofLeaf name false (.scalar .datetime)).expression =
        Expression.optionalDate := by
      rw [Widget.expression_ofLeaf]
      rfl
    refine ⟨fun kind => absurd kind never, fun _ => ?_, fun _ kind => absurd named kind⟩
    rw [asking, unasking]
    exact ⟨rfl, rfl, Expression.not_marked_requiredDate, Expression.not_marked_optionalDate⟩
  · have noDate : ¬ HasKind descriptor (.scalar .datetime) := by
      intro again
      cases hasKind_unique named again
      exact date rfl
    refine showsRequired_of_marked never noDate rfl ?_ ?_ ?_
    · rintro ⟨⟩
      exact date rfl
    · cases kind with
      | datetime => exact absurd rfl date
      | _ => rfl
    · cases kind with
      | datetime => exact absurd rfl date
      | _ => decide

/-- The widget of an accepted field shows whether its descriptor asks to be required. -/
theorem showsRequired_of_widgetWithin
    {lists : Nat} {descriptor : Document} {made : Widget}
    (success : widgetWithin lists descriptor = .ok made) :
    ShowsRequired descriptor (made.requiring true) (made.requiring false) := by
  cases widgetWithin_eq_ok_iff.mp success with
  | @scalar _ _ name required kind heading =>
      exact showsRequired_scalar (hasKind_of_heading heading) name
  | @select _ _ name required leaf heading choice =>
      have named := hasKind_of_heading heading
      rcases selectLeaf_eq_ok_iff.mp choice with ⟨_, options, _, _, _, rfl⟩
      refine showsRequired_of_marked ?_ ?_ rfl nofun rfl (Expression.not_marked_oneOf options)
      · rintro (list | ⟨relation, _⟩)
        · exact absurd (hasKind_unique named list) nofun
        · exact absurd (hasKind_unique named relation) nofun
      · exact fun date => absurd (hasKind_unique named date) nofun
  | @relation _ _ name required leaf heading target =>
      have named := hasKind_of_heading heading
      have noDate : ¬ HasKind descriptor (.scalar .datetime) :=
        fun date => absurd (hasKind_unique named date) nofun
      rcases relationLeaf_eq_ok_iff.mp target with ⟨collection, multiple, _, _, flagged, rfl⟩
      cases multiple with
      | false =>
          refine showsRequired_of_marked ?_ noDate rfl nofun rfl
            (Expression.not_marked_referenceTo collection)
          rintro (list | ⟨_, several⟩)
          · exact absurd (hasKind_unique named list) nofun
          · rcases flag_eq_ok_iff.mp flagged with ⟨absent, _⟩ | single
            · rw [several] at absent
              cases absent
            · rw [several] at single
              cases single
      | true =>
          have several : descriptor.member? "multiple" = some (.boolean true) := by
            rcases flag_eq_ok_iff.mp flagged with ⟨_, impossible⟩ | present
            · cases impossible
            · exact present
          exact showsRequired_of_never (.inr ⟨named, several⟩) noDate rfl
  | list heading _ _ =>
      have named := hasKind_of_heading heading
      exact showsRequired_of_never (.inl named)
        (fun date => absurd (hasKind_unique named date) nofun) rfl

theorem convertsTo_of_forall
    {variant : Option Bool → Document}
    (change : Bool → Widget)
    (converted : ∀ answer, widget (variant answer) = .ok (change (answer.getD true))) :
    ConvertsTo variant (change true) (change false) :=
  ⟨converted (some true), converted none, converted (some false)⟩

/-- A field that is accepted inside lists is also accepted on its own, whatever it says. -/
theorem convertsTo_of_widgetWithin
    {lists : Nat} {descriptor : Document} {made : Widget}
    (success : widgetWithin lists descriptor = .ok made)
    (room : lists ≤ listLimit) :
    ConvertsTo descriptor.asking (made.requiring true) (made.requiring false) :=
  convertsTo_of_forall (fun required => made.requiring required) fun answer =>
    widgetWithin_mono (widgetWithin_asking success answer) room

end Descriptor

/-! ## Items of lists -/

namespace DocumentGrammar

/-- The place of an item in a list, with the list that has another item in that place. -/
inductive ItemPlace (list : Document) :
    List Document → Document → List Document → (Document → Document) → Prop
  | only {item}
      (kind : HasKind list .list)
      (present : list.member? "field" = some item)
      (object : IsObject item) :
      ItemPlace list [] item [] fun other => list.withMember "field" other
  | among {before item after}
      (kind : HasKind list .list)
      (several : ∀ single, list.member? "field" = some single → ¬ IsObject single)
      (present : list.member? "fields" = some (.array (before ++ item :: after))) :
      ItemPlace list before item after fun other =>
        list.withMember "fields" (.array (before ++ other :: after))

end DocumentGrammar

namespace Descriptor

/-- The items of a list are those before a place, the one in it, and those after it. -/
theorem listItems_of_itemPlace
    {list item : Document} {before after : List Document} {exchange : Document → Document}
    (place : ItemPlace list before item after exchange)
    (name : String) :
    listItems list name = .ok (before ++ item :: after) := by
  cases place with
  | only _ present object => exact listItems_of_single present object name
  | among _ several present => exact listItems_of_several several present (by simp) name

theorem listItems_exchange
    {list item : Document} {before after : List Document} {exchange : Document → Document}
    (place : ItemPlace list before item after exchange)
    {other : Document}
    (object : IsObject other)
    (name : String) :
    listItems (exchange other) name = .ok (before ++ other :: after) := by
  cases place with
  | only _ present _ =>
      have outer := isObject_of_member? present
      exact listItems_of_single (outer.member?_withMember_self _ _) object name
  | among _ several present =>
      have outer := isObject_of_member? present
      refine listItems_of_several ?_ (outer.member?_withMember_self _ _) (by simp) name
      rw [member?_withMember_of_ne (by decide)]
      exact several

theorem member?_exchange
    {list item : Document} {before after : List Document} {exchange : Document → Document}
    (place : ItemPlace list before item after exchange)
    (other : Document)
    {property : String}
    (apart : property ≠ "field" ∧ property ≠ "fields") :
    (exchange other).member? property = list.member? property := by
  cases place with
  | only _ _ _ => exact member?_withMember_of_ne apart.1 _ _
  | among _ _ _ => exact member?_withMember_of_ne apart.2 _ _

/--
A list that is accepted stays accepted when an item is exchanged for another accepted
one, and only the widget in that place changes.
-/
theorem exists_exchange
    {lists : Nat} {list item : Document} {before after : List Document}
    {exchange : Document → Document} {made : Widget}
    (place : ItemPlace list before item after exchange)
    (success : widgetWithin lists list = .ok made) :
    ∃ further name left middle right,
      lists = further + 1 ∧ left.length = before.length ∧ right.length = after.length ∧
        widgetWithin further item = .ok middle ∧
          ∀ other replaced, widgetWithin further other = .ok replaced →
            widgetWithin lists (exchange other) =
              .ok (.ofItems name (left ++ replaced :: right)) := by
  have kind : HasKind list .list := by
    cases place with
    | only kind _ _ => exact kind
    | among kind _ _ => exact kind
  have different : ∀ {tag name required}, Heading list name tag required → tag = .list :=
    fun heading => hasKind_unique (hasKind_of_heading heading) kind
  cases widgetWithin_eq_ok_iff.mp success with
  | scalar heading => exact absurd (different heading) nofun
  | select heading _ => exact absurd (different heading) nofun
  | relation heading _ => exact absurd (different heading) nofun
  | @list further _ name required fields items heading inside converted =>
      rw [listItems_of_itemPlace place] at inside
      cases inside
      rcases exists_split_of_append_cons converted with
        ⟨left, middle, right, rfl, front, here, back⟩
      refine ⟨further, name, left, middle, right, rfl, front.length_eq.symm,
        back.length_eq.symm, here, ?_⟩
      intro other replaced accepted
      have named := requiredText_eq_ok_iff.mp heading.named
      have exchanged : Heading (exchange other) name .list required := by
        refine ⟨?_, ?_, ?_⟩
        · rw [requiredText_eq_ok_iff, member?_exchange place other (by decide)]
          exact named
        · rw [widgetTag_congr (member?_exchange place other (by decide))]
          exact heading.tagged
        · rw [flag_congr (member?_exchange place other (by decide))]
          exact heading.flagged
      have items := listItems_exchange place (isObject_of_widgetWithin accepted) name
      exact widgetWithin_eq_ok_iff.mpr
        (.list exchanged items (List.rel_append front (.cons accepted back)))

/-- What is said about being required, in the expression of a field and of those around it. -/
structure RequirednessShown (descriptor : Document) : Prop where
  /-- The field itself. -/
  own : ∃ asking unasking,
    ConvertsTo descriptor.asking asking unasking ∧ ShowsRequired descriptor asking unasking
  /-- An item beside others in a list: only its entry in the record changes, as if on its own. -/
  among : ∀ {before item after exchange},
    ItemPlace descriptor before item after exchange → before ++ after ≠ [] →
      ∃ asking unasking left right listAsking listUnasking,
        ConvertsTo item.asking asking unasking ∧
          ShowsRequired item asking unasking ∧
          asking.name = unasking.name ∧
          ConvertsTo (fun answer => exchange (item.asking answer)) listAsking listUnasking ∧
          listAsking.expression =
            Expression.arrayOf (Expression.inlineRecord (left ++ asking.entry :: right)) ++
              optionalMark ∧
          listUnasking.expression =
            Expression.arrayOf (Expression.inlineRecord (left ++ unasking.entry :: right)) ++
              optionalMark
  /-- The only item of a list: nothing changes, unless it is a date. -/
  only : ∀ {item exchange},
    ItemPlace descriptor [] item [] exchange →
      ∃ listAsking listUnasking,
        ConvertsTo (fun answer => exchange (item.asking answer)) listAsking listUnasking ∧
          (¬ HasKind item (.scalar .datetime) →
            listAsking.expression = listUnasking.expression) ∧
          (HasKind item (.scalar .datetime) →
            listAsking.expression =
                Expression.arrayOf Expression.requiredDate ++ optionalMark ∧
              listUnasking.expression =
                Expression.arrayOf Expression.optionalDate ++ optionalMark)

/-- A list of several items is an array of records with an entry for each. -/
theorem expression_ofItems_among
    {left right : List Widget} {middle : Widget}
    (several : left ++ right ≠ [])
    (name : String) :
    (Widget.ofItems name (left ++ middle :: right)).expression =
      Expression.arrayOf (Expression.inlineRecord
        (Widget.entries left ++ middle.entry :: Widget.entries right)) ++ optionalMark := by
  have more : (left ++ middle :: right).length ≠ 1 := by
    have filled := List.length_pos_iff.mpr several
    rw [List.length_append] at filled
    rw [List.length_append, List.length_cons]
    omega
  rw [Widget.expression_ofItems, Widget.itemExpression_of_length_ne_one more]
  simp only [Widget.entries_eq_map, List.map_append, List.map_cons]

/-- A list of one item leaves out what the item says about being required. -/
theorem expression_ofItems_only (name : String) (item : Widget) :
    (Widget.ofItems name [item]).expression =
      Expression.arrayOf item.baseExpression ++ optionalMark := by
  rw [Widget.expression_ofItems, Widget.itemExpression]

/-- Only a date shows in its own expression whether it is required. -/
theorem baseExpression_date
    {made : Widget}
    (date : made.tag = .scalar .datetime)
    (required : Bool) :
    (made.requiring required).baseExpression =
      if required then Expression.requiredDate else Expression.optionalDate := by
  cases made with
  | leaf name stored content =>
      cases content with
      | scalar kind =>
          cases date
          cases required <;> rw [Widget.requiring, Widget.ofLeaf, Widget.baseExpression] <;> rfl
      | select options enumeration =>
          cases date
      | relation collection multiple =>
          cases date
  | list name stored items =>
      cases date

/--
For every accepted field: what the field says about being required shows in its own
expression as its kind has it, and so it does in the entry of each item of a list of
several; the only item of a list shows it only as a date.
-/
theorem requirednessShown_of_widget
    {descriptor : Document} {made : Widget}
    (success : widget descriptor = .ok made) :
    RequirednessShown descriptor where
  own := ⟨_, _, convertsTo_of_widgetWithin success le_rfl, showsRequired_of_widgetWithin success⟩
  among := by
    intro before item after exchange place several
    rcases exists_exchange place success with
      ⟨further, name, left, middle, right, limit, leftLength, rightLength, inside, exchanged⟩
    have beside : left ++ right ≠ [] := by
      rw [← List.length_pos_iff, List.length_append, leftLength, rightLength,
        ← List.length_append]
      exact List.length_pos_iff.mpr several
    refine ⟨_, _, Widget.entries left, Widget.entries right, _, _,
      convertsTo_of_widgetWithin inside (by omega), showsRequired_of_widgetWithin inside, ?_,
      convertsTo_of_forall (fun required =>
        .ofItems name (left ++ middle.requiring required :: right)) ?_,
      expression_ofItems_among beside name, expression_ofItems_among beside name⟩
    · rw [Widget.name_requiring, Widget.name_requiring]
    · exact fun answer => exchanged _ _ (widgetWithin_asking inside answer)
  only := by
    intro item exchange place
    rcases exists_exchange place success with
      ⟨further, name, left, middle, right, limit, leftLength, rightLength, inside, exchanged⟩
    cases List.length_eq_zero_iff.mp leftLength
    cases List.length_eq_zero_iff.mp rightLength
    have kind := hasKind_of_widgetWithin inside
    refine ⟨_, _, convertsTo_of_forall (fun required =>
        .ofItems name [middle.requiring required]) ?_, ?_, ?_⟩
    · exact fun answer => exchanged _ _ (widgetWithin_asking inside answer)
    · intro noDate
      have plain : middle.tag ≠ .scalar .datetime := by
        intro date
        rw [date] at kind
        exact noDate kind
      rw [expression_ofItems_only, expression_ofItems_only,
        Widget.baseExpression_requiring plain, Widget.baseExpression_requiring plain]
    · intro date
      have tag := hasKind_unique kind date
      rw [expression_ofItems_only, expression_ofItems_only, baseExpression_date tag,
        baseExpression_date tag]
      exact ⟨rfl, rfl⟩

/-- A list with a date beside a text. -/
def agenda : Document :=
  .object [
    ("fields", .array [plainField "title" "string", plainField "starts" "datetime"]),
    ("name", .string "agenda"),
    ("widget", .string "list")]

/-- A date beside a text decides its own entry in the record of the list, and no more. -/
theorem requirednessShown_agenda :
    widget agenda =
        .ok (.ofItems "agenda"
          [.ofLeaf "title" true (.scalar .string), .ofLeaf "starts" true (.scalar .datetime)]) ∧
      ∃ left right listAsking listUnasking,
        ConvertsTo
            (fun answer => agenda.withMember "fields" (.array
              [plainField "title" "string", (plainField "starts" "datetime").asking answer]))
            listAsking listUnasking ∧
          listAsking.expression =
            Expression.arrayOf (Expression.inlineRecord
              (left ++ ("starts: " ++ Expression.requiredDate) :: right)) ++ optionalMark ∧
          listUnasking.expression =
            Expression.arrayOf (Expression.inlineRecord
              (left ++ ("starts: " ++ Expression.optionalDate) :: right)) ++ optionalMark := by
  have converted : widget agenda =
      .ok (.ofItems "agenda"
        [.ofLeaf "title" true (.scalar .string), .ofLeaf "starts" true (.scalar .datetime)]) := by
    have title : widgetWithin 31 (plainField "title" "string") =
        .ok (.ofLeaf "title" true (.scalar .string)) :=
      widgetWithin_eq_ok_iff.mpr (.scalar ⟨rfl, rfl, rfl⟩)
    have starts : widgetWithin 31 (plainField "starts" "datetime") =
        .ok (.ofLeaf "starts" true (.scalar .datetime)) :=
      widgetWithin_eq_ok_iff.mpr (.scalar ⟨rfl, rfl, rfl⟩)
    exact widgetWithin_eq_ok_iff.mpr
      (.list ⟨rfl, rfl, rfl⟩ rfl (.cons title (.cons starts .nil)))
  have place : ItemPlace agenda [plainField "title" "string"] (plainField "starts" "datetime") []
      fun other => agenda.withMember "fields" (.array ([plainField "title" "string"] ++ [other])) :=
    .among rfl nofun rfl
  rcases (requirednessShown_of_widget converted).among place (by simp) with
    ⟨asking, unasking, left, right, listAsking, listUnasking, item, shows, names, list, last⟩
  have date := shows.date rfl
  have named : asking.name = "starts" := by
    have made : widget ((plainField "starts" "datetime").asking (some true)) =
        .ok (.ofLeaf "starts" true (.scalar .datetime)) :=
      widgetWithin_eq_ok_iff.mpr (.scalar ⟨rfl, rfl, rfl⟩)
    cases made.symm.trans item.explicit
    rfl
  have key : Expression.key "starts" = "starts" := by
    decide +kernel
  refine ⟨converted, left, right, listAsking, listUnasking, list, ?_, ?_⟩
  · rw [last.1, Widget.entry, date.1, named, key]
    rfl
  · rw [last.2, Widget.entry, date.2.1, ← names, named, key]
    rfl

end Descriptor

end ContentSchema

import Mathlib
import ContentSchema.CommandLine
import ContentSchema.Proofs.DescriptorSteps
import ContentSchema.Proofs.JsonReading
import ContentSchema.Proofs.Members

/-!
# Reloading a dump

A dump shows a configuration under keys of its own: the fields of a collection are its
widgets, those of a list its items, and the locales stand at the root.  With the keys
of a configuration in their place, a dump converts to the configuration that it shows.

Every conversion builds fixed points only.  Requiredness is settled by a policy that
does not change its own result, the expression of a choice is computed from options
that are shown, and a list shows its fields in the one form in which they are read.
The induction over nested lists spends two containers on each of them, so a dump has
room to spare below the greatest nesting that a reader of JSON texts takes.
-/

namespace ContentSchema

open Document (Holds Legible)
open Traversal (mapM_eq_ok_iff mapM_eq_some_iff exists_source_of_mem)

/-! ## A dump as a configuration -/

namespace Document

mutual

/-- Change every part of a document, the innermost first. -/
def changeParts (change : Document → Document) : Document → Document
  | .array elements => change (.array (changeElementParts change elements))
  | .object members => change (.object (changeMemberParts change members))
  | document => change document

/-- Change every part of each element. -/
def changeElementParts (change : Document → Document) : List Document → List Document
  | [] => []
  | element :: rest => changeParts change element :: changeElementParts change rest

/-- Change every part of the value of each member; the keys stay. -/
def changeMemberParts (change : Document → Document) :
    List (String × Document) → List (String × Document)
  | [] => []
  | (key, value) :: rest => (key, changeParts change value) :: changeMemberParts change rest

end

/-- Change the elements of an array. -/
def mapElements (change : Document → Document) : Document → Document
  | .array elements => .array (elements.map change)
  | document => document

/-- A widget of a dump is a list. -/
def isList (document : Document) : Bool :=
  match document.member? "widget" with
  | some (.string text) => text == Tag.list.text
  | _ => false

/-- The items of every list, at every depth, as fields. -/
def renameItems (document : Document) : Document :=
  document.changeParts fun part =>
    if part.isList then part.replaceMember "items" "fields" id else part

/-- The widgets of a collection as fields. -/
def renameWidgets (collection : Document) : Document :=
  collection.replaceMember "widgets" "fields" id

/-- The locales among the settings of languages. -/
def moveLocales (document : Document) : Document :=
  document.replaceMember "locales" "i18n" fun codes => .object [("locales", codes)]

/-- A dump with the keys of a configuration. -/
def asConfiguration (dump : Document) : Document :=
  moveLocales ((renameItems dump).replaceMember "collections" "collections"
    (mapElements renameWidgets))

/-! ## Renaming the items of lists -/

theorem changeElementParts_eq_map (change : Document → Document) (elements : List Document) :
    changeElementParts change elements = elements.map (changeParts change) := by
  induction elements with
  | nil =>
      rfl
  | cons element rest ih =>
      rw [changeElementParts, ih, List.map_cons]

theorem changeMemberParts_eq_map
    (change : Document → Document)
    (members : List (String × Document)) :
    changeMemberParts change members =
      members.map fun member => (member.1, member.2.changeParts change) := by
  induction members with
  | nil =>
      rfl
  | cons member rest ih =>
      rw [changeMemberParts, ih, List.map_cons]

theorem renameItems_array (elements : List Document) :
    renameItems (.array elements) = .array (elements.map renameItems) := by
  rw [renameItems, changeParts, changeElementParts_eq_map]
  rfl

theorem renameItems_texts (texts : List String) :
    renameItems (.array (texts.map .string)) = .array (texts.map .string) := by
  rw [renameItems_array, List.map_map]
  rfl

theorem ordered_texts (texts : List String) :
    ordered (.array (texts.map .string)) = .array (texts.map .string) := by
  rw [ordered, orderedElements_eq_map, List.map_map]
  rfl

theorem Holds.isList_iff
    {document : Document} {members : List (String × Document)}
    (holds : document.Holds members) :
    document.isList = true ↔ members.lookup "widget" = some (.string Tag.list.text) := by
  rw [isList, holds.member?]
  cases members.lookup "widget" with
  | none =>
      simp
  | some value =>
      cases value <;> simp

/-- The members of an object as a dump shows them, with the items inside them renamed. -/
def shownMembers (members : List (String × Document)) : List (String × Document) :=
  members.map fun member => (member.1, renameItems member.2.ordered)

/-- Key order changes the members of an object only inside their values. -/
theorem holds_ordered
    {members : List (String × Document)}
    (distinct : (members.map Prod.fst).Nodup) :
    (object members).ordered.Holds
      (members.map fun member => (member.1, member.2.ordered)) := by
  have keys : (members.map fun member => (member.1, member.2.ordered)).map Prod.fst =
      members.map Prod.fst := List.map_map
  rw [ordered, orderedMembers_eq_map]
  exact holds_ofMembers (keys ▸ distinct)

/--
What the renaming makes of an object: its members are renamed inside, and its own items
if it is a list.
-/
theorem exists_shown
    {members : List (String × Document)}
    (distinct : (members.map Prod.fst).Nodup) :
    ∃ shown : Document, shown.Holds (shownMembers members) ∧
      renameItems (object members).ordered =
        if shown.isList then shown.replaceMember "items" "fields" id else shown := by
  have holds := holds_ordered distinct
  rcases holds.listed with ⟨listed, same, _⟩
  rw [same] at holds ⊢
  refine ⟨.object (listed.map fun member => (member.1, renameItems member.2)), ?_, ?_⟩
  · have changed := holds.mapValues renameItems
    rw [List.map_map] at changed
    exact changed
  · rw [renameItems, changeParts, changeMemberParts_eq_map]
    rfl

/-- An object that is no list keeps its keys. -/
theorem holds_shown
    {members : List (String × Document)}
    (distinct : (members.map Prod.fst).Nodup)
    (other : (shownMembers members).lookup "widget" ≠ some (.string Tag.list.text)) :
    (renameItems (object members).ordered).Holds (shownMembers members) := by
  rcases exists_shown distinct with ⟨shown, holds, same⟩
  rw [same, if_neg (mt holds.isList_iff.mp other)]
  exact holds

/-- A list shows its items as fields. -/
theorem holds_shown_list
    {members : List (String × Document)}
    (distinct : (members.map Prod.fst).Nodup)
    (list : (shownMembers members).lookup "widget" = some (.string Tag.list.text))
    (renamed :
      (((shownMembers members).map (replaced "items" "fields" id)).map Prod.fst).Nodup) :
    (renameItems (object members).ordered).Holds
      ((shownMembers members).map (replaced "items" "fields" id)) := by
  rcases exists_shown distinct with ⟨shown, holds, same⟩
  rw [same, if_pos (holds.isList_iff.mpr list)]
  exact holds.replaceMember "items" "fields" id renamed

end Document

/-! ## Widgets -/

theorem Tag.text_injective : Function.Injective Tag.text := by
  intro left right same
  have found := Tag.ofText?_text left
  rw [same, Tag.ofText?_text] at found
  exact (Option.some.inj found).symm

theorem Leaf.tag_ne_list (content : Leaf) : content.tag ≠ .list := by
  cases content <;> nofun

namespace Descriptor

open Document
open Text (isBlank)

theorem documents_eq_map (widgets : List Widget) :
    Widget.documents widgets = widgets.map Widget.document := by
  induction widgets with
  | nil =>
      rfl
  | cons widget rest ih =>
      rw [Widget.documents, ih, List.map_cons]

/-- A widget of a dump as a descriptor. -/
def shownWidget (widget : Widget) : Document :=
  renameItems widget.document.ordered

/-- A leaf is shown with the members of its kind, none of which is renamed. -/
theorem holds_shownWidget_leaf
    (name : String)
    (required : Bool)
    (content : Leaf) :
    (shownWidget (.leaf name required content)).Holds
      (("name", .string name) :: ("required", .boolean required) :: content.members) := by
  have shown : shownMembers
      (("name", .string name) :: ("required", .boolean required) :: content.members) =
        ("name", .string name) :: ("required", .boolean required) :: content.members := by
    cases content with
    | scalar kind =>
        rfl
    | relation collection multiple =>
        rfl
    | select options enumeration =>
        simp only [shownMembers, Leaf.members, List.map_cons, List.map_nil, ordered_texts,
          renameItems_texts]
        rfl
  have holds := @holds_shown
    (("name", .string name) :: ("required", .boolean required) :: content.members)
  rw [shown] at holds
  apply holds
  · have keys : ["name", "required", "widget", "options", "enumeration"].Nodup ∧
        ["name", "required", "widget", "collection", "multiple"].Nodup := by decide
    cases content with
    | scalar kind =>
        exact keys.1.sublist (List.take_sublist 3 ["name", "required", "widget", _, _])
    | select options enumeration =>
        exact keys.1
    | relation collection multiple =>
        exact keys.2
  · have kind : (("name", Document.string name) :: ("required", .boolean required) ::
        content.members).lookup "widget" = some (.string content.tag.text) := rfl
    rw [kind]
    intro same
    exact content.tag_ne_list (Tag.text_injective (Document.string.inj (Option.some.inj same)))

theorem shown_widgets (widgets : List Widget) :
    renameItems (ordered (.array (Widget.documents widgets))) =
      .array (widgets.map shownWidget) := by
  rw [ordered, orderedElements_eq_map, renameItems_array, documents_eq_map, List.map_map,
    List.map_map]
  rfl

/-- A list is shown with its items as fields. -/
theorem holds_shownWidget_list
    (name : String)
    (required : Bool)
    (items : List Widget) :
    (shownWidget (.list name required items)).Holds
      [ ("name", .string name), ("required", .boolean required),
        ("widget", .string Tag.list.text), ("fields", .array (items.map shownWidget)) ] := by
  have holds := @holds_shown_list
    [ ("name", .string name), ("required", .boolean required),
      ("widget", .string Tag.list.text), ("items", .array (Widget.documents items)) ]
  simp only [shownMembers, List.map_cons, List.map_nil, shown_widgets] at holds
  apply holds
  · have keys : ["name", "required", "widget", "items"].Nodup := by decide
    exact keys
  · rfl
  · have keys : ["name", "required", "widget", "fields"].Nodup := by decide
    exact keys

/-- Asking for what a leaf settled on gives the same leaf. -/
theorem ofLeaf_settled
    (name : String)
    (required : Bool)
    (content : Leaf) :
    Widget.ofLeaf name (required && content.mayBeRequired) content =
      Widget.ofLeaf name required content := by
  simp [Widget.ofLeaf]

/-- A leaf whose policy has been applied is converted to itself. -/
theorem widgetWithin_of_settled
    {lists : Nat} {descriptor : Document} {name : String} {required : Bool} {content : Leaf}
    (step : FieldStep lists descriptor
      (.ofLeaf name (required && content.mayBeRequired) content)) :
    widgetWithin lists descriptor = .ok (.ofLeaf name required content) := by
  rw [ofLeaf_settled] at step
  exact widgetWithin_eq_ok_iff.mpr step

/-- The heading of a descriptor is read off its members in any order. -/
theorem heading_of_holds
    {descriptor : Document} {name : String} {required : Bool} {tag : Tag}
    {more : List (String × Document)}
    (holds : descriptor.Holds
      (("name", .string name) :: ("required", .boolean required) ::
        ("widget", .string tag.text) :: more))
    (filled : isBlank name = false) :
    Heading descriptor name tag required := by
  refine ⟨requiredText_eq_ok_iff.mpr ⟨?_, filled⟩, widgetTag_eq_ok_iff.mpr ?_,
    flag_eq_ok_iff.mpr (.inr ?_)⟩
  · exact holds.member? "name"
  · exact holds.member? "widget"
  · exact holds.member? "required"

theorem mapM_optionText?_texts (texts : List String) :
    (texts.map Document.string).mapM optionText? = some texts := by
  rw [mapM_eq_some_iff, List.forall₂_map_left_iff, List.forall₂_same]
  exact fun _ _ => rfl

/-- A widget that was converted converts to itself from a dump. -/
theorem widgetWithin_shownWidget
    {lists : Nat} {descriptor : Document} {widget : Widget}
    (accepted : widgetWithin lists descriptor = .ok widget) :
    widgetWithin lists (shownWidget widget) = .ok widget := by
  refine widgetWithin_induction
    (motive := fun lists _ widget => widgetWithin lists (shownWidget widget) = .ok widget)
    ?_ ?_ ?_ ?_ accepted
  · intro lists descriptor name required kind heading
    have filled := (requiredText_eq_ok_iff.mp heading.named).2
    have holds := holds_shownWidget_leaf name (required && true) (.scalar kind)
    exact widgetWithin_of_settled (.scalar (heading_of_holds holds filled))
  · intro lists descriptor name required content heading choice
    have filled := (requiredText_eq_ok_iff.mp heading.named).2
    rcases selectLeaf_eq_ok_iff.mp choice with ⟨options, texts, _, some, read, rfl⟩
    have holds := holds_shownWidget_leaf name (required && true) (.selectOf texts)
    refine widgetWithin_of_settled (.select (heading_of_holds holds filled) ?_)
    refine selectLeaf_eq_ok_iff.mpr ⟨texts.map .string, texts, holds.member? "options", ?_,
      mapM_optionText?_texts texts, rfl⟩
    rw [Ne, List.map_eq_nil_iff, ← List.length_eq_zero_iff,
      ← (mapM_eq_some_iff.mp read).length_eq, List.length_eq_zero_iff]
    exact some
  · intro lists descriptor name required content heading target
    -- A relation to several entries shows that it is not required, which it may not be.
    have filled := (requiredText_eq_ok_iff.mp heading.named).2
    rcases relationLeaf_eq_ok_iff.mp target with ⟨collection, multiple, _, usable, _, rfl⟩
    have holds := holds_shownWidget_leaf name (required && !multiple)
      (.relation collection multiple)
    refine widgetWithin_of_settled (.relation (heading_of_holds holds filled) ?_)
    exact relationLeaf_eq_ok_iff.mpr ⟨collection, multiple, holds.member? "collection", usable,
      flag_eq_ok_iff.mpr (.inr (holds.member? "multiple")), rfl⟩
  · intro lists descriptor name required fields items heading inside converted
    -- One item may have come from `field`, but the dump shows a list of fields.
    have filled := (requiredText_eq_ok_iff.mp heading.named).2
    have holds := holds_shownWidget_list name false items
    have some : fields ≠ [] := by
      rcases listItems_eq_ok_iff.mp inside with ⟨_, _, rfl⟩ | ⟨_, _, some⟩
      · exact List.cons_ne_nil _ _
      · exact some
    have listed : listItems (shownWidget (.ofItems name items)) name =
        .ok (items.map shownWidget) := by
      refine listItems_eq_ok_iff.mpr (.inr ⟨?_, holds.member? "fields", ?_⟩)
      · intro members single
        cases (holds.member? "field").symm.trans single
      · rw [Ne, List.map_eq_nil_iff, ← List.length_eq_zero_iff, ← converted.length_eq,
          List.length_eq_zero_iff]
        exact some
    refine widgetWithin_eq_ok_iff.mpr (.list (heading_of_holds holds filled) listed ?_)
    rw [List.forall₂_map_left_iff, List.forall₂_same]
    intro item member
    rcases exists_source_of_mem converted member with ⟨field, _, reloaded⟩
    exact reloaded

/-! ## The nesting of a dump -/

theorem legible_texts (room : Nat) (texts : List String) :
    Legible (room + 1) (.array (texts.map .string)) := by
  apply Legible.array
  intro element member
  rcases List.mem_map.mp member with ⟨text, _, rfl⟩
  exact .string text

theorem legible_leaf
    (name : String)
    (required : Bool)
    (content : Leaf)
    (room : Nat) :
    Legible (room + 2) (Widget.leaf name required content).document := by
  apply Legible.object
  cases content with
  | scalar kind =>
      simp only [Leaf.members, List.forall_mem_cons]
      exact ⟨.string _, .boolean _, .string _, nofun⟩
  | select options enumeration =>
      simp only [Leaf.members, List.forall_mem_cons]
      exact ⟨.string _, .boolean _, .string _, legible_texts room options, .string _, nofun⟩
  | relation collection multiple =>
      simp only [Leaf.members, List.forall_mem_cons]
      exact ⟨.string _, .boolean _, .string _, .string _, .boolean _, nofun⟩

/-- A dump spends two containers on a widget and on each list in it. -/
theorem legible_document
    {lists : Nat} {descriptor : Document} {widget : Widget}
    (accepted : widgetWithin lists descriptor = .ok widget) :
    Legible (2 * lists + 2) widget.document := by
  refine widgetWithin_induction
    (motive := fun lists _ widget => Legible (2 * lists + 2) widget.document)
    ?_ ?_ ?_ ?_ accepted
  · intro lists _ name required kind _
    exact legible_leaf name _ _ (2 * lists)
  · intro lists _ name required content _ _
    exact legible_leaf name _ _ (2 * lists)
  · intro lists _ name required content _ _
    exact legible_leaf name _ _ (2 * lists)
  · intro lists _ name _ fields items _ _ converted
    -- The object of the list and the array of its items.
    have room : 2 * (lists + 1) + 2 = 2 * lists + 2 + 1 + 1 := by omega
    rw [room]
    apply Legible.object
    simp only [List.forall_mem_cons]
    refine ⟨.string _, .boolean _, .string _, .array ?_, nofun⟩
    rw [documents_eq_map]
    intro element member
    rcases List.mem_map.mp member with ⟨item, inside, rfl⟩
    rcases exists_source_of_mem converted inside with ⟨field, _, legible⟩
    exact legible

/-! ## Collections and configurations -/

/-- The member of a collection that shows its prefix, if it has one. -/
def prefixMembers : Option String → List (String × Document)
  | none => []
  | some lead => [("path_prefix", .string lead)]

theorem document_collection (made : Collection) :
    made.document = .object
      (("name", .string made.name) :: ("folder", .string made.folder) ::
        ("widgets", .array (Widget.documents made.widgets)) :: prefixMembers made.pathPrefix) := by
  unfold Collection.document
  cases made.pathPrefix <;> rfl

/-- A collection of a dump as a descriptor. -/
def shownCollection (made : Collection) : Document :=
  renameWidgets (renameItems made.document.ordered)

theorem nodup_keys_collection
    (name folder widgets : Document)
    (key : String)
    (fresh : key ∉ ["name", "folder", "path_prefix"])
    (lead : Option String) :
    (((("name", name) :: ("folder", folder) :: (key, widgets) :: prefixMembers lead).map
      Prod.fst)).Nodup := by
  simp only [List.mem_cons, not_or] at fresh
  cases lead <;> simp [prefixMembers, fresh, Ne.symm fresh.1, Ne.symm fresh.2.1]

/-- A collection is shown with its widgets as fields, and its prefix besides. -/
theorem holds_shownCollection (made : Collection) :
    (shownCollection made).Holds
      (("name", .string made.name) :: ("folder", .string made.folder) ::
        ("fields", .array (made.widgets.map shownWidget)) :: prefixMembers made.pathPrefix) := by
  have lead : shownMembers (prefixMembers made.pathPrefix) = prefixMembers made.pathPrefix ∧
      (prefixMembers made.pathPrefix).map (replaced "widgets" "fields" id) =
        prefixMembers made.pathPrefix := by
    cases made.pathPrefix <;> exact ⟨rfl, rfl⟩
  have shown : shownMembers
      (("name", .string made.name) :: ("folder", .string made.folder) ::
        ("widgets", .array (Widget.documents made.widgets)) :: prefixMembers made.pathPrefix) =
      ("name", .string made.name) :: ("folder", .string made.folder) ::
        ("widgets", .array (made.widgets.map shownWidget)) :: prefixMembers made.pathPrefix := by
    conv_rhs => rw [← lead.1, ← shown_widgets]
    rfl
  have renamed :
      (("name", Document.string made.name) :: ("folder", .string made.folder) ::
        ("widgets", .array (made.widgets.map shownWidget)) ::
          prefixMembers made.pathPrefix).map (replaced "widgets" "fields" id) =
      ("name", .string made.name) :: ("folder", .string made.folder) ::
        ("fields", .array (made.widgets.map shownWidget)) :: prefixMembers made.pathPrefix := by
    conv_rhs => rw [← lead.2]
    rfl
  have noList : (("name", Document.string made.name) :: ("folder", .string made.folder) ::
      ("widgets", .array (made.widgets.map shownWidget)) ::
        prefixMembers made.pathPrefix).lookup "widget" ≠ some (.string Tag.list.text) := by
    cases made.pathPrefix <;> exact nofun
  have holds := @holds_shown
    (("name", .string made.name) :: ("folder", .string made.folder) ::
      ("widgets", .array (Widget.documents made.widgets)) :: prefixMembers made.pathPrefix)
    (nodup_keys_collection _ _ _ "widgets" (by decide) _)
  rw [shown] at holds
  rw [shownCollection, document_collection, ← renamed]
  apply (holds noList).replaceMember
  rw [renamed]
  exact nodup_keys_collection _ _ _ "fields" (by decide) _

/--
A collection that was accepted is converted to itself again, with the prefix of the new
conversion.
-/
theorem collectionObject_shownCollection
    {lead other : Option String} {descriptor : Document} {made : Collection}
    (accepted : collectionObject lead descriptor = .ok made) :
    collectionObject other (shownCollection made) =
      .ok { made with pathPrefix := usablePrefix other } := by
  rcases collection_eq_ok_iff.mp (collectionObject_eq_ok_iff.mp accepted).2 with
    ⟨name, folder, fields, widgets, named, placed, _, converted, rfl⟩
  have holds := holds_shownCollection ⟨name, folder, widgets, usablePrefix lead⟩
  rcases holds.listed with ⟨listed, object, _⟩
  refine collectionObject_eq_ok_iff.mpr ⟨⟨listed, object⟩, ?_⟩
  refine collection_eq_ok_iff.mpr ⟨name, folder, widgets.map shownWidget, widgets, ?_, ?_,
    holds.member? "fields", ?_, rfl⟩
  · exact requiredText_eq_ok_iff.mpr
      ⟨holds.member? "name", (requiredText_eq_ok_iff.mp named).2⟩
  · exact requiredText_eq_ok_iff.mpr
      ⟨holds.member? "folder", (requiredText_eq_ok_iff.mp placed).2⟩
  · rw [mapM_eq_ok_iff, List.forall₂_map_left_iff, List.forall₂_same]
    intro item member
    rcases exists_source_of_mem (mapM_eq_ok_iff.mp converted) member with ⟨field, _, accepted⟩
    exact widgetWithin_shownWidget accepted

/-- The room that a collection needs is bounded, since lists are nested to a limit. -/
theorem legible_collection
    {lead : Option String} {descriptor : Document} {made : Collection}
    (accepted : collectionObject lead descriptor = .ok made) :
    Legible (2 * listLimit + 4) made.document := by
  rcases collection_eq_ok_iff.mp (collectionObject_eq_ok_iff.mp accepted).2 with
    ⟨name, folder, fields, widgets, _, _, _, converted, rfl⟩
  rw [document_collection]
  apply Legible.object
  simp only [List.forall_mem_cons]
  refine ⟨.string _, .string _, .array ?_, ?_⟩
  · rw [documents_eq_map]
    intro element member
    rcases List.mem_map.mp member with ⟨item, inside, rfl⟩
    rcases exists_source_of_mem (mapM_eq_ok_iff.mp converted) inside with ⟨field, _, accepted⟩
    exact legible_document accepted
  · intro member present
    cases shown : usablePrefix lead with
    | none =>
        rw [shown] at present
        cases present
    | some text =>
        rw [shown] at present
        rw [List.mem_singleton.mp present]
        exact .string text

/-- A dump with its keys renamed has the two members of a configuration. -/
theorem holds_asConfiguration (made : Config) :
    made.document.ordered.asConfiguration.Holds
      [ ("collections", .array (made.collections.map shownCollection)),
        ("i18n", .object [("locales", .array (made.locales.map .string))]) ] := by
  have collections : renameItems (ordered (.array (made.collections.map Collection.document))) =
      .array (made.collections.map fun made => renameItems made.document.ordered) := by
    rw [ordered, orderedElements_eq_map, renameItems_array, List.map_map, List.map_map]
    rfl
  have distinct : ["collections", "locales"].Nodup ∧ ["collections", "i18n"].Nodup := by decide
  have holds := @holds_shown
    [ ("collections", .array (made.collections.map Collection.document)),
      ("locales", .array (made.locales.map .string)) ] distinct.1 fun same => by cases same
  simp only [shownMembers, List.map_cons, List.map_nil, collections, ordered_texts,
    renameItems_texts] at holds
  have fields := holds.replaceMember "collections" "collections" (mapElements renameWidgets)
    distinct.1
  have moved := fields.replaceMember "locales" "i18n"
    (fun codes => .object [("locales", codes)]) distinct.2
  have shown : mapElements renameWidgets
      (.array (made.collections.map fun made => renameItems made.document.ordered)) =
        .array (made.collections.map shownCollection) := by
    rw [mapElements, List.map_map]
    rfl
  rw [← shown]
  exact moved

theorem usable_of_locales
    {document : Document} {codes : List String}
    (read : locales document = .ok codes) :
    (codes.map Document.string).mapM usableText? = some codes := by
  rw [mapM_eq_some_iff, List.forall₂_map_left_iff, List.forall₂_same]
  intro code member
  exact usableText?_eq_some_iff.mpr ⟨rfl, not_isBlank_of_locales read member⟩

/-- A dump of what was accepted converts with any lead, which only changes prefixes. -/
theorem config_asConfiguration
    {lead other : Option String} {document : Document} {made : Config}
    (accepted : config lead document = .ok made) :
    config other made.document.ordered.asConfiguration =
      .ok ⟨made.collections.map fun made => { made with pathPrefix := usablePrefix other },
        made.locales⟩ := by
  rcases config_eq_ok_iff.mp accepted with
    ⟨descriptors, collections, codes, _, converted, read, rfl⟩
  have holds := holds_asConfiguration ⟨collections, codes⟩
  rcases holds.listed with ⟨listed, object, _⟩
  refine config_eq_ok_iff.mpr ⟨collections.map shownCollection, _, codes, ?_, ?_, ?_, rfl⟩
  · exact collectionDescriptors_eq_ok_iff.mpr ⟨⟨listed, object⟩, holds.member? "collections"⟩
  · rw [mapM_eq_ok_iff, List.forall₂_map_left_iff, List.forall₂_map_right_iff, List.forall₂_same]
    intro made member
    rcases exists_source_of_mem (mapM_eq_ok_iff.mp converted) member with ⟨_, _, accepted⟩
    exact collectionObject_shownCollection accepted
  · have settings : (asConfiguration (ordered (Config.document ⟨collections, codes⟩))).member?
        "i18n" = some (.object [("locales", .array (codes.map .string))]) :=
      holds.member? "i18n"
    have present : (Document.object [("locales", .array (codes.map .string))]).member?
        "locales" = some (.array (codes.map .string)) := rfl
    unfold locales
    simp only [settings, Option.bind_some, present, usable_of_locales read]

/-! ## Reloading -/

/-- A dump stays within the depth that can be read. -/
theorem legible_config
    {lead : Option String} {document : Document} {made : Config}
    (accepted : config lead document = .ok made) :
    Legible Json.depthLimit made.document := by
  rcases config_eq_ok_iff.mp accepted with ⟨_, collections, codes, _, converted, _, rfl⟩
  have room : 2 * listLimit + 4 + 1 + 1 ≤ Json.depthLimit := by decide
  refine Legible.mono (.object ?_) room
  simp only [List.forall_mem_cons]
  refine ⟨.array ?_, legible_texts _ codes, nofun⟩
  intro element member
  rcases List.mem_map.mp member with ⟨made, inside, rfl⟩
  rcases exists_source_of_mem (mapM_eq_ok_iff.mp converted) inside with ⟨_, _, accepted⟩
  exact legible_collection accepted

theorem member?_path_prefix (made : Collection) :
    made.document.ordered.member? "path_prefix" = made.pathPrefix.map .string := by
  have holds := holds_ordered
    (nodup_keys_collection (.string made.name) (.string made.folder)
      (.array (Widget.documents made.widgets)) "widgets" (by decide) made.pathPrefix)
  rw [document_collection, holds.member?]
  cases made.pathPrefix <;> rfl

theorem member?_collections (made : Config) :
    made.document.ordered.member? "collections" =
      some (.array (made.collections.map fun made => made.document.ordered)) := by
  have distinct : ["collections", "locales"].Nodup := by decide
  have holds := @holds_ordered
    [ ("collections", .array (made.collections.map Collection.document)),
      ("locales", .array (made.locales.map .string)) ] distinct
  have collections : ordered (.array (made.collections.map Collection.document)) =
      .array (made.collections.map fun made => made.document.ordered) := by
    rw [ordered, orderedElements_eq_map, List.map_map]
    rfl
  rw [← collections]
  exact holds.member? "collections"

/-- Giving every collection the prefix that it has changes nothing. -/
theorem map_pathPrefix
    {collections : List Collection} {lead : Option String}
    (given : ∀ collection ∈ collections, collection.pathPrefix = lead) :
    (collections.map fun collection => { collection with pathPrefix := lead }) =
      collections := by
  rw [List.map_congr_left, List.map_id]
  intro collection member
  rw [← given collection member]
  rfl

/-- What was accepted is determined by its dump, whatever it was converted from. -/
theorem eq_of_ordered_eq
    {lead otherLead : Option String} {document otherDocument : Document}
    {made other : Config}
    (accepted : config lead document = .ok made)
    (otherAccepted : config otherLead otherDocument = .ok other)
    (same : other.document.ordered = made.document.ordered) :
    other = made := by
  have listed : other.collections.map (fun made => made.document.ordered) =
      made.collections.map fun made => made.document.ordered := by
    have members := member?_collections other
    rw [same, member?_collections] at members
    exact (Document.array.inj (Option.some.inj members)).symm
  -- The dump shows the prefixes, so both were converted with the same usable lead.
  have prefixes : ∀ collection ∈ other.collections,
      collection.pathPrefix = usablePrefix lead := by
    intro collection member
    have shown : collection.document.ordered ∈
        made.collections.map fun made => made.document.ordered :=
      listed ▸ List.mem_map_of_mem member
    rcases List.mem_map.mp shown with ⟨twin, inside, equal⟩
    have found := member?_path_prefix collection
    rw [← equal, member?_path_prefix, pathPrefix_of_config accepted inside] at found
    exact (Option.map_injective (fun _ _ => Document.string.inj) found).symm
  have reloaded : config lead made.document.ordered.asConfiguration =
      .ok ⟨made.collections.map fun made => { made with pathPrefix := usablePrefix lead },
        made.locales⟩ := config_asConfiguration accepted
  have otherReloaded : config lead other.document.ordered.asConfiguration =
      .ok ⟨other.collections.map fun made => { made with pathPrefix := usablePrefix lead },
        other.locales⟩ := config_asConfiguration otherAccepted
  rw [map_pathPrefix fun _ member => pathPrefix_of_config accepted member] at reloaded
  rw [same, map_pathPrefix prefixes, reloaded] at otherReloaded
  exact (Except.ok.inj otherReloaded).symm

/--
What was accepted is the same after a detour through its dump: the text nests no deeper
than a reader takes, it reads as a document that converts to the same configuration, and
no other configuration has that dump.
-/
theorem reload_dump
    {lead : Option String} {document : Document} {made : Config}
    (accepted : config lead document = .ok made) :
    Legible Json.depthLimit made.document ∧
      (∃ dumped,
        (∀ path, Format.json.read path made.dump = .ok dumped) ∧
          (∀ path, Format.json.read path (CommandLine.dumpText (.ok made)) = .ok dumped) ∧
            config lead dumped.asConfiguration = .ok made) ∧
      ∀ otherLead otherDocument other,
        config otherLead otherDocument = .ok other → other.dump = made.dump →
          other = made := by
  have reads : ∀ {lead document made}, config lead document = .ok made →
      ∀ {blanks}, Json.IsSeparating blanks →
        Json.read (made.dump ++ blanks) = some made.document.ordered :=
    fun accepted _ separating => (legible_config accepted).read_pretty separating
  have noBlanks : Json.IsSeparating "" := nofun
  have lineFeed : Json.IsSeparating "\n" := by
    intro character member
    rw [List.mem_singleton.mp member]
    rfl
  have bare : ∀ {lead document made}, config lead document = .ok made →
      Json.read made.dump = some made.document.ordered := by
    intro lead document made accepted
    have read := reads accepted noBlanks
    rw [String.append_empty] at read
    exact read
  refine ⟨legible_config accepted, ⟨made.document.ordered, ?_, ?_, ?_⟩, ?_⟩
  · intro path
    simp only [Format.read, Format.read?, bare accepted]
  · intro path
    simp only [Format.read, Format.read?, CommandLine.dumpText, reads accepted lineFeed]
  · rw [config_asConfiguration accepted,
      map_pathPrefix fun _ member => pathPrefix_of_config accepted member]
  · intro otherLead otherDocument other otherAccepted same
    have found := bare otherAccepted
    rw [same, bare accepted] at found
    exact eq_of_ordered_eq accepted otherAccepted (Option.some.inj found).symm

/-- A list in a list, with a relation to several entries that asks to be required. -/
def galleryField : Document :=
  .object [
    ("field", .object [
      ("fields", .array [
        .object [
          ("collection", .string "people"),
          ("multiple", .boolean true),
          ("name", .string "authors"),
          ("required", .boolean true),
          ("widget", .string "relation")],
        .object [
          ("name", .string "size"),
          ("options", .array [.string "small", .object [("value", .string "large")]]),
          ("widget", .string "select")]]),
      ("name", .string "entries"),
      ("widget", .string "list")]),
    ("name", .string "gallery"),
    ("required", .boolean true),
    ("widget", .string "list")]

/--
The configuration that the gallery document is converted to: a list inside a list, with
a prefix.
-/
def galleryConfig : Config :=
  ⟨[⟨"posts", "blog",
    [.ofItems "gallery" [.ofItems "entries"
      [ .ofLeaf "authors" true (.relation "people" true),
        .ofLeaf "size" true (.selectOf ["small", "large"]) ]]],
    some "site"⟩], []⟩

/-- Policies, options and single items all reach their fixed points at once. -/
theorem reload_gallery :
    config (some "site") (documentOf "posts" "blog" [galleryField]) = .ok galleryConfig ∧
      ∃ dumped, Format.json.read "ir.json" galleryConfig.dump = .ok dumped ∧
        config (some "site") dumped.asConfiguration = .ok galleryConfig := by
  have gallery : widget galleryField = .ok (.ofItems "gallery" [.ofItems "entries"
      [ .ofLeaf "authors" true (.relation "people" true),
        .ofLeaf "size" true (.selectOf ["small", "large"]) ]]) :=
    widgetWithin_eq_ok_iff.mpr (.list ⟨rfl, rfl, rfl⟩ rfl (.cons
      (widgetWithin_eq_ok_iff.mpr (.list ⟨rfl, rfl, rfl⟩ rfl (.cons
        (widgetWithin_eq_ok_iff.mpr (.relation ⟨rfl, rfl, rfl⟩ rfl)) (.cons
          (widgetWithin_eq_ok_iff.mpr (.select ⟨rfl, rfl, rfl⟩ rfl)) .nil)))) .nil))
  have accepted : config (some "site") (documentOf "posts" "blog" [galleryField]) =
      .ok galleryConfig := by
    apply config_documentOf rfl rfl
    rw [List.mapM_cons, gallery]
    rfl
  rcases reload_dump accepted with ⟨_, ⟨dumped, read, _, reloaded⟩, _⟩
  exact ⟨accepted, dumped, read "ir.json", reloaded⟩

end Descriptor

end ContentSchema

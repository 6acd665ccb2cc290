import Mathlib
import ContentSchema.Proofs.EntryPoints
import ContentSchema.Proofs.Members
import ContentSchema.Proofs.MessageLines

/-!
# Descriptors read back from their errors

A field without a usable name cannot be spoken of by name, so its error quotes the whole
descriptor; and a kind of widget that is no text is quoted by its value.  Both are quoted
in compact form.  Nothing is lost by that: the quoted text is one that a reader of JSON
texts takes, and what it reads is the value that was rejected.

For this a value has to be one that a JSON text can write without doubles: its whole
numbers fit into 64 bits, the members of its objects stand in key order, each key once,
and there are no more containers in one another than a reader opens.
-/

namespace ContentSchema

open Document (Legible insertMember ordered)
open DocumentGrammar
open Text (Visible)

/-! ## Values in key order -/

namespace Document

/-- A document in which the members of every object have increasing keys. -/
inductive InKeyOrder : Document → Prop
  | null :
      InKeyOrder .null
  | boolean (value : Bool) :
      InKeyOrder (.boolean value)
  | integer (value : Int) :
      InKeyOrder (.integer value)
  | float (value : Decimal.Double) :
      InKeyOrder (.float value)
  | string (text : String) :
      InKeyOrder (.string text)
  | array {elements}
      (inside : ∀ element ∈ elements, InKeyOrder element) :
      InKeyOrder (.array elements)
  | object {members}
      (increasing : members.Pairwise fun first second => first.1 < second.1)
      (inside : ∀ member ∈ members, InKeyOrder member.2) :
      InKeyOrder (.object members)

/-- A member whose key is beyond all others is put at the end. -/
theorem insertMember_of_greatest
    {key : String} {members : List (String × Document)}
    (greatest : ∀ member ∈ members, member.1 < key)
    (value : Document) :
    insertMember key value members = members ++ [(key, value)] := by
  induction members with
  | nil =>
      rfl
  | cons member rest ih =>
      rw [List.forall_mem_cons] at greatest
      have other : key ≠ member.1 := ne_of_gt greatest.1
      have behind : ¬ key < member.1 := lt_asymm greatest.1
      rw [insertMember, if_neg other, if_neg behind, ih greatest.2]
      rfl

/-- Members that come in key order are put back as they came. -/
theorem foldl_insertMember_of_increasing
    {before members : List (String × Document)}
    (increasing : (before ++ members).Pairwise fun first second => first.1 < second.1) :
    members.foldl (fun listed member => insertMember member.1 member.2 listed) before =
      before ++ members := by
  induction members generalizing before with
  | nil =>
      rw [List.foldl_nil, List.append_nil]
  | cons member rest ih =>
      have greatest : ∀ earlier ∈ before, earlier.1 < member.1 := fun earlier among =>
        (List.pairwise_append.mp increasing).2.2 earlier among member List.mem_cons_self
      have moved : before ++ member :: rest = before ++ [member] ++ rest := by
        rw [List.append_assoc, List.singleton_append]
      rw [moved] at increasing ⊢
      rw [List.foldl_cons, insertMember_of_greatest greatest]
      exact ih increasing

/-- Members that are in key order stay where they are. -/
theorem InKeyOrder.ordered_eq
    {document : Document}
    (inKeyOrder : InKeyOrder document) :
    document.ordered = document := by
  induction inKeyOrder with
  | null | boolean | integer | float | string =>
      rfl
  | @array elements inside ih =>
      have same : elements.map ordered = elements :=
        (List.map_congr_left ih).trans (List.map_id elements)
      rw [ordered, orderedElements_eq_map, same]
  | @object members increasing inside ih =>
      have same : (members.map fun member => (member.1, member.2.ordered)) = members := by
        refine (List.map_congr_left fun member among => ?_).trans (List.map_id members)
        exact Prod.ext rfl (ih member among)
      rw [ordered, orderedMembers_eq_map, same, ofMembers, foldl_insertMember_of_increasing]
      · rfl
      · exact increasing

/-- A value that a JSON text can write without doubles. -/
structure IsPlain (document : Document) : Prop where
  legible : Legible Json.depthLimit document
  inKeyOrder : InKeyOrder document

/-- A text without control characters from which a document is read, wherever it comes from. -/
structure Restores (text : String) (document : Document) : Prop where
  read : ∀ path, Format.json.read path text = .ok document
  visible : Visible text

/-- What is shown of a plain document restores it. -/
theorem IsPlain.restores_compact
    {document : Document}
    (plain : document.IsPlain) :
    Restores document.compact document := by
  refine ⟨fun path => Format.read_eq_ok_iff.mpr ?_, document.visible_compact⟩
  exact plain.legible.read_compact.trans (congrArg some plain.inKeyOrder.ordered_eq)

/-- A text restores one document only. -/
theorem Restores.unique
    {text : String} {first second : Document}
    (restores : Restores text first)
    (again : Restores text second) :
    first = second :=
  Except.ok.inj ((restores.read "").symm.trans (again.read ""))

/-- What a key leads to in a plain value is plain. -/
theorem IsPlain.member?
    {document value : Document} {key : String}
    (plain : document.IsPlain)
    (present : document.member? key = some value) :
    value.IsPlain := by
  rcases plain with ⟨legible, inKeyOrder⟩
  cases inKeyOrder with
  | @object members increasing inside =>
      have distinct : (members.map Prod.fst).Nodup :=
        List.pairwise_map.mpr (increasing.imp ne_of_lt)
      have among := (lookup_eq_some_iff_mem distinct).mp present
      cases legible with
      | object parts =>
          exact ⟨(parts _ among).mono (by decide), inside _ among⟩
  | null | boolean | integer | float | string | array =>
      cases present

end Document

/-! ## Errors that show what they reject -/

/-- An error about a text shows one context only. -/
theorem DocumentGrammar.TextFault.context_eq
    {first second : Document} {property context other : String} {error : Error}
    (fault : TextFault first property context error)
    (again : TextFault second property other error) :
    context = other := by
  cases fault <;> cases again <;> rfl

namespace Descriptor

open Document (IsPlain Restores)

/-- A field without a usable name is rejected for it, with all of its descriptor as context. -/
theorem exists_fault_of_nameless
    {descriptor : Document}
    (nameless : ¬ HasText descriptor "name") :
    ∃ error, widget descriptor = .error error ∧
      TextFault descriptor "name" (fieldContext descriptor.compact) error := by
  have faulty : ∃ error,
      TextFault descriptor "name" (fieldContext descriptor.compact) error := by
    cases found : descriptor.member? "name" with
    | none =>
        exact ⟨_, .missing found⟩
    | some value =>
        exact ⟨_, .invalid found fun text => nameless ⟨value, found, text⟩⟩
  rcases faulty with ⟨error, fault⟩
  exact ⟨error, widgetWithin_of_headingFault (.name fault), fault⟩

/-- The context of an error tells which descriptor it shows. -/
theorem fieldContext_injective : Function.Injective fieldContext := by
  intro first second same
  exact (String.append_right_inj "field ").mp same

/-- What is rejected about a field can be read back from its error. -/
structure ShowsRejected (descriptor : Document) : Prop where
  /-- Without a usable name the context of the error shows the whole descriptor. -/
  nameless : ¬ HasText descriptor "name" →
    ∃ error text, widget descriptor = .error error ∧ error.property? = some "name" ∧
      (error = .missingProperty "name" ("field " ++ text) ∨
        error = .invalidProperty "name" ("field " ++ text)) ∧
      Restores text descriptor
  /-- A kind of widget that is no text is shown by its value. -/
  kind : ∀ name value, TextIs descriptor "name" name →
    descriptor.member? "widget" = some value → (∀ text, value ≠ .string text) →
      ∃ text, widget descriptor = .error (.unknownWidget name text) ∧ Restores text value
  /-- No other value is rejected for its name with the same error. -/
  apart : ¬ HasText descriptor "name" → ∀ other : Document, other.IsPlain →
    ¬ HasText other "name" → widget other = widget descriptor → other = descriptor

/-- Every plain descriptor is shown so that it can be restored. -/
theorem showsRejected_of_isPlain
    {descriptor : Document}
    (plain : descriptor.IsPlain) :
    ShowsRejected descriptor where
  nameless := by
    intro nameless
    rcases exists_fault_of_nameless nameless with ⟨error, failed, fault⟩
    refine ⟨error, descriptor.compact, failed, ?_, ?_, plain.restores_compact⟩
    · cases fault <;> rfl
    · cases fault with
      | missing =>
          exact .inl rfl
      | invalid =>
          exact .inr rfl
  kind := by
    intro name value named present noText
    exact ⟨value.compact, widgetWithin_of_headingFault (.kind named (.noText present noText)),
      (plain.member? present).restores_compact⟩
  apart := by
    intro nameless other otherPlain otherNameless same
    rcases exists_fault_of_nameless nameless with ⟨error, failed, fault⟩
    rcases exists_fault_of_nameless otherNameless with ⟨otherError, otherFailed, otherFault⟩
    rw [failed, otherFailed] at same
    cases same
    have quoted : other.compact = descriptor.compact :=
      fieldContext_injective (otherFault.context_eq fault)
    exact otherPlain.restores_compact.unique (quoted ▸ plain.restores_compact)

/-! ## A field with the extreme whole numbers -/

/-- The least and the greatest whole number that can be read. -/
def extremeNumbers : Document :=
  .array [.integer (-9223372036854775808), .integer 18446744073709551615]

/-- A field of some name whose kind is a list of numbers. -/
def extremeField (name : String) : Document :=
  .object
    [ ("\x01\"", .object []), ("label", .string "/\\\n\u2028"), ("name", .string name),
      ("widget", extremeNumbers) ]

theorem isPlain_extremeField (name : String) : (extremeField name).IsPlain where
  legible := by
    have numbers : Legible 1 extremeNumbers := by
      apply Legible.array
      simp only [List.forall_mem_cons]
      exact ⟨.integer ⟨by decide, by decide⟩, .integer ⟨by decide, by decide⟩, nofun⟩
    have whole : Legible 2 (extremeField name) := by
      apply Legible.object
      simp only [List.forall_mem_cons]
      exact ⟨.object nofun, .string _, .string _, numbers, nofun⟩
    exact whole.mono (by decide)
  inKeyOrder := by
    apply Document.InKeyOrder.object
    · simp only [List.pairwise_cons, List.forall_mem_cons]
      decide
    · simp only [List.forall_mem_cons]
      refine ⟨.object .nil nofun, .string _, .string _, .array ?_, nofun⟩
      simp only [List.forall_mem_cons]
      exact ⟨.integer _, .integer _, nofun⟩

/-- With a blank name the whole field is read back, and with a usable one its kind. -/
theorem showsRejected_extremeField :
    (extremeField " ").IsPlain ∧ (extremeField "title").IsPlain ∧
    (∃ error text, widget (extremeField " ") = .error error ∧ error.property? = some "name" ∧
      Restores text (extremeField " ")) ∧
    ∃ text, widget (extremeField "title") = .error (.unknownWidget "title" text) ∧
      Restores text extremeNumbers := by
  have blank : ¬ HasText (extremeField " ") "name" := by
    rintro ⟨_, present, text, rfl, filled⟩
    cases present
    exact absurd filled (by decide)
  rcases (showsRejected_of_isPlain (isPlain_extremeField " ")).nameless blank with
    ⟨error, text, failed, about, _, restores⟩
  refine ⟨isPlain_extremeField " ", isPlain_extremeField "title",
    ⟨error, text, failed, about, restores⟩, ?_⟩
  exact (showsRejected_of_isPlain (isPlain_extremeField "title")).kind "title" extremeNumbers
    ⟨rfl, rfl⟩ rfl nofun

end Descriptor

end ContentSchema

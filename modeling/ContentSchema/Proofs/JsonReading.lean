import Mathlib
import ContentSchema.Document.Compact
import ContentSchema.Document.Pretty
import ContentSchema.Proofs.JsonTokens

/-!
# Reading a written document back

The spread text and the compact text of a document are read back as that document with
its members in key order, which is the form in which every document is read.  Two things
are needed: the numbers are whole, and no more containers lie in one another than may be
open.

Either text spells the tokens of the document, and the machine that reads tokens goes
from a place where a value is to start to a place where it is complete.  Both are
proved by induction on the document, with the containers that are open left free.
-/

namespace ContentSchema

open Json (Token State Frame Spells Punctuates IsWhole IsSeparating EndsNumeral)
open Text (literal)

namespace Document

/-! ## Documents that can be read back -/

/-- A document with whole numbers only and at most so many containers in one another. -/
inductive Legible : Nat → Document → Prop
  | null {room} :
      Legible room .null
  | boolean {room} (value : Bool) :
      Legible room (.boolean value)
  | integer {room value}
      (whole : IsWhole value) :
      Legible room (.integer value)
  | string {room} (text : String) :
      Legible room (.string text)
  | array {room elements}
      (inside : ∀ element ∈ elements, Legible room element) :
      Legible (room + 1) (.array elements)
  | object {room members}
      (inside : ∀ member ∈ members, Legible room member.2) :
      Legible (room + 1) (.object members)

theorem Legible.mono
    {room larger : Nat} {document : Document}
    (legible : Legible room document)
    (more : room ≤ larger) :
    Legible larger document := by
  induction legible generalizing larger with
  | null =>
      exact .null
  | boolean value =>
      exact .boolean value
  | integer whole =>
      exact .integer whole
  | string text =>
      exact .string text
  | array inside ih =>
      rcases Nat.exists_eq_succ_of_ne_zero (Nat.ne_zero_of_lt more) with ⟨less, rfl⟩
      exact .array fun element member => ih element member (by omega)
  | object inside ih =>
      rcases Nat.exists_eq_succ_of_ne_zero (Nat.ne_zero_of_lt more) with ⟨less, rfl⟩
      exact .object fun element member => ih element member (by omega)

mutual

/-- A document with the members of all its objects in key order. -/
def ordered : Document → Document
  | .array elements => .array (orderedElements elements)
  | .object members => .ofMembers (orderedMembers members)
  | document => document

/-- Elements in order, with the members of each in key order at any depth. -/
def orderedElements : List Document → List Document
  | [] => []
  | element :: rest => ordered element :: orderedElements rest

/-- Members as they come, with those inside their values in key order. -/
def orderedMembers : List (String × Document) → List (String × Document)
  | [] => []
  | (key, value) :: rest => (key, ordered value) :: orderedMembers rest

end

mutual

/-- The tokens of a document. -/
def tokens : Document → List Token
  | .array elements =>
    .openArray :: ([Token.comma].intercalate (elementTokens elements) ++ [.closeArray])
  | .object members =>
    .openObject :: ([Token.comma].intercalate (memberTokens members) ++ [.closeObject])
  | .string text => [.string text]
  | document => [.scalar document]

/-- The tokens of each element. -/
def elementTokens : List Document → List (List Token)
  | [] => []
  | element :: rest => tokens element :: elementTokens rest

/-- The tokens of each member: its key, a colon and those of its value. -/
def memberTokens : List (String × Document) → List (List Token)
  | [] => []
  | (key, value) :: rest => (.string key :: .colon :: tokens value) :: memberTokens rest

end

theorem orderedElements_eq_map (elements : List Document) :
    orderedElements elements = elements.map ordered := by
  induction elements with
  | nil =>
      rfl
  | cons element rest ih =>
      rw [orderedElements, ih, List.map_cons]

theorem orderedMembers_eq_map (members : List (String × Document)) :
    orderedMembers members = members.map fun member => (member.1, member.2.ordered) := by
  induction members with
  | nil =>
      rfl
  | cons member rest ih =>
      rw [orderedMembers, ih, List.map_cons]

theorem elementTokens_eq_map (elements : List Document) :
    elementTokens elements = elements.map tokens := by
  induction elements with
  | nil =>
      rfl
  | cons element rest ih =>
      rw [elementTokens, ih, List.map_cons]

theorem memberTokens_eq_map (members : List (String × Document)) :
    memberTokens members =
      members.map fun member => .string member.1 :: .colon :: member.2.tokens := by
  induction members with
  | nil =>
      rfl
  | cons member rest ih =>
      rw [memberTokens, ih, List.map_cons]

theorem prettyElements_eq_map (depth : Nat) (elements : List Document) :
    prettyElements depth elements = elements.map (prettyWithin depth) := by
  induction elements with
  | nil =>
      rfl
  | cons element rest ih =>
      rw [prettyElements, ih, List.map_cons]

theorem prettyMembers_eq_map (depth : Nat) (members : List (String × Document)) :
    prettyMembers depth members =
      members.map fun member => literal member.1 ++ ": " ++ prettyWithin depth member.2 := by
  induction members with
  | nil =>
      rfl
  | cons member rest ih =>
      rw [prettyMembers, ih, List.map_cons]

theorem compactElements_eq_map (elements : List Document) :
    compactElements elements = elements.map compact := by
  induction elements with
  | nil =>
      rfl
  | cons element rest ih =>
      rw [compactElements, ih, List.map_cons]

theorem compactMembers_eq_map (members : List (String × Document)) :
    compactMembers members =
      members.map fun member => literal member.1 ++ ":" ++ compact member.2 := by
  induction members with
  | nil =>
      rfl
  | cons member rest ih =>
      rw [compactMembers, ih, List.map_cons]

/-! ## The texts spell the tokens -/

theorem spells_member
    {text : String} {tokens : List Token}
    (key : String)
    (spells : Spells text tokens) :
    Spells (literal key ++ ":" ++ text) (.string key :: .colon :: tokens) := by
  rw [String.append_assoc]
  exact (Json.spells_literal key).append (Json.punctuates_colon.spells_append spells)
    (Json.punctuates_colon.endsNumeral _)

theorem isSeparating_lineStart (depth : Nat) : IsSeparating (lineStart depth) := by
  intro character member
  simp only [lineStart, String.toList_append, String.toList_ofList, List.mem_append,
    List.mem_replicate] at member
  rcases member with lineFeed | ⟨_, rfl⟩
  · have same : character = '\n' := List.mem_singleton.mp lineFeed
    rw [same]
    rfl
  · rfl

theorem endsNumeral_lineStart
    (depth : Nat)
    (text : String)
    (rest : List Char) :
    EndsNumeral ((lineStart depth ++ text).toList ++ rest) := by
  have starts : (lineStart depth).toList = '\n' :: List.replicate (2 * depth) ' ' := by
    simp [lineStart]
  rw [String.toList_append, starts]
  intro character same
  cases same
  decide

/-- A container spells its brackets around what its parts spell. -/
theorem spells_spread
    {opening closing : String} {first last : Char} {opens closes : Token}
    (opened : Punctuates opening first opens)
    (closed : Punctuates closing last closes)
    (depth : Nat)
    {parts : List String} {pieces : List (List Token)}
    (inside : List.Forall₂ Spells parts pieces) :
    Spells (spread opening closing depth parts)
      (opens :: ([Token.comma].intercalate pieces ++ [closes])) := by
  unfold spread
  cases inside with
  | nil =>
      exact opened.spells_append closed.spells
  | @cons part piece parts pieces head tail =>
      have lines : List.Forall₂ Spells
          ((part :: parts).map fun part => lineStart (depth + 1) ++ part) (piece :: pieces) := by
        rw [List.forall₂_map_left_iff]
        exact (List.Forall₂.cons head tail).imp fun _ _ spells =>
          Json.spells_separating (isSeparating_lineStart _) spells
      have ending : Spells (lineStart depth ++ closing) [closes] :=
        Json.spells_separating (isSeparating_lineStart depth) closed.spells
      rw [List.isEmpty_cons, if_neg Bool.false_ne_true, String.append_assoc, String.append_assoc]
      exact opened.spells_append
        ((Json.spells_intercalate lines).append ending (endsNumeral_lineStart depth closing))

/-- A blank behind the colon makes no difference. -/
theorem spells_spread_member
    {text : String} {tokens : List Token}
    (key : String)
    (spells : Spells text tokens) :
    Spells (literal key ++ ": " ++ text) (.string key :: .colon :: tokens) := by
  have blank : IsSeparating " " := by
    intro character member
    rw [List.mem_singleton.mp member]
    rfl
  have whole : literal key ++ ": " ++ text = literal key ++ ":" ++ (" " ++ text) := by
    have colon : ": " = ":" ++ " " := rfl
    rw [colon, ← String.append_assoc, String.append_assoc]
  rw [whole]
  exact spells_member key (Json.spells_separating blank spells)

/-- A document over several lines spells its tokens, at every depth. -/
theorem Legible.spells_prettyWithin
    {room : Nat} {document : Document}
    (legible : Legible room document)
    (depth : Nat) :
    Spells (prettyWithin depth document) document.tokens := by
  induction legible generalizing depth with
  | null =>
      exact Json.spells_null
  | boolean value =>
      exact Json.spells_boolean value
  | integer whole =>
      exact Json.spells_integer whole
  | string text =>
      exact Json.spells_literal text
  | array inside ih =>
      rw [prettyWithin, tokens, prettyElements_eq_map, elementTokens_eq_map]
      apply spells_spread Json.punctuates_openArray Json.punctuates_closeArray
      rw [List.forall₂_map_left_iff, List.forall₂_map_right_iff, List.forall₂_same]
      intro element member
      exact ih element member _
  | object inside ih =>
      rw [prettyWithin, tokens, prettyMembers_eq_map, memberTokens_eq_map]
      apply spells_spread Json.punctuates_openObject Json.punctuates_closeObject
      rw [List.forall₂_map_left_iff, List.forall₂_map_right_iff, List.forall₂_same]
      intro element member
      exact spells_spread_member element.1 (ih element member _)

/-- Parts between brackets, with commas and no blanks, spell a container. -/
theorem spells_enclosed
    {opening closing : String} {first last : Char} {opens closes : Token}
    (opened : Punctuates opening first opens)
    (closed : Punctuates closing last closes)
    {parts : List String} {pieces : List (List Token)}
    (inside : List.Forall₂ Spells parts pieces) :
    Spells (opening ++ String.intercalate "," parts ++ closing)
      (opens :: ([Token.comma].intercalate pieces ++ [closes])) := by
  rw [String.append_assoc]
  exact opened.spells_append
    ((Json.spells_intercalate inside).append closed.spells fun rest => by
      have ends := closed.endsNumeral "" rest
      rwa [String.append_empty] at ends)

/-- A document in one line spells its tokens. -/
theorem Legible.spells_compact
    {room : Nat} {document : Document}
    (legible : Legible room document) :
    Spells document.compact document.tokens := by
  induction legible with
  | null =>
      exact Json.spells_null
  | boolean value =>
      exact Json.spells_boolean value
  | integer whole =>
      exact Json.spells_integer whole
  | string text =>
      exact Json.spells_literal text
  | array inside ih =>
      rw [compact, tokens, compactElements_eq_map, elementTokens_eq_map]
      apply spells_enclosed Json.punctuates_openArray Json.punctuates_closeArray
      rw [List.forall₂_map_left_iff, List.forall₂_map_right_iff, List.forall₂_same]
      intro element member
      exact ih element member
  | object inside ih =>
      rw [compact, tokens, compactMembers_eq_map, memberTokens_eq_map]
      apply spells_enclosed Json.punctuates_openObject Json.punctuates_closeObject
      rw [List.forall₂_map_left_iff, List.forall₂_map_right_iff, List.forall₂_same]
      intro element member
      exact spells_member element.1 (ih element member)

/-! ## The tokens are read -/

/-- Tokens lead from one state of the reader to another. -/
def Leads (tokens : List Token) (state reached : State) : Prop :=
  tokens.foldlM State.step state = some reached

theorem Leads.append
    {before after : List Token} {state middle reached : State}
    (first : Leads before state middle)
    (second : Leads after middle reached) :
    Leads (before ++ after) state reached := by
  unfold Leads at first second ⊢
  rw [List.foldlM_append, first]
  exact second

theorem leads_cons_iff
    {token : Token} {tokens : List Token} {state middle reached : State}
    (step : state.step token = some middle) :
    Leads (token :: tokens) state reached ↔ Leads tokens middle reached := by
  unfold Leads
  rw [List.foldlM_cons, step]
  rfl

/-- The elements of an array after others, up to its end. -/
theorem leads_elements
    {frames : List Frame} {elements : List Document}
    (filled : elements ≠ [])
    (reads : ∀ element ∈ elements, ∀ before,
      Leads element.tokens (.value (.elements before :: frames))
        (.complete element.ordered (.elements before :: frames)))
    (before : List Document) :
    Leads ([Token.comma].intercalate (elements.map tokens) ++ [.closeArray])
      (.value (.elements before :: frames))
      (.complete (.array (before.reverse ++ elements.map ordered)) frames) := by
  -- The elements that are complete move into the frame, hence `before` is free.
  induction elements generalizing before with
  | nil =>
      exact absurd rfl filled
  | cons element others ih =>
      rw [List.forall_mem_cons] at reads
      cases others with
      | nil =>
          rw [List.map_singleton, List.intercalate_singleton]
          refine (reads.1 before).append ?_
          simp [Leads, State.step, State.afterValue]
      | cons second others =>
          rw [List.map_cons, List.map_cons, List.intercalate_cons_cons, List.append_assoc,
            List.append_assoc]
          refine (reads.1 before).append ((leads_cons_iff rfl).mpr ?_)
          have rest := ih (List.cons_ne_nil _ _) reads.2 (element.ordered :: before)
          simpa using rest

/-- The members of an object after others, up to its end. -/
theorem leads_members
    {frames : List Frame} {members : List (String × Document)}
    (filled : members ≠ [])
    (reads : ∀ member ∈ members, ∀ before,
      Leads member.2.tokens (.value (.members before member.1 :: frames))
        (.complete member.2.ordered (.members before member.1 :: frames)))
    (before : List (String × Document)) :
    Leads
      ([Token.comma].intercalate
        (members.map fun member => .string member.1 :: .colon :: member.2.tokens)
          ++ [.closeObject])
      (.key before frames)
      (.complete
        (.ofMembers
          (before.reverse ++ members.map fun member => (member.1, member.2.ordered)))
        frames) := by
  induction members generalizing before with
  | nil =>
      exact absurd rfl filled
  | cons member others ih =>
      rw [List.forall_mem_cons] at reads
      cases others with
      | nil =>
          rw [List.map_singleton, List.intercalate_singleton]
          refine (leads_cons_iff rfl).mpr ((leads_cons_iff rfl).mpr ?_)
          refine (reads.1 before).append ?_
          simp [Leads, State.step, State.afterValue]
      | cons second others =>
          rw [List.map_cons, List.map_cons, List.intercalate_cons_cons, List.append_assoc,
            List.append_assoc]
          refine (leads_cons_iff rfl).mpr ((leads_cons_iff rfl).mpr ?_)
          refine (reads.1 before).append ((leads_cons_iff rfl).mpr ?_)
          have rest := ih (List.cons_ne_nil _ _) reads.2
            ((member.1, member.2.ordered) :: before)
          simpa using rest

/-- The first element of an array is read like a later one. -/
theorem leads_first_element
    {frames : List Frame} {document : Document} {more : List Token} {reached : State}
    (leads : Leads (document.tokens ++ more) (.value (.elements [] :: frames)) reached) :
    Leads (document.tokens ++ more) (.elementOrClose frames) reached := by
  cases document <;> exact leads

/-- Wherever a value may start with so many containers to be opened, a document is read. -/
theorem Legible.leads
    {room : Nat} {document : Document}
    (legible : Legible room document)
    {frames : List Frame}
    (fits : frames.length + room ≤ Json.depthLimit) :
    Leads document.tokens (.value frames) (.complete document.ordered frames) := by
  induction legible generalizing frames with
  | null | boolean | integer | string =>
      rfl
  | @array room elements inside ih =>
      have opens : State.step (.value frames) .openArray = some (.elementOrClose frames) := by
        have free : frames.length < Json.depthLimit := by omega
        simp [State.step, State.startValue, Json.mayOpen, free]
      rw [tokens, ordered, elementTokens_eq_map, orderedElements_eq_map, leads_cons_iff opens]
      cases elements with
      | nil =>
          rfl
      | cons element others =>
          -- After the bracket the array might also end, which no document starts with.
          have rest := leads_elements (List.cons_ne_nil element others)
            (fun element member before => @ih element member (.elements before :: frames)
              (by rw [List.length_cons]; omega)) []
          cases others with
          | nil =>
              rw [List.map_singleton, List.intercalate_singleton] at rest ⊢
              exact leads_first_element rest
          | cons second others =>
              rw [List.map_cons, List.map_cons, List.intercalate_cons_cons, List.append_assoc,
                List.append_assoc] at rest ⊢
              exact leads_first_element rest
  | @object room members inside ih =>
      have opens : State.step (.value frames) .openObject = some (.keyOrClose frames) := by
        have free : frames.length < Json.depthLimit := by omega
        simp [State.step, State.startValue, Json.mayOpen, free]
      rw [tokens, ordered, memberTokens_eq_map, orderedMembers_eq_map, leads_cons_iff opens]
      cases members with
      | nil =>
          rfl
      | cons member others =>
          have rest := leads_members (List.cons_ne_nil member others)
            (fun member present before => @ih member present (.members before member.1 :: frames)
              (by rw [List.length_cons]; omega)) []
          cases others with
          | nil =>
              exact rest
          | cons second others =>
              exact rest

/-- A document is read from any text that spells it, also with blanks behind it. -/
theorem Legible.read_of_spells
    {document : Document}
    (legible : Legible Json.depthLimit document)
    {text blanks : String}
    (spells : Spells text document.tokens)
    (separating : IsSeparating blanks) :
    Json.read (text ++ blanks) = some document.ordered := by
  have found := Json.tokens_of_spells spells separating
  have leads : Leads document.tokens (.value []) (.complete document.ordered []) :=
    legible.leads (by simp)
  unfold Json.read Json.ofTokens
  rw [found, Option.bind_some, leads]
  rfl

/--
What is written over several lines is read back in key order, with blanks behind it or
without.
-/
theorem Legible.read_pretty
    {document : Document}
    (legible : Legible Json.depthLimit document)
    {blanks : String}
    (separating : IsSeparating blanks) :
    Json.read (document.pretty ++ blanks) = some document.ordered :=
  legible.read_of_spells (legible.spells_prettyWithin 0) separating

/-- What is written in one line is read back in key order. -/
theorem Legible.read_compact
    {document : Document}
    (legible : Legible Json.depthLimit document) :
    Json.read document.compact = some document.ordered := by
  have noBlanks : IsSeparating "" := List.forall_mem_nil _
  have read := legible.read_of_spells legible.spells_compact noBlanks
  rwa [String.append_empty] at read

end Document

end ContentSchema

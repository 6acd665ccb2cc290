import Mathlib
import ContentSchema.Proofs.Tokens

/-!
# The free names of generated expressions

A word of an expression uses a name freely unless it is reserved, follows a dot,
is the key of an object or is bound by the arrow function around it.  The words
are looked at from left to right together with the groups of brackets that are
open: a group that braces open is an object, and a group holds the parameter of
an arrow function from its parameter list to the next comma or its end.

A schema stands where a value is expected.  There its free names do not depend on
what surrounds it, and behind it the same groups are open as before.
-/

namespace ContentSchema

open Token (method ofKey)

/-! ## Groups of brackets -/

/-- Brackets that are open, and the parameters bound in them at present. -/
structure Group where
  opening : Option Char
  parameters : List String
  deriving DecidableEq, Repr

namespace Group

/-- What is open before the first token: nothing, and no parameter is in scope. -/
def outermost : Group := ⟨none, []⟩

/-- The parameter of an arrow function whose parameter list has just been opened. -/
def parameter? : List Token → Option String
  | .word name :: .sign ')' :: .sign '=' :: .sign '>' :: _ => some name
  | _ => none

/-- Bind a parameter, if there is one, in the innermost group. -/
def bind : Option String → List Group → List Group
  | some name, group :: outer => { group with parameters := name :: group.parameters } :: outer
  | _, groups => groups

/-- The groups behind a comma, where an arrow function ends and its parameter goes out of scope. -/
def release : List Group → List Group
  | group :: outer => { group with parameters := [] } :: outer
  | [] => []

/-- The groups behind a token, given the tokens after it. -/
def next (groups : List Group) (token : Token) (rest : List Token) : List Group :=
  match token with
  | .sign '(' => ⟨some '(', []⟩ :: bind (parameter? rest) groups
  | .sign '[' => ⟨some '[', []⟩ :: groups
  | .sign '\x7b' => ⟨some '\x7b', []⟩ :: groups
  | .sign ')' | .sign ']' | .sign '\x7d' => groups.tail
  | .sign ',' => release groups
  | _ => groups

/-- A parameter of some open group has this name. -/
def binds (groups : List Group) (name : String) : Bool :=
  groups.any fun group => group.parameters.contains name

/-- The innermost open group is that of an object or of a block. -/
def isObject (groups : List Group) : Bool :=
  match groups with
  | group :: _ => group.opening == some '\x7b'
  | [] => false

end Group

/-! ## Free names -/

namespace Token

/-- The token after this one names a member of what stands before. -/
def isMember (previous : Option Token) : Bool :=
  previous == some (.sign '.')

/-- The token after this one can be a key: it opens an entry of an object. -/
def isKey (previous : Option Token) (groups : List Group) : Bool :=
  Group.isObject groups && (previous == some (.sign '\x7b') || previous == some (.sign ','))

/-- The name that a token uses freely, if it does. -/
def freeName (previous : Option Token) (groups : List Group) : Token → List String
  | .word name =>
    if Text.isIdentifier name && !isMember previous && !isKey previous groups
      && !Group.binds groups name
    then [name] else []
  | _ => []

/-- The names that tokens use freely, behind a token and inside of groups. -/
def freeNames (previous : Option Token) (groups : List Group) : List Token → List String
  | [] => []
  | token :: rest =>
    freeName previous groups token
      ++ freeNames (some token) (Group.next groups token rest) rest

end Token

/-- The names that an expression mentions and does not bind, one for each mention. -/
def Expression.freeNames (expression : String) : List String :=
  Token.freeNames none [Group.outermost] (Token.ofText expression)

/-! ## Values -/

namespace Token

/-- No parameter is in scope, so every name that is mentioned is free. -/
def Unbound (groups : List Group) : Prop :=
  ∀ name, Group.binds groups name = false

/-- At the beginning, behind a colon and behind a parenthesis a value is expected. -/
inductive ExpectsValue : Option Token → Prop
  | beginning : ExpectsValue none
  | colon : ExpectsValue (some (.sign ':'))
  | parenthesis : ExpectsValue (some (.sign '('))

/--
Tokens that use given names freely wherever a value is expected.  They end with a
parenthesis and close all groups that they open.
-/
def IsValue (tokens : List Token) (names : List String) : Prop :=
  ∀ previous groups rest, ExpectsValue previous → Unbound groups →
    freeNames previous groups (tokens ++ rest) =
      names ++ freeNames (some (.sign ')')) groups rest

theorem binds_cons (group : Group) (groups : List Group) (name : String) :
    Group.binds (group :: groups) name =
      (group.parameters.contains name || Group.binds groups name) :=
  List.any_cons

theorem unbound_cons
    {groups : List Group}
    (unbound : Unbound groups)
    (opening : Option Char) :
    Unbound (⟨opening, []⟩ :: groups) := by
  intro name
  rw [binds_cons, unbound name]
  rfl

/-- An identifier that stands for a value is free where nothing is bound. -/
theorem freeNames_value
    {previous : Option Token}
    {groups : List Group}
    {name : String}
    (expects : ExpectsValue previous)
    (unbound : Unbound groups)
    (identifier : Text.isIdentifier name = true)
    (rest : List Token) :
    freeNames previous groups (.word name :: rest) =
      name :: freeNames (some (.word name)) groups rest := by
  have notMember : isMember previous = false := by
    cases expects <;> rfl
  have notKey : isKey previous groups = false := by
    cases expects <;> exact Bool.and_false _
  rw [freeNames, freeName, notMember, notKey, unbound name, identifier]
  rfl

/-- A word at the start of an entry is a key and no mention of a name. -/
theorem freeNames_keyWord
    {previous : Option Token}
    {outer : List Group}
    (leads : previous = some (.sign '\x7b') ∨ previous = some (.sign ','))
    (name : String)
    (rest : List Token) :
    freeNames previous (⟨some '\x7b', []⟩ :: outer) (.word name :: rest) =
      freeNames (some (.word name)) (⟨some '\x7b', []⟩ :: outer) rest := by
  have key : isKey previous (⟨some '\x7b', []⟩ :: outer) = true := by
    rcases leads with rfl | rfl <;> rfl
  rw [freeNames, freeName, key]
  simp [Group.next]

theorem freeNames_key
    {previous : Option Token}
    {outer : List Group}
    (leads : previous = some (.sign '\x7b') ∨ previous = some (.sign ','))
    (name : String)
    (rest : List Token) :
    freeNames previous (⟨some '\x7b', []⟩ :: outer) (ofKey name :: rest) =
      freeNames (some (ofKey name)) (⟨some '\x7b', []⟩ :: outer) rest := by
  unfold ofKey
  split
  · exact freeNames_keyWord leads name rest
  · rfl

/--
What a group holds, separated by commas.  Every part has its free names where the
group begins and behind a comma.
-/
theorem freeNames_intercalate
    {Value : Type}
    (values : List Value)
    (tokens : Value → List Token)
    (names : Value → List String)
    (opening : Char)
    (outer : List Group)
    (each : ∀ value ∈ values, ∀ previous rest,
      previous = some (.sign opening) ∨ previous = some (.sign ',') →
        ∃ last, freeNames previous (⟨some opening, []⟩ :: outer) (tokens value ++ rest) =
          names value ++ freeNames last (⟨some opening, []⟩ :: outer) rest)
    {previous : Option Token}
    (leads : previous = some (.sign opening) ∨ previous = some (.sign ','))
    (rest : List Token) :
    ∃ last, freeNames previous (⟨some opening, []⟩ :: outer)
        ([.sign ','].intercalate (values.map tokens) ++ rest) =
      values.flatMap names ++ freeNames last (⟨some opening, []⟩ :: outer) rest := by
  induction values generalizing previous with
  | nil =>
      exact ⟨previous, rfl⟩
  | cons first others ih =>
      have head := each first List.mem_cons_self
      cases others with
      | nil =>
          rcases head previous rest leads with ⟨last, same⟩
          exact ⟨last, by simpa using same⟩
      | cons second others =>
          rcases ih (fun value member => each value (List.mem_cons_of_mem _ member))
            (.inr rfl) with ⟨last, tail⟩
          rcases head previous (.sign ',' :: ([.sign ','].intercalate
            ((second :: others).map tokens) ++ rest)) leads with ⟨_, same⟩
          refine ⟨last, ?_⟩
          rw [List.map_cons, List.map_cons, List.intercalate_cons_cons, ← List.map_cons,
            List.append_assoc, List.append_assoc, List.singleton_append, same,
            List.flatMap_cons, List.append_assoc]
          exact congrArg (names first ++ ·) tail

end Token

/-! ## The free names of schemas -/

namespace Schema

open Token

/--
The free names of a schema without parts; only that of a date that may be missing
mentions more than the library.
-/
def Atom.freeNames : Atom → List String
  | .optionalDate => ["z", "z", "undefined", "Date", "z"]
  | _ => ["z"]

mutual

/-- The names that the expression of a schema uses freely. -/
def freeNames : Schema → List String
  | .atom kind => kind.freeNames
  | .oneOf _ => ["z"]
  | .reference _ => ["reference"]
  | .array item => "z" :: freeNames item
  | .record fields => "z" :: fieldsFreeNames fields
  | .optional schema => freeNames schema

/-- The free names of the fields of a record, whose keys are not mentions. -/
def fieldsFreeNames : List (String × Schema) → List String
  | [] => []
  | (_, schema) :: rest => freeNames schema ++ fieldsFreeNames rest

end

theorem fieldsFreeNames_eq_flatMap (fields : List (String × Schema)) :
    fieldsFreeNames fields = fields.flatMap fun field => field.2.freeNames := by
  induction fields with
  | nil =>
      rfl
  | cons field rest ih =>
      simp [fieldsFreeNames, ih]

theorem isIdentifier_z : Text.isIdentifier "z" = true := by
  decide +kernel

theorem isIdentifier_reference : Text.isIdentifier "reference" = true := by
  decide +kernel

theorem isIdentifier_undefined : Text.isIdentifier "undefined" = true := by
  decide +kernel

theorem isIdentifier_Date : Text.isIdentifier "Date" = true := by
  decide +kernel

/-- The word in front of `Date` is reserved, so that it is no name. -/
theorem not_isIdentifier_new : Text.isIdentifier "new" = false := by
  decide +kernel

theorem isValue_atom (kind : Atom) : IsValue kind.tokens kind.freeNames := by
  intro previous groups rest expects unbound
  cases kind with
  | optionalDate =>
      change Token.freeNames previous groups (.word "z" :: _) = "z" :: _
      rw [freeNames_value expects unbound isIdentifier_z]
      -- The arrow binds `val` until the call around it ends.
      simp [method, Token.freeNames, freeName, isMember, isKey, Group.isObject, Group.next,
        Group.parameter?, Group.bind, Group.release, binds_cons, unbound _, isIdentifier_z,
        isIdentifier_undefined, isIdentifier_Date, not_isIdentifier_new]
  | _ =>
      exact freeNames_value expects unbound isIdentifier_z _

/-- No schema looks like the parameter list of an arrow function. -/
theorem parameter?_tokens (schema : Schema) (rest : List Token) :
    Group.parameter? (schema.tokens ++ rest) = none := by
  induction schema using Schema.induction generalizing rest with
  | atom kind =>
      cases kind <;> rfl
  | optional schema ih =>
      rw [tokens, List.append_assoc]
      exact ih _
  | _ =>
      rfl

/-- The options of a choice are quoted, so they are no mentions. -/
theorem isValue_oneOf (options : List String) :
    IsValue (oneOf options).tokens (oneOf options).freeNames := by
  intro previous groups rest expects unbound
  have nothing : (options.flatMap fun _ => ([] : List String)) = [] := by
    simp
  rcases freeNames_intercalate options (fun _ => [.quoted]) (fun _ => [])
    '[' (⟨some '(', []⟩ :: groups)
    (fun _ _ _ _ _ => ⟨some .quoted, rfl⟩) (.inl rfl) (.sign ']' :: .sign ')' :: rest)
    with ⟨last, inside⟩
  rw [nothing] at inside
  rw [tokens, List.append_assoc, List.append_assoc]
  change Token.freeNames previous groups (.word "z" :: _) = "z" :: _
  rw [freeNames_value expects unbound isIdentifier_z]
  exact congrArg ("z" :: ·) inside

/-- A relation mentions the function that makes references, and quotes its collection. -/
theorem isValue_reference (collection : String) :
    IsValue (reference collection).tokens (reference collection).freeNames := by
  intro previous groups rest expects unbound
  exact freeNames_value expects unbound isIdentifier_reference _

theorem isValue_array
    {item : Schema}
    (value : IsValue item.tokens item.freeNames) :
    IsValue (array item).tokens (array item).freeNames := by
  intro previous groups rest expects unbound
  have opened : Group.next groups (.sign '(') (item.tokens ++ (.sign ')' :: rest)) =
      ⟨some '(', []⟩ :: groups := by
    rw [Group.next, parameter?_tokens]
    rfl
  have inside := value (some (.sign '(')) (⟨some '(', []⟩ :: groups)
    (.sign ')' :: rest) .parenthesis (unbound_cons unbound _)
  rw [tokens, List.append_assoc, List.append_assoc]
  change Token.freeNames previous groups (.word "z" :: _) = "z" :: (_ ++ _)
  rw [freeNames_value expects unbound isIdentifier_z]
  refine congrArg ("z" :: ·) ?_
  change Token.freeNames _ (Group.next groups (.sign '(') (item.tokens ++ (.sign ')' :: rest)))
    (item.tokens ++ (.sign ')' :: rest)) = _
  rw [opened, inside]
  rfl

/-- The name of a field is a key, and its schema is a value behind a colon. -/
theorem freeNames_entryTokens
    {field : String × Schema}
    (value : IsValue field.2.tokens field.2.freeNames)
    {groups : List Group}
    (unbound : Unbound groups)
    {previous : Option Token}
    (leads : previous = some (.sign '\x7b') ∨ previous = some (.sign ','))
    (rest : List Token) :
    Token.freeNames previous (⟨some '\x7b', []⟩ :: groups) (entryTokens field ++ rest) =
      field.2.freeNames ++
        Token.freeNames (some (.sign ')')) (⟨some '\x7b', []⟩ :: groups) rest := by
  rw [entryTokens, List.append_assoc]
  change Token.freeNames _ _ (ofKey field.1 :: .sign ':' :: (field.2.tokens ++ rest)) = _
  rw [freeNames_key leads]
  exact value (some (.sign ':')) _ rest .colon (unbound_cons unbound _)

theorem isValue_record
    {fields : List (String × Schema)}
    (values : ∀ field ∈ fields, IsValue field.2.tokens field.2.freeNames) :
    IsValue (record fields).tokens (record fields).freeNames := by
  intro previous groups rest expects unbound
  rcases freeNames_intercalate fields entryTokens (fun field => field.2.freeNames)
    '\x7b' (⟨some '(', []⟩ :: groups)
    (fun field member _ rest leads => ⟨some (.sign ')'), freeNames_entryTokens
      (values field member) (unbound_cons unbound _) leads rest⟩)
    (.inl rfl) (.sign '\x7d' :: .sign ')' :: rest) with ⟨last, inside⟩
  rw [tokens, freeNames, entriesTokens_eq_map, fieldsFreeNames_eq_flatMap,
    List.append_assoc, List.append_assoc]
  change Token.freeNames previous groups (.word "z" :: _) = "z" :: (_ ++ _)
  rw [freeNames_value expects unbound isIdentifier_z]
  exact congrArg ("z" :: ·) inside

/-- The mark of an optional schema mentions nothing. -/
theorem isValue_optional
    {schema : Schema}
    (value : IsValue schema.tokens schema.freeNames) :
    IsValue (optional schema).tokens (optional schema).freeNames := by
  intro previous groups rest expects unbound
  rw [tokens, List.append_assoc, value previous groups _ expects unbound]
  rfl

/--
The free names of an expression are those of its schema, and its scopes are closed
behind it.
-/
theorem isValue (schema : Schema) :
    IsValue schema.tokens schema.freeNames := by
  induction schema using Schema.induction with
  | atom kind =>
      exact isValue_atom kind
  | oneOf options =>
      exact isValue_oneOf options
  | reference collection =>
      exact isValue_reference collection
  | array item ih =>
      exact isValue_array ih
  | record fields ih =>
      exact isValue_record ih
  | optional schema ih =>
      exact isValue_optional ih

end Schema

end ContentSchema

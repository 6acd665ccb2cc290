import ContentSchema.Decimal.Double

/-!
# Documents

A document is the untyped value that a configuration text denotes, whatever its
format.  Numbers are whole or finite doubles.  An object is a list of members.
Every object that is read from a text comes from `Document.ofMembers`, which puts
the members in the order of their keys and keeps the last one with each key.
-/

namespace ContentSchema

open Decimal (Double)

/-- An untyped value. -/
inductive Document where
  | null
  | boolean (value : Bool)
  | integer (value : Int)
  | float (value : Double)
  | string (text : String)
  | array (elements : List Document)
  | object (members : List (String × Document))
  deriving Repr

namespace Document

/-- Put a member at its place among members in key order, instead of one with its key. -/
def insertMember (key : String) (value : Document) :
    List (String × Document) → List (String × Document)
  | [] => [(key, value)]
  | member :: rest =>
    if key = member.1 then (key, value) :: rest
    else if key < member.1 then (key, value) :: member :: rest
    else member :: insertMember key value rest

/-- The object of members given in any order: the last member with a key counts. -/
def ofMembers (members : List (String × Document)) : Document :=
  .object (members.foldl (fun ordered member => insertMember member.1 member.2 ordered) [])

/-- The value of a member; a document that is no object has no members. -/
def member? : Document → String → Option Document
  | .object members, key => members.lookup key
  | _, _ => none

/-- The text of a string document. -/
def string? : Document → Option String
  | .string text => some text
  | _ => none

@[simp]
theorem member?_object (members : List (String × Document)) (key : String) :
    (Document.object members).member? key = members.lookup key := rfl

theorem lookup_insertMember_self
    (key : String) (value : Document) (members : List (String × Document)) :
    (insertMember key value members).lookup key = some value := by
  induction members with
  | nil => simp [insertMember]
  | cons member rest hypothesis =>
    simp only [insertMember]
    split
    · simp
    · split
      · simp
      · rename_i different _
        have unequal : (key == member.1) = false := by simpa using different
        obtain ⟨name, content⟩ := member
        simp only [List.lookup_cons, unequal]
        exact hypothesis

theorem lookup_insertMember_of_ne
    {key other : String} (different : other ≠ key) (value : Document)
    (members : List (String × Document)) :
    (insertMember key value members).lookup other = members.lookup other := by
  have unequal : (other == key) = false := by simpa using different
  induction members with
  | nil => simp [insertMember, List.lookup_cons, unequal]
  | cons member rest hypothesis =>
    obtain ⟨name, content⟩ := member
    simp only [insertMember]
    split
    · rename_i same
      cases same
      simp [List.lookup_cons, unequal]
    · split
      · simp [List.lookup_cons, unequal]
      · simp only [List.lookup_cons, hypothesis]

end Document

end ContentSchema

import Mathlib
import ContentSchema.Document

/-!
# Members of objects

An object holds members when these are all its members, each with a key of its own;
their order does not matter to any lookup.  Putting members in key order and giving
them other keys or values is described in these terms, without the order itself.
-/

namespace ContentSchema.Document

/-- An object has exactly those members, in whatever order, each with a key of its own. -/
structure Holds (document : Document) (members : List (String × Document)) : Prop where
  listed : ∃ listed, document = .object listed ∧ listed.Perm members
  distinct : (members.map Prod.fst).Nodup

/-- Where each key stands once, looking up a key finds its member. -/
theorem lookup_eq_some_iff_mem
    {members : List (String × Document)}
    (distinct : (members.map Prod.fst).Nodup)
    {key : String} {value : Document} :
    members.lookup key = some value ↔ (key, value) ∈ members := by
  induction members with
  | nil =>
      simp
  | cons member rest ih =>
      rcases member with ⟨name, content⟩
      rw [List.map_cons, List.nodup_cons] at distinct
      by_cases same : key = name
      · subst same
        have absent : (key, value) ∉ rest := by
          intro member
          exact distinct.1 (List.mem_map.mpr ⟨(key, value), member, rfl⟩)
        simp [absent, eq_comm]
      · have unequal : (key == name) = false := by simpa using same
        simp [List.lookup_cons, unequal, same, ih distinct.2]

/-- What a key leads to does not depend on the order of the members. -/
theorem Holds.member?
    {document : Document} {members : List (String × Document)}
    (holds : document.Holds members)
    (key : String) :
    document.member? key = members.lookup key := by
  rcases holds.listed with ⟨listed, rfl, perm⟩
  have distinct : (listed.map Prod.fst).Nodup := (perm.map Prod.fst).nodup_iff.mpr holds.distinct
  apply Option.ext
  intro value
  rw [member?_object, lookup_eq_some_iff_mem distinct, lookup_eq_some_iff_mem holds.distinct,
    perm.mem_iff]

theorem perm_insertMember
    {key : String} {members : List (String × Document)}
    (fresh : key ∉ members.map Prod.fst)
    (value : Document) :
    (insertMember key value members).Perm ((key, value) :: members) := by
  induction members with
  | nil =>
      exact List.Perm.refl _
  | cons member rest ih =>
      rw [List.map_cons, List.mem_cons, not_or] at fresh
      rw [insertMember, if_neg fresh.1]
      split
      · exact List.Perm.refl _
      · exact ((ih fresh.2).cons member).trans (List.Perm.swap _ _ _)

/-- Members that are inserted one after the other are all there at the end. -/
theorem perm_foldl_insertMember
    {members before : List (String × Document)}
    (distinct : ((before ++ members).map Prod.fst).Nodup) :
    (members.foldl (fun ordered member => insertMember member.1 member.2 ordered) before).Perm
      (before ++ members) := by
  induction members generalizing before with
  | nil =>
      rw [List.foldl_nil, List.append_nil]
  | cons member rest ih =>
      have middle : (before ++ member :: rest).Perm (member :: before ++ rest) :=
        List.perm_middle
      have moved : ((member :: (before ++ rest)).map Prod.fst).Nodup :=
        (middle.map Prod.fst).nodup_iff.mp distinct
      have fresh : member.1 ∉ before.map Prod.fst := by
        rw [List.map_cons, List.nodup_cons, List.map_append, List.mem_append, not_or] at moved
        exact moved.1.1
      have inserted : (insertMember member.1 member.2 before).Perm (member :: before) :=
        perm_insertMember fresh member.2
      have further : ((insertMember member.1 member.2 before ++ rest).map Prod.fst).Nodup :=
        ((inserted.append_right rest).map Prod.fst).nodup_iff.mpr moved
      rw [List.foldl_cons]
      exact (ih further).trans ((inserted.append_right rest).trans middle.symm)

/-- An object made of members with keys of their own holds them. -/
theorem holds_ofMembers
    {members : List (String × Document)}
    (distinct : (members.map Prod.fst).Nodup) :
    (ofMembers members).Holds members := by
  have distinctAfterNone : (([] ++ members).map Prod.fst).Nodup := distinct
  exact ⟨⟨_, rfl, perm_foldl_insertMember distinctAfterNone⟩, distinct⟩

/-- Other values for the same keys. -/
theorem Holds.mapValues
    {listed members : List (String × Document)}
    (holds : (object listed).Holds members)
    (change : Document → Document) :
    (object (listed.map fun member => (member.1, change member.2))).Holds
      (members.map fun member => (member.1, change member.2)) := by
  rcases holds.listed with ⟨_, same, perm⟩
  cases same
  refine ⟨⟨_, rfl, perm.map _⟩, ?_⟩
  rw [List.map_map]
  exact holds.distinct

/-- A member with another key and a changed value, if it has a certain key. -/
def replaced (old new : String) (change : Document → Document) (member : String × Document) :
    String × Document :=
  if member.1 = old then (new, change member.2) else member

/-- The object with another key for one of its members and a changed value there. -/
def replaceMember (old new : String) (change : Document → Document) : Document → Document
  | .object members => .ofMembers (members.map (replaced old new change))
  | document => document

/-- An object with a renamed member holds the renamed members, if the new key is free. -/
theorem Holds.replaceMember
    {document : Document} {members : List (String × Document)}
    (holds : document.Holds members)
    (old new : String)
    (change : Document → Document)
    (distinct : ((members.map (replaced old new change)).map Prod.fst).Nodup) :
    (document.replaceMember old new change).Holds (members.map (replaced old new change)) := by
  rcases holds.listed with ⟨listed, rfl, perm⟩
  have moved := perm.map (replaced old new change)
  have made := holds_ofMembers ((moved.map Prod.fst).nodup_iff.mpr distinct)
  rcases made.listed with ⟨result, same, arranged⟩
  exact ⟨⟨result, same, arranged.trans moved⟩, distinct⟩

end ContentSchema.Document

import ContentSchema.Yaml.Value

/-!
# From nodes to documents

Anchors are numbered in the order in which they are met: the number of an anchor
is the count of the different names met before it.  An alias refers to the number
that its name has at that point; the node of a number is the last one that was
given it in the whole document.  So a name may be used again, and an alias before
that still refers to the earlier node.

A node inside more than 128 others has no document, and neither has one in which
aliases are followed more than a hundred times as often as it has parts.  Both
limits hold also for nodes that contain themselves by an alias.
-/

namespace ContentSchema.Yaml

/-- A node in which anchors are numbers. -/
abbrev NumberedNode := Node Nat

namespace Node

mutual

/-- The number of parts of a node: containers count twice. -/
def size : NumberedNode → Nat
  | .alias _ => 1
  | .scalar _ _ _ => 1
  | .sequence _ items => 2 + sizes items
  | .mapping _ pairs => 2 + pairSizes pairs

/-- The number of parts of nodes. -/
def sizes : List NumberedNode → Nat
  | [] => 0
  | node :: rest => size node + sizes rest

/-- The number of parts of pairs. -/
def pairSizes : List (NumberedNode × NumberedNode) → Nat
  | [] => 0
  | (key, value) :: rest => size key + size value + pairSizes rest

end

/-- The numbers of the names of anchors that were met. -/
abbrev Numbers := List (String × Nat)

/-- Meet the anchor of a node, if it has one: a name that is met again gets a new number. -/
def meet (numbers : Numbers) (properties : Properties String) : Properties Nat × Numbers :=
  match properties.anchor with
  | none => (⟨none, properties.tag⟩, numbers)
  | some name =>
    let number := numbers.length
    (⟨some number, properties.tag⟩,
      (name, number) :: numbers.filter fun known => known.1 != name)

mutual

/-- Number the anchors of a node. -/
def number (numbers : Numbers) : NamedNode → Option (NumberedNode × Numbers)
  | .alias name => (numbers.lookup name).map fun found => (.alias found, numbers)
  | .scalar properties text isPlain =>
    let (properties, after) := meet numbers properties
    some (.scalar properties text isPlain, after)
  | .sequence properties items =>
    let (properties, met) := meet numbers properties
    (numberItems met items).map fun (items, after) => (.sequence properties items, after)
  | .mapping properties pairs =>
    let (properties, met) := meet numbers properties
    (numberPairs met pairs).map fun (pairs, after) => (.mapping properties pairs, after)

/-- Number the anchors of nodes. -/
def numberItems (numbers : Numbers) : List NamedNode → Option (List NumberedNode × Numbers)
  | [] => some ([], numbers)
  | item :: rest =>
    match number numbers item with
    | none => none
    | some (item, after) =>
      (numberItems after rest).map fun (items, further) => (item :: items, further)

/-- Number the anchors of pairs. -/
def numberPairs (numbers : Numbers) :
    List (NamedNode × NamedNode) → Option (List (NumberedNode × NumberedNode) × Numbers)
  | [] => some ([], numbers)
  | (key, value) :: rest =>
    match number numbers key with
    | none => none
    | some (key, afterKey) =>
      match number afterKey value with
      | none => none
      | some (value, after) =>
        (numberPairs after rest).map fun (pairs, further) => ((key, value) :: pairs, further)

end

/-- The nodes of numbers, the latest first. -/
abbrev Targets := List (Nat × NumberedNode)

/-- Add a node as the target of its number, if it has one. -/
def addTarget (targets : Targets) (anchor : Option Nat) (node : NumberedNode) : Targets :=
  match anchor with
  | none => targets
  | some number => (number, node) :: targets

mutual

/-- The targets in a node, added to earlier ones. -/
def targets (earlier : Targets) : NumberedNode → Targets
  | .alias _ => earlier
  | .scalar properties text isPlain =>
    addTarget earlier properties.anchor (.scalar properties text isPlain)
  | .sequence properties items =>
    itemTargets (addTarget earlier properties.anchor (.sequence properties items)) items
  | .mapping properties pairs =>
    pairTargets (addTarget earlier properties.anchor (.mapping properties pairs)) pairs

/-- The targets in nodes, added to earlier ones. -/
def itemTargets (earlier : Targets) : List NumberedNode → Targets
  | [] => earlier
  | item :: rest => itemTargets (targets earlier item) rest

/-- The targets in pairs, added to earlier ones. -/
def pairTargets (earlier : Targets) : List (NumberedNode × NumberedNode) → Targets
  | [] => earlier
  | (key, value) :: rest => pairTargets (targets (targets earlier key) value) rest

end

end Node

namespace Composition

/-- What composing a document needs to know. -/
structure Context where
  targets : Node.Targets
  /-- How often aliases may be followed altogether. -/
  jumpLimit : Nat

/-- Composing counts the aliases that are followed. -/
abbrev Composing := StateT Nat Option

/-- The node that a node stands for: that of the number, if it is an alias. -/
def follow (context : Context) (node : NumberedNode) : Composing NumberedNode := do
  match node with
  | .alias number =>
    let jumps ← get
    if context.jumpLimit ≤ jumps then failure
    else
      set (jumps + 1)
      match context.targets.lookup number with
      | some target => return target
      | none => failure
  | node => return node

/-- The text of a key, which has to be a scalar. -/
def key (context : Context) (node : NumberedNode) : Composing String := do
  match ← follow context node with
  | .scalar _ text _ => return text
  | _ => failure

/-- A container whose tag is refused has no document. -/
def acceptTag (properties : Properties Nat) : Composing Unit :=
  if Value.demandOf properties.tag = .refusal then failure else return ()

/-- How many containers may lie in one another. -/
def depthLimit : Nat := 128

/-- The document of a node in which so many containers may lie in one another. -/
def document (context : Context) : Nat → NumberedNode → Composing Document
  | depth, node => do
    match ← follow context node with
    | .alias _ => failure
    | .scalar properties text isPlain =>
      match Value.ofScalar properties.tag text isPlain with
      | some value => return value
      | none => failure
    | .sequence properties items =>
      acceptTag properties
      match depth with
      | 0 => failure
      | inner + 1 => return .array (← items.mapM (document context inner))
    | .mapping properties pairs =>
      acceptTag properties
      match depth with
      | 0 => failure
      | inner + 1 =>
        let members ← pairs.mapM fun (name, value) => do
          return (← key context name, ← document context inner value)
        return .ofMembers members

/-- The document of a root node. -/
def ofNode (root : NamedNode) : Option Document := do
  let (numbered, _) ← Node.number [] root
  let context : Context := ⟨Node.targets [] numbered, 100 * numbered.size⟩
  let (document, _) ← (document context depthLimit numbered).run 0
  return document

end Composition

end ContentSchema.Yaml

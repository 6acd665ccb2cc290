import ContentSchema.Yaml.Token

/-!
# Nodes of YAML text

The grammar turns tokens into a tree of nodes.  A node that is left out is an
empty plain scalar.  Sequences and mappings look different in blocks and in
brackets but are the same nodes; a sequence that is the value of a key may stand
in a block without an indentation of its own.

Every step of the grammar is given a number that bounds how often it may call
others in turn.  Each call takes a token or leads to one that does within a few
calls, so a small multiple of the number of tokens is enough.
-/

namespace ContentSchema.Yaml

/-- What is said of a node besides its content. -/
structure Properties (Anchor : Type) where
  anchor : Option Anchor
  /-- The tag with its handle replaced by what that stands for. -/
  tag : Option Uri
  deriving DecidableEq, Repr

/-- Nothing is said of a node. -/
def Properties.none {Anchor : Type} : Properties Anchor := ⟨.none, .none⟩

/-- A node of a document, in which anchors are values of some type. -/
inductive Node (Anchor : Type) where
  | alias (anchor : Anchor)
  | scalar (properties : Properties Anchor) (text : String) (isPlain : Bool)
  | sequence (properties : Properties Anchor) (items : List (Node Anchor))
  | mapping (properties : Properties Anchor) (pairs : List (Node Anchor × Node Anchor))
  deriving Repr

/-- A node as it is written, with names for anchors. -/
abbrev NamedNode := Node String

namespace Node

/-- A node that is left out. -/
def empty {Anchor : Type} (properties : Properties Anchor) : Node Anchor :=
  .scalar properties "" true

/-- A node without properties that is left out. -/
def missing {Anchor : Type} : Node Anchor := empty Properties.none

end Node

namespace Grammar

/-- What handles stand for. -/
abbrev Handles := List (String × Uri)

/-- The handles that need no directive. -/
def commonHandles : Handles :=
  [("!", .ofAscii "!"), ("!!", .ofAscii "tag:yaml.org,2002:")]

/-- The whole tag of a handle and a suffix. -/
def resolve (handles : Handles) (handle : String) (suffix : Uri) : Option Uri :=
  if handle == "" then some suffix
  else (handles.lookup handle).map fun expansion => expansion.append suffix

/-- The tag at the start of tokens, if one is there. -/
def readTag (handles : Handles) : List Token → Option (Option Uri × List Token)
  | .tag handle suffix :: rest =>
    (resolve handles handle suffix).map fun tag => (some tag, rest)
  | tokens => some (none, tokens)

/-- The properties at the start of tokens, in either order. -/
def readProperties (handles : Handles) (tokens : List Token) :
    Option (Properties String × List Token) := do
  match tokens with
  | .anchor name :: rest =>
    let (tag, after) ← readTag handles rest
    return (⟨some name, tag⟩, after)
  | _ =>
    let (tag, rest) ← readTag handles tokens
    match tag, rest with
    | some tag, .anchor name :: after => return (⟨some name, some tag⟩, after)
    | _, _ => return (⟨none, tag⟩, rest)

/-- Where a node stands: which shapes it may have there. -/
inductive Place where
  /-- Inside brackets. -/
  | flow
  /-- In a block. -/
  | block
  /-- The key or the value of a block mapping, where a sequence needs no indentation. -/
  | blockValue
  deriving DecidableEq

/-- The content of a block entry is left out before these tokens. -/
def endsBlockEntry : List Token → Bool
  | .blockEntry :: _ => true
  | .blockEnd :: _ => true
  | _ => false

/-- The content of an entry without indentation is left out before these tokens. -/
def endsLooseEntry : List Token → Bool
  | .blockEntry :: _ => true
  | .key :: _ => true
  | .value :: _ => true
  | .blockEnd :: _ => true
  | _ => false

/-- A key or a value of a block mapping is left out before these tokens. -/
def endsBlockPart : List Token → Bool
  | .key :: _ => true
  | .value :: _ => true
  | .blockEnd :: _ => true
  | _ => false

/-- A key of a bracketed mapping is left out before these tokens. -/
def endsFlowKey : List Token → Bool
  | .value :: _ => true
  | .flowEntry :: _ => true
  | .flowMappingEnd :: _ => true
  | _ => false

/-- A value of a bracketed mapping is left out before these tokens. -/
def endsFlowValue : List Token → Bool
  | .flowEntry :: _ => true
  | .flowMappingEnd :: _ => true
  | _ => false

/-- A value of a single pair in a bracketed sequence is left out before these tokens. -/
def endsPairValue : List Token → Bool
  | .flowEntry :: _ => true
  | .flowSequenceEnd :: _ => true
  | _ => false

/-- A key of a single pair in a bracketed sequence is left out before these tokens. -/
def endsPairKey : List Token → Bool
  | .value :: _ => true
  | tokens => endsPairValue tokens

/-- What a step of the grammar gives: a part, and the tokens after it. -/
abbrev Step (Part : Type) := Option (Part × List Token)

/-- Properties can stand without content. -/
def bare (properties : Properties String) (tokens : List Token) : Step NamedNode :=
  if properties = Properties.none then none else some (.empty properties, tokens)

mutual

/-- A node at some place. -/
def node (handles : Handles) (place : Place) : Nat → List Token → Step NamedNode
  | 0, _ => none
  | _ + 1, .alias name :: rest => some (.alias name, rest)
  | steps + 1, tokens =>
    match readProperties handles tokens with
    | none => none
    | some (properties, rest) => content handles place properties steps rest

/-- The content of a node with its properties. -/
def content (handles : Handles) (place : Place) (properties : Properties String) :
    Nat → List Token → Step NamedNode
  | 0, _ => none
  | steps + 1, tokens =>
    match place, tokens with
    | .blockValue, .blockEntry :: _ =>
      (looseEntries handles steps tokens).map fun (items, after) =>
        (.sequence properties items, after)
    | _, .scalar text isPlain :: rest => some (.scalar properties text isPlain, rest)
    | _, .flowSequenceStart :: rest =>
      (flowItems handles true steps rest).map fun (items, after) =>
        (.sequence properties items, after)
    | _, .flowMappingStart :: rest =>
      (flowPairs handles true steps rest).map fun (pairs, after) =>
        (.mapping properties pairs, after)
    | .flow, _ => bare properties tokens
    | _, .blockSequenceStart :: rest =>
      (blockEntries handles steps rest).map fun (items, after) =>
        (.sequence properties items, after)
    | _, .blockMappingStart :: rest =>
      (blockPairs handles steps rest).map fun (pairs, after) =>
        (.mapping properties pairs, after)
    | _, _ => bare properties tokens

/-- A node that may be left out. -/
def optional (handles : Handles) (place : Place) (leftOut : List Token → Bool) :
    Nat → List Token → Step NamedNode
  | 0, _ => none
  | steps + 1, tokens =>
    if leftOut tokens then some (Node.missing, tokens) else node handles place steps tokens

/-- The entries of a block sequence, to its end. -/
def blockEntries (handles : Handles) : Nat → List Token → Step (List NamedNode)
  | 0, _ => none
  | steps + 1, .blockEntry :: rest =>
    match optional handles .block endsBlockEntry steps rest with
    | none => none
    | some (item, after) =>
      (blockEntries handles steps after).map fun (items, further) => (item :: items, further)
  | _ + 1, .blockEnd :: rest => some ([], rest)
  | _ + 1, _ => none

/-- The entries of a sequence without indentation, as long as there are any. -/
def looseEntries (handles : Handles) : Nat → List Token → Step (List NamedNode)
  | 0, _ => none
  | steps + 1, .blockEntry :: rest =>
    match optional handles .block endsLooseEntry steps rest with
    | none => none
    | some (item, after) =>
      (looseEntries handles steps after).map fun (items, further) => (item :: items, further)
  | _ + 1, tokens => some ([], tokens)

/-- The pairs of a block mapping, to its end. -/
def blockPairs (handles : Handles) : Nat → List Token → Step (List (NamedNode × NamedNode))
  | 0, _ => none
  | steps + 1, .key :: rest =>
    match optional handles .blockValue endsBlockPart steps rest with
    | none => none
    | some (key, afterKey) =>
      match blockValue handles steps afterKey with
      | none => none
      | some (value, after) =>
        (blockPairs handles steps after).map fun (pairs, further) =>
          ((key, value) :: pairs, further)
  | _ + 1, .blockEnd :: rest => some ([], rest)
  | _ + 1, _ => none

/-- The value of a pair in a block mapping. -/
def blockValue (handles : Handles) : Nat → List Token → Step NamedNode
  | 0, _ => none
  | steps + 1, .value :: rest => optional handles .blockValue endsBlockPart steps rest
  | _ + 1, tokens => some (Node.missing, tokens)

/-- The items of a bracketed sequence, to its end; a comma stands before all but the first. -/
def flowItems (handles : Handles) (isFirst : Bool) : Nat → List Token → Step (List NamedNode)
  | 0, _ => none
  | _ + 1, .flowSequenceEnd :: rest => some ([], rest)
  | steps + 1, .flowEntry :: rest =>
    if isFirst then none
    else
      match rest with
      | .flowSequenceEnd :: after => some ([], after)
      | _ => flowItem handles steps rest
  | steps + 1, tokens => if isFirst then flowItem handles steps tokens else none

/-- An item of a bracketed sequence, and all after it. -/
def flowItem (handles : Handles) : Nat → List Token → Step (List NamedNode)
  | 0, _ => none
  | steps + 1, .key :: rest =>
    match pairKey handles steps rest with
    | none => none
    | some (key, afterKey) =>
      match pairValue handles steps afterKey with
      | none => none
      | some (value, after) =>
        (flowItems handles false steps after).map fun (items, further) =>
          (.mapping Properties.none [(key, value)] :: items, further)
  | steps + 1, tokens =>
    match node handles .flow steps tokens with
    | none => none
    | some (item, after) =>
      (flowItems handles false steps after).map fun (items, further) => (item :: items, further)

/-- The key of a single pair in a bracketed sequence; one that is left out takes a token. -/
def pairKey (handles : Handles) : Nat → List Token → Step NamedNode
  | 0, _ => none
  | steps + 1, tokens =>
    if endsPairKey tokens then some (Node.missing, tokens.tail)
    else node handles .flow steps tokens

/-- The value of a single pair in a bracketed sequence. -/
def pairValue (handles : Handles) : Nat → List Token → Step NamedNode
  | 0, _ => none
  | steps + 1, .value :: rest => optional handles .flow endsPairValue steps rest
  | _ + 1, tokens => some (Node.missing, tokens)

/-- The pairs of a bracketed mapping, to its end; a comma stands before all but the first. -/
def flowPairs (handles : Handles) (isFirst : Bool) :
    Nat → List Token → Step (List (NamedNode × NamedNode))
  | 0, _ => none
  | _ + 1, .flowMappingEnd :: rest => some ([], rest)
  | steps + 1, .flowEntry :: rest =>
    if isFirst then none
    else
      match rest with
      | .flowMappingEnd :: after => some ([], after)
      | _ => flowPair handles steps rest
  | steps + 1, tokens => if isFirst then flowPair handles steps tokens else none

/-- A pair of a bracketed mapping, and all after it. -/
def flowPair (handles : Handles) : Nat → List Token → Step (List (NamedNode × NamedNode))
  | 0, _ => none
  | steps + 1, .key :: rest =>
    match optional handles .flow endsFlowKey steps rest with
    | none => none
    | some (key, afterKey) =>
      match flowValue handles steps afterKey with
      | none => none
      | some (value, after) =>
        (flowPairs handles false steps after).map fun (pairs, further) =>
          ((key, value) :: pairs, further)
  | steps + 1, tokens =>
    match node handles .flow steps tokens with
    | none => none
    | some (key, after) =>
      (flowPairs handles false steps after).map fun (pairs, further) =>
        ((key, Node.missing) :: pairs, further)

/-- The value of a pair in a bracketed mapping. -/
def flowValue (handles : Handles) : Nat → List Token → Step NamedNode
  | 0, _ => none
  | steps + 1, .value :: rest => optional handles .flow endsFlowValue steps rest
  | _ + 1, tokens => some (Node.missing, tokens)

end

/-- The directives before a document: at most one version, and no handle twice. -/
def readDirectives (hasVersion : Bool) (handles : Handles) :
    List Token → Option (Handles × Bool × List Token)
  | .version major minor :: rest =>
    if hasVersion || major != 1 || (minor != 1 && minor != 2) then none
    else readDirectives true handles rest
  | .tagHandle handle expansion :: rest =>
    if (handles.lookup handle).isSome then none
    else readDirectives hasVersion ((handle, expansion) :: handles) rest
  | tokens => some (handles, hasVersion || !handles.isEmpty, tokens)

/-- The content of a document after its start is left out before these tokens. -/
def endsDocument : List Token → Bool
  | [] => true
  | .version _ _ :: _ => true
  | .tagHandle _ _ :: _ => true
  | .documentStart :: _ => true
  | .documentEnd :: _ => true
  | _ => false

/-- So many calls are enough for so many tokens. -/
def stepsFor (tokens : List Token) : Nat :=
  8 * tokens.length + 8

/-- The one document that tokens write. -/
def document (tokens : List Token) : Option NamedNode := do
  let (handles, hasDirectives, rest) ← readDirectives false [] tokens
  let known := handles ++ commonHandles
  let (root, after) ←
    match rest with
    | .documentStart :: body =>
      optional known .block endsDocument (stepsFor body) body
    | _ => if hasDirectives then none else node known .block (stepsFor rest) rest
  if after.all (· == .documentEnd) then return root else none

end Grammar

end ContentSchema.Yaml

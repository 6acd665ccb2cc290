import ContentSchema.Json.Token

/-!
# Reading JSON text

The grammar is a machine that takes one token at a time.  Its state says what may
come next and holds the containers that are still open, the innermost first, with
the parts of them that are complete.  At most 127 containers may be open at once.
-/

namespace ContentSchema.Json

/-- A container that is still open, with its complete parts, the latest first. -/
inductive Frame where
  | elements (before : List Document)
  | members (before : List (String × Document)) (key : String)
  deriving Repr

/-- What may come next. -/
inductive State where
  /-- A value. -/
  | value (frames : List Frame)
  /-- The first element of an array, or its end. -/
  | elementOrClose (frames : List Frame)
  /-- The first key of an object, or its end. -/
  | keyOrClose (frames : List Frame)
  /-- A key, after those members. -/
  | key (before : List (String × Document)) (frames : List Frame)
  /-- The colon after a key. -/
  | colon (before : List (String × Document)) (key : String) (frames : List Frame)
  /-- A separator or the end of the innermost container, after a whole value. -/
  | complete (value : Document) (frames : List Frame)
  deriving Repr

/-- The greatest number of containers that may be open at once. -/
def depthLimit : Nat := 127

/-- Whether one more container may be opened inside those. -/
def mayOpen (frames : List Frame) : Bool :=
  frames.length < depthLimit

/-- A token at a place where a value is to start. -/
def State.startValue (frames : List Frame) : Token → Option State
  | .openArray => if mayOpen frames then some (.elementOrClose frames) else none
  | .openObject => if mayOpen frames then some (.keyOrClose frames) else none
  | .string text => some (.complete (.string text) frames)
  | .scalar document => some (.complete document frames)
  | _ => none

/-- A token after a whole value. -/
def State.afterValue (document : Document) : List Frame → Token → Option State
  | .elements before :: frames, .comma => some (.value (.elements (document :: before) :: frames))
  | .elements before :: frames, .closeArray =>
    some (.complete (.array (document :: before).reverse) frames)
  | .members before name :: frames, .comma => some (.key ((name, document) :: before) frames)
  | .members before name :: frames, .closeObject =>
    some (.complete (.ofMembers ((name, document) :: before).reverse) frames)
  | _, _ => none

/-- The state after one more token; none when the token cannot stand there. -/
def State.step : State → Token → Option State
  | .value frames, token => startValue frames token
  | .elementOrClose frames, .closeArray => some (.complete (.array []) frames)
  | .elementOrClose frames, token => startValue (.elements [] :: frames) token
  | .keyOrClose frames, .closeObject => some (.complete (.object []) frames)
  | .keyOrClose frames, .string name => some (.colon [] name frames)
  | .keyOrClose _, _ => none
  | .key before frames, .string name => some (.colon before name frames)
  | .key _ _, _ => none
  | .colon before name frames, .colon => some (.value (.members before name :: frames))
  | .colon _ _ _, _ => none
  | .complete document frames, token => afterValue document frames token

/-- The value of a state in which no container is open and nothing is missing. -/
def State.result? : State → Option Document
  | .complete document [] => some document
  | _ => none

/-- The document that a list of tokens writes. -/
def ofTokens (tokens : List Token) : Option Document :=
  (tokens.foldlM State.step (.value [])).bind State.result?

/-- The document that a text writes. -/
def read (text : String) : Option Document :=
  (tokens text).bind ofTokens

end ContentSchema.Json

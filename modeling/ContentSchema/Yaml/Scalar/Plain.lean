import ContentSchema.Yaml.Gap

/-!
# Plain scalars

A plain scalar goes on until something that cannot belong to it: a comment, a
colon at the end of a word, a bracket or a comma inside brackets, a line that is
not indented far enough, or the start or end of a document.
-/

namespace ContentSchema.Yaml.Plain

/-- The characters that mean something inside brackets. -/
def isFlowIndicator (character : Char) : Bool :=
  character == ',' || character == '[' || character == ']' || character == '\x7b'
    || character == '\x7d'

/--
A word of a plain scalar: no blank is in it.  Inside brackets a colon must not
stand right before an indicator.
-/
def readWord (inFlow : Bool) : Nat → Cursor → Option (List Char × Cursor)
  | 0, cursor => some ([], cursor)
  | steps + 1, cursor =>
    match cursor.next? with
    | none => some ([], cursor)
    | some character =>
      let beforeIndicator :=
        cursor.seesAhead 1 fun following => isFlowIndicator following || following == '?'
      if isBlank character || isBreak character then some ([], cursor)
      else if inFlow && character == ':' && beforeIndicator then none
      else if character == ':' && cursor.endsWordAhead 1 then some ([], cursor)
      else if inFlow && isFlowIndicator character then some ([], cursor)
      else
        match readWord inFlow steps (cursor.skip 1) with
        | none => none
        | some (word, after) => some (character :: word, after)

/-- A plain scalar with what follows it. -/
structure Result where
  text : List Char
  /-- A line was broken after the last word. -/
  broken : Bool
  cursor : Cursor

/-- A scalar with more text in front. -/
def Result.after (read : List Char) (result : Result) : Result :=
  { result with text := read ++ result.text }

/-- Read words, each after a gap, at most so many. -/
def readWithin (inFlow : Bool) (firstColumn : Int) : Nat → Gap → Cursor → Option Result
  | 0, gap, cursor => some ⟨[], gap.broken, cursor⟩
  | steps + 1, gap, cursor =>
    if cursor.isAtDocumentMarker || cursor.isAt '#' then some ⟨[], gap.broken, cursor⟩
    else
      match readWord inFlow cursor.remaining cursor with
      | none => none
      | some ([], after) => some ⟨[], gap.broken, after⟩
      | some (word, after) =>
        let read := gap.fold ++ word
        if after.sees fun character => isBlank character || isBreak character then
          match Gap.none.read firstColumn after with
          | none => none
          | some (further, start) =>
            if !inFlow && (start.column : Int) < firstColumn then
              some ⟨read, further.broken, start⟩
            else (readWithin inFlow firstColumn steps further start).map (Result.after read)
        else some ⟨read, false, after⟩

/-- Read a plain scalar whose further lines start at a column or after it. -/
def read (inFlow : Bool) (firstColumn : Int) (cursor : Cursor) : Option Result :=
  readWithin inFlow firstColumn (cursor.remaining + 1) Gap.none cursor

end ContentSchema.Yaml.Plain

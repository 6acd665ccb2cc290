/-!
# Paths

A path is a text of segments between slashes.  Empty segments say nothing, and
neither does a single dot, unless it is how the path starts.  The remaining
segments are the components; the slash in front of an absolute path is one too.
-/

namespace ContentSchema.Path

/-- The segments of a text between slashes. -/
def segments (path : String) : List String :=
  (path.toList.splitOn '/').map String.ofList

/-- A path that does not depend on the working directory. -/
def isAbsolute (path : String) : Bool :=
  path.toList.head? == some '/'

/-- A segment that says nothing where it is not the first. -/
def isSilent (segment : String) : Bool :=
  segment == "" || segment == "."

/-- The components of a path. -/
def components (path : String) : List String :=
  match segments path with
  | [] => []
  | first :: rest =>
    let named := rest.filter fun segment => !isSilent segment
    if isAbsolute path then "/" :: named
    else if first == "" then named
    else first :: named

/-- Drop the silent segments at the end, but not the first segment. -/
def trimSilent : List String → List String
  | [] => []
  | first :: rest => first :: (rest.reverse.dropWhile isSilent).reverse

/--
The path of the directory that holds a path: everything before the last component.
The empty path and the root are held by none.
-/
def parent? (path : String) : Option String :=
  let named := trimSilent (segments path)
  if path == "" || named == [""] then none
  else
    let before := trimSilent named.dropLast
    if before == [""] then some "/" else some (String.intercalate "/" before)

/-- The name of what a path leads to, unless it leads to a directory above or to itself. -/
def fileName? (path : String) : Option String :=
  match (components path).getLast? with
  | none => none
  | some last => if last == ".." || last == "." || last == "/" then none else some last

/-- What follows the last dot of a file name, unless that dot is how the name starts. -/
def extension? (path : String) : Option String :=
  (fileName? path).bind fun name =>
    let ending := name.toList.reverse.takeWhile (· != '.')
    if name.length ≤ ending.length + 1 then none
    else some (String.ofList ending.reverse)

end ContentSchema.Path

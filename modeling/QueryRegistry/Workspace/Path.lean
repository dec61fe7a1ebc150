/-! Paths to files. A path leads from the working directory, or from the top if it begins with a
slash, through names that slashes separate. Empty names and single dots lead nowhere and are left
out, so that a path without names means the place where it begins. -/

namespace QueryRegistry

/-- Where a path begins. Two slashes in front are not the same as one; more than two are. -/
inductive PathStart where
  | here
  | top
  | doubledTop
  deriving DecidableEq, Repr

structure Path where
  start : PathStart
  names : List String
  deriving DecidableEq, Repr

namespace Path

def startOf (text : List Char) : PathStart :=
  match (text.takeWhile (· == '/')).length with
  | 0 => .here
  | 2 => .doubledTop
  | _ => .top

def isName (piece : List Char) : Bool := piece != [] && piece != ['.']

def ofText (text : String) : Path :=
  ⟨startOf text.toList, ((text.toList.splitOn '/').filter isName).map String.ofList⟩

def text (path : Path) : String :=
  let names := "/".intercalate path.names
  match path.start with
  | .here => if path.names = [] then "." else names
  | .top => "/" ++ names
  | .doubledTop => "//" ++ names

end Path

end QueryRegistry

import QueryRegistry.Document.Basic

/-! The names that a selection spreads, at any depth, in the order in which they are written. -/

namespace QueryRegistry

namespace Selection

mutual

def spreads : Selection → List String
  | .field _ _ _ _ selections => spreadsOfSet selections
  | .spread name _ => [name]
  | .inline _ _ selections => spreadsOfSet selections

def spreadsOfSet : Option (List Selection) → List String
  | none => []
  | some selections => spreadsOfList selections

def spreadsOfList : List Selection → List String
  | [] => []
  | selection :: rest => spreads selection ++ spreadsOfList rest

end

end Selection

def Fragment.spreads (fragment : Fragment) : List String :=
  Selection.spreadsOfSet fragment.selections

def Executable.spreads (definition : Executable) : List String :=
  Selection.spreadsOfSet definition.selections

end QueryRegistry

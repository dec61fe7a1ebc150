import QueryRegistry.Document.Basic
import QueryRegistry.Log
import QueryRegistry.Table

/-! The fragments that can be spread, by their names. When several definitions have one name, the
last of them holds; its place is that of the first. -/

namespace QueryRegistry

abbrev FragmentTable := Table String Fragment

abbrev FragmentIndex := FragmentTable

inductive FragmentSource where
  | document (document : Document)
  | fragment (fragment : Fragment)
  deriving Repr

def FragmentSource.definitions : FragmentSource → List Definition
  | document d => d.definitions
  | fragment f => [.fragment f]

namespace FragmentIndex

/-- Takes a definition into the index if it is a fragment, and notes a name that had one. -/
def add (index : FragmentIndex) (definition : Definition) : Logged FragmentIndex := do
  match definition.fragment? with
  | none => return index
  | some fragment =>
    if index.contains fragment.name then
      Logged.record (.redefined fragment.name)
    return index.insert fragment.name fragment

def addSource (index : FragmentIndex) (source : FragmentSource) : Logged FragmentIndex :=
  source.definitions.foldlM add index

def ofSources (sources : List FragmentSource) : Logged FragmentIndex := do
  let index ← sources.foldlM addSource Table.empty
  Logged.record (.indexed index.size)
  return index

def ofDocuments (documents : List Document) : Logged FragmentIndex :=
  ofSources (documents.map .document)

end FragmentIndex

end QueryRegistry

import QueryRegistry.Digest.Sha256
import QueryRegistry.Document.Printer
import QueryRegistry.Fragment.Used
import QueryRegistry.Json.Writer
import QueryRegistry.Mode
import QueryRegistry.Setting.Printer
import QueryRegistry.Typename

/-! The list of queries: an entry for each operation of the documents, made from the text that is sent
for it: the fragments it uses, in the order in which they are met, and the operation itself at the end.
What came first in a document is listed first; an entry with the key of an earlier one takes its
place. -/

namespace QueryRegistry

namespace FragmentIndex

def canonicalDefinitions (index : FragmentIndex) (definition : Executable) :
    Except SpreadError (List Executable) :=
  (index.used definition).map fun used => used.values.map .fragment ++ [definition]

def canonicalText (index : FragmentIndex) (definition : Executable) :
    Except SpreadError String :=
  (index.canonicalDefinitions definition).map Executable.printAll

end FragmentIndex

/-- Why no queries are listed. -/
inductive Failure where
  | missingName
  | spread (error : SpreadError)
  | invalidMode (given : Setting)
  deriving Repr

def SpreadError.message : SpreadError → String
  | unknown name => "Unknown fragment: " ++ name
  | cycle path => "Fragment cycle: " ++ " -> ".intercalate path

def Failure.message : Failure → String
  | missingName => "OperationDefinition missing name"
  | spread error => error.message
  | invalidMode given =>
    "Output must be configured to 'server' or 'client', got " ++ given.print

def Mode.entry (mode : Mode) (name text : String) : String × String :=
  match mode with
  | client => (name, digestText text)
  | server => (digestText text, text)

def register (mode : Mode) (index : FragmentIndex) (listed : Table String String)
    (operation : Operation) : Run Failure (Table String String) := do
  match operation.name with
  | none => throw .missingName
  | some name =>
    let text ← Run.ofExcept ((index.canonicalText (.operation operation)).mapError .spread)
    Run.record (.identified name (digestText text))
    let (key, value) := mode.entry name text
    if listed.contains key then
      Run.record (.replaced key)
    return listed.insert key value

def ModeChoice.resolveRun (choice : ModeChoice) : Run Failure Mode :=
  Run.ofExcept (choice.resolve.mapError .invalidMode)

def queryIds (choice : ModeChoice) (documents : List Document) :
    Run Failure (Table String String) := do
  let mode ← choice.resolveRun
  let normalized := documents.map Document.normalized
  let index ← ExceptT.lift (FragmentIndex.ofDocuments normalized)
  (normalized.flatMap Document.operations).foldlM (register mode index) Table.empty

/-- The queries as the text that is handed on. A mode that cannot be used is refused before the
documents are looked at. -/
def queryList (choice : ModeChoice) (documents : List Document) : Run Failure String := do
  let listed ← queryIds choice documents
  return Json.writeObject listed.entries

end QueryRegistry

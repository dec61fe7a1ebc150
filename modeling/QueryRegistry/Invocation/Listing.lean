import QueryRegistry.Configuration
import QueryRegistry.Document.Excerpt
import QueryRegistry.Document.Parser
import QueryRegistry.Invocation.Basic
import QueryRegistry.Registration
import QueryRegistry.Workspace

/-! What a run makes of the files it is given. The mode is settled before the first document is
read, and all documents are read before the queries are listed. -/

namespace QueryRegistry

abbrev Reading := Path → Except FileFault (List UInt8)

inductive RunFault where
  | file (fault : FileFault)
  | configuration (path : Path) (error : ConfigurationError)
  | undecodable (fault : Utf8.Fault)
  | malformed (text : String) (error : SyntaxError)
  | failed (failure : Failure)
  deriving Repr

/-- What is said of a fault, unless it is that nothing can be said. -/
def RunFault.message : RunFault → Except Yaml.Breakdown String
  | file fault => .ok fault.message
  | configuration path error => error.message path.text
  | undecodable fault => .ok fault.message
  | malformed text error => .ok (error.report text)
  | failed failure => .ok failure.message

def readDocument (reading : Reading) (path : Path) : Except RunFault Document := do
  let bytes ← (reading path).mapError .file
  let chars ← (Utf8.decode bytes).mapError .undecodable
  let text := String.ofList (unifyLineEnds chars)
  (Document.parse text).mapError (.malformed text)

namespace Invocation

def inputs (invocation : Invocation) : List Path :=
  if invocation.mode.isSome then invocation.files
  else invocation.configuration.toList ++ invocation.files

/-- The mode that is asked for. A configuration is read only if none is named directly. -/
def choice (invocation : Invocation) (reading : Reading) : Except RunFault ModeChoice :=
  match invocation.mode, invocation.configuration with
  | some name, _ => .ok (.setting (.text name))
  | none, none => .ok (.setting .null)
  | none, some path => do
    let bytes ← (reading path).mapError .file
    (readConfiguration bytes).mapError (.configuration path)

def listing (invocation : Invocation) (reading : Reading) : Run RunFault String := do
  let choice ← Run.ofExcept (invocation.choice reading)
  let mode ← ExceptT.adapt .failed choice.resolveRun
  let documents ← Run.ofExcept (invocation.files.mapM (readDocument reading))
  let text ← ExceptT.adapt .failed (queryList (.ready mode) documents)
  return text ++ "\n"

end Invocation

end QueryRegistry

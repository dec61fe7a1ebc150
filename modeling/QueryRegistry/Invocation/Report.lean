import QueryRegistry.Console.Markup
import QueryRegistry.Invocation.Listing

/-! How a run ends. A run that fails prints nothing and writes nothing but its error, and one that breaks
down not even that; one that succeeds prints its text or, if a file is named for it, writes it there.
The notes of a run are shown when that is asked for. -/

namespace QueryRegistry

/-- What a run leaves behind besides files: a number that tells whether it went well, what it prints,
what it says about its work, and what broke it off. -/
structure Report where
  exitCode : Nat
  output : String
  errors : String
  breakdown : Option Yaml.Breakdown := none
  deriving DecidableEq, Repr

namespace Invocation

def noteLine (event : Event) : String :=
  "DEBUG:" ++ event.origin ++ ":" ++ event.text ++ "\n"

def notes (invocation : Invocation) (log : List Event) : String :=
  if invocation.verbose then String.join (log.map noteLine) else ""

def failure (invocation : Invocation) (log : List Event) (fault : RunFault) : Report :=
  match fault.message with
  | .ok text => ⟨1, "", invocation.notes log ++ Console.errorLine text, none⟩
  | .error breakdown => ⟨1, "", invocation.notes log, some breakdown⟩

def success (invocation : Invocation) (log : List Event) (output : String) : Report :=
  ⟨0, output, invocation.notes log, none⟩

/-- Ends a run: `write` puts a text into a file, for whoever keeps the files. -/
def conclude {m : Type → Type} [Monad m] (invocation : Invocation)
    (write : Path → List UInt8 → m (Except FileFault Unit)) (listing : Run RunFault String) :
    m Report :=
  match listing.result, invocation.out with
  | .error fault, _ => pure (invocation.failure listing.log fault)
  | .ok text, none => pure (invocation.success listing.log text)
  | .ok text, some path => do
    match ← write path text.toUTF8.data.toList with
    | .error fault => pure (invocation.failure listing.log (.file fault))
    | .ok () => pure (invocation.success listing.log "")

end Invocation

def Workspace.put (path : Path) (bytes : List UInt8) : StateM Workspace (Except FileFault Unit) :=
  fun workspace =>
    match workspace.write path bytes with
    | .error fault => (.error fault, workspace)
    | .ok written => (.ok (), written)

def Invocation.run (invocation : Invocation) (workspace : Workspace) : Report × Workspace :=
  (invocation.conclude Workspace.put (invocation.listing workspace.read)).run workspace

end QueryRegistry

import QueryRegistry.Table
import QueryRegistry.Text.Quoted
import QueryRegistry.Workspace.Path

/-! The files that a run can read and write. They stand in a tree of directories; a path is followed
name by name, and only a directory can be left for what it holds or for the directory around it. -/

namespace QueryRegistry

inductive FileEntry where
  | file (bytes : List UInt8)
  | directory
  deriving DecidableEq, Repr

abbrev Place := List String

inductive FileProblem where
  | missing
  | notDirectory
  | isDirectory
  | nameTooLong
  | other (number : Nat) (description : String)
  deriving DecidableEq, Repr

namespace FileProblem

def number : FileProblem → Nat
  | missing => 2
  | notDirectory => 20
  | isDirectory => 21
  | nameTooLong => 36
  | other n _ => n

def description : FileProblem → String
  | missing => "No such file or directory"
  | notDirectory => "Not a directory"
  | isDirectory => "Is a directory"
  | nameTooLong => "File name too long"
  | other _ text => text

end FileProblem

structure FileFault where
  problem : FileProblem
  path : Path
  deriving DecidableEq, Repr

def FileFault.message (fault : FileFault) : String :=
  "[Errno " ++ toString fault.problem.number ++ "] " ++ fault.problem.description ++ ": " ++
    quote fault.path.text

structure Workspace where
  entries : Table Place FileEntry := Table.empty
  here : Place := []
  deriving Repr

namespace Workspace

/-- The top of the tree is always a directory. -/
def entryAt (workspace : Workspace) (place : Place) : Option FileEntry :=
  if place = [] then some .directory else workspace.entries.find? place

def longestName : Nat := 255

def longestPath : Nat := 4095

/-- Goes from a directory to what it holds under a name. Above the top there is the top again. -/
def follow (workspace : Workspace) (place : Place) (name : String) : Except FileProblem Place :=
  match workspace.entryAt place with
  | none => .error .missing
  | some (.file _) => .error .notDirectory
  | some .directory =>
    if longestName < name.utf8ByteSize then .error .nameTooLong
    else .ok (if name = ".." then place.dropLast else place ++ [name])

def startOf (workspace : Workspace) : PathStart → Place
  | .here => workspace.here
  | _ => []

/-- The place that a path leads to. There need not be anything at it. -/
def locate (workspace : Workspace) (path : Path) : Except FileProblem Place :=
  if longestPath < path.text.utf8ByteSize then .error .nameTooLong
  else path.names.foldlM workspace.follow (workspace.startOf path.start)

def readAt (workspace : Workspace) (place : Place) : Except FileProblem (List UInt8) :=
  match workspace.entryAt place with
  | none => .error .missing
  | some .directory => .error .isDirectory
  | some (.file bytes) => .ok bytes

def writeAt (workspace : Workspace) (bytes : List UInt8) (place : Place) :
    Except FileProblem Workspace :=
  if workspace.entryAt place = some .directory then .error .isDirectory
  else .ok { workspace with entries := workspace.entries.insert place (.file bytes) }

def read (workspace : Workspace) (path : Path) : Except FileFault (List UInt8) :=
  (workspace.locate path >>= workspace.readAt).mapError (⟨·, path⟩)

def write (workspace : Workspace) (path : Path) (bytes : List UInt8) :
    Except FileFault Workspace :=
  (workspace.locate path >>= workspace.writeAt bytes).mapError (⟨·, path⟩)

end Workspace

end QueryRegistry

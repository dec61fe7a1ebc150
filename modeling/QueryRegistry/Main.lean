import QueryRegistry.Invocation.Report

/-! The program: it takes its arguments from the command line, reads the files that they name, and
does with the result what the library says. -/

namespace QueryRegistry

/-- The number of a problem, which may come with either sign. -/
def FileProblem.ofNumber (code : UInt32) (details : String) : FileProblem :=
  match min code.toNat (-code).toNat with
  | 2 => .missing
  | 20 => .notDirectory
  | 21 => .isDirectory
  | number => .other number details

def FileProblem.ofError : IO.Error → FileProblem
  | .noFileOrDirectory _ code details => .ofNumber code details
  | .inappropriateType _ code details => .ofNumber code details
  | .permissionDenied _ code details => .ofNumber code details
  | .otherError code details => .ofNumber code details
  | error => .other 5 error.toString

def attempt {α : Type} (path : Path) (action : IO α) : IO (Except FileFault α) := do
  try
    return .ok (← action)
  catch error =>
    return .error ⟨.ofError error, path⟩

def readFile (path : Path) : IO (Except FileFault (List UInt8)) :=
  attempt path do return (← IO.FS.readBinFile path.text).toList

def writeFile (path : Path) (bytes : List UInt8) : IO (Except FileFault Unit) :=
  attempt path (IO.FS.writeBinFile path.text ⟨bytes.toArray⟩)

def readInputs (invocation : Invocation) : IO Reading := do
  let contents ← invocation.inputs.mapM fun path => return (path, ← readFile path)
  return fun path => (contents.lookup path).getD (.error ⟨.missing, path⟩)

def runProgram (arguments : List String) : IO UInt32 := do
  match Invocation.ofArguments arguments with
  | .error fault =>
    IO.eprintln ("Error: " ++ fault.message)
    return 2
  | .ok invocation =>
    let reading ← readInputs invocation
    let report ← invocation.conclude writeFile (invocation.listing reading)
    IO.print report.output
    IO.eprint report.errors
    if let some breakdown := report.breakdown then
      IO.eprintln breakdown.kind
    return report.exitCode.toUInt32

end QueryRegistry

def main (arguments : List String) : IO UInt32 :=
  QueryRegistry.runProgram arguments

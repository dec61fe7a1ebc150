import QueryRegistry.Workspace.Path

/-! What a run is asked to do, and how it is told: by arguments, among which options may stand
anywhere. Of an option that is given more than once the last value holds. -/

namespace QueryRegistry

structure Invocation where
  files : List Path := []
  mode : Option String := none
  configuration : Option Path := none
  out : Option Path := none
  verbose : Bool := false
  deriving DecidableEq, Repr

inductive ValuedOption where
  | mode
  | configuration
  | out
  deriving DecidableEq, Repr

inductive UsageFault where
  | unknownOption (text : String)
  | unwantedValue (option : String)
  | missingValue (option : String)
  | noFiles
  deriving DecidableEq, Repr

def UsageFault.message : UsageFault → String
  | unknownOption text => "No such option: " ++ text
  | unwantedValue option => "Option '" ++ option ++ "' does not take a value."
  | missingValue option => "Option '" ++ option ++ "' requires an argument."
  | noFiles => "Missing argument 'FILES...'."

inductive Argument where
  | file
  | endOfOptions
  | verbose
  | valued (option : ValuedOption) (value : Option String)
  deriving DecidableEq, Repr

def ValuedOption.ofName? (name : String) : Option ValuedOption :=
  if name = "--output-mode" then some .mode
  else if name = "--config" then some .configuration
  else if name = "--out" then some .out
  else none

namespace Argument

def splitValue (text : List Char) : String × Option String :=
  (String.ofList (text.takeWhile (· != '=')),
    (text.dropWhile (· != '=')).tail?.map String.ofList)

def ofLong (text : List Char) : Except UsageFault Argument :=
  let (name, value) := splitValue text
  match ValuedOption.ofName? name, value with
  | some option, value => .ok (.valued option value)
  | none, none => if name = "--verbose" then .ok .verbose else .error (.unknownOption name)
  | none, some _ =>
    .error (if name = "--verbose" then .unwantedValue name else .unknownOption name)

/-- A dash alone is a file. Behind a single dash stand letters, each of them an option. -/
def ofText (text : String) : Except UsageFault Argument :=
  match text.toList with
  | ['-', '-'] => .ok .endOfOptions
  | '-' :: '-' :: rest => ofLong ('-' :: '-' :: rest)
  | '-' :: c :: rest =>
    if (c :: rest).all (· == 'v') then .ok .verbose else .error (.unknownOption text)
  | _ => .ok .file

end Argument

namespace Invocation

def addFile (invocation : Invocation) (text : String) : Invocation :=
  { invocation with files := invocation.files ++ [Path.ofText text] }

def assign (invocation : Invocation) (option : ValuedOption) (value : String) : Invocation :=
  match option with
  | .mode => { invocation with mode := some value }
  | .configuration => { invocation with configuration := some (Path.ofText value) }
  | .out => { invocation with out := some (Path.ofText value) }

/-- Takes the arguments in order. An option without its value takes the next argument, whatever
it looks like. -/
def collect (invocation : Invocation) : List String → Except UsageFault Invocation
  | [] => .ok invocation
  | text :: rest =>
    match Argument.ofText text, rest with
    | .error fault, _ => .error fault
    | .ok .file, rest => collect (invocation.addFile text) rest
    | .ok .endOfOptions, rest => .ok (rest.foldl addFile invocation)
    | .ok .verbose, rest => collect { invocation with verbose := true } rest
    | .ok (.valued option (some value)), rest => collect (invocation.assign option value) rest
    | .ok (.valued _ none), [] => .error (.missingValue text)
    | .ok (.valued option none), value :: rest => collect (invocation.assign option value) rest

def ofArguments (arguments : List String) : Except UsageFault Invocation := do
  let invocation ← collect {} arguments
  if invocation.files = [] then throw .noFiles
  return invocation

end Invocation

end QueryRegistry

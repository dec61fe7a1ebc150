import QueryRegistry.Document.Parser
import QueryRegistry.Registration

/-! Sessions: a list of documents that grows and shrinks, an index of the fragments that were in them
when it was last made, and the questions that can be asked about the two. A step that fails leaves
both as they were. -/

namespace QueryRegistry

inductive DocumentSource where
  | text (text : String)
  | ready (document : Document)
  deriving Repr

def DocumentSource.read : DocumentSource → Except SyntaxError Document
  | text t => Document.parse t
  | ready document => .ok document

/-- A definition is meant by the number of operations before it, or by its name in the index. -/
inductive Target where
  | operation (position : Nat)
  | fragment (name : String)
  deriving Repr

def Target.find? (target : Target) (documents : List Document) (index : FragmentIndex) :
    Option Executable :=
  match target with
  | operation position => (documents.flatMap Document.operations)[position]?.map .operation
  | fragment name => (index.find? name).map .fragment

structure Session where
  documents : List Document := []
  index : FragmentIndex := Table.empty

inductive Step where
  | add (source : DocumentSource)
  | remove (position : Nat)
  | normalize
  | index
  | resolve (target : Target)
  | canonical (target : Target)
  | generate (choice : ModeChoice)
  | list (choice : ModeChoice)
  deriving Repr

inductive Answer where
  | count (n : Nat)
  | changes (changed : List Bool)
  | names (names : List String)
  | text (text : String)
  | entries (entries : List (String × String))
  deriving DecidableEq, Repr

inductive StepFailure where
  | unreadable (error : SyntaxError)
  | failed (failure : Failure)
  | noTarget (target : Target)
  deriving Repr

namespace Session

def about (session : Session) (target : Target)
    (question : Executable → Except SpreadError Answer) : Run StepFailure Answer :=
  match target.find? session.documents session.index with
  | none => throw (.noTarget target)
  | some definition => Run.ofExcept ((question definition).mapError (.failed <| .spread ·))

def perform (session : Session) : Step → Run StepFailure (Answer × Session)
  | .add source => do
    let document ← Run.ofExcept (source.read.mapError .unreadable)
    let documents := session.documents ++ [document]
    return (.count documents.length, { session with documents })
  | .remove position =>
    let documents := session.documents.eraseIdx position
    return (.count documents.length, { session with documents })
  | .normalize =>
    let revised := session.documents.map Document.withTypename
    return (.changes (revised.map Revised.changed),
      { session with documents := revised.map Revised.value })
  | .index => do
    let index ← ExceptT.lift (FragmentIndex.ofDocuments session.documents)
    return (.names index.keys, { session with index })
  | .resolve target => do
    let answer ← session.about target fun d => (session.index.used d).map (.names ·.keys)
    return (answer, session)
  | .canonical target => do
    let answer ← session.about target fun d => (session.index.canonicalText d).map .text
    return (answer, session)
  | .generate choice => do
    let listed ← ExceptT.adapt .failed (queryIds choice session.documents)
    return (.entries listed.entries, session)
  | .list choice => do
    let text ← ExceptT.adapt .failed (queryList choice session.documents)
    return (.text text, session)

def step (session : Session) (step : Step) : Logged (Except StepFailure Answer × Session) := do
  match ← ExceptT.run (session.perform step) with
  | .ok (answer, next) => return (.ok answer, next)
  | .error failure => return (.error failure, session)

/-- The answers to all steps, each taken where the one before it ended. -/
def run : Session → List Step → Logged (List (Except StepFailure Answer))
  | _, [] => return []
  | session, s :: rest => do
    let (answer, next) ← session.step s
    return answer :: (← run next rest)

end Session

end QueryRegistry

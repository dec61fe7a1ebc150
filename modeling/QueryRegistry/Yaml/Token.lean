import QueryRegistry.Yaml.Fault

/-! The tokens of a YAML text. Some of them stand for characters; others say what the indentation
means. -/

namespace QueryRegistry

namespace Yaml

inductive TokenKind where
  | version (major : Nat)
  | tagHandle (handle start : String)
  | otherDirective
  | documentStart
  | documentEnd
  | streamEnd
  | blockSequenceStart
  | blockMappingStart
  | blockEnd
  | flowSequenceStart
  | flowSequenceEnd
  | flowMappingStart
  | flowMappingEnd
  | blockEntry
  | flowEntry
  | key
  | value
  | reference (name : String)
  | anchor (name : String)
  | tag (handle : Option String) (suffix : String)
  | scalar (text : String) (plain : Bool)
  deriving DecidableEq, Repr, Inhabited

def TokenKind.describe : TokenKind → String
  | version _ => "<directive>"
  | tagHandle _ _ => "<directive>"
  | otherDirective => "<directive>"
  | documentStart => "<document start>"
  | documentEnd => "<document end>"
  | streamEnd => "<stream end>"
  | blockSequenceStart => "<block sequence start>"
  | blockMappingStart => "<block mapping start>"
  | blockEnd => "<block end>"
  | flowSequenceStart => "["
  | flowSequenceEnd => "]"
  | flowMappingStart => "\x7b"
  | flowMappingEnd => "\x7d"
  | blockEntry => "-"
  | flowEntry => ","
  | key => "?"
  | value => ":"
  | reference _ => "<alias>"
  | anchor _ => "<anchor>"
  | tag _ _ => "<tag>"
  | scalar _ _ => "<scalar>"

structure Token where
  kind : TokenKind
  start : Mark
  stop : Mark
  deriving DecidableEq, Repr, Inhabited

/-- The tokens up to the end of a text or up to where its reading stops. A text can be refused for what
it says before that place is met. -/
structure TokenStream where
  found : List Token
  stop : Option Stop := none

namespace TokenStream

/-- The token that comes next. Behind the end there is the end again. -/
def first (stream : TokenStream) : Except Stop Token :=
  match stream.found, stream.stop with
  | token :: _, _ => .ok token
  | [], some stop => .error stop
  | [], none => .ok ⟨.streamEnd, {}, {}⟩

def rest (stream : TokenStream) : TokenStream := { stream with found := stream.found.tail }

end TokenStream

end Yaml

end QueryRegistry

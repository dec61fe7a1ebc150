import QueryRegistry.Mode
import QueryRegistry.Setting.Printer
import QueryRegistry.Text.Stream
import QueryRegistry.Yaml.Loading

/-! The configuration in a file: a YAML mapping that names the mode. A file that holds anything else
names none. -/

namespace QueryRegistry

inductive ConfigurationError where
  | undecodable (fault : Utf8.Fault)
  | malformed (fault : Yaml.Fault)
  | breakdown (breakdown : Yaml.Breakdown)
  deriving Repr

namespace ConfigurationError

/-- A report names the file by the name under which it was opened. There is none of a breakdown. -/
def message (name : String) : ConfigurationError → Except Yaml.Breakdown String
  | undecodable fault => .ok fault.message
  | malformed fault => .ok (fault.message name)
  | breakdown b => .error b

def ofStop : Yaml.Stop → ConfigurationError
  | .fault fault => malformed fault
  | .breakdown b => breakdown b

/-- A text that cannot be decoded to its end is refused for that, unless what comes before is refused
already without what follows. -/
def ofStream (stop : StreamFault) : ConfigurationError :=
  if stop.before.length < Stream.firstParts then .undecodable stop.fault
  else
    match Yaml.compose (Yaml.tokens stop.before false) with
    | .error (.fault .cutOff) => .undecodable stop.fault
    | .error other => .ofStop other
    | .ok _ => .undecodable stop.fault

end ConfigurationError

/-- The mode that is named in a file. A setting that is no mode has to be shown, and one that cannot be
breaks the reading off. -/
def readConfiguration (bytes : List UInt8) : Except ConfigurationError ModeChoice := do
  let text ← (Stream.read bytes).mapError .ofStream
  let content ← (Yaml.load text).mapError .ofStop
  let setting := (content.member? "output").getD .null
  unless setting.canBeShown do
    throw (.breakdown .longSetting)
  return .setting setting

end QueryRegistry

import QueryRegistry.Setting.Basic

/-! The two ways in which queries are listed: for the client, which needs the digest of an operation
by its name, and for the server, which needs the text that belongs to a digest. -/

namespace QueryRegistry

inductive Mode where
  | client
  | server
  deriving DecidableEq, Repr

inductive ModeChoice where
  | ready (mode : Mode)
  | setting (setting : Setting)
  deriving Repr

namespace ModeChoice

/-- The mode chosen; a setting that names none is given back. -/
def resolve : ModeChoice → Except Setting Mode
  | ready mode => .ok mode
  | setting (.text name) =>
    if name = "client" then .ok .client
    else if name = "server" then .ok .server
    else .error (.text name)
  | setting other => .error other

def ofConfiguration (configuration : Setting) : ModeChoice :=
  setting ((configuration.member? "output").getD .null)

end ModeChoice

end QueryRegistry

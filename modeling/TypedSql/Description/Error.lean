import TypedSql.Description.Data

namespace TypedSql

namespace Error

def kind : Error → String
  | failure (.construction _) => "Construction"
  | failure (.usage _) => "Usage"
  | failure (.configuration _) => "Configuration"
  | failure (.unsupported _ _) => "Unsupported"
  | driver _ _ => "DriverError"
  | unreadable _ => "BadInput"
  | _ => "Error"

def toData (e : Error) : Data :=
  if e.isPanic then .fields [("error", .text "Panic")]
  else .fields [("error", .text e.kind), ("message", .text e.message)]

end Error

namespace Data

def ok (d : Data) : Data := fields [("ok", d)]

def ofResult {α : Type} (describe : α → Data) : Except Error α → Data
  | .ok a => ok (describe a)
  | .error e => e.toData

def ofOutcome {α : Type} (describe : α → Data) : Except Error α → Except Error Data
  | .ok a => .ok (ok (describe a))
  | .error e => if e.isPanic then .error e else .ok e.toData

end Data

abbrev Buildable (α : Type) := Except ConstructionFault α

/-- Puts off the fault of a construction until the thing is needed. -/
def Described.deferred {α : Type} : Described α → Described (Buildable α)
  | .ok a => .ok (.ok a)
  | .error (.construction fault) => .ok (.error fault)
  | .error e => .error e

end TypedSql

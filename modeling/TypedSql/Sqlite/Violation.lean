import TypedSql.Error

namespace TypedSql

namespace EngineFault

/-- The code of the kind of failure: the low byte of the whole code. -/
def primaryCode (code : Int) : Int := code % 256

def isUniqueViolation : EngineFault → Bool
  | failure code _ => primaryCode code = 19 && (code = 2067 || code = 1555)
  | noRows => false

end EngineFault

namespace Error

def isUniqueViolation (e : Error) : Bool :=
  match e.engineFault? with
  | some fault => fault.isUniqueViolation
  | none => false

end Error

end TypedSql

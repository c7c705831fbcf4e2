import TypedSql.Text.Cut
import TypedSql.Wire.Conversion

namespace TypedSql

/-! What can go wrong: parts that do not make a statement, calls at the wrong time, settings the
store cannot meet, and failures that the store reports. -/

inductive JoinKind where
  | inner | left | right | full | cross
deriving DecidableEq, Repr

namespace JoinKind

def name : JoinKind → String
  | inner => "Inner"
  | left => "Left"
  | right => "Right"
  | full => "Full"
  | cross => "Cross"

end JoinKind

inductive ConstructionFault where
  | operatorWithoutToken
  | caseWithoutBranch
  | tupleWithoutElement
  | coalesceWithoutArgument
  | inWithBoth
  | inWithNeither
  | inWithoutValue
  | joinWithoutCondition (kind : JoinKind)
  | selectWithoutColumns
  | unionArity (left right : Nat)
  | insertWithoutColumn
  | insertWithBoth
  | insertWithNeither
  | insertWithoutRow
  | insertRowArity (table : String) (columns values : Nat)
  | insertSelectArity (table : String) (columns produced : Nat)
  | updateWithoutAssignment
  | nullAssignment (table column : String)
  | placeholdersBeyond (parameters : Nat)
  | parametersBeyond (parameters : Nat)
  | other (message : String)
deriving DecidableEq, Repr

namespace ConstructionFault

def message : ConstructionFault → String
  | operatorWithoutToken => "An operator needs at least one token"
  | caseWithoutBranch => "A case expression needs at least one branch"
  | tupleWithoutElement => "A tuple needs at least one element"
  | coalesceWithoutArgument => "coalesce needs at least one argument"
  | inWithBoth => "An in expression takes either a list of values or a subquery, not both"
  | inWithNeither => "An in expression needs a list of values or a subquery"
  | inWithoutValue => "An in expression needs at least one value"
  | joinWithoutCondition kind => "A " ++ kind.name ++ " join needs a condition"
  | selectWithoutColumns => "A select needs explicit columns or a source to take them from"
  | unionArity left right =>
      s!"Both sides of a union must have the same number of columns, found {left} and {right}"
  | insertWithoutColumn => "An insert needs at least one column"
  | insertWithBoth => "An insert takes either values or a select, not both"
  | insertWithNeither => "An insert needs values or a select"
  | insertWithoutRow => "An insert needs at least one row"
  | insertRowArity table columns values =>
      s!"Insert into `{table}` declares {columns} columns but a row has {values} values"
  | insertSelectArity table columns produced =>
      s!"Insert into `{table}` declares {columns} columns but the select produces {produced}"
  | updateWithoutAssignment => "An update needs at least one assignment"
  | nullAssignment table column =>
      s!"Column `{table}.{column}` is not null and can not be assigned NULL"
  | placeholdersBeyond parameters =>
      s!"Raw SQL has more placeholders than its {parameters} parameters"
  | parametersBeyond parameters =>
      s!"Raw SQL has fewer placeholders than its {parameters} parameters"
  | other message => message

end ConstructionFault

inductive UsageFault where
  | noPrimaryKey (table : String)
  | foreignColumn (column table : String)
  | noGetter (table column : String)
  | noSetter (table column : String)
  | notInResult (column : String)
  | fieldOutOfBounds (index fields : Nat)
  | noFieldLabelled (label : String)
  | ambiguousDialect (product : String) (dialects : List String)
  | transactionActive
  | transactionsExternal
  | connectionInUse
  | other (message : String)
deriving DecidableEq, Repr

namespace UsageFault

def message : UsageFault → String
  | noPrimaryKey table => s!"Table `{table}` does not declare a primary key"
  | foreignColumn column table => s!"Column `{column}` does not belong to table `{table}`"
  | noGetter table column => s!"Column `{table}.{column}` has no getter"
  | noSetter table column => s!"Column `{table}.{column}` has no setter"
  | notInResult column => s!"Column `{column}` is not part of the result"
  | fieldOutOfBounds index fields =>
      s!"Field {index} is out of bounds, the row has {fields} fields"
  | noFieldLabelled label => s!"No field labeled `{label}`"
  | ambiguousDialect product dialects =>
      s!"More than one dialect recognizes `{product}`: " ++ String.intercalate ", " dialects
  | transactionActive =>
      "A transaction is already active on this thread, nested scopes must join it"
  | transactionsExternal =>
      "Transactions are managed externally, begin them through their owner"
  | connectionInUse => "The transaction connection is already in use"
  | other message => message

end UsageFault

inductive ConfigurationFault where
  | unhandledType (native : String) (type : WireType)
  | other (message : String)
deriving DecidableEq, Repr

namespace ConfigurationFault

def message : ConfigurationFault → String
  | unhandledType native type =>
      s!"Codec for `{native}` declares wire type {type.sqlName} which the driver does not handle"
  | other message => message

end ConfigurationFault

inductive Failure where
  | construction (fault : ConstructionFault)
  | usage (fault : UsageFault)
  | configuration (fault : ConfigurationFault)
  | unsupported (dialect capability : String)
deriving DecidableEq, Repr

namespace Failure

def message : Failure → String
  | construction fault => "Invalid construction: " ++ fault.message
  | usage fault => "Invalid usage: " ++ fault.message
  | configuration fault => "Invalid configuration: " ++ fault.message
  | unsupported dialect capability => s!"The {dialect} dialect does not support {capability}"

end Failure

inductive EngineFault where
  | failure (extendedCode : Int) (message : String)
  | noRows
deriving DecidableEq, Repr

namespace EngineFault

def message : EngineFault → String
  | failure _ message => message
  | noRows => "Query returned no rows"

end EngineFault

inductive Error where
  | failure (failure : Failure)
  | conversion (fault : ConversionFault)
  | uniqueViolation (constraint : String)
  | engine (fault : EngineFault)
  | plain (message : String)
  | context (message : String) (source : Error)
  | driver (sql : String) (source : Error)
  | unreadable (message : String)
  /-- The run is abandoned: no handler between its cause and the outermost call sees it. -/
  | panic (message : String)
deriving DecidableEq

namespace Error

def quotedSql (sql : String) : String :=
  let (kept, cut) := Text.cut sql 497
  Text.trimEnd kept ++ (if cut then "..." else "") ++ "\n"

def message : Error → String
  | failure f => f.message
  | conversion fault => fault.message
  | uniqueViolation constraint => "UNIQUE constraint failed: " ++ constraint
  | engine fault => fault.message
  | plain text => text
  | context text _ => text
  | driver sql source => "Error while executing: " ++ quotedSql sql ++ source.message
  | unreadable text => text
  | panic text => text

/-- Whether the run is abandoned.  A moment that leaves the calendar is no failure that anyone
handles. -/
def isPanic : Error → Bool
  | panic _ | conversion .leavesCalendar => true
  | _ => false

def chain : Error → List String
  | context text source => text :: source.chain
  | driver sql source => (driver sql source).message :: source.chain
  | conversion fault => fault.message :: (fault.cause?.map NumberFault.message).toList
  | e => [e.message]

def fullMessage (e : Error) : String :=
  String.intercalate ": " e.chain

def rootCause? (e : Error) : Option String :=
  e.chain.tail.getLast?

def violatedConstraint? : Error → Option String
  | uniqueViolation constraint => some constraint
  | context _ source | driver _ source => source.violatedConstraint?
  | _ => none

def engineFault? : Error → Option EngineFault
  | engine fault => some fault
  | context _ source | driver _ source => source.engineFault?
  | _ => none

def usage (fault : UsageFault) : Error := .failure (.usage fault)

def construction (fault : ConstructionFault) : Error := .failure (.construction fault)

def driverDepth : Error → Nat
  | driver _ source => source.driverDepth + 1
  | context _ source => source.driverDepth
  | _ => 0

private def causeLines (numbered : Bool) (index : Nat) (text : String) : String :=
  let number := toString index
  let first :=
    if numbered then String.ofList (List.replicate (5 - number.length) ' ') ++ number ++ ": "
    else "    "
  let further := if numbered then "       " else "    "
  first ++ String.intercalate ("\n" ++ further) (text.splitOn "\n")

def debugChain (e : Error) : String :=
  match e.chain with
  | [] => ""
  | [text] => text
  | text :: causes =>
      text ++ "\n\nCaused by:\n" ++
        String.intercalate "\n" (causes.mapIdx fun i c => causeLines (1 < causes.length) i c)

def debugDriver (sql : String) (source : Error) : String :=
  "DriverError \x7b sql: " ++ Text.quoted sql ++ ", source: " ++ source.debugChain ++ " \x7d"

end Error

end TypedSql

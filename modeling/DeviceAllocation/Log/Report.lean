import DeviceAllocation.Log.Value
import DeviceAllocation.Settings
import DeviceAllocation.Sorting

/-! Reports and their lines in the log, which are JSON texts or laid out for a console. A report
that has no form in a format takes no line there. -/

namespace DeviceAllocation

structure LogCall where
  level : Level
  event : String
  fields : LogFields
  -- the calls that have led to the event, in words
  stack : String

structure Report where
  logger : String
  level : Level
  -- a filled template may have halves of characters in it
  event : Json
  fields : LogFields
  stack : Option String

def Report.plain (logger : String) (level : Level) (event : String) : Report :=
  ⟨logger, level, .text event, [], none⟩

inductive LogError where
  -- a field has the name of something that each event has anyway
  | takenName (name : String)
  -- the field for the inner record of the log holds another kind of value
  | noRecord (kind : String)
  | unfilled (problem : Template.Problem)
  | raised (fault : Fault)
  deriving DecidableEq, Repr

namespace LogError

def kind : LogError → String
  | takenName _ => "TypeError"
  | noRecord _ => "AttributeError"
  | unfilled problem => problem.kind
  | raised fault => fault.kind

def message : LogError → String
  | takenName name =>
    (if name = "method_name" then "BoundLoggerBase._proxy_to_logger()"
      else "_make_filtering_bound_logger.<locals>.make_method.<locals>.meth()") ++
      " got multiple values for argument " ++ Text.quote name
  | noRecord kind => Text.quote kind ++ " object has no attribute 'name'"
  | unfilled problem => problem.message
  | raised fault => fault.message

end LogError

namespace Report

def takenName? (fields : LogFields) : Option String :=
  let names := fields.map Prod.fst
  (names.find? fun name => name ∈ ["self", "event"]).or (names.find? (· = "method_name"))

def argumentField : String := "positional_args"

def fillEvent (event : String) (fields : LogFields) : Except LogError Json :=
  match fields.field? argumentField with
  | some (.json value) =>
    if value.isTruthy then (Template.argumentsOf value >>= Template.fill event).mapError .unfilled
    else .ok (.text event)
  | some (.foreign value) =>
    if value.isTruthy then (value.fill event).mapError .raised else .ok (.text event)
  | none => .ok (.text event)

/-- Whether a field reaches the log. Arguments do when they are null. -/
def isShown (field : String × LogValue) : Bool :=
  field.1 ∉ ["stack_info", "_record", "_from_structlog"] &&
    (field.1 ≠ argumentField || field.2.isNull)

/-- The logger of a report, which an inner record may name instead. -/
def loggerOf (logger : String) (fields : LogFields) : Except LogError String :=
  match fields.field? "_record" with
  | none => .ok logger
  | some (.json .null) => .ok logger
  | some (.json value) => .error (.noRecord (Template.kindOf value))
  | some (.foreign value) =>
    match value.name with
    | some name => .ok name
    | none => .error (.noRecord value.kind)

def ofCall (logger : String) (bound : LogFields) (call : LogCall) : Except LogError Report :=
  match takenName? call.fields with
  | some name => .error (.takenName name)
  | none => do
    let fields : LogFields := Keyed.ofList Prod.fst (bound ++ call.fields)
    let logger ← loggerOf logger fields
    let event ← fillEvent call.event fields
    return {
      logger, event
      level := call.level
      fields := fields.filter isShown
      stack := if fields.isTruthy "stack_info" then some call.stack else none }

/-- All fields of the line for a report at the given time. A field that is named twice keeps its
place and takes the later value. -/
def line (report : Report) (time : String) : LogFields :=
  Keyed.ofList Prod.fst (report.fields ++
    [("event", .json report.event), ("logger", .text report.logger),
      ("level", .text report.level.name), ("timestamp", .text time)] ++
    (report.stack.map fun stack => ("stack", .text stack)).toList ++
    [("service", .text "gpu_allocator")])

/-! ### On a console -/

def pad (width : Nat) (text : String) : String :=
  text ++ String.ofList (List.replicate (width - text.length) ' ')

def normal : String := "\x1b[0m"

def dim (text : String) : String := "\x1b[2m" ++ text ++ normal

def bright : String := "\x1b[1m"

def levelColour : Level → String
  | .debug => "\x1b[32m"
  | .info => "\x1b[32m"
  | .warning => "\x1b[33m"
  | .error => "\x1b[31m"
  | .critical => "\x1b[31m"

def needsQuotes (text : String) : Bool :=
  text.toList.any fun c => c ∈ [' ', '\t', '=', '\r', '\n', Text.doubleQuote, Text.singleQuote]

def consoleValue : LogValue → Option String
  | .json (.text text) => some (if needsQuotes text then Text.quote text else text)
  | .json value => some value.describe
  | .foreign value => value.description

def consoleField (field : String × LogValue) : Option String :=
  (consoleValue field.2).map fun value =>
    "\x1b[36m" ++ field.1 ++ normal ++ "=\x1b[35m" ++ value ++ normal

def loggerColumn (name : String) : String :=
  "[" ++ normal ++ bright ++ "\x1b[34m" ++ name ++ normal ++ "]" ++ normal

def placed : List String :=
  ["", "timestamp", "level", "event", "logger", "logger_name", "stack", "exception", "exc_info"]

/-- The first line of a report with the given text of its event. A field without a name comes before
all others. -/
def headLine (report : Report) (event time : String) : Option String := do
  let line := report.line time
  let unnamed ← (line.field? "").toList.mapM fun value => consoleField ("", value)
  let further ← (line.field? "logger_name").toList.mapM fun value =>
    value.words?.map loggerColumn
  let rest ← (sortBy (fun a b => a.1 ≤ b.1) (line.filter fun field => field.1 ∉ placed)).mapM
    consoleField
  return " ".intercalate
    (unnamed ++
      [dim time,
        "[" ++ levelColour report.level ++ bright ++ pad 9 report.level.name ++ normal ++ "]",
        bright ++ pad 30 event ++ normal,
        loggerColumn report.logger] ++
      further ++ rest)

def optionalText (name : String) (fields : LogFields) : Option (Option String) :=
  match fields.field? name with
  | none => some none
  | some (.json .null) => some none
  | some (.json (.text text)) => some (some text)
  | some _ => none

/-- What follows the first line: a stack, and a failure or an exception under a rule. -/
def tail? (line : LogFields) : Option String := do
  let stack ← optionalText "stack" line
  let failed := line.isTruthy "exc_info" || (line.field? "exception").any (!·.isNull)
  let rule := if failed then "\n\n" ++ String.ofList (List.replicate 79 '=') ++ "\n" else ""
  let ending ←
    match (line.field? "exc_info").bind LogValue.failureText? with
    | some text => some text
    | none => (optionalText "exception" line).map fun exception =>
      (exception.map ("\n" ++ ·)).getD ""
  return (stack.map fun text => "\n" ++ text ++ rule).getD "" ++ ending

/-- The text for a console, if it can be written. Halves of characters cannot. -/
def console? (report : Report) (time : String) : Option String :=
  match report.event with
  | .text event => do
    return (← report.headLine event time) ++ (← tail? (report.line time))
  | _ => none

def linesOf (text : String) : List String := (text.toList.splitOn '\n').map String.ofList

def render (report : Report) (time : String) : LogFormat → List String
  | .json => ((report.line time).json?.map fun value => linesOf value.write).getD []
  | .console => ((report.console? time).map linesOf).getD []

end Report

end DeviceAllocation

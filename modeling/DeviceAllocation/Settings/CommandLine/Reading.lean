import DeviceAllocation.Settings.CommandLine.Argument
import DeviceAllocation.Settings.CommandLine.Pattern

namespace DeviceAllocation.Settings

structure CommandLine where
  set : Environment
  others : List String
  deriving DecidableEq, Repr

namespace CommandLine

def skip (line : CommandLine) (text : String) : CommandLine :=
  { line with others := line.others ++ [text] }

/-- The line after an option has been given a value. The last value of several counts, and a barrier
as a value counts as none at all. -/
def give (line : CommandLine) (option : CommandLineOption) (value : String) : CommandLine :=
  let value :=
    match option.shape, value with
    | .json, "--" => "\x7b\x7d"
    | .value, "--" => "[]"
    | _, value => value
  { line with set := line.set.set option.target value }

def press (rules : CommandLineRules) (line : CommandLine) (call : OptionCall) :
    Except CommandLineError CommandLine :=
  match call.option.shape with
  | .help => .error (.exit 0)
  | .onAndOff => .ok (line.give call.option (rules.truthText (!call.flag.startsWith "--no-")))
  | _ => .ok (line.give call.option (rules.truthText true))

/-- The line after options joined in one argument. The last one may take a value from the argument
or, if there is none, the one that is found after it. -/
def carryOut (rules : CommandLineRules) (line : CommandLine) (joined : JoinedCalls)
    (found : Option String) : Except CommandLineError CommandLine := do
  let option := joined.last.option
  match option.shape, joined.value <|> found with
  | .value, none => throw (.missingValue option.flags)
  | .value, some value => return (← joined.bare.foldlM (press rules) line).give option value
  | .json, value =>
    return (← joined.bare.foldlM (press rules) line).give option (value.getD "\x7b\x7d")
  | _, _ => (joined.bare ++ [joined.last]).foldlM (press rules) line

def extend (rules : CommandLineRules) (context : ArgumentContext) (line : CommandLine) :
    List Argument → Except CommandLineError CommandLine
  | [] => .ok line
  | .plain text :: rest => extend rules context (line.skip text) rest
  | .unknown text :: rest => extend rules context (line.skip text) rest
  | .barrier :: rest => extend rules context (line.skip "--") rest
  | .call call attached :: .plain text :: rest => do
    let joined ← call.joined context attached
    if joined.value.isNone ∧ joined.last.option.takesValue then
      extend rules context (← line.carryOut rules joined (some text)) rest
    else extend rules context ((← line.carryOut rules joined none).skip text) rest
  | .call call attached :: rest => do
    extend rules context (← line.carryOut rules (← call.joined context attached) none) rest

end CommandLine

def foldFlags (rules : CommandLineRules) (options : List CommandLineOption)
    (arguments : List String) : Except CommandLineError (List String) :=
  if rules.exactFlags ∨ arguments = [] then .ok arguments
  else
    (MarkPattern.ofMarks rules.marks).map fun pattern =>
      arguments.map (pattern.fold fun flag => (optionOf? options flag).isSome)

def argumentsSet (rules : CommandLineRules) (options : List CommandLineOption)
    (arguments : List String) : Except CommandLineError Environment := do
  let context : ArgumentContext := ⟨rules.marks, options⟩
  let refuse (error : CommandLineError) : CommandLineError :=
    match error with
    | .exit code => .exit code
    | error => if rules.exits then .exit 2 else error
  let arguments := context.argumentsOf (← foldFlags rules options arguments)
  let line ← (CommandLine.extend rules context ⟨[], []⟩ arguments).mapError refuse
  if line.others.isEmpty || rules.lenient then return line.set
  else throw (refuse (.unrecognized line.others))

end DeviceAllocation.Settings

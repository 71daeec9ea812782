import DeviceAllocation.Settings.CommandLine.Options

/-! Options that take nothing may be joined in one argument, as single characters behind one mark,
and one that takes a value may come last. -/

namespace DeviceAllocation.Settings

/-- Whether a text is a number below zero, in digits of any script. A line end may follow it. -/
def isNegativeNumber (text : List Char) : Bool :=
  let isDigit (c : Char) : Bool := (Text.digitValue? c).isSome
  let text := if text.getLast? = some '\n' then text.dropLast else text
  match text with
  | '-' :: rest =>
    let whole := rest.takeWhile isDigit
    match rest.dropWhile isDigit with
    | [] => !whole.isEmpty
    | '.' :: places => !places.isEmpty && places.all isDigit
    | _ => false
  | _ => false

structure OptionCall where
  option : CommandLineOption
  flag : String
  deriving DecidableEq, Repr

inductive Argument where
  | call (call : OptionCall) (attached : Option String)
  | unknown (text : String)
  | plain (text : String)
  -- what says that only plain arguments follow
  | barrier
  deriving DecidableEq, Repr

structure ArgumentContext where
  marks : List Char
  options : List CommandLineOption

namespace ArgumentContext

def callOf? (context : ArgumentContext) (flag : List Char) : Option OptionCall :=
  (optionOf? context.options (String.ofList flag)).map fun option => ⟨option, String.ofList flag⟩

/-- The call at the front of an argument, with what is attached to it: a value behind an equals
sign, or all that follows a single character. -/
def attached? (context : ArgumentContext) (text : List Char) : Option Argument :=
  let flag := text.takeWhile (· ≠ '=')
  match text.drop flag.length, context.callOf? flag, text with
  | _ :: value, some call, _ => some (.call call (some (String.ofList value)))
  | _, _, first :: second :: rest =>
    if second ∈ context.marks then none
    else (context.callOf? [first, second]).map fun call => .call call (some (String.ofList rest))
  | _, _, _ => none

/-- Whether a text that looks like an option may count as a plain argument: a number, unless options
are called by such, or a text with blanks. -/
def allowsPlain (context : ArgumentContext) (text : List Char) : Bool :=
  let callsNumbers := context.options.any fun option =>
    option.flags.any fun flag => isNegativeNumber flag.toList
  (isNegativeNumber text && !callsNumbers) || ' ' ∈ text

def argumentOf (context : ArgumentContext) (text : String) : Argument :=
  let chars := text.toList
  if chars.head?.all fun first => first ∉ context.marks then .plain text
  else
    match context.callOf? chars with
    | some call => .call call none
    | none =>
      if chars.length = 1 then .plain text
      else
        match context.attached? chars with
        | some argument => argument
        | none => if context.allowsPlain chars then .plain text else .unknown text

def argumentsOf (context : ArgumentContext) : List String → List Argument
  | [] => []
  | "--" :: rest => .barrier :: rest.map .plain
  | text :: rest => context.argumentOf text :: argumentsOf context rest

end ArgumentContext

structure JoinedCalls where
  bare : List OptionCall
  last : OptionCall
  -- What is attached to the last one. It takes a value then.
  value : Option String
  deriving DecidableEq, Repr

namespace OptionCall

def isLong (marks : List Char) (call : OptionCall) : Bool :=
  call.flag.toList[1]?.any fun second => second ∈ marks

def needless (call : OptionCall) (attached : List Char) : CommandLineError :=
  .needlessValue call.option.flags (String.ofList attached)

/-- The options that an argument joins, from a call on, to which the rest of the argument is
attached. What is attached to an option with one mark that takes nothing goes on with further ones.
-/
def joinedTo (context : ArgumentContext) (call : OptionCall) :
    List Char → Except CommandLineError JoinedCalls
  | [] => if call.option.takesValue then .ok ⟨[], call, some ""⟩ else .error (call.needless [])
  | c :: rest =>
    if call.option.takesValue then .ok ⟨[], call, some (String.ofList (c :: rest))⟩
    else if call.isLong context.marks then .error (call.needless (c :: rest))
    else
      match context.callOf? (call.flag.toList.take 1 ++ [c]) with
      | none => .error (call.needless (c :: rest))
      | some next =>
        if rest = [] then .ok ⟨[call], next, none⟩
        else
          (joinedTo context next rest).map fun joined => { joined with bare := call :: joined.bare }

def joined (context : ArgumentContext) (call : OptionCall) (attached : Option String) :
    Except CommandLineError JoinedCalls :=
  match attached with
  | none => .ok ⟨[], call, none⟩
  | some text => call.joinedTo context text.toList

end OptionCall

end DeviceAllocation.Settings

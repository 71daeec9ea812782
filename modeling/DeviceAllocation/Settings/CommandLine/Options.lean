import DeviceAllocation.Log.Template.Filling
import DeviceAllocation.Settings.CommandLine.Rules

namespace DeviceAllocation.Settings

inductive OptionShape where
  | value
  -- a JSON text, that of an empty object when there is none
  | json
  | on
  -- Nothing. The option switches a truth value on or off, as its flag says.
  | onAndOff
  | help
  deriving DecidableEq, Repr

structure CommandLineOption where
  flags : List String
  target : String
  shape : OptionShape
  deriving DecidableEq, Repr

def CommandLineOption.takesValue (option : CommandLineOption) : Bool :=
  option.shape ∈ [.value, .json]

def optionOf? (options : List CommandLineOption) (flag : String) : Option CommandLineOption :=
  options.find? fun option => flag ∈ option.flags

/-- A name of an option. What is given as a name need not be a text. -/
structure OptionName where
  shown : String
  kind : String
  size : Option Nat
  deriving DecidableEq, Repr

namespace OptionName

def ofText (text : String) : OptionName := ⟨text, "str", some text.length⟩

def ofValue : Json → OptionName
  | .text text => ofText text
  | .list items => ⟨(Json.list items).describe, "list", some items.length⟩
  | .object fields => ⟨(Json.object fields).describe, "dict", some fields.length⟩
  | value => ⟨value.describe, Template.kindOf value, none⟩

def listed : Json → Except CommandLineError (List OptionName)
  | .list items => .ok (items.map ofValue)
  | .object fields => .ok (fields.map fun field => ofText field.1)
  | .text text => .ok [ofText text]
  | value => .error (.misused .names (Template.kindOf value))

end OptionName

/-- Options, and the names that no other option may have any more. -/
structure OptionTable where
  options : List CommandLineOption
  taken : List OptionName

def OptionTable.add (option : CommandLineOption) (table : OptionTable) :
    Except CommandLineError OptionTable :=
  let conflicts := option.flags.filter fun flag => (optionOf? table.options flag).isSome
  if conflicts = [] then .ok { table with options := table.options ++ [option] }
  else .error (.conflict option.flags conflicts)

def OptionTable.take (names : List OptionName) (table : OptionTable) : OptionTable :=
  { table with taken := table.taken ++ names }

namespace CommandLineRules

def spell (rules : CommandLineRules) (path : String) : String :=
  if rules.hyphens then path.map fun c => if c = '_' then '-' else c else path

def shortcutsByName (rules : CommandLineRules) : Except CommandLineError (List (String × Json)) :=
  match rules.shortcuts with
  | .object fields => .ok fields
  | value =>
    if value.isTruthy then .error (.misused .shortcuts (Template.kindOf value)) else .ok []

/-- The names of what is at a path: the path itself and the shortcuts to a name before them, without
those that are taken. -/
def namesFor (rules : CommandLineRules) (taken : List OptionName) (path : String) :
    Except CommandLineError (List OptionName) := do
  (← rules.shortcutsByName).foldlM (fun names (target, value) => do
    if .ofText target ∈ names then
      return names ++ (← OptionName.listed value).filter fun name => name ∉ taken
    else return names) ([OptionName.ofText (rules.spell path)].filter fun name => name ∉ taken)

/-- The marks in front of a name, all of them twice. -/
def doubleMarks (rules : CommandLineRules) : List Char := rules.marks ++ rules.marks

def groupFlag (rules : CommandLineRules) (name : OptionName) : String :=
  String.ofList rules.doubleMarks ++ name.shown

/-- The flag for a name of a field, which has no more marks than characters. -/
def fieldFlag (rules : CommandLineRules) (name : OptionName) : Except CommandLineError String :=
  match name.size with
  | some size => .ok (String.ofList (rules.doubleMarks.take size) ++ name.shown)
  | none => .error (.misused .length name.kind)

def switchFlags (flag : String) : List String :=
  match flag.toList with
  | '-' :: '-' :: name => [flag, "--no-" ++ String.ofList name]
  | _ => [flag]

def fieldOption (rules : CommandLineRules) (path : String) (flags : List String) :
    CommandLineOption :=
  let switching := if path.endsWith ".validate_required_subset" then rules.switching else .never
  match switching with
  | .never => ⟨flags, path, .value⟩
  | .on => ⟨flags, path, .on⟩
  | .onAndOff => ⟨flags.flatMap switchFlags, path, .onAndOff⟩

def addField (rules : CommandLineRules) (path : String) (table : OptionTable) :
    Except CommandLineError OptionTable := do
  let names ← rules.namesFor table.taken path
  if names = [] ∨ .ofText path ∈ table.taken then return table
  let flags ← names.mapM rules.fieldFlag
  if "" ∈ flags then throw .noCharacter
  return (← table.add (rules.fieldOption path flags)).take names

/-- The table with the option of a section or a group and with what is inside of it, if names are
left for it. Of its names only the first one is taken. -/
def addGroup (rules : CommandLineRules) (path : String)
    (addInner : OptionTable → Except CommandLineError OptionTable) (table : OptionTable) :
    Except CommandLineError OptionTable := do
  let names ← rules.namesFor table.taken path
  if names = [] ∨ .ofText path ∈ table.taken then return table
  addInner ((← table.add ⟨names.map rules.groupFlag, path, .json⟩).take (names.take 1))

def addSection (rules : CommandLineRules) (table : OptionTable) (shape : SectionShape) :
    Except CommandLineError OptionTable :=
  let path := rules.root ++ shape.name
  rules.addGroup path (fun table =>
    shape.fields.foldlM (fun table field =>
      let inner := path ++ "." ++ field
      match Keyed.find? Prod.fst field shape.groups with
      | none => rules.addField inner table
      | some (_, fields) =>
        rules.addGroup inner (fun table =>
          fields.foldlM (fun table name => rules.addField (inner ++ "." ++ name) table) table)
          table) table) table

/-- The option that asks for help. It begins with hyphens where options may. -/
def helpOption (rules : CommandLineRules) : Except CommandLineError CommandLineOption :=
  match if '-' ∈ rules.marks then some '-' else rules.marks.head? with
  | some mark =>
    .ok ⟨[String.ofList [mark, 'h'], String.ofList [mark, mark, 'h', 'e', 'l', 'p']], "", .help⟩
  | none => .error .noCharacter

def options (rules : CommandLineRules) : Except CommandLineError (List CommandLineOption) := do
  let start : OptionTable := ⟨[← rules.helpOption], []⟩
  return (← sectionShapes.foldlM rules.addSection start).options

end CommandLineRules

end DeviceAllocation.Settings

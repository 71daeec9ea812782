import DeviceAllocation.Environment
import DeviceAllocation.Json.Reader
import DeviceAllocation.Text.LowerCase

/-! The variable of a section holds its fields as a JSON object. A variable whose name goes on after
a separator holds a single field, and lays itself over the object. -/

namespace DeviceAllocation.Settings

inductive VariableFault where
  | text (fault : Json.Fault)
  -- the parts of its name cannot be counted up to their limit
  | uncountableParts
  deriving DecidableEq, Repr

inductive PartLimit where
  | none
  | upTo (parts : Nat)
  | uncountable
  deriving DecidableEq, Repr

namespace PartLimit

/-- The limit that a number stands for. Zero and numbers below it stand for none, as long as the
number of cuts between parts, one less, fits into 64 bits with its sign. -/
def ofInt (n : Int) : PartLimit :=
  if n ≤ -0x8000000000000000 ∨ 0x8000000000000000 < n then uncountable
  else if 0 < n then upTo n.toNat
  else none

def cuts : PartLimit → Except VariableFault (Option Nat)
  | none => .ok .none
  | upTo parts => .ok (some (parts - 1))
  | uncountable => .error .uncountableParts

end PartLimit

structure VariableRules where
  stem : String
  stemmed : Bool
  -- What stands between the parts of a name. Nothing there means that no variable holds a single
  -- field.
  separator : String
  parts : PartLimit
  exactCase : Bool
  -- whether empty variables count as absent
  skipEmpty : Bool
  nullText : Option String
  upperStrategies : Bool
  -- how many lists and objects may be open at a place in the JSON text of a variable
  nesting : Nat

namespace VariableRules

def standard (nesting : Nat) : VariableRules where
  stem := "GPU_ALLOCATOR_"
  stemmed := true
  separator := "__"
  parts := .none
  exactCase := false
  skipEmpty := false
  nullText := none
  upperStrategies := false
  nesting := nesting

def fold (rules : VariableRules) (name : String) : String :=
  if rules.exactCase then name else Text.lowerCase name

/-- The variables that count, under the names by which they are compared. Of two with one name the
later one counts. -/
def visible (rules : VariableRules) (environment : Environment) : Environment :=
  let present := environment.filter fun entry => !(rules.skipEmpty && entry.2 = "")
  Keyed.ofList Prod.fst (present.map fun (name, value) => (rules.fold name, value))

def variableOf (rules : VariableRules) (name : String) : String :=
  rules.fold ((if rules.stemmed then rules.stem else "") ++ name)

end VariableRules

/-- A section of the settings. Some of its fields may hold fields of their own, which are listed
with their names. -/
structure SectionShape where
  name : String
  fields : List String
  groups : List (String × List String)

def sectionShapes : List SectionShape :=
  [⟨"sharing", ["time_slicing"], [("time_slicing", ["strategy"])]⟩,
    ⟨"allocation", ["validate_required_subset"], []⟩,
    ⟨"server", ["host", "metrics_port"], []⟩,
    ⟨"observability",
      ["service_name", "environment", "log_level", "log_format", "otlp_endpoint"], []⟩]

/-- The parts of a text between separators, which are found from left to right. `skip` characters
of a separator are still to pass, `cuts` more cuts are allowed, and `part` is the current part,
latest character first. -/
def splitFrom (separator : List Char) (skip : Nat) (cuts : Option Nat) (part : List Char) :
    List Char → List (List Char)
  | [] => [part.reverse]
  | c :: rest =>
    if 0 < skip then splitFrom separator (skip - 1) cuts part rest
    else if cuts ≠ some 0 ∧ separator.isPrefixOf (c :: rest) then
      part.reverse :: splitFrom separator (separator.length - 1) (cuts.map (· - 1)) [] rest
    else splitFrom separator 0 cuts (c :: part) rest

def pathIn? (rules : VariableRules) (sectionName name : String) :
    Except VariableFault (Option (List String)) :=
  let stem := (rules.variableOf sectionName ++ rules.separator).toList
  if rules.separator ≠ "" ∧ stem.isPrefixOf name.toList then
    rules.parts.cuts.map fun cuts =>
      some ((splitFrom rules.separator.toList 0 cuts [] (name.toList.drop stem.length)).map
        String.ofList)
  else .ok none

inductive VariableValue where
  | null
  | given (value : Json)

/-- Stores a value under a name. One that is null does not replace what is there already, unless
that is empty. -/
def storeUnder (name : String) (fields : List (String × Json)) :
    VariableValue → List (String × Json)
  | .given value => Json.setField name value fields
  | .null =>
    match Json.field? name fields with
    | none => Json.setField name .null fields
    | some (.object []) => Json.setField name .null fields
    | some _ => fields

/-- Stores a value at the end of a path, opening objects on the way. What is no object on the way is
left as it is. -/
def storeAt (value : VariableValue) : List String → List (String × Json) → List (String × Json)
  | [], fields => fields
  | [name], fields => storeUnder name fields value
  | name :: path, fields =>
    match Json.field? name fields with
    | none => Json.setField name (.object (storeAt value path [])) fields
    | some (.object inner) => Json.setField name (.object (storeAt value path inner)) fields
    | some _ => fields

mutual

def overlay (base : Option Json) : Json → Json
  | .object fields =>
    match base with
    | some (.object old) => .object (overlayFields old fields)
    | _ => .object fields
  | value => value

def overlayFields (base : List (String × Json)) : List (String × Json) → List (String × Json)
  | [] => base
  | (name, value) :: rest =>
    overlayFields (Json.setField name (overlay (Json.field? name base) value) base) rest

end

/-- Whether a variable part names a group of a section. The name of the variable that a group would
have by itself counts as well. -/
def namesGroup (rules : VariableRules) (shape : SectionShape) (part : String) : Bool :=
  shape.groups.any fun group => part = group.1 || part = rules.variableOf group.1

/-- The name of a strategy that is given in upper case, where it may be. -/
def upperStrategy? (rules : VariableRules) (path : List String) (text : String) : Option String :=
  if rules.upperStrategies ∧ path = ["time_slicing", "strategy"] ∧
      text ∈ ["NONE", "PACKED", "DISTRIBUTED"] then
    some text.toLower
  else none

/-- The value that a variable gives to a field. That of a group is JSON text, unless it is empty. -/
def variableValue (rules : VariableRules) (shape : SectionShape) (path : List String)
    (text : String) : Except VariableFault VariableValue :=
  let plain : VariableValue :=
    match upperStrategy? rules path text with
    | some name => .given (.text name)
    | none => if rules.nullText = some text then .null else .given (.text text)
  match path with
  | [part] =>
    if namesGroup rules shape part ∧ text ≠ "" then
      ((Json.read rules.nesting text).map .given).mapError .text
    else .ok plain
  | _ => .ok plain

def variableFields (rules : VariableRules) (shape : SectionShape) (visible : Environment) :
    Except VariableFault (List (String × Json)) :=
  visible.foldlM (fun fields (name, text) => do
    match ← pathIn? rules shape.name name with
    | none => return fields
    | some path => return storeAt (← variableValue rules shape path text) path fields) []

/-- The known name that equals a name apart from case, the name itself when there is none. -/
def knownName (names : List String) (name : String) : String :=
  (names.find? fun known => known = Text.lowerCase name).getD name

def rename (names : List String) (fields : List (String × Json)) : List (String × Json) :=
  Keyed.ofList Prod.fst (fields.map fun (name, value) => (knownName names name, value))

def renameAll (shape : SectionShape) (fields : List (String × Json)) : List (String × Json) :=
  rename shape.fields (fields.map fun (name, value) =>
    match Keyed.find? Prod.fst (knownName shape.fields name) shape.groups, value with
    | some (_, names), .object inner => (name, .object (rename names inner))
    | _, _ => (name, value))

/-- What the variables say of a section, nothing when they do not mention it. -/
def decodeSection (rules : VariableRules) (shape : SectionShape) (visible : Environment) :
    Except VariableFault (Option Json) :=
  match visible.value? (rules.variableOf shape.name) with
  | none =>
    (variableFields rules shape visible).map fun fields =>
      if fields.isEmpty then none else some (.object fields)
  | some text =>
    if rules.nullText = some text then .ok (some .null)
    else do
      match ← (Json.read rules.nesting text).mapError .text with
      | .null => return none
      | .object fields =>
        return some (.object (overlayFields fields (← variableFields rules shape visible)))
      | value => return some value

def sectionOf (rules : VariableRules) (shape : SectionShape) (visible : Environment) :
    Except VariableFault (Option Json) :=
  (decodeSection rules shape visible).map fun
    | some (.object fields) =>
      some (.object (if rules.exactCase then fields else renameAll shape fields))
    | value => value

def sectionsOf (rules : VariableRules) (visible : Environment) :
    List SectionShape → Except (String × VariableFault) (List (String × Json))
  | [] => .ok []
  | shape :: shapes => do
    let found ← (sectionOf rules shape visible).mapError (shape.name, ·)
    let rest ← sectionsOf rules visible shapes
    return match found with
      | some value => (shape.name, value) :: rest
      | none => rest

end DeviceAllocation.Settings

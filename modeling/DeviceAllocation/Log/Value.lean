import DeviceAllocation.Failure
import DeviceAllocation.Log.Template.Filling

namespace DeviceAllocation

/-- A value that is no JSON, by what a log asks of it. Any of it may be more than the value can
tell. -/
structure Foreign where
  kind : String
  isTruthy : Bool
  words : Option String
  description : Option String
  -- what JSON texts hold in its place
  json : Option Json
  -- records of a log bear the name of their logger
  name : Option String
  failureText : Option String
  -- what becomes of a template whose arguments it holds
  fill : String → Except Fault Json

inductive LogValue where
  | json (value : Json)
  | foreign (value : Foreign)

abbrev LogFields := List (String × LogValue)

namespace LogValue

def text (value : String) : LogValue := json (.text value)

def isNull : LogValue → Bool
  | json .null => true
  | _ => false

def isTruthy : LogValue → Bool
  | json value => value.isTruthy
  | foreign value => value.isTruthy

def json? : LogValue → Option Json
  | json value => some value
  | foreign value => value.json

def words? : LogValue → Option String
  | json value => some (String.ofList (Template.plainText value))
  | foreign value => value.words

def failureText? : LogValue → Option String
  | json _ => none
  | foreign value => if value.isTruthy then value.failureText else none

end LogValue

namespace LogFields

def field? (name : String) (fields : LogFields) : Option LogValue :=
  (Keyed.find? Prod.fst name fields).map Prod.snd

def isTruthy (name : String) (fields : LogFields) : Bool :=
  (field? name fields).any LogValue.isTruthy

def ofJson (fields : List (String × Json)) : LogFields :=
  fields.map fun (name, value) => (name, .json value)

/-- The fields as those of a JSON object, if all of them can be written. -/
def json? (fields : LogFields) : Option Json :=
  (fields.mapM fun field : String × LogValue => field.2.json?.map (field.1, ·)).map .object

end LogFields

end DeviceAllocation

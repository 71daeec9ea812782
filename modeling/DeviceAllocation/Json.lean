import DeviceAllocation.Binary64
import DeviceAllocation.Keyed

/-! JSON values. Numbers that are written with a fraction or an exponent are binary64 numbers. -/

namespace DeviceAllocation

inductive Json where
  | null
  | bool (value : Bool)
  | int (value : Int)
  | real (value : Binary64)
  | text (value : String)
  -- a text in which some characters are mere halves of a pair of 16-bit units, as its code points
  -- with the numbers of the halves among them
  | brokenText (points : List Nat)
  | list (items : List Json)
  | object (fields : List (String × Json))

namespace Json

/-- Stores a field in an object, in the place of one with the same name. -/
def setField (name : String) (value : Json) (fields : List (String × Json)) :
    List (String × Json) :=
  Keyed.put Prod.fst (name, value) fields

def field? (name : String) (fields : List (String × Json)) : Option Json :=
  (Keyed.find? Prod.fst name fields).map Prod.snd

/-- Whether a value counts as true where a truth value is wanted: neither null nor false, nor a
zero, nor empty. -/
def isTruthy : Json → Bool
  | null => false
  | bool value => value
  | int value => value ≠ 0
  | real value => !value.isZero
  | text value => value ≠ ""
  | brokenText _ => true
  | list items => !items.isEmpty
  | object fields => !fields.isEmpty

def charAt (point : Nat) : Char :=
  if point.isValidChar then Char.ofNat point else '\ufffd'

def withoutHalves (points : List Nat) : String :=
  String.ofList (points.map charAt)

def ofPoints (points : List Nat) : Json :=
  if points.all fun n => n.isValidChar then .text (withoutHalves points) else .brokenText points

def texts (values : List String) : Json :=
  .list (values.map .text)

theorem field?_setField (name other : String) (value : Json) (fields : List (String × Json)) :
    field? other (setField name value fields) =
      if name = other then some value else field? other fields := by
  simp only [field?, setField, Keyed.find?_put]
  split
  · rfl
  · rfl

end Json

end DeviceAllocation

import DeviceAllocation.Json.Token

/-! Reading JSON texts from left to right, while the lists and objects that are still open wait on a
stack with limited room. -/

namespace DeviceAllocation.Json

/-- Why a text denotes no value. The first reason from the left counts. -/
inductive Fault where
  | malformed
  | deepList
  | deepObject
  deriving DecidableEq, Repr

/-- A list or an object that has been opened, with what it holds so far. -/
inductive Frame where
  | list (items : List Json)
  -- the fields in order, and the name of the field whose value comes next
  | object (fields : List (String × Json)) (name : String)

def Token.name? : Token → Option String
  | .atom (.text name) => some name
  | .atom (.brokenText points) => some (withoutHalves points)
  | _ => none

mutual

def readValue (room : Nat) : List Frame → List Token → Except Fault Json
  | stack, .atom value :: rest => readAfter room stack value rest
  | stack, .mark '[' :: rest =>
    if room ≤ stack.length then .error .deepList
    else
      match rest with
      | .mark ']' :: rest => readAfter room stack (.list []) rest
      | rest => readValue room (.list [] :: stack) rest
  | stack, .mark '\x7b' :: rest =>
    if room ≤ stack.length then .error .deepObject
    else
      match rest with
      | .mark '\x7d' :: rest => readAfter room stack (.object []) rest
      | token :: .mark ':' :: rest =>
        match token.name? with
        | some name => readValue room (.object [] name :: stack) rest
        | none => .error .malformed
      | _ => .error .malformed
  | _, _ => .error .malformed

def readAfter (room : Nat) : List Frame → Json → List Token → Except Fault Json
  | [], value, [] => .ok value
  | .list items :: stack, value, .mark ',' :: rest =>
    readValue room (.list (value :: items) :: stack) rest
  | .list items :: stack, value, .mark ']' :: rest =>
    readAfter room stack (.list (value :: items).reverse) rest
  | .object fields name :: stack, value, .mark ',' :: token :: .mark ':' :: rest =>
    match token.name? with
    | some next => readValue room (.object (setField name value fields) next :: stack) rest
    | none => .error .malformed
  | .object fields name :: stack, value, .mark '\x7d' :: rest =>
    readAfter room stack (.object (setField name value fields)) rest
  | _, _, _ => .error .malformed

end

/-- The value that a JSON text denotes, when no more than `room` lists and objects are open at any
place in it. -/
def read (room : Nat) (text : String) : Except Fault Json :=
  readValue room [] (tokens text.toList)

end DeviceAllocation.Json

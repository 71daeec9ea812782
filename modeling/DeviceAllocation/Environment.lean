import DeviceAllocation.Keyed

namespace DeviceAllocation

/-- Environment variables in the order in which they were set. -/
abbrev Environment := List (String × String)

namespace Environment

inductive Refusal where
  | nullCharacter
  | equalsSign
  | emptyName
  deriving DecidableEq, Repr

namespace Refusal

def kind : Refusal → String
  | nullCharacter => "ValueError"
  | equalsSign => "ValueError"
  | emptyName => "OSError"

def message : Refusal → String
  | nullCharacter => "embedded null byte"
  | equalsSign => "illegal environment variable name"
  | emptyName => "[Errno 22] Invalid argument"

end Refusal

def refusal? (name value : String) : Option Refusal :=
  if '\x00' ∈ name.toList ∨ '\x00' ∈ value.toList then some .nullCharacter
  else if '=' ∈ name.toList then some .equalsSign
  else if name = "" then some .emptyName
  else none

def value? (environment : Environment) (name : String) : Option String :=
  (Keyed.find? Prod.fst name environment).map Prod.snd

def unset (environment : Environment) (name : String) : Environment :=
  environment.filter fun entry => entry.1 ≠ name

/-- The environment after a variable is set. One that exists keeps its place. -/
def set (environment : Environment) (name value : String) : Environment :=
  Keyed.put Prod.fst (name, value) environment

/-- Sets variables up to the first one that cannot be set. -/
def setAll (environment : Environment) : List (String × String) → Environment × Option Refusal
  | [] => (environment, none)
  | (name, value) :: rest =>
    match refusal? name value with
    | some refusal => (environment, some refusal)
    | none => (environment.set name value).setAll rest

end Environment

end DeviceAllocation

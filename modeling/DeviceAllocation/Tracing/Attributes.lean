import DeviceAllocation.Log.Report

/-! Beyond a greatest number of attributes the oldest one makes room for the next, and beyond a
greatest length the rest of a text is cut off. -/

namespace DeviceAllocation

/-- What attributes may amount to, none meaning any amount. -/
structure AttributeLimits where
  count : Option Nat
  length : Option Nat
  deriving DecidableEq, Repr

inductive AttributeLoss where
  | ending (length : Nat)
  | oldest
  deriving DecidableEq, Repr

def AttributeLoss.report (loss : AttributeLoss) : Report :=
  .plain "opentelemetry.attributes" .warning
    (match loss with
    | ending length =>
      "String attribute value exceeds max length of " ++ toString length ++ ", truncating."
    | oldest =>
      "Attributes dict is full. Dropping the oldest key-value pair from attributes to make " ++
        "space for the new key-value pair.")

namespace AttributeLimits

def cut (limits : AttributeLimits) (value : Json) : Json × List AttributeLoss :=
  match limits.length, value with
  | some length, .text text =>
    if length < text.length then (.text (String.ofList (text.toList.take length)), [.ending length])
    else (value, [])
  | _, _ => (value, [])

def insert (limits : AttributeLimits) (kept : List (String × Json)) (entry : String × Json) :
    List (String × Json) × List AttributeLoss :=
  let others := kept.filter fun old => old.1 ≠ entry.1
  if others.length = kept.length ∧ limits.count = some kept.length then
    (kept.drop 1 ++ [entry], [.oldest])
  else (others ++ [entry], [])

def insertAll (limits : AttributeLimits) (kept : List (String × Json)) :
    List (String × Json) → List (String × Json) × List AttributeLoss
  | [] => (kept, [])
  | entry :: rest =>
    let (kept, losses) := limits.insert kept entry
    let (kept, more) := limits.insertAll kept rest
    (kept, losses ++ more)

/-- Attributes with others that are stored together, and what gets lost. All texts are cut before
the first attribute is put in. -/
def store (limits : AttributeLimits) (kept entries : List (String × Json)) :
    List (String × Json) × List AttributeLoss :=
  if limits.count = some 0 then (kept, [])
  else
    let endings := entries.flatMap fun entry => (limits.cut entry.2).2
    let (kept, losses) :=
      limits.insertAll kept (entries.map fun entry => (entry.1, (limits.cut entry.2).1))
    (kept, endings ++ losses)

def storeEach (limits : AttributeLimits) (kept : List (String × Json)) :
    List (String × Json) → List (String × Json) × List AttributeLoss
  | [] => (kept, [])
  | entry :: rest =>
    let (kept, losses) := limits.store kept [entry]
    let (kept, more) := limits.storeEach kept rest
    (kept, losses ++ more)

def keep (limits : AttributeLimits) (together later : List (String × Json)) :
    List (String × Json) × List AttributeLoss :=
  let (kept, losses) := limits.store [] together
  let (kept, more) := limits.storeEach kept later
  (kept, losses ++ more)

end AttributeLimits

end DeviceAllocation

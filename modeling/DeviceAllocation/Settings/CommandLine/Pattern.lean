import DeviceAllocation.Settings.CommandLine.Error
import DeviceAllocation.Text.LowerCase
import DeviceAllocation.Text.Word

/-! The marks that options begin with are read as a pattern. The first of them is escaped in it, so
that a letter may stand for a class of characters. -/

namespace DeviceAllocation.Settings

/-- The pattern of the characters in front of flags. It is matched from the left, the last class
once or twice. -/
structure MarkPattern where
  front : List (Char → Bool)
  last : Char → Bool

namespace MarkPattern

/-- The characters that one which is escaped stands for. Classes have small letters, and what is
outside of them has the capitals. -/
def escaped (c : Char) : Except CommandLineError (Char → Bool) :=
  let isWord (c : Char) : Bool := Text.startsWord c || (Text.digitValue? c).isSome
  match c with
  | 'd' => .ok fun c => (Text.digitValue? c).isSome
  | 'D' => .ok fun c => (Text.digitValue? c).isNone
  | 's' => .ok Text.isSeparator
  | 'S' => .ok fun c => !Text.isSeparator c
  | 'w' => .ok isWord
  | 'W' => .ok fun c => !isWord c
  | '0' => .ok (· = '\x00')
  | 'a' => .ok (· = '\x07')
  | 'f' => .ok (· = '\x0c')
  | 'n' => .ok (· = '\n')
  | 'r' => .ok (· = '\r')
  | 't' => .ok (· = '\t')
  | 'v' => .ok (· = '\x0b')
  | '1' => .error (.badPattern "cannot refer to an open group" 2)
  | 'N' => .error (.badPattern "undefined character name '1,2'" 2)
  | c =>
    if c ∈ ['A', 'b', 'B', 'Z'] then .error (.badPattern "nothing to repeat" 4)
    else if c ∈ ['x', 'u', 'U'] then
      .error (.badPattern ("incomplete escape \\" ++ c.toString) 2)
    else if c.isDigit then .error (.badPattern ("invalid group reference " ++ c.toString) 3)
    else if c.isAlpha then .error (.badPattern ("bad escape \\" ++ c.toString) 2)
    else .ok (· = c)

def plain (c other : Char) : Bool :=
  if c = '.' then other ≠ '\n' else other = c

def faultAt? (last : Char) (position : Nat) : Option CommandLineError :=
  if last ∈ ['+', '*', '?'] then some (.badPattern "multiple repeat" position)
  else if last ∈ ['^', '$', '|', '('] then some (.badPattern "nothing to repeat" position)
  else if last = ')' then some (.badPattern "unbalanced parenthesis" (position + 12))
  else none

def ofMarks : List Char → Except CommandLineError MarkPattern
  | [] => .error .noCharacter
  | [mark] => (escaped mark).map fun last => ⟨[], last⟩
  | mark :: second :: rest => do
    let first ← escaped mark
    let others := second :: rest
    match faultAt? (others.getLast (by simp [others])) (others.length + 4) with
    | some error => throw error
    | none => return ⟨first :: others.dropLast.map plain, plain (others.getLast (by simp [others]))⟩

/-- How many characters of a text match classes, one by one, if all classes are matched. -/
def fits (classes : List (Char → Bool)) (text : List Char) : Bool :=
  classes.length ≤ text.length && (classes.zip text).all fun (accepts, c) => accepts c

def continuesFlag (c : Char) : Bool := !Text.isSeparator c && c ≠ '='

/-- How long the flag at the front of a text is, if there is one: marks, as many as may be, and at
least one character after them. -/
def flagLength? (pattern : MarkPattern) (text : List Char) : Option Nat :=
  [pattern.front ++ [pattern.last, pattern.last], pattern.front ++ [pattern.last]].findSome?
    fun classes =>
      let name := (text.drop classes.length).takeWhile continuesFlag
      if fits classes text ∧ name ≠ [] then some (classes.length + name.length) else none

/-- An argument with the flag at its front in lower case, if it calls an option then. What follows a
line end after a flag is lost. -/
def fold (pattern : MarkPattern) (isFlag : String → Bool) (argument : String) : String :=
  let text := argument.toList
  match pattern.flagLength? text with
  | none => argument
  | some length =>
    let flag := String.ofList (text.take length)
    let lower := Text.lowerCase flag
    (if isFlag lower then lower else flag) ++
      String.ofList ((text.drop length).takeWhile (· ≠ '\n'))

end MarkPattern

end DeviceAllocation.Settings

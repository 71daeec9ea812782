/-! Texts with directives in them, such as `%-5.2f` or `%(name)s`, which arguments take the place
of. -/

namespace DeviceAllocation.Template

inductive Name where
  | closed (name : String)
  | unclosed
  deriving DecidableEq, Repr

inductive Amount where
  | fixed (n : Nat)
  | argument
  deriving DecidableEq, Repr

structure Directive where
  name : Option Name
  flags : List Char
  width : Option Amount
  precision : Option Amount
  conversion : Option Char
  -- how many characters follow the directive
  after : Nat
  deriving DecidableEq, Repr

inductive Piece where
  | literal (c : Char)
  | directive (directive : Directive)
  deriving DecidableEq, Repr

/-- What stands between the parenthesis that is open and the one that closes it, latest character
first in `taken`, and what follows. -/
def closeName (depth : Nat) (taken : List Char) : List Char → Name × List Char
  | [] => (.unclosed, [])
  | c :: rest =>
    if c = ')' then
      if depth = 0 then (.closed (String.ofList taken.reverse), rest)
      else closeName (depth - 1) (c :: taken) rest
    else closeName (if c = '(' then depth + 1 else depth) (c :: taken) rest

def takeName : List Char → Option Name × List Char
  | '(' :: rest => (some (closeName 0 [] rest).1, (closeName 0 [] rest).2)
  | rest => (none, rest)

def isFlag (c : Char) : Bool :=
  c ∈ ['-', '+', ' ', '#', '0']

def takeAmount : List Char → Option Amount × List Char
  | '*' :: rest => (some .argument, rest)
  | rest =>
    let digits := rest.takeWhile Char.isDigit
    (if digits.isEmpty then none else (String.ofList digits).toNat?.map .fixed,
      rest.dropWhile Char.isDigit)

/-- An amount after a point, when there is a point, and what follows. A point alone counts as zero.
-/
def takePrecision : List Char → Option Amount × List Char
  | '.' :: rest => (some ((takeAmount rest).1.getD (.fixed 0)), (takeAmount rest).2)
  | rest => (none, rest)

def dropSize : List Char → List Char
  | 'h' :: rest => rest
  | 'l' :: rest => rest
  | 'L' :: rest => rest
  | rest => rest

def takeDirective (text : List Char) : Directive × List Char :=
  let (name, rest) := takeName text
  let flags := rest.takeWhile isFlag
  let (width, rest) := takeAmount (rest.dropWhile isFlag)
  let (precision, rest) := takePrecision rest
  let rest := dropSize rest
  (⟨name, flags, width, precision, rest.head?, rest.tail.length⟩, rest.tail)

theorem closeName_length_le (depth : Nat) (taken text : List Char) :
    (closeName depth taken text).2.length ≤ text.length := by
  induction text generalizing depth taken with
  | nil => simp [closeName]
  | cons c rest ih =>
    simp only [closeName]
    split
    · split
      · simp
      · exact Nat.le_succ_of_le (ih _ _)
    · exact Nat.le_succ_of_le (ih _ _)

theorem takeName_length_le (text : List Char) : (takeName text).2.length ≤ text.length := by
  unfold takeName
  split
  · exact Nat.le_succ_of_le (closeName_length_le _ _ _)
  · exact Nat.le_refl _

theorem takeAmount_length_le (text : List Char) : (takeAmount text).2.length ≤ text.length := by
  unfold takeAmount
  split
  · simp
  · exact (List.dropWhile_sublist _).length_le

theorem takePrecision_length_le (text : List Char) :
    (takePrecision text).2.length ≤ text.length := by
  unfold takePrecision
  split
  · exact Nat.le_succ_of_le (takeAmount_length_le _)
  · exact Nat.le_refl _

theorem dropSize_length_le (text : List Char) : (dropSize text).length ≤ text.length := by
  unfold dropSize
  split <;> simp

theorem takeDirective_length_le (text : List Char) :
    (takeDirective text).2.length ≤ text.length := by
  have hname := takeName_length_le text
  have hflags := ((takeName text).2.dropWhile_sublist isFlag).length_le
  have hwidth := takeAmount_length_le ((takeName text).2.dropWhile isFlag)
  have hprecision :=
    takePrecision_length_le (takeAmount ((takeName text).2.dropWhile isFlag)).2
  have hsize :=
    dropSize_length_le (takePrecision (takeAmount ((takeName text).2.dropWhile isFlag)).2).2
  simp only [takeDirective, List.length_tail]
  omega

def pieces (text : List Char) : List Piece :=
  match text with
  | [] => []
  | '%' :: '%' :: rest => .literal '%' :: pieces rest
  | '%' :: rest => .directive (takeDirective rest).1 :: pieces (takeDirective rest).2
  | c :: rest => .literal c :: pieces rest
  termination_by text.length
  decreasing_by
    all_goals
      have := takeDirective_length_le rest
      simp only [List.length_cons]
      omega

end DeviceAllocation.Template

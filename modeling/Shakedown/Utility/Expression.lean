import Shakedown.Regex.Read
import Shakedown.Utility.Option

/-!
# Expressions

The utility `expr`, each argument of which is an operand or an operator. An expression is evaluated
while it is read, so that of two mistakes the one that is met first is told. A part whose value is
not needed is read all the same, but no calculation in it can fail.
-/

set_option autoImplicit false

namespace Shakedown.Utility.Expression

/-- The value of an expression. -/
inductive Value where
  /-- The result of a calculation. -/
  | number (i : Int)
  /-- A text. -/
  | text (s : Chars)
  deriving DecidableEq, Repr

namespace Value

/-- A value as a text. -/
def toChars : Value → Chars
  | .number i => Chars.ofInt i
  | .text s => s

/-- The number that a text writes: digits, perhaps behind a minus sign. -/
def integerOf? (s : Chars) : Option Int :=
  let negative := s.head? = some '-'
  let digits := if negative then s.tail else s
  (Chars.decimal? digits).map (Numeral.signed negative)

/-- A value as a number. -/
def integer? : Value → Option Int
  | .number i => some i
  | .text s => integerOf? s

/-- Whether a value counts as nothing. -/
def isNothing (v : Value) : Bool :=
  v.toChars.isEmpty || v.integer? = some 0

/-- The number for a truth. -/
def ofBool (b : Bool) : Value :=
  .number (if b then 1 else 0)

end Value

/-- Evaluates words: the word taken last and those that are left are the state, a complaint ends
the evaluation. -/
abbrev Evaluation := ExceptT Chars (StateM (Chars × List Chars))

/-- The next word, if there is one. -/
def peek : Evaluation (Option Chars) := do
  return (← get).2.head?

/-- Takes the next word. -/
def next : Evaluation Chars := do
  match (← get).2 with
  | [] => throw ("syntax error: missing argument after ".toList ++ (← get).1.shown)
  | word :: more =>
    set (word, more)
    return word

/-- Takes the next word if it is one of some. -/
def accept? (words : List String) : Evaluation (Option String) := do
  match ← peek with
  | none => return none
  | some word =>
    match words.find? (·.toList = word) with
    | none => return none
    | some found =>
      let _ ← next
      return some found

/-! ## Operators -/

/-- The operators between two operands, the loosest first. -/
def operators : List (List String) :=
  [["|"], ["&"], ["<", "<=", "=", "==", "!=", ">=", ">"], ["+", "-"], ["*", "/", "%"], [":"]]

/-- Whether the operand behind an operator is needed, given the one before it. -/
def needsRight (operator : String) (left : Value) : Bool :=
  if operator = "|" then left.isNothing
  else if operator = "&" then !left.isNothing
  else true

/-- Whether an order is as an operator tells. -/
def orderHolds (operator : String) : Ordering → Bool
  | .lt => ["<", "<=", "!="].contains operator
  | .eq => ["<=", "=", "==", ">="].contains operator
  | .gt => [">=", ">", "!="].contains operator

/-- The order of two values: of the numbers if both are some, otherwise of the bytes. -/
def order (a b : Value) : Ordering :=
  match a.integer?, b.integer? with
  | some i, some j => compare i j
  | _, _ =>
    if Chars.before a.toChars b.toChars then .lt
    else if a.toChars = b.toChars then .eq
    else .gt

/-- What an expression matches at the beginning of a text: the text of its group if it has one,
otherwise how much it is. -/
def matched (text pattern : Chars) : Except Chars Value :=
  match Regex.read { extended := false } pattern with
  | .error e => .error e.toList
  | .ok compiled =>
    let found := Regex.matchAt {} compiled.regex (fun _ => true) { rest := text }
    .ok <| if compiled.groups > 0 then
      .text ((found.bind fun p => p.captured? 1).getD [])
    else .number (found.elim 0 fun p => p.offset)

/-- The number of an operand of a calculation. -/
def operand (v : Value) : Evaluation Int :=
  match v.integer? with
  | some i => return i
  | none => throw "non-integer argument".toList

/-- Calculates with two numbers. -/
def calculate (operator : String) (i j : Int) : Evaluation Value :=
  match operator with
  | "+" => return .number (i + j)
  | "-" => return .number (i - j)
  | "*" => return .number (i * j)
  | _ =>
    if j = 0 then throw "division by zero".toList
    else return .number (if operator = "/" then i.tdiv j else i.tmod j)

/-- The value of two operands with an operator between them, calculated only where it is needed. -/
def combine (needed : Bool) (operator : String) (left right : Value) : Evaluation Value := do
  match operator with
  | "|" =>
    return if !left.isNothing then left else if right.isNothing then .number 0 else right
  | "&" => return if left.isNothing || right.isNothing then .number 0 else left
  | _ =>
    if !needed then return left
    if operator = ":" then
      match matched left.toChars right.toChars with
      | .ok v => return v
      | .error e => throw e
    else if ["+", "-", "*", "/", "%"].contains operator then
      let i ← operand left
      let j ← operand right
      calculate operator i j
    else return .ofBool (orderHolds operator (order left right))

/-! ## Functions -/

/-- The part of a text from a place on with a length; places are counted from one. -/
def part (text : Chars) (start length : Value) : Value :=
  match start.integer?, length.integer? with
  | some i, some n =>
    if i > 0 && n > 0 then .text ((text.drop (i.toNat - 1)).take n.toNat) else .text []
  | _, _ => .text []

/-- Where the first of some characters stands in a text, counted from one; zero if nowhere. -/
def placeOf (text characters : Chars) : Value :=
  .number ((text.findIdx? characters.contains).elim 0 (· + 1))

/-- The words in front of operands, with the number of these. -/
def functions : List (String × Nat) :=
  [("length", 1), ("match", 2), ("index", 2), ("substr", 3)]

/-- The value of a function. -/
def apply (name : String) (values : List Value) : Evaluation Value := do
  let text := (values.headD (.text [])).toChars
  let second := values.getD 1 (.text [])
  match name with
  | "length" => return .number text.length
  | "index" => return placeOf text second.toChars
  | "substr" => return part text second (values.getD 2 (.text []))
  | _ =>
    match matched text second.toChars with
    | .ok v => return v
    | .error e => throw e

/-! ## Evaluation -/

/-- Takes the parenthesis behind an expression. -/
def closing : Evaluation Unit := do
  let (last, more) ← get
  match more with
  | [] => throw ("syntax error: expecting ')' after ".toList ++ last.shown)
  | word :: _ =>
    if word = [')'] then
      let _ ← next
    else throw ("syntax error: expecting ')' instead of ".toList ++ word.shown)

mutual

/-- An expression whose operators bind at least as tightly as those of a level. -/
def expression : Nat → Bool → Nat → Evaluation Value
  | 0, _, _ => return .text []
  | n + 1, needed, level => do
    if level < operators.length then
      let left ← expression n needed (level + 1)
      further n needed level left
    else simple n needed

/-- The operators of a level behind an operand, with what follows them. -/
def further : Nat → Bool → Nat → Value → Evaluation Value
  | 0, _, _, left => return left
  | n + 1, needed, level, left => do
    match ← accept? (operators.getD level []) with
    | none => return left
    | some operator =>
      let right ← expression n (needed && needsRight operator left) (level + 1)
      further n needed level (← combine needed operator left right)

/-- An operand: a word, a function with its operands, or an expression in parentheses. -/
def simple : Nat → Bool → Evaluation Value
  | 0, _ => return .text []
  | n + 1, needed => do
    if let some _ ← accept? ["+"] then return .text (← next)
    match ← accept? (functions.map (·.1)) with
    | some name =>
      let values ← simples n needed ((functions.lookup name).getD 0)
      if needed then apply name values else return .text []
    | none =>
      let word ← next
      if word = ['('] then
        let v ← expression n needed 0
        closing
        return v
      else if word = [')'] then throw "syntax error: unexpected ')'".toList
      else return .text word

/-- So many operands in a row. -/
def simples : Nat → Bool → Nat → Evaluation (List Value)
  | 0, _, _ => return []
  | _ + 1, _, 0 => return []
  | n + 1, needed, count + 1 => do
    let v ← simple n needed
    return v :: (← simples n needed count)

end

/-- The value of an expression. -/
def evaluate (words : List Chars) : Except Chars Value :=
  match expression (10 * words.length + 20) true 0 ([], words) with
  | (.error e, _) => .error e
  | (.ok v, _, []) => .ok v
  | (.ok _, _, word :: _) => .error ("syntax error: unexpected argument ".toList ++ word.shown)

/-- Writes the value of an expression; fails if it counts as nothing. -/
def expr : Utility := do
  let args := (← get).args
  let words := if args.head? = some ['-', '-'] then args.tail else args
  if words.isEmpty then Act.misused "missing operand".toList 2
  match evaluate words with
  | .error e => Act.die e 2
  | .ok v =>
    Act.writeLine v.toChars
    return statusOf v.isNothing

end Shakedown.Utility.Expression

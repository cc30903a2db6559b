import Shakedown.Process.Property
import Shakedown.Shell.State
import Shakedown.Text.Numeral

/-!
# Conditions

What `test` and `[` decide. The words of a condition are read one after the other; whether a word is
an operator depends on what is around it. The place that was reached is the list of words from there
on, and the word at which a condition ends is told in complaints.
-/

set_option autoImplicit false

namespace Shakedown.Shell

/-- An operator of a condition. -/
inductive TestSign where
  /-- A property of one word. -/
  | unary (letter : Char)
  /-- A comparison of two words. -/
  | binary (text : String)
  /-- Both sides hold. -/
  | both
  /-- One of the sides holds. -/
  | either
  /-- What follows does not hold. -/
  | negation
  /-- An opening parenthesis. -/
  | opening
  /-- A closing parenthesis. -/
  | closing
  deriving DecidableEq, Repr

namespace TestSign

/-- The letters of the properties. -/
def letters : List Char :=
  ['r', 'w', 'x', 'e', 'f', 'd', 'c', 'b', 'p', 'u', 'g', 'k', 's', 't', 'z', 'n', 'h', 'O', 'G',
    'L', 'S']

/-- The comparisons. -/
def comparisons : List String :=
  ["=", "!=", "<", ">", "-eq", "-ne", "-ge", "-gt", "-le", "-lt", "-nt", "-ot", "-ef"]

/-- The operator that a word may be. -/
def ofWord? (word : Chars) : Option TestSign :=
  match word with
  | ['!'] => some .negation
  | ['('] => some .opening
  | [')'] => some .closing
  | ['-', 'a'] => some .both
  | ['-', 'o'] => some .either
  | _ =>
    match comparisons.find? (·.toList = word) with
    | some text => some (.binary text)
    | none =>
      match word with
      | ['-', c] => if letters.contains c then some (.unary c) else none
      | _ => none

/-- Whether a word compares two others. -/
def isComparison (word : Chars) : Bool :=
  match ofWord? word with
  | some (.binary _) => true
  | _ => false

/-- The operator at the beginning of words. A property is none if nothing is left that could have
it, and a parenthesis is none if nothing is in it. -/
def lead? (words : List Chars) : Option TestSign :=
  match words with
  | [] => none
  | word :: more =>
    match ofWord? word, more with
    | some (.unary _), [] => none
    | some (.unary c), next :: _ :: _ => if isComparison next then none else some (.unary c)
    | some .opening, [] => none
    | sign, _ => sign

end TestSign

/-! ## Comparisons -/

/-- The integer that a word of a comparison stands for. -/
def comparedInteger (word : Chars) : Except Chars Int :=
  match Numeral.integerIn? 10 word with
  | some i => if Numeral.isSmall i then .ok i else .error ("Illegal number: ".toList ++ word)
  | none => .error ("Illegal number: ".toList ++ word)

/-- Compares two integers. -/
def comparedIntegers (a b : Chars) (holds : Int → Int → Bool) : Except Chars Bool := do
  let x ← comparedInteger a
  let y ← comparedInteger b
  return holds x y

/-- Whether a comparison holds. -/
def comparisonHolds (p : Process) (text : String) (a b : Chars) : Except Chars Bool :=
  match text with
  | "=" => .ok (a = b)
  | "!=" => .ok (a ≠ b)
  | "<" => .ok (Chars.before a b)
  | ">" => .ok (Chars.before b a)
  | "-eq" => comparedIntegers a b (· = ·)
  | "-ne" => comparedIntegers a b (· ≠ ·)
  | "-ge" => comparedIntegers a b (· ≥ ·)
  | "-gt" => comparedIntegers a b (· > ·)
  | "-le" => comparedIntegers a b (· ≤ ·)
  | "-lt" => comparedIntegers a b (· < ·)
  | "-nt" => .ok (p.timesHold a b (· > ·))
  | "-ot" => .ok (p.timesHold a b (· < ·))
  | _ => .ok (p.isSame a b)

/-- Whether a word has a property. No descriptor is a terminal. -/
def propertyHolds (p : Process) (letter : Char) (word : Chars) : Except Chars Bool :=
  match letter with
  | 'z' => .ok word.isEmpty
  | 'n' => .ok (!word.isEmpty)
  | 't' => (comparedInteger word).map fun _ => false
  | _ => .ok (p.fileHas letter word)

/-! ## Reading conditions -/

/-- What a condition is read as: whether it holds, and the words from its last one on. -/
abbrev Verdict := Except Chars (Bool × List Chars)

/-- Complains about a missing word. -/
def wordExpected {α : Type} (operator : Chars) : Except Chars α :=
  .error (operator ++ ": argument expected".toList)

/-- A condition that starts with an operand. -/
def operandHolds (p : Process) (words : List Chars) : Verdict :=
  match words with
  | [] => .ok (false, [])
  | [a] => .ok (!a.isEmpty, words)
  | a :: operator :: more =>
    match TestSign.lead? (operator :: more), more with
    | some (.binary _), [] => wordExpected operator
    | some (.binary text), b :: _ => (comparisonHolds p text a b).map fun holds => (holds, more)
    | _, _ => .ok (!a.isEmpty, words)

mutual

/-- Conditions of which one has to hold. -/
def anyHolds (p : Process) : Nat → List Chars → Verdict
  | 0, words => .ok (false, words)
  | n + 1, words => do
    let (a, words) ← allHold p n words
    match TestSign.lead? words.tail with
    | some .either =>
      let (b, words) ← anyHolds p n (words.drop 2)
      return (a || b, words)
    | _ => return (a, words)

/-- Conditions of which all have to hold. -/
def allHold (p : Process) : Nat → List Chars → Verdict
  | 0, words => .ok (false, words)
  | n + 1, words => do
    let (a, words) ← oneHolds p n words
    match TestSign.lead? words.tail with
    | some .both =>
      let (b, words) ← allHold p n (words.drop 2)
      return (a && b, words)
    | _ => return (a, words)

/-- A condition of one part. -/
def oneHolds (p : Process) : Nat → List Chars → Verdict
  | 0, words => .ok (false, words)
  | n + 1, words => do
    match TestSign.lead? words, words with
    | some .negation, _ :: more =>
      if more.isEmpty then return (true, words)
      else
        let (a, words) ← oneHolds p n more
        return (!a, words)
    | some .opening, _ :: more =>
      if TestSign.lead? more = some .closing then return (false, more)
      else
        let (a, words) ← anyHolds p n more
        if TestSign.lead? words.tail = some .closing then return (a, words.tail)
        else throw "closing paren expected".toList
    | some (.unary letter), operator :: more =>
      match more with
      | [] => wordExpected operator
      | a :: _ => return (← propertyHolds p letter a, more)
    | _, _ => operandHolds p words

end

/-- Decides a condition. Where the number of words tells what is an operator, nothing else does. -/
def decideWords (p : Process) : Nat → Bool → List Chars → Except Chars Bool
  | 0, _, _ => .ok false
  | n + 1, wanted, words =>
    let limit := 4 * words.length + 4
    let verdict (r : Verdict) : Except Chars Bool := do
      match ← r with
      | (_, word :: _ :: _) => throw (word ++ ": unexpected operator".toList)
      | (holds, _) => return (holds = wanted)
    let enclosed := words.head? = some ['('] && words.getLast? = some [')']
    match words with
    | [] => .ok (!wanted)
    | [a, operator, b] =>
      if TestSign.isComparison operator then verdict (operandHolds p [a, operator, b])
      else if enclosed then verdict (anyHolds p limit [operator])
      else if a = ['!'] then decideWords p n (!wanted) [operator, b]
      else verdict (anyHolds p limit words)
    | [a, b, c, d] =>
      if enclosed then verdict (anyHolds p limit [b, c])
      else if a = ['!'] then decideWords p n (!wanted) [b, c, d]
      else verdict (anyHolds p limit words)
    | _ => verdict (anyHolds p limit words)

/-- Decides what `test`, or `[` with its closing bracket, is asked. -/
def testCommand (args : List Chars) : Sh Nat := do
  let s ← get
  let decide (words : List Chars) : Sh Nat := do
    match decideWords s.process 4 true words with
    | .ok holds => return if holds then 0 else 1
    | .error message => Sh.fail message
  if s.command = some ['['] then
    if args.getLast? = some [']'] then decide args.dropLast else Sh.fail "missing ]".toList
  else decide args

end Shakedown.Shell

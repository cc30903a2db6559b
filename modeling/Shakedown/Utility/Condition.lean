import Shakedown.Process.Property
import Shakedown.Text.Numeral
import Shakedown.Utility.Option

/-!
# Conditions

The utilities `test` and `[`. A condition of up to four words is read by their number, so that no
word can be mistaken for an operator; a longer one is read as an expression.
-/

set_option autoImplicit false

namespace Shakedown.Utility.Condition

/-- Reads a condition from words: what is left of them is the state, a complaint ends the reading.
The last of all words is known. -/
abbrev Judge := ReaderT Chars (ExceptT Chars (StateM (List Chars)))

/-- The operators between two words. -/
def comparisons : List String :=
  ["=", "!=", "==", "-nt", "-ot", "-ef", "-eq", "-ne", "-lt", "-le", "-gt", "-ge"]

/-- Whether a word is an operator between two words. -/
def isComparison (word : Chars) : Bool :=
  comparisons.any (·.toList = word)

/-- Whether a word has the form of an operator in front of a word. -/
def isLetterOption (word : Chars) : Bool :=
  word.length = 2 && word.head? = some '-'

/-- Complains that the words end too early. -/
def beyond {α : Type} : Judge α := do
  throw ("missing argument after ".toList ++ (← read).shown)

/-- Takes the next word. -/
def next : Judge Chars := do
  match ← get with
  | [] => beyond
  | word :: more =>
    set more
    return word

/-- Passes over a word, behind which there must be another one. -/
def pass : Judge Unit := do
  let _ ← next
  if (← get).isEmpty then beyond

/-- An integer. -/
def integer (word : Chars) : Judge Int :=
  match Numeral.leadingInteger? 10 word with
  | some (i, rest) => if rest.all Chars.isSpace then return i else bad
  | none => bad
where
  /-- Complains about the word. -/
  bad : Judge Int := throw ("invalid integer ".toList ++ word.shown)

/-- Whether two integers are as an operator tells. -/
def integersHold (operator : String) (a b : Int) : Bool :=
  match operator with
  | "-eq" => a = b
  | "-ne" => a ≠ b
  | "-lt" => a < b
  | "-le" => a ≤ b
  | "-gt" => a > b
  | _ => a ≥ b

/-- Whether a file is newer than another one, which may be missing. -/
def isNewer (p : Process) (a b : Chars) : Bool :=
  p.timesHold a b (fun s t => s > t) || ((p.node? a true).isSome && (p.node? b true).isNone)

/-- Whether two words are as an operator tells. -/
def comparisonHolds (p : Process) (a : Chars) (operator : String) (b : Chars) : Judge Bool := do
  match operator with
  | "=" => return a = b
  | "==" => return a = b
  | "!=" => return a ≠ b
  | "-nt" => return isNewer p a b
  | "-ot" => return isNewer p b a
  | "-ef" => return p.isSame a b
  | _ => return integersHold operator (← integer a) (← integer b)

/-- A word, an operator, and a word; `-l` in front of a word stands for its length. -/
def comparison (p : Process) : Judge Bool := do
  let word ← next
  let left ← if word = ['-', 'l'] && !(isComparison ((← get).headD [])) then
    pure (Chars.ofNat (← next).length) else pure word
  let operator ← next
  let word ← next
  let right ← if word = ['-', 'l'] && !(← get).isEmpty then
    pure (Chars.ofNat (← next).length) else pure word
  comparisonHolds p left (String.ofList operator) right

/-- An operator and a word. -/
def property (p : Process) : Judge Bool := do
  let operator ← next
  match operator with
  | ['-', 'n'] => return !(← next).isEmpty
  | ['-', 'z'] => return (← next).isEmpty
  | ['-', 't'] =>
    let _ ← integer (← next)
    return false
  | [_, letter] =>
    if "bcdefghkLprsSuwxGNO".toList.contains letter then return p.fileHas letter (← next)
    else throw (operator.shown ++ ": unary operator expected".toList)
  | _ => throw (operator.shown ++ ": unary operator expected".toList)

/-- One word, which holds if it is not empty. -/
def oneWord : Judge Bool := do
  return !(← next).isEmpty

/-- Two words. -/
def twoWords (p : Process) : Judge Bool := do
  let word := (← get).headD []
  if word = ['!'] then
    pass
    return !(← oneWord)
  else if isLetterOption word then property p
  else beyond

/-- How many words there are up to a closing parenthesis; all of them if it is too far away. -/
def enclosed (words : List Chars) : Nat :=
  match words.tail.findIdx? (· = [')']) with
  | some n => if n + 1 ≤ 4 then n + 1 else words.length
  | none => words.length

mutual

/-- Three words. -/
def threeWords (p : Process) : Nat → Judge Bool
  | 0 => return false
  | n + 1 => do
    match ← get with
    | a :: b :: c :: _ =>
      if isComparison b then comparison p
      else if a = ['!'] then
        pass
        return !(← twoWords p)
      else if a = ['('] && c = [')'] then
        pass
        let value ← oneWord
        let _ ← next
        return value
      else if b = ['-', 'a'] || b = ['-', 'o'] then anyOf p n
      else throw (b.shown ++ ": binary operator expected".toList)
    | _ => beyond

/-- So many words. -/
def wordsHold (p : Process) (count : Nat) : Nat → Judge Bool
  | 0 => return false
  | n + 1 => do
    match count with
    | 1 => oneWord
    | 2 => twoWords p
    | 3 => threeWords p n
    | 4 =>
      let words ← get
      if words.head? = some ['!'] then
        pass
        return !(← threeWords p n)
      else if words.head? = some ['('] && words[3]? = some [')'] then
        pass
        let value ← twoWords p
        let _ ← next
        return value
      else anyOf p n
    | _ => anyOf p n

/-- A term of an expression. -/
def term (p : Process) : Nat → Judge Bool
  | 0 => return false
  | n + 1 => do
    let words ← get
    match words with
    | [] => beyond
    | word :: more =>
      if word = ['!'] then
        pass
        return !(← term p n)
      else if word = ['('] then
        pass
        let value ← wordsHold p (enclosed more) n
        match ← get with
        | [] => throw "')' expected".toList
        | close :: _ =>
          if close = [')'] then
            let _ ← next
            return value
          else throw ("')' expected, found ".toList ++ close.shown)
      else if word = ['-', 'l'] && words.length ≥ 4 && isComparison (more.getD 1 []) then
        comparison p
      else if words.length ≥ 3 && isComparison (more.headD []) then comparison p
      else if isLetterOption word then property p
      else oneWord

/-- Terms that all have to hold. -/
def allOf (p : Process) : Nat → Judge Bool
  | 0 => return false
  | n + 1 => do
    let value ← term p n
    if (← get).head? = some ['-', 'a'] then
      let _ ← next
      let rest ← allOf p n
      return value && rest
    else return value

/-- Terms one of which has to hold. -/
def anyOf (p : Process) : Nat → Judge Bool
  | 0 => return false
  | n + 1 => do
    if (← get).isEmpty then beyond
    let value ← allOf p n
    if (← get).head? = some ['-', 'o'] then
      let _ ← next
      let rest ← anyOf p n
      return value || rest
    else return value

end

/-- Whether a condition holds. -/
def holds (p : Process) (words : List Chars) : Except Chars Bool :=
  match words with
  | [] => .ok false
  | _ =>
    match wordsHold p words.length (10 * words.length + 10) (words.getLast?.getD []) words with
    | (.error e, _) => .error e
    | (.ok value, []) => .ok value
    | (.ok _, word :: _) => .error ("extra argument ".toList ++ word.shown)

/-- Judges a condition. -/
def judge (words : List Chars) : Utility := do
  match holds (← get) words with
  | .ok value => return statusOf !value
  | .error e => Act.die e 2

/-- The utility `test`. -/
def test : Utility := do
  judge (← get).args

/-- The utility `[`, whose last word is its closing bracket. -/
def bracket : Utility := do
  let args := (← get).args
  if args.getLast? = some [']'] then judge args.dropLast
  else Act.die "missing ']'".toList 2

end Shakedown.Utility.Condition

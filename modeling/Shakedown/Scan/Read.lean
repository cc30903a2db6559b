import Shakedown.Regex.Read
import Shakedown.Scan.Script
import Shakedown.Scan.Token

/-!
# Reading scanning scripts

The lexemes of a script become rules and functions. Operators between two operands stand on levels,
the loosest first; one behind another without a sign in between is such an operator, too. The first
mistake ends the reading.
-/

set_option autoImplicit false

namespace Shakedown.Scan

/-- How regular expressions are written. -/
def regexStyle : RegexStyle :=
  { extended := true, escapes := true, counts := false, refers := false }

/-- The words for what is wrong with a regular expression. -/
def regexFault (e : String) : String :=
  if "Unmatched (".toList.isPrefixOf e.toList then "missing ')'"
  else if "Unmatched [".toList.isPrefixOf e.toList then "class -- [], [^] or ["
  else if "Unmatched )".toList.isPrefixOf e.toList then "missing '('"
  else "syntax error ^* or ^+"

/-- The regular expression of a text, or what is wrong with it. -/
def regexOf (line : Nat) (s : Chars) : Except Chars Regex :=
  match Regex.read regexStyle s with
  | .ok c => .ok c.regex
  | .error e =>
    .error <| mistakeOn line ("regular expression compile failed (".toList
      ++ (regexFault e).toList ++ ")\n".toList ++ s)

/-- Where in a script something stands. -/
inductive Surrounding where
  /-- In a rule for the beginning or the end. -/
  | edge
  /-- In another rule. -/
  | rule
  /-- In a function. -/
  | function
  deriving DecidableEq, Repr

/-- How far the reading is. -/
structure Reading where
  /-- The lexemes to come. -/
  lexemes : List Lexeme
  /-- The number of open parentheses. -/
  parentheses : Nat := 0
  /-- The number of open braces. -/
  braces : Nat := 0
  /-- The number of loops around. -/
  loops : Nat := 0
  /-- What stands around. -/
  surrounding : Surrounding := .rule
  /-- The functions that are called, latest first. -/
  calls : List Chars := []

/-- Reads something; a mistake ends it. -/
abbrev Reader := StateT Reading (Except Chars)

namespace Reader

/-- The lexeme to come. -/
def lexeme : Reader Lexeme := do
  return (← get).lexemes.headD { token := .finish, line := 0 }

/-- The token to come. -/
def peek : Reader Token := do
  return (← lexeme).token

/-- The token behind the one to come. -/
def peekSecond : Reader Token := do
  return ((← get).lexemes.tail.headD { token := .finish, line := 0 }).token

/-- Passes over a token. -/
def advance : Reader Unit :=
  modify fun r => { r with lexemes := r.lexemes.tail }

/-- Whether a token can end a statement. -/
def endsStatement : Token → Bool
  | .newline => true
  | .finish => true
  | t => t.isSign "\x7d" || t.isSign ";"

/-- Complains about the line that is read. -/
def complain {α : Type} (message : Chars) : Reader α := do
  throw (mistakeOn (← lexeme).line message)

/-- Complains about the token to come. -/
def refuse {α : Type} : Reader α := do
  let t ← peek
  let r ← get
  match t with
  | .mistake message => throw message
  | _ =>
    if r.parentheses > 0 && endsStatement t then complain ("missing ) near ".toList ++ t.shown)
    else if r.braces > 0 && t matches .finish then complain ("missing \x7d near ".toList ++ t.shown)
    else if r.braces = 0 && t.isSign "\x7d" then complain "extra '\x7d'".toList
    else if r.parentheses = 0 && t.isSign ")" then complain "extra ')'".toList
    else complain ("syntax error at or near ".toList ++ t.shown)

/-- Notes a sign by which parentheses or braces are opened or closed. -/
def track (s : String) : Reader Unit :=
  modify fun r =>
    if s = "(" then { r with parentheses := r.parentheses + 1 }
    else if s = ")" then { r with parentheses := r.parentheses - 1 }
    else if s = "\x7b" then { r with braces := r.braces + 1 }
    else if s = "\x7d" then { r with braces := r.braces - 1 }
    else r

/-- Takes a sign if it comes. -/
def accept (s : String) : Reader Bool := do
  if (← peek).isSign s then
    track s
    advance
    return true
  else return false

/-- Takes one of some signs if it comes. -/
def acceptOne (all : List String) : Reader (Option String) := do
  match ← peek with
  | .sign s =>
    if all.contains s then
      advance
      return some s
    else return none
  | _ => return none

/-- Takes a sign that has to come. -/
def expect (s : String) : Reader Unit := do
  if !(← accept s) then refuse

/-- Takes a word if it comes. -/
def acceptWord (s : String) : Reader Bool := do
  if (← peek).isWord s then
    advance
    return true
  else return false

/-- Passes over the ends of lines. -/
def passLines : Reader Unit :=
  modify fun r => { r with lexemes := r.lexemes.dropWhile (·.token matches .newline) }

/-- Passes over the ends of lines and of statements. -/
def passEnds : Reader Unit :=
  modify fun r => { r with
    lexemes := r.lexemes.dropWhile fun l => l.token matches .newline || l.token.isSign ";" }

/-- Takes a name that has to come. -/
def nameOf : Reader Chars := do
  match ← peek with
  | .name s =>
    advance
    return s
  | .call s =>
    advance
    return s
  | _ => refuse

end Reader

open Reader

/-! ## Operators -/

/-- Which operators are read. -/
structure Scope where
  /-- Whether signs that tell where something is written are not read. -/
  plain : Bool := false

/-- The comparisons by their signs. -/
def comparisons : List (String × Comparison) :=
  [("<", .less), ("<=", .atMost), ("==", .equal), ("!=", .different), (">=", .atLeast),
    (">", .greater)]

/-- The operations by their signs. -/
def operations : List (String × Operation) :=
  [("+", .plus), ("-", .minus), ("*", .times), ("/", .divide), ("%", .modulo), ("^", .power)]

/-- The signs of assignments with an operation. -/
def updates : List (String × Operation) :=
  operations.map fun (s, o) => (s ++ "=", o)

/-- The signs between two operands, level by level; the level of texts one behind another has
none. -/
def levels : List (List String) :=
  [["||"], ["&&"], ["in"], ["~", "!~"], ["<", "<=", "==", "!=", ">=", ">"], [], ["+", "-"],
    ["*", "/", "%"]]

/-- The level of texts one behind another. -/
def concatLevel : Nat := 5

/-- The level of operators in front of an operand. -/
def unaryLevel : Nat := 8

/-- What an operator makes of its operands. -/
def combined (sign : String) (a b : Expr) : Expr :=
  match sign with
  | "||" => .either a b
  | "&&" => .both a b
  | "~" => .matches_ false a b
  | "!~" => .matches_ true a b
  | _ =>
    match comparisons.lookup sign, operations.lookup sign with
    | some c, _ => .compare c a b
    | _, some o => .arithmetic o a b
    | none, none => .concat a b

/-- Whether something can be assigned to an expression. -/
def isTarget : Expr → Bool
  | .name _ => true
  | .element .. => true
  | .field _ => true
  | _ => false

/-- The expressions in parentheses, or the one without. -/
def itemsOf : Expr → List Expr
  | .several items => items
  | e => [e]

/-- Whether an operand begins with a token. -/
def beginsOperand : Token → Bool
  | .number _ => true
  | .text _ => true
  | .regex _ => true
  | .name _ => true
  | .call _ => true
  | .builtin _ => true
  | t => t.isSign "$" || t.isSign "(" || t.isSign "++" || t.isSign "--" || t.isSign "!"

/-- The functions whose last operands may be left out. -/
def argumentCounts : List (String × Nat × Nat) :=
  [("length", 0, 1), ("index", 2, 2), ("substr", 2, 3), ("split", 2, 3), ("sub", 2, 3),
    ("gsub", 2, 3), ("match", 2, 2), ("sprintf", 1, 255), ("sin", 1, 1), ("cos", 1, 1),
    ("atan2", 2, 2), ("exp", 1, 1), ("log", 1, 1), ("sqrt", 1, 1), ("int", 1, 1), ("rand", 0, 0),
    ("srand", 0, 1), ("close", 1, 1), ("fflush", 0, 1), ("system", 1, 1), ("tolower", 1, 1),
    ("toupper", 1, 1)]

/-- Notes that a function is called. -/
def noteCall (function : Chars) : Reader Unit :=
  modify fun r => { r with calls := function :: r.calls }

/-- Takes the sign of an operator on a level. -/
def operatorAt (s : Scope) (level : Nat) : Reader (Option String) := do
  if level = 2 then return if ← acceptWord "in" then some "in" else none
  let found := (levels[level]?).getD []
  acceptOne (if s.plain then found.filter (· ≠ ">") else found)

mutual

/-- An expression. -/
def expression : Nat → Scope → Reader Expr
  | 0, _ => refuse
  | n + 1, s => do
    let e ← operated n s 0
    if ← accept "?" then
      passLines
      let yes ← expression n s
      passLines
      expect ":"
      passLines
      let no ← expression n s
      return .choice e yes no
    else return e

/-- An expression whose operators are at least as tight as those of a level. -/
def operated : Nat → Scope → Nat → Reader Expr
  | 0, _, _ => refuse
  | n + 1, s, level => do
    if level ≥ unaryLevel then signed n s
    else
      let first ← operated n s (level + 1)
      operatedFurther n s level first

/-- The operators of a level behind a first operand, and their operands. -/
def operatedFurther : Nat → Scope → Nat → Expr → Reader Expr
  | 0, _, _, _ => refuse
  | n + 1, s, level, first => do
    if level = concatLevel then
      if beginsOperand (← peek) then
        let second ← operated n s (level + 1)
        operatedFurther n s level (.concat first second)
      else return first
    else
      match ← operatorAt s level with
      | none => return first
      | some "in" =>
        let table ← nameOf
        operatedFurther n s level (.isIn (itemsOf first) table)
      | some sign =>
        if sign = "||" || sign = "&&" then passLines
        let second ← operated n s (level + 1)
        operatedFurther n s level (combined sign first second)

/-- An operand, perhaps with signs in front of it. -/
def signed : Nat → Scope → Reader Expr
  | 0, _ => refuse
  | n + 1, s => do
    if ← accept "!" then return .opposite (← signed n s)
    else if ← accept "-" then return .negative (← signed n s)
    else if ← accept "+" then return .positive (← signed n s)
    else piped n s (← power n s)

/-- An operand, perhaps followed by the reading of what it writes as a command. -/
def piped : Nat → Scope → Expr → Reader Expr
  | 0, _, _ => refuse
  | n + 1, s, e => do
    if !s.plain && (← peek).isSign "|" && (← peekSecond).isWord "getline" then
      advance
      advance
      let target ← lineTarget n s
      piped n s (.readCommand target e)
    else return e

/-- An operand, perhaps with an exponent. -/
def power : Nat → Scope → Reader Expr
  | 0, _ => refuse
  | n + 1, s => do
    let base ← stepped n s
    if ← accept "^" then return .arithmetic .power base (← exponent n s)
    else return base

/-- An exponent. -/
def exponent : Nat → Scope → Reader Expr
  | 0, _ => refuse
  | n + 1, s => do
    if ← accept "-" then return .negative (← exponent n s)
    else if ← accept "+" then return .positive (← exponent n s)
    else if ← accept "!" then return .opposite (← exponent n s)
    else power n s

/-- An operand with what may stand behind a place for a value. -/
def stepped : Nat → Scope → Reader Expr
  | 0, _ => refuse
  | n + 1, s => do
    let e ← operand n s
    if !isTarget e then return e
    if ← accept "++" then return .step e true true
    if ← accept "--" then return .step e false true
    if ← accept "=" then
      passLines
      return .assign e (← expression n s)
    match ← acceptOne (updates.map (·.1)) with
    | none => return e
    | some sign =>
      passLines
      let value ← expression n s
      return .update ((updates.lookup sign).getD .plus) e value

/-- A place that a line is read into, if one comes. -/
def lineTarget : Nat → Scope → Reader (Option Expr)
  | 0, _ => refuse
  | n + 1, s => do
    match ← peek with
    | .name _ => return some (← operand n s)
    | .sign "$" => return some (← operand n s)
    | _ => return none

/-- Expressions between commas up to a closing sign. -/
def expressions : Nat → String → Reader (List Expr)
  | 0, _ => refuse
  | n + 1, closing => do
    passLines
    if ← accept closing then return []
    let e ← expression n {}
    passLines
    if ← accept closing then return [e]
    expect ","
    return e :: (← expressions n closing)

/-- An operand. -/
def operand : Nat → Scope → Reader Expr
  | 0, _ => refuse
  | n + 1, s => do
    let line := (← lexeme).line
    match ← peek with
    | .number x =>
      advance
      return .number x
    | .text t =>
      advance
      return .text t
    | .regex t =>
      match regexOf line t with
      | .error e => throw e
      | .ok r =>
        advance
        return .regex r
    | .builtin f =>
      advance
      if !(← peek).isSign "(" then
        if f = "length" then return .builtin f [] else refuse
      expect "("
      let args ← expressions n ")"
      match argumentCounts.lookup f with
      | some (least, most) =>
        if args.length < least || args.length > most then
          complain ("wrong number of arguments in call to ".toList ++ f.toList)
      | none => pure ()
      return .builtin f args
    | .call f =>
      noteCall f
      advance
      expect "("
      return .call f (← expressions n ")")
    | .name v =>
      advance
      if ← accept "[" then return .element v (← expressions n "]")
      else return .name v
    | .word "getline" =>
      advance
      let target ← lineTarget n s
      if ← accept "<" then return .readFile target (← operand n s)
      else return .readNext target
    | .sign "(" =>
      expect "("
      match ← expressions n ")" with
      | [] => refuse
      | [e] => return .several [e]
      | items => return .several items
    | .sign "$" =>
      advance
      if ← accept "++" then return .field (.step (← operand n s) true false)
      if ← accept "--" then return .field (.step (← operand n s) false false)
      if ← accept "-" then return .field (.negative (← operand n s))
      return .field (← operand n s)
    | .sign "++" =>
      advance
      return .step (← operand n s) true false
    | .sign "--" =>
      advance
      return .step (← operand n s) false false
    | _ => refuse

end

/-! ## Statements -/

/-- Takes the end of a statement. -/
def statementEnd : Reader Unit := do
  match ← peek with
  | .newline => passLines
  | .sign ";" =>
    advance
    passLines
  | .sign "\x7d" => pure ()
  | _ => refuse

/-- A condition in parentheses. -/
def condition (n : Nat) : Reader Expr := do
  expect "("
  let e ← expression n {}
  expect ")"
  return e

/-- The expressions behind a word for writing. -/
def printed : Nat → Reader (List Expr)
  | 0 => refuse
  | n + 1 => do
    let e ← expression n { plain := true }
    if ← accept "," then
      passLines
      return e :: (← printed n)
    else return [e]

/-- A statement that writes, behind its word. -/
def printing (n : Nat) (formats : Bool) : Reader Stmt := do
  let t ← peek
  let isEmpty := endsStatement t || [">", ">>", "|"].any t.isSign
  let items ← if isEmpty then pure [] else printed n
  let items := match items with
    | [.several inside] => inside
    | _ => items
  if formats && items.isEmpty then refuse
  match ← acceptOne [">", ">>", "|"] with
  | none => return .print formats items none
  | some sign =>
    let goal ← expression n { plain := true }
    let outlet := if sign = ">" then Outlet.file else if sign = ">>" then .fileEnd else .command
    return .print formats items (some (outlet, goal))

/-- A statement that needs no end by itself. -/
def simple (n : Nat) : Reader Stmt := do
  if ← acceptWord "print" then printing n false
  else if ← acceptWord "printf" then printing n true
  else if ← acceptWord "delete" then
    let table ← nameOf
    if ← accept "[" then return .delete table (← expressions n "]")
    else return .delete table []
  else return .expr (← expression n {})

/-- An expression, unless the statement ends before it. -/
def optional (n : Nat) : Reader (Option Expr) := do
  if endsStatement (← peek) then return none else return some (← expression n {})

/-- The table that a loop over keys walks over with the variable for them, if such a loop begins. -/
def walk? : Reader (Option (Chars × Chars)) := do
  match ((← get).lexemes.take 4).map Lexeme.token with
  | [.name v, .word "in", .name t, .sign ")"] =>
    advance
    advance
    advance
    return some (v, t)
  | _ => return none

/-- Refuses a word where it makes no sense. -/
def demand (holds : Bool) (message : String) : Reader Unit := do
  if !holds then complain message.toList

/-- Reads the body of a loop. -/
def inLoop {α : Type} (a : Reader α) : Reader α := do
  modify fun r => { r with loops := r.loops + 1 }
  let x ← a
  modify fun r => { r with loops := r.loops - 1 }
  return x

mutual

/-- A statement. -/
def statement : Nat → Reader Stmt
  | 0 => refuse
  | n + 1 => do
    match ← peek with
    | .sign "\x7b" => block n
    | .sign ";" =>
      advance
      passLines
      return .idle
    | .word "if" =>
      advance
      let c ← condition n
      passLines
      let yes ← statement n
      passLines
      if ← acceptWord "else" then
        passLines
        return .choice c yes (← statement n)
      else return .choice c yes .idle
    | .word "while" =>
      advance
      let c ← condition n
      if ← accept ";" then
        passLines
        return .loop false c .idle
      passLines
      return .loop false c (← inLoop (statement n))
    | .word "do" =>
      advance
      passLines
      let body ← inLoop (statement n)
      passLines
      if !(← acceptWord "while") then refuse
      let c ← condition n
      statementEnd
      return .loop true c body
    | .word "for" =>
      advance
      expect "("
      match ← walk? with
      | some (v, t) =>
        expect ")"
        passLines
        return .each v t (← inLoop (statement n))
      | none =>
        let start ← if (← peek).isSign ";" then pure Stmt.idle else simple n
        expect ";"
        passLines
        let c ← if (← peek).isSign ";" then pure none else pure (some (← expression n {}))
        expect ";"
        passLines
        let step ← if (← peek).isSign ")" then pure Stmt.idle else simple n
        expect ")"
        if ← accept ";" then
          passLines
          return .counted start c step .idle
        passLines
        return .counted start c step (← inLoop (statement n))
    | .word w =>
      let s ← command n w
      statementEnd
      return s
    | _ =>
      let s ← simple n
      statementEnd
      return s

/-- A statement that begins with a word and is no loop or choice. -/
def command : Nat → String → Reader Stmt
  | 0, _ => refuse
  | n + 1, w => do
    let r ← get
    match w with
    | "next" =>
      demand (r.surrounding ≠ .edge) "improper use of next"
      advance
      return .nextRecord
    | "nextfile" =>
      demand (r.surrounding ≠ .edge) "improper use of nextfile"
      advance
      return .nextFile
    | "break" =>
      demand (r.loops > 0) "break statement outside of loop"
      advance
      return .leave
    | "continue" =>
      demand (r.loops > 0) "continue statement outside of loop"
      advance
      return .again
    | "exit" =>
      advance
      return .exit (← optional n)
    | "return" =>
      demand (r.surrounding = .function) "return outside function body"
      advance
      return .answer (← optional n)
    | _ => simple n

/-- Statements in braces. -/
def block : Nat → Reader Stmt
  | 0 => refuse
  | n + 1 => do
    expect "\x7b"
    passEnds
    let all ← statements n
    passLines
    return .block all

/-- Statements up to a closing brace. -/
def statements : Nat → Reader (List Stmt)
  | 0 => refuse
  | n + 1 => do
    passLines
    if ← accept "\x7d" then return []
    let s ← statement n
    return s :: (← statements n)

end

/-! ## Scripts -/

/-- The names of the arguments of a function. -/
def parametersOf : Nat → Reader (List Chars)
  | 0 => refuse
  | n + 1 => do
    passLines
    if ← accept ")" then return []
    let v ← nameOf
    passLines
    if ← accept ")" then return [v]
    expect ","
    return v :: (← parametersOf n)

/-- A function behind its word. -/
def functionOf (n : Nat) : Reader (Chars × Function) := do
  let name ← nameOf
  expect "("
  let parameters ← parametersOf n
  passLines
  modify ({ · with surrounding := .function })
  let body ← block n
  modify ({ · with surrounding := .rule })
  return (name, { parameters, body })

/-- What pulls a rule. -/
def triggerOf (n : Nat) : Reader Trigger := do
  if ← acceptWord "BEGIN" then return .start
  if ← acceptWord "END" then return .finish
  if (← peek).isSign "\x7b" then return .always
  let first ← expression n {}
  if ← accept "," then
    passLines
    return .range first (← expression n {})
  else return .where_ first

/-- A rule. -/
def ruleOf (n : Nat) : Reader Rule := do
  let trigger ← triggerOf n
  let isEdge := match trigger with
    | .start => true
    | .finish => true
    | _ => false
  if (← peek).isSign "\x7b" then
    modify ({ · with surrounding := if isEdge then .edge else .rule })
    let body ← block n
    return { trigger, body }
  else if isEdge then refuse
  else return { trigger, body := .print false [] none }

/-- Whether a statement is in braces. -/
def isBlock : Stmt → Bool
  | .block _ => true
  | _ => false

/-- The rules and functions of a script. -/
def itemsFrom (depth : Nat) : Nat → Script → Reader Script
  | 0, _ => refuse
  | n + 1, s => do
    passEnds
    if (← peek) matches .finish then return s
    if ← acceptWord "function" then
      let f ← functionOf depth
      itemsFrom depth n { s with functions := s.functions ++ [f] }
    else
      let r ← ruleOf depth
      if !(endsStatement (← peek)) && !isBlock r.body then refuse
      itemsFrom depth n { s with rules := s.rules ++ [r] }

/-- A whole script, all functions of which are there that are called. -/
def script (depth : Nat) : Reader Script := do
  let s ← itemsFrom depth depth {}
  for f in (← get).calls.reverse do
    if (s.functions.lookup f).isNone then
      complain ("function ".toList ++ f ++ " never defined".toList)
  return s

/-- How deep the reading may go for every lexeme. -/
def depthOfLexeme : Nat := 20

/-- The script of a text, or what is wrong with it. -/
def readScript (text : Chars) : Except Chars Script :=
  let all := lexemes text
  (script (depthOfLexeme * (all.length + 4))).run' { lexemes := all }

end Shakedown.Scan

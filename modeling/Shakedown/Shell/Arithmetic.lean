import Shakedown.Shell.State
import Shakedown.Text.Numeral

/-!
# Arithmetic in words

The expressions of `$((…))`. An expression is read from its text and then evaluated in the shell,
since it may look up and assign variables. Numbers have 64 bits and wrap around.
-/

set_option autoImplicit false

namespace Shakedown.Shell

/-- An operation on two numbers. -/
inductive Operation where
  /-- Product. -/
  | times
  /-- Quotient, cut towards zero. -/
  | divide
  /-- Remainder of that quotient. -/
  | modulo
  /-- Sum. -/
  | plus
  /-- Difference. -/
  | minus
  /-- Shift to higher bits. -/
  | shiftUp
  /-- Shift to lower bits. -/
  | shiftDown
  /-- Smaller. -/
  | less
  /-- Not larger. -/
  | atMost
  /-- Larger. -/
  | greater
  /-- Not smaller. -/
  | atLeast
  /-- Equal. -/
  | equal
  /-- Not equal. -/
  | different
  /-- Common bits. -/
  | bothBits
  /-- Bits of one of them only. -/
  | differentBits
  /-- Bits of any of them. -/
  | anyBits
  deriving DecidableEq, Repr

/-- The signs of the operations, longer ones first. -/
def Operation.signs : List (String × Operation) :=
  [("<<", .shiftUp), (">>", .shiftDown), ("<=", .atMost), (">=", .atLeast), ("==", .equal),
    ("!=", .different), ("*", .times), ("/", .divide), ("%", .modulo), ("+", .plus), ("-", .minus),
    ("<", .less), (">", .greater), ("&", .bothBits), ("^", .differentBits), ("|", .anyBits)]

/-- How loosely an operation binds. -/
def Operation.looseness : Operation → Nat
  | .times => 0
  | .divide => 0
  | .modulo => 0
  | .plus => 1
  | .minus => 1
  | .shiftUp => 2
  | .shiftDown => 2
  | .less => 3
  | .atMost => 3
  | .greater => 3
  | .atLeast => 3
  | .equal => 4
  | .different => 4
  | .bothBits => 5
  | .differentBits => 6
  | .anyBits => 7

/-- How many degrees of looseness there are. -/
def Operation.degrees : Nat := 8

/-- The operations that an assignment may carry out, by their signs. -/
def Operation.assigning : List (String × Operation) :=
  [("<<=", .shiftUp), (">>=", .shiftDown), ("*=", .times), ("/=", .divide), ("%=", .modulo),
    ("+=", .plus), ("-=", .minus), ("&=", .bothBits), ("^=", .differentBits), ("|=", .anyBits)]

/-- An expression. -/
inductive Expression where
  /-- A number. -/
  | number (value : Int64)
  /-- The value of a variable. -/
  | variable (name : Chars)
  /-- The negative. -/
  | negative (a : Expression)
  /-- All bits inverted. -/
  | inverted (a : Expression)
  /-- Whether it is zero. -/
  | isZero (a : Expression)
  /-- An operation. -/
  | binary (o : Operation) (a b : Expression)
  /-- Whether both are not zero. -/
  | both (a b : Expression)
  /-- Whether one of them is not zero. -/
  | either (a b : Expression)
  /-- One of two, by a condition. -/
  | choice (condition a b : Expression)
  /-- An assignment, perhaps of what an operation makes of the old value. -/
  | assignment (name : Chars) (o : Option Operation) (a : Expression)

/-! ## Lexemes -/

/-- A part of the text of an expression. -/
inductive Lexeme where
  /-- A number. -/
  | number (value : Int64)
  /-- A name. -/
  | name (text : Chars)
  /-- An operation. -/
  | operation (o : Operation)
  /-- An assignment. -/
  | assign (o : Option Operation)
  /-- Any other sign. -/
  | sign (text : String)
  /-- Something that has no place in an expression. -/
  | bad
  deriving DecidableEq

/-- A number that is cut to the largest one. -/
def capped (n : Nat) : Int64 :=
  .ofNat (min n Numeral.largest)

/-- The lexeme at the beginning of a text that has a sign there, and the rest. -/
def leadingSign (s : Chars) : Lexeme × Chars :=
  let starts {α : Type} (table : List (String × α)) : Option (String × α) :=
    table.find? fun (sign, _) => sign.toList.isPrefixOf s
  match starts Operation.assigning with
  | some (sign, o) => (.assign (some o), s.drop sign.length)
  | none =>
    match ["&&", "||"].find? fun sign => sign.toList.isPrefixOf s with
    | some sign => (.sign sign, s.drop 2)
    | none =>
      match starts Operation.signs with
      | some (sign, o) => (.operation o, s.drop sign.length)
      | none =>
        match s with
        | '=' :: more => (.assign none, more)
        | c :: more =>
          if ['(', ')', '?', ':', '!', '~'].contains c then (.sign (String.ofList [c]), more)
          else (.bad, more)
        | [] => (.bad, [])

/-- The lexemes of a text, so many at most. -/
def lexemes : Nat → Chars → List Lexeme
  | 0, _ => []
  | n + 1, s =>
    match s with
    | [] => []
    | c :: more =>
      if c = ' ' || c = '\t' || c = '\n' then lexemes n more
      else if c.isDigit then
        let (value, rest) := Numeral.leadingNumber s
        .number (capped value) :: lexemes n rest
      else if isNameStart c then
        .name (s.takeWhile isNameChar) :: lexemes n (s.dropWhile isNameChar)
      else
        let (l, rest) := leadingSign s
        l :: lexemes n rest

/-! ## Reading expressions -/

/-- A reader of expressions. -/
abbrev ExpressionReader := StateT (List Lexeme) (Except String)

/-- Passes the next lexeme if it is a given one. -/
def passLexeme (l : Lexeme) : ExpressionReader Bool := do
  match ← get with
  | m :: more =>
    if l = m then
      set more
      return true
    else return false
  | [] => return false

/-- Reads an expression that operations are applied to. -/
def readPrimary (whole : ExpressionReader Expression) : Nat → ExpressionReader Expression
  | 0 => throw "expecting primary"
  | n + 1 => do
    match ← get with
    | .number value :: more =>
      set more
      return .number value
    | .name text :: more =>
      set more
      return .variable text
    | .operation .plus :: more =>
      set more
      readPrimary whole n
    | .operation .minus :: more =>
      set more
      return .negative (← readPrimary whole n)
    | .sign "!" :: more =>
      set more
      return .isZero (← readPrimary whole n)
    | .sign "~" :: more =>
      set more
      return .inverted (← readPrimary whole n)
    | .sign "(" :: more =>
      set more
      let e ← whole
      if ← passLexeme (.sign ")") then return e else throw "expecting ')'"
    | _ => throw "expecting primary"

/-- Reads the operations of a degree of looseness behind an expression. -/
def readOperations (degree : Nat) (tighter : ExpressionReader Expression) :
    Nat → Expression → ExpressionReader Expression
  | 0, a => return a
  | n + 1, a => do
    match ← get with
    | .operation o :: more =>
      if o.looseness = degree then
        set more
        readOperations degree tighter n (.binary o a (← tighter))
      else return a
    | _ => return a

/-- Reads an expression of operations, below a degree of looseness. -/
def readBinary (whole : ExpressionReader Expression) (limit : Nat) :
    Nat → ExpressionReader Expression
  | 0 => readPrimary whole limit
  | degree + 1 => do
    let a ← readBinary whole limit degree
    readOperations degree (readBinary whole limit degree) limit a

/-- Reads an expression of conditions. -/
def readConditions (whole : ExpressionReader Expression) (limit : Nat) (sign : String)
    (join : Expression → Expression → Expression) (tighter : ExpressionReader Expression) :
    Nat → ExpressionReader Expression
  | 0 => tighter
  | n + 1 => do
    let a ← tighter
    if ← passLexeme (.sign sign) then
      return join a (← readConditions whole limit sign join tighter n)
    else return a

/-- Reads an expression that may choose between others. -/
def readChoice (whole : ExpressionReader Expression) (limit : Nat) :
    Nat → ExpressionReader Expression
  | 0 => throw "expecting primary"
  | n + 1 => do
    let operations := readBinary whole limit Operation.degrees
    let conjunction := readConditions whole limit "&&" .both operations limit
    let a ← readConditions whole limit "||" .either conjunction limit
    if ← passLexeme (.sign "?") then
      let b ← whole
      if ← passLexeme (.sign ":") then return .choice a b (← readChoice whole limit n)
      else throw "expecting ':'"
    else return a

/-- Reads an expression, so deep at most. -/
def readExpression (limit : Nat) : Nat → ExpressionReader Expression
  | 0 => throw "expecting primary"
  | n + 1 => do
    match ← get with
    | .name text :: .assign o :: more =>
      set more
      return .assignment text o (← readExpression limit n)
    | _ => readChoice (readExpression limit n) limit limit

/-- The expression of a text. -/
def expressionOf (text : Chars) : Except String Expression :=
  let parts := lexemes (text.length + 1) text
  let limit := parts.length + 1
  match readExpression limit limit parts with
  | .error e => .error e
  | .ok (e, []) => .ok e
  | .ok _ => .error "expecting EOF"

/-! ## Evaluation -/

/-- A truth value as a number. -/
def truth (b : Bool) : Int64 :=
  if b then 1 else 0

/-- The value of an operation that has no exceptions. -/
def Operation.apply (o : Operation) (a b : Int64) : Int64 :=
  match o with
  | .times => a * b
  | .divide => a / b
  | .modulo => a % b
  | .plus => a + b
  | .minus => a - b
  | .shiftUp => a <<< b
  | .shiftDown => a >>> b
  | .less => truth (a < b)
  | .atMost => truth (a ≤ b)
  | .greater => truth (b < a)
  | .atLeast => truth (b ≤ a)
  | .equal => truth (a = b)
  | .different => truth (a ≠ b)
  | .bothBits => a &&& b
  | .differentBits => a ^^^ b
  | .anyBits => a ||| b

/-- The signal that ends a process after an impossible division. -/
def arithmeticSignal : Nat := 8

/-- An integer that is cut to 64 bits. -/
def clamped (i : Int) : Int64 :=
  .ofInt (Numeral.cut i)

/-- The number that the value of a variable stands for. -/
def variableNumber (name : Chars) : Sh Int64 := do
  let value := ((← get).get? name).getD []
  if value.all Chars.isSpace then return 0
  else match Numeral.integerIn? 0 value with
    | some i => return clamped i
    | none => Sh.fail ("Illegal number: ".toList ++ value)

/-- Complains about an expression. -/
def failIn {α : Type} (text : Chars) (reason : String) : Sh α :=
  Sh.fail ("arithmetic expression: ".toList ++ reason.toList ++ ": \"".toList ++ text ++ ['"'])

/-- The value of an operation in the expression of a text. -/
def applyOperation (text : Chars) (o : Operation) (a b : Int64) : Sh Int64 := do
  if o = .divide || o = .modulo then
    if b = 0 then failIn text "division by zero"
    else if b = -1 && a = Int64.minValue then throw (.ended (.killed arithmeticSignal))
    else return o.apply a b
  else return o.apply a b

/-- The value of an expression of a text. -/
def evaluate (text : Chars) : Expression → Sh Int64
  | .number value => return value
  | .variable name => variableNumber name
  | .negative a => do return -(← evaluate text a)
  | .inverted a => do return ~~~(← evaluate text a)
  | .isZero a => do return truth ((← evaluate text a) = 0)
  | .binary o a b => do
    let x ← evaluate text a
    let y ← evaluate text b
    applyOperation text o x y
  | .both a b => do
    if (← evaluate text a) = 0 then return 0 else return truth ((← evaluate text b) ≠ 0)
  | .either a b => do
    if (← evaluate text a) ≠ 0 then return 1 else return truth ((← evaluate text b) ≠ 0)
  | .choice condition a b => do
    if (← evaluate text condition) ≠ 0 then evaluate text a else evaluate text b
  | .assignment name o a => do
    let x ← evaluate text a
    let value ← match o with
      | none => pure x
      | some o => do
        let old ← variableNumber name
        applyOperation text o old x
    Sh.assign name (Chars.ofInt value.toInt)
    return value

/-- The value of the expression of a text. -/
def arithmeticValue (text : Chars) : Sh Int64 := do
  match expressionOf text with
  | .error reason => failIn text reason
  | .ok e => evaluate text e

end Shakedown.Shell

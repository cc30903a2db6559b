import Shakedown.Scan.Value

/-!
# Tokens of scanning scripts

The text of a script becomes tokens, each with the line it stands on. A slash begins a regular
expression where no operand stands before it. What cannot be a token ends the tokens with a mistake,
which is told when the reader of the script gets there.
-/

set_option autoImplicit false

namespace Shakedown.Scan

/-- A token. -/
inductive Token where
  /-- A number. -/
  | number (x : Float)
  /-- A text. -/
  | text (s : Chars)
  /-- A regular expression. -/
  | regex (s : Chars)
  /-- The name of a variable. -/
  | name (s : Chars)
  /-- The name of a function, right before a parenthesis. -/
  | call (s : Chars)
  /-- The name of a function that is always there. -/
  | builtin (s : String)
  /-- A word of the language. -/
  | word (s : String)
  /-- A sign. -/
  | sign (s : String)
  /-- The end of a line. -/
  | newline
  /-- The end of the script. -/
  | finish
  /-- Something that is no token. -/
  | mistake (message : Chars)
  deriving Inhabited

/-- A token at its place. -/
structure Lexeme where
  /-- The token. -/
  token : Token
  /-- The line. -/
  line : Nat
  deriving Inhabited

/-- What is said about a mistake on a line. -/
def mistakeOn (line : Nat) (message : Chars) : Chars :=
  "line ".toList ++ Chars.ofNat line ++ ": ".toList ++ message

namespace Token

/-- Whether a token is a certain sign. -/
def isSign (s : String) : Token → Bool
  | .sign t => s = t
  | _ => false

/-- Whether a token is a certain word. -/
def isWord (s : String) : Token → Bool
  | .word t => s = t
  | _ => false

/-- The signs behind which an operator stands. -/
def operandSigns : List String := [")", "]", "$", "++", "--"]

/-- Whether an operand may end with a token. -/
def endsOperand : Token → Bool
  | .number _ => true
  | .text _ => true
  | .regex _ => true
  | .name _ => true
  | .builtin _ => true
  | .sign s => operandSigns.contains s
  | _ => false

/-- A token as mistakes show it. -/
def shown : Token → Chars
  | .number x => numberText "%.6g".toList x
  | .text s => s
  | .regex s => '/' :: s ++ ['/']
  | .name s => s
  | .call s => s
  | .builtin s => s.toList
  | .word s => s.toList
  | .sign s => s.toList
  | .newline => "end of line".toList
  | .finish => "end of file".toList
  | .mistake message => message

end Token

/-! ## Words and signs -/

/-- The words of the language. -/
def words : List String :=
  ["BEGIN", "END", "function", "func", "if", "else", "while", "for", "do", "break", "continue",
    "next", "nextfile", "exit", "return", "delete", "in", "getline", "print", "printf"]

/-- The functions that are always there. -/
def builtins : List String :=
  ["length", "index", "substr", "split", "sub", "gsub", "match", "sprintf", "sin", "cos", "atan2",
    "exp", "log", "sqrt", "int", "rand", "srand", "close", "fflush", "system", "tolower", "toupper"]

/-- The signs, long ones before those that they begin with. -/
def signs : List String :=
  ["+=", "-=", "*=", "/=", "%=", "^=", "++", "--", "==", "!=", "<=", ">=", ">>", "&&", "||", "!~",
    "\x7b", "\x7d", "(", ")", "[", "]", ";", ",", "+", "-", "*", "/", "%", "^", "!", "<", ">", "|",
    "?", ":", "~", "$", "="]

/-- Whether a name may begin with a character. -/
def beginsName (c : Char) : Bool :=
  c.isAlpha || c = '_'

/-- Whether a name may go on with a character. -/
def isNameChar (c : Char) : Bool :=
  c.isAlphanum || c = '_'

/-- Whether a text is a name. -/
def isName (s : Chars) : Bool :=
  s.head?.any beginsName && s.all isNameChar

/-- The token of a name, given what stands behind it. -/
def nameToken (s rest : Chars) : Token :=
  let name := String.ofList s
  if name = "func" then .word "function"
  else if words.contains name then .word name
  else if builtins.contains name then .builtin name
  else if rest.head? = some '(' then .call s
  else .name s

/-! ## Quoted parts -/

/-- The letters behind a backslash, and what they stand for. -/
def escapeLetters : List (Char × Char) :=
  [('"', '"'), ('\\', '\\'), ('a', '\x07'), ('b', '\x08'), ('f', '\x0c'), ('n', '\n'),
    ('r', '\r'), ('t', '\t'), ('v', '\x0b')]

/-- The value of a digit of a base, if it is one. -/
def digit? (base : Nat) (c : Char) : Option Nat :=
  let c := c.toLower
  let value := if c.isDigit then c.toNat - '0'.toNat else c.toNat - 'a'.toNat + 10
  if (c.isDigit || ('a' ≤ c && c ≤ 'f')) && value < base then some value else none

/-- The character that the digits at the beginning of a text are the number of, so many digits at
most, and how many there are. -/
def numbered (base most : Nat) (s : Chars) : Char × Nat :=
  let digits := (s.take most).takeWhile fun c => (digit? base c).isSome
  (Char.ofNat ((Numeral.numberOf base digits) % 256), digits.length)

/-- A text with escapes replaced by what they stand for; other backslashes stay. -/
def unescaped : Nat → Chars → Chars
  | 0, _ => []
  | _ + 1, [] => []
  | n + 1, '\\' :: c :: more =>
    match escapeLetters.lookup c with
    | some d => d :: unescaped n more
    | none =>
      if c = '\n' then unescaped n more
      else if (digit? 8 c).isSome then
        let (d, length) := numbered 8 3 (c :: more)
        d :: unescaped n ((c :: more).drop length)
      else if c = 'x' && more.head?.any fun d => (digit? 16 d).isSome then
        let (d, length) := numbered 16 2 more
        d :: unescaped n (more.drop length)
      else '\\' :: c :: unescaped n more
  | n + 1, c :: more => c :: unescaped n more

/-- The value of a text in which escapes stand. -/
def unescape (s : Chars) : Chars :=
  unescaped (s.length + 1) s

/-- The text up to the quotation mark that ends it, and the rest. -/
def untilQuote : Chars → Option (Chars × Chars)
  | [] => none
  | '"' :: more => some ([], more)
  | '\\' :: c :: more => (untilQuote more).map fun (found, rest) => ('\\' :: c :: found, rest)
  | c :: more =>
    if c = '\n' then none else (untilQuote more).map fun (found, rest) => (c :: found, rest)

/-- A regular expression up to the slash that ends it, and the rest. A slash in brackets does not
end it, `depth` tells how far inside of them a character stands: nowhere, at their beginning, or
further on. -/
def untilSlash : Nat → Chars → Option (Chars × Chars)
  | _, [] => none
  | depth, '\\' :: c :: more =>
    let next := if depth = 0 then 0 else 2
    (untilSlash next more).map fun (found, rest) =>
      (if c = '/' then c :: found else '\\' :: c :: found, rest)
  | depth, c :: more =>
    if c = '\n' then none
    else if c = '/' && depth = 0 then some ([], more)
    else
      let next :=
        if depth = 0 then (if c = '[' then 1 else 0)
        else if c = ']' && depth ≠ 1 then 0
        else if c = '^' && depth = 1 then 1
        else 2
      (untilSlash next more).map fun (found, rest) => (c :: found, rest)

/-- How much of a text without end a mistake shows. -/
def runawayLength : Nat := 10

/-- What is said about a text without end. -/
def runaway (line : Nat) (kind : String) (s : Chars) : Token :=
  .mistake (mistakeOn line ("runaway ".toList ++ kind.toList ++ ' ' ::
    ((s.takeWhile (· ≠ '\n')).take runawayLength ++ " ...".toList)))

/-! ## Tokens -/

/-- The number at the beginning of a text, and the rest. -/
def readNumber (s : Chars) : Token × Chars :=
  match Numeral.leadingReading? s with
  | some (r, rest) => (.number (ofReading r), rest)
  | none => (.number 0.0, s.tail)

/-- Whether a number begins here. -/
def beginsNumber (s : Chars) : Bool :=
  match s with
  | c :: more => c.isDigit || (c = '.' && more.head?.any Char.isDigit)
  | [] => false

/-- The sign at the beginning of a text, and the rest. -/
def readSign? (s : Chars) : Option (Token × Chars) :=
  (signs.find? fun sign => sign.toList.isPrefixOf s).map fun sign =>
    (.sign sign, s.drop sign.length)

/-- The token at the beginning of a text, and the rest. -/
def readToken (line : Nat) (operandBefore : Bool) (s : Chars) : Token × Chars :=
  match s with
  | [] => (.finish, [])
  | '"' :: more =>
    match untilQuote more with
    | some (found, rest) => (.text (unescape found), rest)
    | none => (runaway line "string constant" s, [])
  | c :: more =>
    if c = '/' && !operandBefore then
      match untilSlash 0 more with
      | some (found, rest) => (.regex found, rest)
      | none => (runaway line "regular expression" s, [])
    else if beginsName c then
      let name := s.takeWhile isNameChar
      let rest := s.drop name.length
      (nameToken name rest, rest)
    else if beginsNumber s then readNumber s
    else match readSign? s with
      | some found => found
      | none =>
        (.mistake (Chars.ofNat line ++ ": unexpected character '".toList ++ [c, '\'']), [])

/-- The lexemes of a text, of which so many characters are looked at at most. -/
def lexemesOf : Nat → Nat → Bool → Chars → List Lexeme
  | 0, line, _, _ => [{ token := .finish, line }]
  | _ + 1, line, _, [] => [{ token := .finish, line }]
  | n + 1, line, operandBefore, c :: more =>
    if c = ' ' || c = '\t' || c = '\r' || c = '\x0c' then lexemesOf n line operandBefore more
    else if c = '#' then lexemesOf n line operandBefore (more.dropWhile (· ≠ '\n'))
    else if c = '\\' && more.head? = some '\n' then lexemesOf n (line + 1) operandBefore more.tail
    else if c = '\n' then { token := .newline, line } :: lexemesOf n (line + 1) false more
    else
      let (token, rest) := readToken line operandBefore (c :: more)
      let lines := ((c :: more).take (1 + more.length - rest.length)).count '\n'
      { token, line } :: match token with
        | .mistake _ => []
        | _ => lexemesOf n (line + lines) token.endsOperand rest

/-- The lexemes of a script. -/
def lexemes (s : Chars) : List Lexeme :=
  let s := if s.getLast? = some '\n' then s else s ++ ['\n']
  lexemesOf (s.length + 1) 1 false s

end Shakedown.Scan

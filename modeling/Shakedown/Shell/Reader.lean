import Shakedown.Shell.Syntax

/-!
# Reading the text of a script

The state of a reader of scripts: what is left of the text, the token that was read last, and the
here-documents that are still to come. `Parser` is the type of what reads a part of a script, or
finds a mistake in it.

The text of an alias is put in front of what is left. An alias is not expanded inside its own text,
so the reader notes for every one how much is left when its text is used up.
-/

set_option autoImplicit false

namespace Shakedown.Shell

/-- A token of a script. -/
inductive Token where
  /-- The end of the text. -/
  | eof
  /-- The end of a line. -/
  | newline
  /-- One of the signs between commands. -/
  | sign (text : String)
  /-- A word with a meaning of its own. -/
  | keyword (text : String)
  /-- Any other word. -/
  | word
  /-- A redirection. -/
  | redirection
  deriving DecidableEq, Repr

/-- How a token is called in a complaint. -/
def Token.description : Token → String
  | .eof => "end of file"
  | .newline => "newline"
  | .sign text => "\"" ++ text ++ "\""
  | .keyword text => "\"" ++ text ++ "\""
  | .word => "word"
  | .redirection => "redirection"

/-- The words with a meaning of their own. -/
def keywords : List String :=
  ["!", "case", "do", "done", "elif", "else", "esac", "fi", "for", "if", "in", "then", "until",
    "while", "\x7b", "\x7d"]

/-- Whether a token ends a list of commands. -/
def Token.endsList : Token → Bool
  | .eof => true
  | .sign text => [")", ";;"].contains text
  | .keyword text => ["do", "done", "elif", "else", "esac", "fi", "then", "\x7d"].contains text
  | _ => false

/-- A mistake in a script. -/
structure SyntaxError where
  /-- The line in which it was found. -/
  line : Nat
  /-- What is wrong. -/
  message : Chars

/-- A here-document that is still to come. -/
structure AwaitedDocument where
  /-- Its number. -/
  number : Nat
  /-- The line that ends it. -/
  ending : Chars
  /-- Whether it is taken as it stands. -/
  verbatim : Bool
  /-- Whether tabs at the beginning of its lines are left out. -/
  withoutTabs : Bool

/-- An alias whose text is being read. -/
structure OpenAlias where
  /-- Its name. -/
  name : Chars
  /-- How much is left to read when its text is used up. -/
  mark : Nat
  /-- Whether its text ends with a blank, so that the word behind it may be an alias, too. -/
  endsInBlank : Bool

/-- Where the reader stands. -/
structure Reader where
  /-- What is left to read. -/
  rest : Chars
  /-- The number of characters left. -/
  left : Nat
  /-- The number of the line. -/
  line : Nat
  /-- The token that was read last. -/
  token : Token := .newline
  /-- Whether that token is to be read once more. -/
  again : Bool := false
  /-- The text of the last word. -/
  word : List Piece := []
  /-- Whether something in the last word is quoted. -/
  quoted : Bool := false
  /-- The last redirection. -/
  redirection : Redirection (List Piece) := ⟨0, .read, []⟩
  /-- Whether the last here-document goes without tabs. -/
  withoutTabs : Bool := false
  /-- The here-documents to come. -/
  awaited : List AwaitedDocument := []
  /-- The here-documents, by their numbers. -/
  documents : List (Nat × List Piece) := []
  /-- The number of the next here-document. -/
  nextDocument : Nat := 0
  /-- The aliases. -/
  aliases : List (Chars × Chars) := []
  /-- The aliases whose texts are being read. -/
  openAliases : List OpenAlias := []

/-- A parser of some part of a script. -/
abbrev Parser := StateT Reader (Except SyntaxError)

/-- Reports a mistake. -/
def mistake {α : Type} (message : Chars) : Parser α := do
  throw ⟨(← get).line, message⟩

/-- The next character as it stands. -/
def peekRaw : Parser (Option Char) := do
  return (← get).rest.head?

/-- Passes one character as it stands. -/
def advance : Parser Unit :=
  modify fun r =>
    match r.rest with
    | [] => r
    | c :: more =>
      { r with rest := more, left := r.left - 1, line := if c = '\n' then r.line + 1 else r.line }

/-- The text without the continued line ends at its beginning, and how many there were. -/
def continued : Chars → Chars × Nat
  | '\\' :: '\n' :: more =>
    let (rest, count) := continued more
    (rest, count + 1)
  | s => (s, 0)

/-- Passes continued line ends. -/
def joinLines : Parser Unit :=
  modify fun r =>
    let (rest, count) := continued r.rest
    if count = 0 then r else { r with rest, left := r.left - 2 * count, line := r.line + count }

/-- The next character behind continued line ends. -/
def peek : Parser (Option Char) := do
  joinLines
  peekRaw

/-- Passes the next character if it is a given one. -/
def accept (c : Char) : Parser Bool := do
  if (← peek) = some c then
    advance
    return true
  else return false

/-- Passes characters with a property, so many at most. -/
def takeRun (holds : Char → Bool) : Nat → Parser Chars
  | 0 => return []
  | n + 1 => do
    match ← peek with
    | some c =>
      if holds c then
        advance
        return c :: (← takeRun holds n)
      else return []
    | none => return []

/-- Reads a token once more. -/
def readAgain : Parser Unit :=
  modify ({ · with again := true })

/-- Notes the token that was read. -/
def found (token : Token) : Parser Token := do
  modify ({ · with token, again := false })
  return token

/-- A token that has no place where it stands, and the one that was expected there. -/
def unexpected {α : Type} (expected : Option Token) : Parser α := do
  let message := (← get).token.description ++ " unexpected"
  mistake (match expected with
    | none => message
    | some t => message ++ " (expecting " ++ t.description ++ ")").toList

end Shakedown.Shell

import Shakedown.Toml.Text
import Shakedown.Toml.Tree
import Shakedown.Toml.Value

/-!
# TOML statements

A document is a sequence of statements, one a line: a key with its value, a header, or a double
header. Values nest at most `nestingLimit` deep and keys have at most as many parts.
-/

set_option autoImplicit false

namespace Shakedown.Toml

/-- The deepest nesting of lists and tables within a value, and the most parts of a key. -/
def nestingLimit : Nat := 79

/-- A reader of the front of a text. -/
abbrev Scanner (α : Type) := List Char → Reading α

/-! ## White space and comments -/

/-- The text behind spaces and tabs. -/
def skipGaps (s : List Char) : List Char :=
  s.dropWhile isGap

/-- The text behind white space, newlines and comments. -/
def skipLines (inComment : Bool) : List Char → List Char
  | [] => []
  | c :: rest =>
    if inComment && isPlain c then skipLines true rest
    else if isGap c || c = '\n' then skipLines false rest
    else if c = '#' then skipLines true rest
    else if c = '\r' && rest.head? = some '\n' then skipLines false rest
    else c :: rest

/-- The text behind the end of a line, which a comment may precede. -/
def lineEnd (s : List Char) : Option (List Char) :=
  let s := skipGaps s
  let s := if s.head? = some '#' then s.dropWhile isPlain else s
  match s with
  | [] => some []
  | '\n' :: rest => some rest
  | '\r' :: '\n' :: rest => some rest
  | _ => none

/-! ## Keys -/

/-- Whether a character can be part of a key without quotes. -/
def isKeyChar (c : Char) : Bool :=
  c.isAlphanum || c = '_' || c = '-'

/-- A key without dots. -/
def simpleKey : Scanner String
  | '"' :: rest => (basicText rest).map fun (k, rest) => (String.ofList k, rest)
  | '\'' :: rest => (literalText rest).map fun (k, rest) => (String.ofList k, rest)
  | s =>
    match s.takeWhile isKeyChar with
    | [] => none
    | k => some (String.ofList k, s.dropWhile isKeyChar)

/-- A key of at most so many parts, with the white space around it. -/
def dottedKey : Nat → Scanner (List String)
  | 0, _ => none
  | parts + 1, s =>
    match simpleKey (skipGaps s) with
    | none => none
    | some (k, rest) =>
      match skipGaps rest with
      | '.' :: rest =>
        match dottedKey parts rest with
        | none => none
        | some (ks, rest) => some (k :: ks, rest)
      | rest => some ([k], rest)

/-- A key with its value. -/
def pair (value : Scanner Value) : Scanner (List String × Value) :=
  fun s =>
    match dottedKey nestingLimit s with
    | some (key, '=' :: rest) =>
      match value (skipGaps rest) with
      | none => none
      | some (v, rest) => some ((key, v), rest)
    | _ => none

/-! ## Values -/

/-- The items of a list, at most so many, behind its opening bracket. -/
def listItems (value : Scanner Value) : Nat → Scanner (List Value)
  | 0, _ => none
  | more + 1, s =>
    match skipLines false s with
    | ']' :: rest => some ([], rest)
    | s =>
      match value s with
      | none => none
      | some (v, rest) =>
        match skipLines false rest with
        | ']' :: rest => some ([v], rest)
        | ',' :: rest =>
          match listItems value more rest with
          | none => none
          | some (vs, rest) => some (v :: vs, rest)
        | _ => none

/-- The pairs of a table on one line, at most so many, behind a comma or its opening brace. -/
def tablePairs (value : Scanner Value) : Nat → Scanner (List (List String × Value))
  | 0, _ => none
  | more + 1, s =>
    match pair value s with
    | none => none
    | some (p, rest) =>
      match skipGaps rest with
      | '}' :: rest => some ([p], rest)
      | ',' :: rest =>
        match tablePairs value more rest with
        | none => none
        | some (ps, rest) => some (p :: ps, rest)
      | _ => none

/-- A table on one line behind its opening brace. -/
def inlineTable (value : Scanner Value) : Scanner Value :=
  fun s =>
    match skipGaps s with
    | '}' :: rest => some (.table [], rest)
    | s =>
      match tablePairs value s.length s with
      | none => none
      | some (ps, rest) => (tableOfPairs [] ps).map fun fields => (.table fields, rest)

/-- A value without items or fields. -/
def flatValue (s : List Char) : Reading Value :=
  if s.head? = some '"' ∨ s.head? = some '\'' then
    (quotedText s).map fun (t, rest) => (.text (String.ofList t), rest)
  else
    let (word, rest) := takeWord s
    (scalar? word).map fun v => (v, rest)

/-- A value that nests at most so deep. -/
def value : Nat → Scanner Value
  | 0, s => flatValue s
  | depth + 1, s =>
    match s with
    | '[' :: rest =>
      (listItems (value depth) s.length rest).map fun (vs, rest) => (.list vs, rest)
    | '{' :: rest => inlineTable (value depth) rest
    | s => flatValue s

/-! ## Statements -/

/-- One line of a document. -/
inductive Statement where
  /-- `key = value` -/
  | assign (key : List String) (v : Value)
  /-- `[key]` -/
  | header (key : List String)
  /-- `[[key]]` -/
  | element (key : List String)

/-- A statement at the front of a text. -/
def statement (s : List Char) : Reading Statement :=
  match s with
  | '[' :: '[' :: rest =>
    match dottedKey nestingLimit rest with
    | some (key, ']' :: ']' :: rest) => some (.element key, rest)
    | _ => none
  | '[' :: rest =>
    match dottedKey nestingLimit rest with
    | some (key, ']' :: rest) => some (.header key, rest)
    | _ => none
  | s => (pair (value nestingLimit) s).map fun ((key, v), rest) => (.assign key v, rest)

/-- Whether a line holds no statement. -/
def isIdle (s : List Char) : Bool :=
  match s with
  | [] => true
  | c :: _ => c = '#' || c = '\n' || c = '\r'

/-- The statements of a text of at most so many lines. -/
def statements : Nat → List Char → Option (List Statement)
  | 0, _ => none
  | lines + 1, s =>
    match skipGaps s with
    | [] => some []
    | s =>
      if isIdle s then
        match lineEnd s with
        | none => none
        | some rest => statements lines rest
      else
        match statement s with
        | none => none
        | some (first, rest) =>
          match lineEnd rest with
          | none => none
          | some rest =>
            match statements lines rest with
            | none => none
            | some more => some (first :: more)

end Shakedown.Toml

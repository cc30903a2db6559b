import Shakedown.Shell.Reader

/-!
# Reading words

A word goes on until something that is not quoted ends it. `readPieces` reads text up to its end,
which depends on the place: quotes, braces, the parentheses of an expression, a here-document.
Commands inside of words are read by whoever calls.
-/

set_option autoImplicit false

namespace Shakedown.Shell

/-- How commands inside words are read. -/
structure CommandReader where
  /-- Reads commands up to a closing parenthesis, which is passed. -/
  parenthesized : Parser Command
  /-- Reads the commands at the beginning of the text; what follows them has no meaning. -/
  whole : Parser Command

/-- What ends the text at some place. -/
inductive Closer where
  /-- A character that separates words. -/
  | gap
  /-- A quotation mark. -/
  | quotes
  /-- A closing brace. -/
  | brace
  /-- Two closing parentheses, behind so many others. -/
  | parentheses (level : Nat)
  /-- The end of the text. -/
  | ending
  deriving DecidableEq, Repr

/-- A place in a word. -/
structure Place where
  /-- What ends the text here. -/
  closer : Closer
  /-- Whether the text is quoted. -/
  inQuotes : Bool
  /-- Whether the text is inside braces. -/
  inBraces : Bool := false

/-- Whether a character separates words on a line. -/
def isGap (c : Char) : Bool :=
  c = ' ' || c = '\t'

/-- Whether a character ends a word that is not quoted. -/
def isMeta (c : Char) : Bool :=
  isGap c || c = '\n' || c = ';' || c = '&' || c = '|' || c = '<' || c = '>' || c = '(' || c = ')'

/-- A backquote. -/
def backquote : Char := '\x60'

namespace Place

/-- A character as it stands at a place. -/
def piece (place : Place) (c : Char) : Piece :=
  if place.inQuotes then .quoted c else .plain c

/-- Whether a backslash at a place keeps a character from its meaning, and is gone itself. -/
def escapes (place : Place) (c : Char) : Bool :=
  !place.inQuotes || c = '\\' || c = backquote || c = '$'
    || (c = '"' && (place.closer ≠ .ending || place.inBraces)) || (c = '\x7d' && place.inBraces)

/-- Whether a quotation mark opens quotes at a place. -/
def opensQuotes (place : Place) : Bool :=
  match place.closer with
  | .gap => true
  | .brace => true
  | _ => false

/-- The place inside quotes. -/
def quotes (place : Place) : Place :=
  { closer := .quotes, inQuotes := true, inBraces := place.inBraces }

/-- The place of a word in braces. The word of a trimming rule is not quoted. -/
def braces (inQuotes : Bool) (rule : Rule) : Place :=
  match rule with
  | .trimmed .. => { closer := .brace, inQuotes := false, inBraces := true }
  | _ => { closer := .brace, inQuotes, inBraces := true }

end Place

/-- A step on the way through a text. -/
inductive Step where
  /-- The text is over. -/
  | done
  /-- Some pieces, and the place behind them. -/
  | more (pieces : List Piece) (place : Place)

/-- Complains about a text that is not ended. -/
def readEnd (place : Place) : Parser Step :=
  match place.closer with
  | .gap => return .done
  | .ending => return .done
  | .quotes => mistake "Unterminated quoted string".toList
  | .parentheses _ => mistake "Missing '))'".toList
  | .brace =>
    if place.inQuotes then mistake "Unterminated quoted string".toList
    else mistake "Missing '\x7d'".toList

/-- Text up to an apostrophe, which is passed. -/
def readApostrophes : Nat → Parser (List Piece)
  | 0 => return []
  | n + 1 => do
    match ← peekRaw with
    | none => mistake "Unterminated quoted string".toList
    | some c =>
      advance
      if c = '\'' then return [.mark] else return .quoted c :: (← readApostrophes n)

/-- A character behind a backslash. -/
def readEscaped (place : Place) : Parser (List Piece) := do
  match ← peekRaw with
  | none => return [.quoted '\\']
  | some c =>
    advance
    return if place.escapes c then [.quoted c] else [.quoted '\\', .quoted c]

/-! ## Parameters -/

/-- The rule of a parameter with a word, by its sign. -/
def ruleOfSign (c : Char) : Option Rule :=
  if c = '\x7d' then some .value
  else if c = '-' then some .byDefault
  else if c = '+' then some .ifPresent
  else if c = '?' then some .demanding
  else if c = '=' then some .assigning
  else none

/-- Reads the rule behind the name of a parameter in braces, and whether an empty value counts as
missing. -/
def readRule : Parser (Rule × Bool) := do
  match ← peek with
  | none => return (.malformed, false)
  | some ':' =>
    advance
    match ← peek with
    | none => return (.malformed, true)
    | some c =>
      advance
      return ((ruleOfSign c).getD .malformed, true)
  | some c =>
    advance
    if c = '%' then return (.trimmed true (← accept '%'), false)
    else if c = '#' then return (.trimmed false (← accept '#'), false)
    else return ((ruleOfSign c).getD .malformed, false)

/-- Reads the name of a parameter in braces, if it is a variable or the number of an argument. -/
def readName (limit : Nat) : Parser (Option Chars) := do
  match ← peek with
  | some c =>
    if isNameStart c then return some (← takeRun isNameChar limit)
    else if c.isDigit then return some (← takeRun Char.isDigit limit)
    else return none
  | none => return none

/-- Reads the rest of a parameter in braces, whose length is asked for. -/
def readLength (name : Chars) : Parser (Chars × Rule × Bool) := do
  return (name, if (← peek) = some '\x7d' then .length else .malformed, false)

/-- Reads what stands behind a number sign at the beginning of braces. -/
def readNumberSign (limit : Nat) : Parser (Chars × Rule × Bool) := do
  match ← readName limit with
  | some name => readLength name
  | none =>
    let ahead := (← get).rest
    match ahead with
    | c :: '\x7d' :: _ =>
      if c = '\x7d' then
        advance
        return (['#'], .value, false)
      else
        advance
        return ([c], if isSpecialParameter c then .length else .malformed, false)
    | _ =>
      let (rule, nonEmpty) ← readRule
      return (['#'], rule, nonEmpty)

/-- Reads the name and the rule of a parameter in braces. -/
def readBraces (limit : Nat) : Parser (Chars × Rule × Bool) := do
  match ← readName limit with
  | some name =>
    let (rule, nonEmpty) ← readRule
    return (name, rule, nonEmpty)
  | none =>
    match ← peek with
    | none => return ([], .malformed, false)
    | some '\x7d' => return ([], .malformed, false)
    | some '#' =>
      advance
      readNumberSign limit
    | some c =>
      advance
      if isSpecialParameter c then
        let (rule, nonEmpty) ← readRule
        return ([c], rule, nonEmpty)
      else return ([c], .malformed, false)

/-- Reads a parameter in braces. -/
def readBracedParameter (nested : Place → Parser (List Piece)) (limit : Nat) (inQuotes : Bool) :
    Parser (List Piece) := do
  let (name, rule, nonEmpty) ← readBraces limit
  if rule = .value then return [.parameter name rule nonEmpty [] inQuotes]
  else return [.parameter name rule nonEmpty (← nested (Place.braces inQuotes rule)) inQuotes]

/-- Reads what stands behind a dollar sign. -/
def readDollar (commands : CommandReader) (nested : Place → Parser (List Piece)) (limit : Nat)
    (place : Place) : Parser (List Piece) := do
  let inQuotes := place.inQuotes
  match ← peek with
  | some '(' =>
    advance
    if ← accept '(' then
      let expression ← nested { closer := .parentheses 0, inQuotes := true }
      return [.arithmetic expression inQuotes]
    else return [.output (← commands.parenthesized) inQuotes]
  | some '\x7b' =>
    advance
    readBracedParameter nested limit inQuotes
  | some c =>
    if isNameStart c then
      return [.parameter (← takeRun isNameChar limit) .value false [] inQuotes]
    else if c.isDigit || isSpecialParameter c then
      advance
      return [.parameter [c] .value false [] inQuotes]
    else return [place.piece '$']
  | none => return [place.piece '$']

/-! ## Commands in backquotes -/

/-- The text up to a backquote, which is passed. -/
def readBackquoted (inQuotes : Bool) : Nat → Parser Chars
  | 0 => return []
  | n + 1 => do
    match ← peek with
    | none => mistake "EOF in backquote substitution".toList
    | some c =>
      advance
      if c = backquote then return []
      else if c = '\\' then
        match ← peekRaw with
        | none => return '\\' :: (← readBackquoted inQuotes n)
        | some d =>
          advance
          if d = '\\' || d = backquote || d = '$' || (inQuotes && d = '"') then
            return d :: (← readBackquoted inQuotes n)
          else return '\\' :: d :: (← readBackquoted inQuotes n)
      else return c :: (← readBackquoted inQuotes n)

/-- Reads another text and comes back. -/
def readText {α : Type} (text : Chars) (line : Nat) (parser : Parser α) : Parser α := do
  let outer ← get
  set { outer with
    rest := text, left := text.length, line, again := false, awaited := [], openAliases := [] }
  let a ← parser
  modify fun inner =>
    { outer with documents := inner.documents, nextDocument := inner.nextDocument }
  return a

/-- Reads a command in backquotes, the first of which is passed already. Its lines are counted on
their own. -/
def readBackquotes (commands : CommandReader) (limit : Nat) (inQuotes : Bool) :
    Parser (List Piece) := do
  let text ← readBackquoted inQuotes limit
  return [.output (← readText text 1 commands.whole) inQuotes]

/-! ## Text -/

/-- Reads on from a character at a place where it has no meaning as an end. -/
def readFrom (commands : CommandReader) (nested : Place → Parser (List Piece)) (limit : Nat)
    (place : Place) (c : Char) : Parser (List Piece) := do
  advance
  if c = '\\' then readEscaped place
  else if c = '$' then readDollar commands nested limit place
  else if c = backquote then readBackquotes commands limit place.inQuotes
  else if c = '"' && place.opensQuotes then
    return .mark :: (← nested place.quotes) ++ [.mark]
  else if c = '\'' && !place.inQuotes then
    return .mark :: (← readApostrophes limit)
  else return [place.piece c]

/-- Reads one step of the text at a place. -/
def readStep (commands : CommandReader) (nested : Place → Parser (List Piece)) (limit : Nat)
    (place : Place) : Parser Step := do
  match ← peek with
  | none => readEnd place
  | some c =>
    match place.closer with
    | .gap =>
      if isMeta c then return .done
      else return .more (← readFrom commands nested limit place c) place
    | .quotes =>
      if c = '"' then
        advance
        return .done
      else return .more (← readFrom commands nested limit place c) place
    | .brace =>
      if c = '\x7d' then
        advance
        return .done
      else return .more (← readFrom commands nested limit place c) place
    | .ending => return .more (← readFrom commands nested limit place c) place
    | .parentheses level =>
      if c = '(' then
        advance
        return .more [place.piece c] { place with closer := .parentheses (level + 1) }
      else if c = ')' then
        advance
        match level with
        | level + 1 => return .more [place.piece c] { place with closer := .parentheses level }
        | 0 => if ← accept ')' then return .done else return .more [place.piece c] place
      else return .more (← readFrom commands nested limit place c) place

/-- Reads text up to its end, behind pieces that were read before, latest first. -/
def readPieces (commands : CommandReader) : Nat → Place → List Piece → Parser (List Piece)
  | 0, _, _ => mistake "Missing end".toList
  | n + 1, place, before => do
    match ← readStep commands (fun p => readPieces commands n p []) n place with
    | .done => return before.reverse
    | .more pieces place => readPieces commands n place (pieces.reverse ++ before)

/-- Whether a piece shows that something is quoted. -/
def Piece.isQuotation : Piece → Bool
  | .mark => true
  | .quoted _ => true
  | _ => false

/-- The text of a word whose quotes are left out and whose expansions mean nothing. -/
def withoutQuotes (word : List Piece) : Chars :=
  word.flatMap fun
    | .plain c => [c]
    | .quoted c => [c]
    | .parameter name .value _ _ _ => '$' :: name
    | _ => []

/-! ## Here-documents -/

/-- Whether a line goes on behind its end, because it ends in a backslash that is not escaped. -/
def goesOn (line : Chars) : Bool :=
  (line.reverse.takeWhile (· = '\\')).length % 2 = 1

/-- Passes over ends of lines behind backslashes at the beginning of a text. -/
def passJoints : Nat → Parser Unit
  | 0 => return
  | n + 1 => do
    match (← get).rest with
    | '\\' :: '\n' :: more =>
      modify fun r => { r with rest := more, left := r.left - 2, line := r.line + 1 }
      passJoints n
    | _ => return

/-- Takes a line; tells whether it ends in an end of line. -/
def takeLine : Parser (Chars × Bool) := do
  let rest := (← get).rest
  let line := rest.takeWhile (· ≠ '\n')
  let ended := rest.length > line.length
  modify fun r =>
    { r with
      rest := rest.drop (line.length + 1)
      left := r.left - line.length - (if ended then 1 else 0)
      line := if ended then r.line + 1 else r.line }
  return (line, ended)

/-- Reads the lines of a here-document up to the one that ends it. `joined` tells that the line
before goes on, so that this one cannot be the last and keeps its tabs. A backslash that follows
tabs which are taken away does not join lines. -/
def readLines (d : AwaitedDocument) : Nat → Bool → Parser Chars
  | 0, _ => return []
  | n + 1, joined => do
    if !joined && !d.verbatim then passJoints (n + 1)
    if (← get).rest = [] then return []
    else
      let (whole, ended) ← takeLine
      let line := if d.withoutTabs && !joined then whole.dropWhile (· = '\t') else whole
      if !joined && line = d.ending then return []
      else
        let isPlain := !d.verbatim && line.length < whole.length && line = ['\\']
        let text := if isPlain then '\\' :: line else line
        let text := if ended then text ++ ['\n'] else text
        return text ++ (← readLines d n (!d.verbatim && goesOn line))

/-- Reads a here-document. -/
def readDocument (commands : CommandReader) (d : AwaitedDocument) : Parser Unit := do
  let r ← get
  let text ← readLines d (r.left + 1) false
  let place : Place := { closer := .ending, inQuotes := true }
  let pieces ←
    if d.verbatim then pure (quotedWord text)
    else readText text r.line (readPieces commands (text.length + 2) place [])
  modify fun r => { r with documents := (d.number, pieces) :: r.documents }

/-- Reads the here-documents that are due. -/
def readDocuments (commands : CommandReader) : Parser Unit := do
  let awaited := (← get).awaited
  modify ({ · with awaited := [] })
  for d in awaited do
    readDocument commands d

end Shakedown.Shell

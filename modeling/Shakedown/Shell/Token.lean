import Shakedown.Shell.Word

/-!
# Reading tokens

Blanks and comments are passed, then a sign, a redirection or a word is read. What a word means
depends on where it stands, which the caller tells: keywords, aliases and the ends of lines have
their meaning only in some places.
-/

set_option autoImplicit false

namespace Shakedown.Shell

/-- What has a meaning where a token is read. -/
structure Context where
  /-- Whether ends of lines are passed over. -/
  passesLines : Bool := false
  /-- Whether keywords are known. -/
  keywords : Bool := false
  /-- Whether aliases are expanded. -/
  aliases : Bool := false

namespace Context

/-- Where a command starts. -/
def command : Context := { keywords := true, aliases := true }

/-- Where a command starts, perhaps on a later line. -/
def laterCommand : Context := { passesLines := true, keywords := true, aliases := true }

/-- Where a keyword may stand, perhaps on a later line. -/
def laterKeyword : Context := { passesLines := true, keywords := true }

end Context

/-- Passes blanks and comments. -/
def skipBlanks : Nat → Parser Unit
  | 0 => return ()
  | n + 1 => do
    match ← peek with
    | some c =>
      if isGap c then
        advance
        skipBlanks n
      else if c = '#' then
        modify fun r =>
          let comment := r.rest.takeWhile (· ≠ '\n')
          { r with rest := r.rest.drop comment.length, left := r.left - comment.length }
        skipBlanks n
      else return ()
    | none => return ()

/-- A sign that may be doubled. -/
def readSign (c : Char) : Parser Token := do
  advance
  if ← accept c then found (.sign (String.ofList [c, c]))
  else found (.sign (String.ofList [c]))

/-- What a redirection does, and the descriptor that it is for by default. -/
def readRedirectionSign : Parser (RedirectionKind × Nat) := do
  if ← accept '>' then
    if ← accept '>' then return (.append, 1)
    else if ← accept '|' then return (.clobber, 1)
    else if ← accept '&' then return (.duplicate, 1)
    else return (.write, 1)
  else
    advance
    if ← accept '<' then
      let withoutTabs ← accept '-'
      let number := (← get).nextDocument
      modify ({ · with withoutTabs, nextDocument := number + 1 })
      return (.document number, 0)
    else if ← accept '&' then return (.duplicate, 0)
    else if ← accept '>' then return (.update, 0)
    else return (.read, 0)

/-- Reads a redirection whose descriptor may be written in front of it. -/
def readRedirection (descriptor : Option Nat) : Parser Token := do
  let (kind, usual) ← readRedirectionSign
  modify ({ · with redirection := ⟨descriptor.getD usual, kind, []⟩ })
  found .redirection

/-- The descriptor that a word in front of a redirection stands for, if it is one. -/
def descriptorOf? : List Piece → Option (Option Nat)
  | [] => some none
  | [.plain c] => (Chars.digit? c).map some
  | _ => none

/-- Reads a word, which may turn out to belong to a redirection. -/
def readWord (commands : CommandReader) : Parser Token := do
  let limit := (← get).left + 2
  let word ← readPieces commands limit { closer := .gap, inQuotes := false } []
  let next ← peek
  match descriptorOf? word, next == some '<' || next == some '>' with
  | some descriptor, true => readRedirection descriptor
  | _, _ =>
    modify ({ · with word, quoted := word.any (·.isQuotation) })
    found .word

/-- Reads a token as it stands. -/
def readPlainToken (commands : CommandReader) : Parser Token := do
  let r ← get
  if r.again then found r.token
  else
    skipBlanks (r.left + 1)
    match ← peek with
    | none => found .eof
    | some c =>
      if c = '\n' then
        advance
        found .newline
      else if c = '&' || c = '|' || c = ';' then readSign c
      else if c = '(' || c = ')' then
        advance
        found (.sign (String.ofList [c]))
      else readWord commands

/-- Reads a token, passing over ends of lines. Here-documents that are due are read on the way. -/
def readPassingLines (commands : CommandReader) : Nat → Parser Token
  | 0 => readPlainToken commands
  | n + 1 => do
    match ← readPlainToken commands with
    | .newline =>
      readDocuments commands
      readPassingLines commands n
    | t => return t

/-- Notes which aliases are used up where so much is left, and tells whether the word there may be
an alias for that reason. -/
def closeAliases (left : Nat) : Parser Bool := do
  let r ← get
  let (opened, ended) := r.openAliases.partition fun a => a.mark < left
  set { r with openAliases := opened }
  return ended.any (·.endsInBlank)

/-- Puts the text of an alias in front of what is left. -/
def openAlias (name text : Chars) : Parser Unit :=
  modify fun r =>
    { r with
      rest := text ++ r.rest
      left := r.left + text.length
      openAliases :=
        { name, mark := r.left, endsInBlank := (text.getLast?).any isGap } :: r.openAliases }

/-- The alias of a name, unless its text is being read. -/
def alias? (name : Chars) : Parser (Option Chars) := do
  let r ← get
  if r.openAliases.any (·.name = name) then return none else return r.aliases.lookup name

/-- The keyword of a name. -/
def keyword? (name : Chars) : Option String :=
  keywords.find? (·.toList = name)

/-- Reads a token and gives it the meaning that it has where it stands. -/
def readTokenWithin (commands : CommandReader) : Nat → Context → Parser Token
  | 0, _ => mistake "Missing end".toList
  | n + 1, context => do
    let fresh := !(← get).again
    let t ←
      if context.passesLines then readPassingLines commands (n + 1) else readPlainToken commands
    let r ← get
    match t, r.quoted, literal? r.word with
    | .word, false, some name =>
      let behindBlank ← if fresh then closeAliases (r.left + name.length) else pure false
      match if context.keywords then keyword? name else none with
      | some k => found (.keyword k)
      | none =>
        let text ← if context.aliases || behindBlank then alias? name else pure none
        match text with
        | some text =>
          openAlias name text
          readTokenWithin commands n context
        | none => return t
    | _, _, _ => return t

/-- Reads a token and gives it the meaning that it has where it stands. -/
def readToken (commands : CommandReader) (context : Context) : Parser Token := do
  readTokenWithin commands ((← get).left + 2) context

end Shakedown.Shell

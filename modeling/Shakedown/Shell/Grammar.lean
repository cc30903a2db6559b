import Shakedown.Shell.Token

/-!
# Reading commands

A script is read command line by command line, since a line may change how the next ones are read.
`parseLine` reads the commands up to the end of a line.

Commands contain commands, so the functions here are given how to read those, and `parse` ties the
knot with a bound on the depth.
-/

set_option autoImplicit false

namespace Shakedown.Shell

/-- How far a list of commands goes. -/
inductive Extent where
  /-- Up to the end of the line. -/
  | line
  /-- Up to a token that ends it; there is at least one command. -/
  | block
  /-- Up to a token that ends it. -/
  | optional
  deriving DecidableEq, Repr

/-- What is to be read. -/
inductive Goal where
  /-- Commands up to an extent. -/
  | list (extent : Extent)
  /-- One command, perhaps on a later line. -/
  | command

/-- How the commands inside of a command are read. -/
structure Grammar where
  /-- Reads commands. -/
  read : Goal → Parser Command

/-- A sign as a token. -/
def Token.isSign (t : Token) (text : String) : Bool :=
  t = .sign text

/-- A keyword as a token. -/
def Token.isKeyword (t : Token) (text : String) : Bool :=
  t = .keyword text

namespace Grammar

/-- How commands inside words are read. -/
def commands (g : Grammar) : CommandReader where
  parenthesized := do
    let outer ← get
    set { outer with again := false, awaited := [] }
    let c ← g.read (.list .optional)
    if (← get).token.isSign ")" then
      modify ({ · with again := false, awaited := outer.awaited })
      return c
    else unexpected (some (.sign ")"))
  whole := g.read (.list .optional)

/-- Reads a token. -/
def token (g : Grammar) (context : Context) : Parser Token :=
  readToken g.commands context

/-- Reads a token that must be a given one. -/
def expect (g : Grammar) (context : Context) (expected : Token) : Parser Unit := do
  if (← g.token context) = expected then return () else unexpected (some expected)

/-- Reads a list of commands and the keyword behind it. -/
def blockUpTo (g : Grammar) (ending : Token) : Parser Command := do
  let c ← g.read (.list .block)
  g.expect {} ending
  return c

/-! ## Redirections -/

/-- Reads the target of the redirection that was read last. -/
def redirectionTarget (g : Grammar) : Parser (Redirection (List Piece)) := do
  let r := (← get).redirection
  let withoutTabs := (← get).withoutTabs
  match ← g.token {} with
  | .word =>
    let word := (← get).word
    match r.kind with
    | .document number =>
      let d : AwaitedDocument :=
        { number, ending := withoutQuotes word, verbatim := (← get).quoted, withoutTabs }
      modify fun s => { s with awaited := s.awaited ++ [d] }
      return r
    | _ => return { r with target := word }
  | _ => unexpected none

/-- Reads the redirections behind a command. -/
def redirections (g : Grammar) : Nat → Parser (List (Redirection (List Piece)))
  | 0 => return []
  | n + 1 => do
    match ← g.token Context.command with
    | .redirection =>
      let r ← g.redirectionTarget
      return r :: (← redirections g n)
    | _ =>
      readAgain
      return []

/-! ## Simple commands -/

/-- The parts of a simple command. -/
structure SimpleParts where
  /-- The assignments, latest first. -/
  assignments : List (List Piece) := []
  /-- The words, latest first. -/
  words : List (List Piece) := []
  /-- The redirections, latest first. -/
  redirections : List (Redirection (List Piece)) := []

/-- The names of builtin commands that no function can have. -/
def reservedNames : List String :=
  [".", ":", "break", "continue", "eval", "exec", "exit", "export", "readonly", "return", "set",
    "shift", "times", "trap", "unset"]

/-- Reads the definition of a function behind its name and an opening parenthesis. -/
def definition (g : Grammar) (name : List Piece) : Parser Command := do
  g.expect {} (.sign ")")
  match literal? name with
  | some text =>
    if isName text && !reservedNames.any (·.toList = text) then
      let _ ← g.token Context.laterCommand
      let line := (← get).line
      readAgain
      return .definition line text (← g.read .command)
    else mistake "Bad function name".toList
  | none => mistake "Bad function name".toList

/-- Reads the parts of a simple command. -/
def simple (g : Grammar) (line : Nat) : Nat → SimpleParts → Parser Command
  | 0, _ => mistake "Missing end".toList
  | n + 1, parts => do
    let finished : Command :=
      .simple line parts.assignments.reverse parts.words.reverse parts.redirections.reverse
    match ← g.token { aliases := parts.words.isEmpty } with
    | .word =>
      let word := (← get).word
      if parts.words.isEmpty && isAssignment word then
        simple g line n { parts with assignments := word :: parts.assignments }
      else simple g line n { parts with words := word :: parts.words }
    | .redirection =>
      let r ← g.redirectionTarget
      simple g line n { parts with redirections := r :: parts.redirections }
    | .sign "(" =>
      match parts.words, parts.assignments, parts.redirections with
      | [name], [], [] => g.definition name
      | _, _, _ =>
        readAgain
        return finished
    | _ =>
      readAgain
      return finished

/-! ## Compound commands -/

/-- Reads the parts of a condition behind `if` or `elif`. -/
def branches (g : Grammar) : Nat → Parser Command
  | 0 => mistake "Missing end".toList
  | n + 1 => do
    let condition ← g.blockUpTo (.keyword "then")
    let body ← g.read (.list .block)
    match ← g.token {} with
    | .keyword "elif" => return .branch condition body (← branches g n)
    | .keyword "else" => return .branch condition body (← g.read (.list .block))
    | _ =>
      readAgain
      return .branch condition body .idle

/-- Reads words up to something else. -/
def wordList (g : Grammar) : Nat → Parser (List (List Piece))
  | 0 => return []
  | n + 1 => do
    match ← g.token {} with
    | .word =>
      let word := (← get).word
      return word :: (← wordList g n)
    | _ => return []

/-- The words that a loop goes through when it has none of its own. -/
def allArguments : List Piece :=
  [.mark, .parameter ['@'] .value false [] true, .mark]

/-- Reads the words that a loop goes through. -/
def loopWords (g : Grammar) : Parser (List (List Piece)) := do
  match ← g.token Context.laterCommand with
  | .keyword "in" =>
    let words ← g.wordList ((← get).left + 1)
    let t := (← get).token
    if t = .newline || t.isSign ";" then
      if t = .newline then readDocuments g.commands
      return words
    else unexpected none
  | .sign ";" => return [allArguments]
  | _ =>
    readAgain
    return [allArguments]

/-- Reads a loop over words behind its keyword. -/
def each (g : Grammar) (line : Nat) : Parser Command := do
  let t ← g.token {}
  let r ← get
  match t, r.quoted, literal? r.word with
  | .word, false, some name =>
    if isName name then
      let words ← g.loopWords
      g.expect Context.laterCommand (.keyword "do")
      let body ← g.blockUpTo (.keyword "done")
      return .each line name words body
    else mistake "Bad for loop variable".toList
  | _, _, _ => mistake "Bad for loop variable".toList

/-- Reads the patterns of a case. The first one was read as a token, and no token is refused. -/
def patterns (g : Grammar) : Nat → Parser (List (List Piece))
  | 0 => return []
  | n + 1 => do
    let word := (← get).word
    match ← g.token {} with
    | .sign "|" =>
      let _ ← g.token {}
      return word :: (← patterns g n)
    | .sign ")" => return [word]
    | _ => unexpected (some (.sign ")"))

/-- Reads cases up to the keyword that ends them. -/
def cases (g : Grammar) : Nat → Parser (List (List (List Piece) × Command))
  | 0 => return []
  | n + 1 => do
    match ← g.token Context.laterKeyword with
    | .keyword "esac" => return []
    | t =>
      if t.isSign "(" then
        let _ ← g.token {}
      let words ← g.patterns n
      let body ← g.read (.list .optional)
      match ← g.token Context.laterKeyword with
      | .keyword "esac" => return [(words, body)]
      | .sign ";;" => return (words, body) :: (← cases g n)
      | _ => unexpected (some (.sign ";;"))

/-- Reads a choice behind its keyword. -/
def choice (g : Grammar) (line : Nat) : Parser Command := do
  match ← g.token {} with
  | .word =>
    let subject := (← get).word
    g.expect Context.laterCommand (.keyword "in")
    return .choice line subject (← g.cases ((← get).left + 1))
  | _ => unexpected (some .word)

/-- A command with the redirections behind it. -/
def withRedirections (g : Grammar) (line : Nat) (c : Command) : Parser Command := do
  match ← g.redirections ((← get).left + 1), c with
  | [], _ => return c
  | l, .subshell line body _ => return .subshell line body l
  | l, _ => return .redirected line c l

/-- Reads a command whose first token was read. -/
def commandFrom (g : Grammar) (t : Token) : Parser Command := do
  let line := (← get).line
  let limit := (← get).left + 2
  match t with
  | .keyword "if" =>
    let c ← g.branches limit
    g.expect {} (.keyword "fi")
    g.withRedirections line c
  | .keyword "while" | .keyword "until" =>
    let condition ← g.blockUpTo (.keyword "do")
    let body ← g.blockUpTo (.keyword "done")
    g.withRedirections line (.loop (t.isKeyword "while") condition body)
  | .keyword "for" => g.withRedirections line (← g.each line)
  | .keyword "case" => g.withRedirections line (← g.choice line)
  | .sign "(" => g.withRedirections line (.subshell line (← g.blockUpTo (.sign ")")) [])
  | .keyword "\x7b" => g.withRedirections line (← g.blockUpTo (.keyword "\x7d"))
  | .word | .redirection =>
    readAgain
    g.simple line limit {}
  | _ => unexpected none

/-! ## Lists of commands -/

/-- Reads the commands of a pipeline behind its first one. -/
def pipelineRest (g : Grammar) : Nat → Parser (List Command)
  | 0 => return []
  | n + 1 => do
    match ← g.token {} with
    | .sign "|" =>
      let c ← g.commandFrom (← g.token Context.laterCommand)
      return c :: (← pipelineRest g n)
    | _ =>
      readAgain
      return []

/-- Reads a pipeline. -/
def pipeline (g : Grammar) (context : Context) : Parser Command := do
  let t ← g.token context
  let negated := t.isKeyword "!"
  let first ← g.commandFrom (← if negated then g.token Context.command else pure t)
  let more ← g.pipelineRest ((← get).left + 1)
  let c : Command := if more.isEmpty then first else .pipeline (first :: more)
  return if negated then .negation c else c

/-- Reads the pipelines behind the first one of a chain. -/
def chainRest (g : Grammar) : Nat → Command → Parser Command
  | 0, first => return first
  | n + 1, first => do
    match ← g.token {} with
    | .sign "&&" => chainRest g n (.both first (← g.pipeline Context.laterCommand))
    | .sign "||" => chainRest g n (.either first (← g.pipeline Context.laterCommand))
    | _ =>
      readAgain
      return first

/-- Reads a chain of pipelines. -/
def chain (g : Grammar) : Parser Command := do
  let first ← g.pipeline Context.command
  g.chainRest ((← get).left + 1) first

/-- A command that is not waited for. -/
def inBackground (line : Nat) : Command → Command
  | .redirected line body redirections => .background line body redirections
  | c => .background line c []

/-- The commands of a list as one. -/
def listed : List Command → Command
  | [] => .idle
  | [c] => c
  | commands => .sequence commands

/-- Reads commands up to an extent, behind others, which are given latest first. -/
def listFrom (g : Grammar) (extent : Extent) : Nat → List Command → Parser (List Command)
  | 0, before => return before.reverse
  | n + 1, before => do
    let t ← g.token (if extent = .line then Context.command else Context.laterCommand)
    if t = .eof then
      readDocuments g.commands
      readAgain
      return before.reverse
    else if t = .newline then
      readDocuments g.commands
      return before.reverse
    else
      readAgain
      if extent ≠ .line && t.endsList && (extent = .optional || !before.isEmpty) then
        return before.reverse
      else
        let c ← g.chain
        match ← g.token {} with
        | .sign "&" => listFrom g extent n (inBackground (← get).line c :: before)
        | .sign ";" => listFrom g extent n (c :: before)
        | .newline =>
          readAgain
          listFrom g extent n (c :: before)
        | .eof =>
          readDocuments g.commands
          readAgain
          return (c :: before).reverse
        | _ =>
          if extent = .line then unexpected none
          else
            readAgain
            return (c :: before).reverse

end Grammar

/-- Reads what is to be read, so deep at most. -/
def parse : Nat → Goal → Parser Command
  | 0, _ => mistake "Missing end".toList
  | n + 1, goal => do
    let g : Grammar := ⟨parse n⟩
    match goal with
    | .list extent => return Grammar.listed (← g.listFrom extent ((← get).left + 2) [])
    | .command => g.commandFrom (← g.token Context.laterCommand)

/-- How deep commands may lie in one another. -/
def commandDepth : Nat := 1000

/-- Reads the commands up to the end of a line; nothing if the text is over. The result also says
whether the text is over behind them. -/
def parseLine : Parser (Option (Command × Bool)) := do
  modify ({ · with again := false, awaited := [] })
  let g : Grammar := ⟨parse commandDepth⟩
  let commands ← g.listFrom .line ((← get).left + 2) []
  let r ← get
  let ended := r.token = .eof && r.again
  if commands.isEmpty && ended then return none
  else return some (Grammar.listed commands, ended)

/-- Reads a whole text as it would stand in double quotes. -/
def parseQuoted : Parser (List Piece) := do
  let g : Grammar := ⟨parse commandDepth⟩
  readPieces g.commands ((← get).left + 2) { closer := .ending, inQuotes := true } []

end Shakedown.Shell

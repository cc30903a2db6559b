import Shakedown.Editor.Script
import Shakedown.Regex.Read

/-!
# Reading editing scripts

A script is read character by character. A complaint tells how far the reading was, since it is
given by the place in the script.
-/

set_option autoImplicit false

namespace Shakedown.Editor

/-- What is wrong with a script. -/
structure Mistake where
  /-- How many characters were left, if the place is told. -/
  left : Option Nat
  /-- What is wrong. -/
  message : Chars

/-- A jump whose target is not known yet. -/
structure OpenJump where
  /-- The place of the command. -/
  place : Nat
  /-- The label. -/
  label : Chars

/-- How far the reading is. -/
structure ReadingState where
  /-- What is left. -/
  rest : Chars
  /-- The commands, latest first. -/
  commands : List Command := []
  /-- The places of blocks that are open. -/
  blocks : List Nat := []
  /-- The labels with their places. -/
  labels : List (Chars × Nat) := []
  /-- The jumps to labels. -/
  jumps : List OpenJump := []
  /-- The files that are written. -/
  files : List Chars := []

/-- A step of reading a script. -/
abbrev Reading := StateT ReadingState (Except Mistake)

namespace Reading

/-- Complains about the place that is read. -/
def bad {α : Type} (message : String) : Reading α := do
  throw { left := some (← get).rest.length, message := message.toList }

/-- Reads a character. -/
def next : Reading (Option Char) := do
  match (← get).rest with
  | [] => return none
  | c :: rest =>
    modify ({ · with rest })
    return some c

/-- The next character, which stays. -/
def peek : Reading (Option Char) := do
  return (← get).rest.head?

/-- Passes over characters of a kind. -/
def skip (isSkipped : Char → Bool) : Reading Unit :=
  modify fun s => { s with rest := s.rest.dropWhile isSkipped }

/-- Whether a character is a blank. -/
def isBlank (c : Char) : Bool :=
  c = ' ' || c = '\t'

/-- The first character that is no blank. -/
def nextNonblank : Reading (Option Char) := do
  skip isBlank
  next

/-- Reads characters of a kind. -/
def takeRun (isWanted : Char → Bool) : Reading Chars := do
  let found := (← get).rest.takeWhile isWanted
  skip isWanted
  return found

/-- Reads a number that begins with a character. -/
def number (first : Char) : Reading Nat := do
  return Numeral.numberOf 10 (first :: (← takeRun Char.isDigit))

/-- Reads the end of a command. -/
def finish : Reading Unit := do
  skip isBlank
  match ← peek with
  | none => return ()
  | some c =>
    if c = '\x7d' || c = '#' then return ()
    let _ ← next
    if c ≠ '\n' && c ≠ ';' then bad "extra characters after command"

/-- The text up to a sign that is not escaped. Inside brackets of an expression the sign stands for
itself. `inSet` counts how deep the text is inside a set: not at all, at its first member, or
behind. -/
def delimited (sign : Char) (isRegex : Bool) : Nat → Nat → Chars → Option (Chars × Chars)
  | _, _, [] => none
  | 0, _, _ => none
  | n + 1, inSet, c :: more =>
    if c = '\n' && isRegex then none
    else if c = sign && inSet = 0 then some ([], more)
    else if c = '\\' then
      match more with
      | [] => none
      | d :: rest =>
        let found := delimited sign isRegex n (if inSet = 1 then 2 else inSet) rest
        let kept : Chars :=
          if d = 'n' && isRegex then ['\n']
          else if d = '\n' && isRegex then [d]
          else if d = sign && (isRegex || d ≠ '&') then [d]
          else ['\\', d]
        found.map fun (text, after) => (kept ++ text, after)
    else
      let inside :=
        if !isRegex then 0
        else if inSet = 0 then (if c = '[' then 1 else 0)
        else if inSet = 1 then (if c = '^' then 1 else 2)
        else if c = ']' then 0 else 2
      (delimited sign isRegex n inside more).map fun (text, after) => (c :: text, after)

/-- Reads the text up to a sign. -/
def until_ (sign : Char) (isRegex : Bool) (complaint : String) : Reading Chars := do
  let rest := (← get).rest
  match delimited sign isRegex (rest.length + 1) 0 rest with
  | some (text, after) =>
    modify ({ · with rest := after })
    return text
  | none =>
    if isRegex then skip (· ≠ '\n') else modify ({ · with rest := [] })
    bad complaint

/-- The character that an escape with digits stands for, and the rest. -/
def numericEscape (base count : Nat) (s : Chars) : Option (Char × Chars) :=
  let digits := (s.take count).takeWhile (Numeral.isDigitOf base)
  if digits.isEmpty then none
  else some (Char.ofNat (Numeral.numberOf base digits % 256), s.drop digits.length)

/-- The letters behind a backslash that stand for control characters. -/
def controlLetters : List (Char × Char) :=
  [('a', '\x07'), ('f', '\x0c'), ('n', '\n'), ('r', '\r'), ('t', '\t'), ('v', '\x0b')]

/-- The character that an escape stands for, and the rest. -/
def escape? (s : Chars) : Option (Char × Chars) :=
  match s with
  | [] => none
  | c :: more =>
    match controlLetters.lookup c with
    | some d => some (d, more)
    | none =>
      if c = 'x' then numericEscape 16 2 more
      else if c = 'o' then numericEscape 8 3 more
      else if c = 'd' then numericEscape 10 3 more
      else if c = 'c' then
        match more with
        | d :: rest => some (Char.ofNat (d.toUpper.toNat ^^^ 64), rest)
        | [] => none
      else none

/-- An expression with its escapes replaced. A character that could be a sign keeps a backslash. -/
def unescaped : Nat → Chars → Chars
  | 0, _ => []
  | _ + 1, [] => []
  | n + 1, '\\' :: more =>
    match escape? more with
    | some (c, rest) =>
      let isSign := "$*.[\\]^".toList.contains c
      (if isSign then ['\\', c] else [c]) ++ unescaped n rest
    | none =>
      match more with
      | c :: rest => '\\' :: c :: unescaped n rest
      | [] => ['\\']
  | n + 1, c :: more => c :: unescaped n more

/-- The expression of a text. -/
def expression (extended : Bool) (style : MatchStyle) (text : Chars) : Reading Expression := do
  if text.isEmpty then return { own? := none, style }
  match Regex.read { extended, strict := true } (unescaped (text.length + 1) text) with
  | .error e => bad e
  | .ok c =>
    if extended && !c.dangling.isEmpty then bad "Invalid preceding regular expression"
    return { own? := some (c.regex, c.groups), style }

/-- The letters behind the expression of an address. -/
def addressFlags : Reading MatchStyle := do
  let letters ← takeRun fun c => c = 'I' || c = 'M'
  return { folds := letters.contains 'I', multiline := letters.contains 'M' }

/-- Reads an address, if there is one. -/
def address? (extended : Bool) : Reading (Option Address) := do
  skip isBlank
  match ← peek with
  | none => return none
  | some c =>
    if c = '/' || c = '\\' then
      let _ ← next
      let sign? ← if c = '\\' then next else pure (some c)
      match sign? with
      | none => bad "unexpected \x60,'"
      | some sign =>
        let text ← until_ sign true "unterminated address regex"
        let style ← addressFlags
        return some (.holds (← expression extended style text))
    else if c.isDigit then
      let _ ← next
      let first ← number c
      skip isBlank
      if (← peek) = some '~' then
        let _ ← next
        let digits ← takeRun Char.isDigit
        let step := Numeral.numberOf 10 digits
        return some (if step = 0 then .line first else .every first step)
      return some (.line first)
    else if c = '+' || c = '~' then
      let _ ← next
      let digits ← takeRun Char.isDigit
      let count := Numeral.numberOf 10 digits
      return some (if c = '+' then .further count else .multiple count)
    else if c = '$' then
      let _ ← next
      return some .last
    else return none

/-- Reads the lines for which a command is carried out. -/
def selection (extended : Bool) : Reading Selection := do
  match ← address? extended with
  | none => return {}
  | some first =>
    match first with
    | .further _ => bad "invalid usage of +N or ~N as first address"
    | .multiple _ => bad "invalid usage of +N or ~N as first address"
    | _ => pure ()
    skip isBlank
    if (← peek) = some ',' then
      let _ ← next
      match ← address? extended with
      | none =>
        let _ ← nextNonblank
        bad "unexpected \x60,'"
      | some second =>
        match first, second with
        | .line 0, .holds _ => pure ()
        | .line 0, _ =>
          let _ ← nextNonblank
          bad "invalid usage of line address 0"
        | _, _ => pure ()
        return { first := some first, last := some second }
    match first with
    | .line 0 =>
      let _ ← nextNonblank
      bad "invalid usage of line address 0"
    | _ => return { first := some first }

/-- Reads whether a command is for the other lines. -/
def negation : Reading Bool := do
  skip isBlank
  if (← peek) = some '!' then
    let _ ← next
    skip isBlank
    if (← peek) = some '!' then
      let _ ← next
      bad "multiple \x60!'s"
    return true
  else return false

/-! ## Texts and names -/

/-- A text that is written, up to a newline that is not escaped, and the rest. -/
def writtenText : Nat → Chars → Chars × Chars
  | 0, s => ([], s)
  | _ + 1, [] => ([], [])
  | n + 1, c :: more =>
    if c = '\n' then ([], more)
    else if c = '\\' then
      match more with
      | [] => ([], [])
      | d :: rest =>
        let (e, after) := if d = '\n' then (d, rest) else (escape? more).getD (d, rest)
        let (text, left) := writtenText n after
        (e :: text, left)
    else
      let (text, left) := writtenText n more
      (c :: text, left)

/-- Reads a text that is written. Behind a backslash it begins on the next line, or with a character
that stands for itself. -/
def text : Reading Chars := do
  skip isBlank
  let marked := (← peek) = some '\\'
  if marked then let _ ← next
  let rest := (← get).rest
  if rest.isEmpty then
    if marked then return [] else bad "expected \\ after \x60a', \x60c' or \x60i'"
  let (first, others) := match rest.dropWhile isBlank with
    | '\n' :: after => if marked then ([], after) else ([], rest)
    | _ => if marked then (rest.take 1, rest.drop 1) else ([], rest)
  let (body, after) := writtenText (others.length + 1) others
  modify ({ · with rest := after })
  return if first.isEmpty && others.isEmpty then [] else first ++ body ++ ['\n']

/-- Reads a label. -/
def label (stopsAtBrace : Bool) : Reading Chars := do
  skip isBlank
  takeRun fun c => !Chars.isSpace c && c ≠ ';' && !(stopsAtBrace && c = '\x7d')

/-- Reads the name of a file. -/
def fileName : Reading Chars := do
  skip isBlank
  let name ← takeRun (· ≠ '\n')
  if name.isEmpty then bad "missing filename in r/R/w/W commands"
  let _ ← next
  return name

/-- Reads a number, if there is one. -/
def number? : Reading (Option Nat) := do
  skip isBlank
  let digits ← takeRun Char.isDigit
  return if digits.isEmpty then none else some (Numeral.numberOf 10 digits)

/-! ## Substitutions -/

/-- The parts of a replacement. -/
def parts : Nat → Chars → List Part
  | 0, _ => []
  | _ + 1, [] => []
  | n + 1, '&' :: more => .group 0 :: parts n more
  | n + 1, '\\' :: c :: more =>
    match c with
    | 'U' => .change .upper :: parts n more
    | 'L' => .change .lower :: parts n more
    | 'E' => .change .keep :: parts n more
    | 'u' => .changeNext .upper :: parts n more
    | 'l' => .changeNext .lower :: parts n more
    | _ =>
      if c.isDigit then .group (c.toNat - '0'.toNat) :: parts n more
      else match escape? (c :: more) with
        | some (d, rest) => .text [d] :: parts n rest
        | none => .text [c] :: parts n more
  | n + 1, c :: more => .text [c] :: parts n more

/-- The flags of a substitution. -/
structure Flags where
  /-- Whether all matches are replaced. -/
  all : Bool := false
  /-- Whether the result is written. -/
  prints : Bool := false
  /-- Which match is replaced first. -/
  number : Option Nat := none
  /-- How the expression is matched. -/
  style : MatchStyle := {}
  /-- The file to which the result is written. -/
  file : Option Chars := none

/-- Reads the flags of a substitution. -/
def flags : Nat → Flags → Reading Flags
  | 0, f => return f
  | n + 1, f => do
    match ← peek with
    | none => return f
    | some c =>
      if c = '\x7d' || c = '#' then return f
      let _ ← next
      match c with
      | 'i' => flags n { f with style := { f.style with folds := true } }
      | 'I' => flags n { f with style := { f.style with folds := true } }
      | 'm' => flags n { f with style := { f.style with multiline := true } }
      | 'M' => flags n { f with style := { f.style with multiline := true } }
      | 'e' => flags n f
      | 'p' =>
        if f.prints then bad "multiple \x60p' options to \x60s' command"
        flags n { f with prints := true }
      | 'g' =>
        if f.all then bad "multiple \x60g' options to \x60s' command"
        flags n { f with all := true }
      | 'w' => return { f with file := some (← fileName) }
      | '\n' => return f
      | ';' => return f
      | ' ' => flags n f
      | '\t' => flags n f
      | '\r' => flags n f
      | _ =>
        if c.isDigit then
          if f.number.isSome then bad "multiple number options to \x60s' command"
          let k ← number c
          if k = 0 then bad "number option to \x60s' command may not be zero"
          flags n { f with number := some k }
        else bad "unknown option to \x60s'"

/-- Notes a file that is written. -/
def noteFile (path : Chars) : Reading Unit :=
  modify fun s => { s with files := if s.files.contains path then s.files else s.files ++ [path] }

/-- Reads a substitution. -/
def substitution (extended : Bool) : Reading Substitution := do
  let complaint := "unterminated \x60s' command"
  match ← next with
  | none => bad complaint
  | some sign =>
    let pattern ← until_ sign true complaint
    let replacement ← until_ sign false complaint
    let f ← flags ((← get).rest.length + 1) {}
    let e ← expression extended f.style pattern
    let found := parts (replacement.length + 1) replacement
    let highest := found.foldl
      (fun n p => match p with
        | .group k => max n k
        | _ => n) 0
    match e.own? with
    | some (_, groups) =>
      if highest > groups then
        bad ("invalid reference \\" ++ highest.repr ++ " on \x60s' command's RHS")
    | none => pure ()
    f.file.forM noteFile
    return { expression := e, parts := found, all := f.all, number := f.number.getD 1
             prints := f.prints, file := f.file }

/-- The characters of a text in which a sign and backslashes are escaped. -/
def plainChars : Chars → Chars
  | '\\' :: '\\' :: more => '\\' :: plainChars more
  | '\\' :: 'n' :: more => '\n' :: plainChars more
  | c :: more => c :: plainChars more
  | [] => []

/-- Reads an exchange of characters. -/
def translation : Reading (List (Char × Char)) := do
  let complaint := "unterminated \x60y' command"
  match ← next with
  | none => bad complaint
  | some sign =>
    let one := plainChars (← until_ sign false complaint)
    let two := plainChars (← until_ sign false complaint)
    if one.length ≠ two.length then bad "strings for \x60y' command are different lengths"
    finish
    return one.zip two

/-! ## Commands -/

/-- The commands that are a letter and nothing more. -/
def simpleActions : List (Char × Action) :=
  [('=', .number), ('d', .delete), ('D', .deleteLine), ('F', .fileName), ('g', .get),
    ('G', .getAppend), ('h', .hold), ('H', .holdAppend), ('n', .next), ('N', .nextAppend),
    ('p', .print), ('P', .printLine), ('x', .exchange), ('z', .empty)]

/-- Adds a command. -/
def add (s : Selection) (a : Action) : Reading Unit :=
  modify fun r => { r with commands := { selection := s, action := a } :: r.commands }

/-- Notes a jump of the next command. -/
def noteJump (l : Chars) : Reading Unit :=
  modify fun r => { r with jumps := { place := r.commands.length, label := l } :: r.jumps }

/-- Reads a jump. -/
def jump (s : Selection) (make : Nat → Action) : Reading Unit := do
  noteJump (← label true)
  add s (make 0)
  finish

/-- Reads the end of a block. -/
def blockEnd (s : Selection) : Reading Unit := do
  if s.first.isSome then bad "\x7d doesn't want any addresses"
  match (← get).blocks with
  | [] => bad "unexpected \x60\x7d'"
  | start :: others =>
    modify fun r =>
      let place := r.commands.length
      { r with
        blocks := others
        commands := r.commands.modify (place - 1 - start) fun c =>
          { c with action := .block place } }
    add {} .none
    finish

/-- Reads a command whose letter was read. -/
def command (extended : Bool) (s : Selection) (c : Char) : Reading Unit := do
  match simpleActions.lookup c with
  | some a =>
    add s a
    finish
  | none =>
    match c with
    | '\x7b' =>
      modify fun r => { r with blocks := r.commands.length :: r.blocks }
      add s (.block 0)
    | '\x7d' => blockEnd s
    | '#' =>
      if s.first.isSome then bad "comments don't accept any addresses"
      skip (· ≠ '\n')
    | ':' =>
      if s.first.isSome then bad ": doesn't want any addresses"
      let l ← label false
      if l.isEmpty then bad "\":\" lacks a label"
      modify fun r => { r with labels := (l, r.commands.length) :: r.labels }
      add {} .none
    | 'a' => add s (.append (← text))
    | 'i' => add s (.insert (← text))
    | 'c' => add s (.replace (← text))
    | 'b' => jump s .jump
    | 't' => jump s .jumpIf
    | 'T' => jump s .jumpUnless
    | 'l' =>
      let width ← number?
      add s (.list width)
      finish
    | 'L' =>
      let _ ← number?
      add s .none
      finish
    | 'q' => quit false
    | 'Q' => quit true
    | 'r' => add s (.readFile (← fileName))
    | 'R' => add s (.readLine (← fileName))
    | 'w' => write false
    | 'W' => write true
    | 's' => add s (.substitute (← substitution extended))
    | 'y' => add s (.translate (← translation))
    | 'e' =>
      skip (· ≠ '\n')
      add s .none
    | 'v' =>
      let version ← label true
      if version.any Char.isDigit && !(version.head? = some '4') then
        bad "expected newer version of sed"
      finish
    | _ => bad ("unknown command: \x60" ++ String.ofList [c] ++ "'")
where
  /-- Reads the rest of a command that ends the script. -/
  quit (silent : Bool) : Reading Unit := do
    if s.last.isSome then bad "command only uses one address"
    let status ← number?
    add s (.quit (status.getD 0) silent)
    finish
  /-- Reads the rest of a command that writes to a file. -/
  write (firstLine : Bool) : Reading Unit := do
    let path ← fileName
    noteFile path
    add s (.writeFile path firstLine)

/-- Reads commands. -/
def commands (extended : Bool) : Nat → Reading Unit
  | 0 => return ()
  | n + 1 => do
    skip fun c => Chars.isSpace c || c = ';'
    if (← get).rest.isEmpty then return ()
    let s ← selection extended
    let negated ← negation
    match ← nextNonblank with
    | none => bad "missing command"
    | some c =>
      command extended { s with negated } c
      commands extended n

/-- The action with its target. -/
def withTarget (a : Action) (target : Nat) : Action :=
  match a with
  | .jump _ => .jump target
  | .jumpIf _ => .jumpIf target
  | .jumpUnless _ => .jumpUnless target
  | a => a

/-- The commands with the targets of all jumps. -/
def resolved (s : ReadingState) : Except Mistake (List Command) :=
  let all := s.commands.reverse
  s.jumps.foldlM
    (fun all j =>
      if j.label.isEmpty then
        .ok (all.modify j.place fun c => { c with action := withTarget c.action all.length })
      else match s.labels.lookup j.label with
        | some target =>
          .ok (all.modify j.place fun c => { c with action := withTarget c.action target })
        | none =>
          .error { left := none
                   message := "can't find label for jump to \x60".toList ++ j.label ++ ['\''] })
    all

end Reading

/-- A script that was read. -/
structure Script where
  /-- The commands. -/
  commands : Array Command
  /-- The files that are written. -/
  files : List Chars

/-- Whether a mistake is a jump to nowhere. -/
def Mistake.isJump (m : Mistake) : Bool :=
  "can't find label".toList.isPrefixOf m.message

/-- The script of a text. -/
def readScript (extended : Bool) (text : Chars) : Except Mistake Script :=
  match (Reading.commands extended (text.length + 1)).run { rest := text } with
  | .error e => .error e
  | .ok ((), s) =>
    if !s.blocks.isEmpty then
      .error { left := none, message := "unmatched \x60\x7b'".toList }
    else (Reading.resolved s).map fun all => { commands := all.toArray, files := s.files }

end Shakedown.Editor

import Shakedown.Shell.Expansion
import Shakedown.Shell.Option

/-!
# Reading lines and options

`read` takes a line from the input and cuts it into as many fields as there are variables; the last
one takes all that is left. `getopts` finds the options in arguments one by one.
-/

set_option autoImplicit false

namespace Shakedown.Shell

/-! ## Lines -/

/-- A character of a line, and whether a backslash kept it from its meaning. -/
abbrev LineLetter := Char × Bool

/-- The letters of the line at the beginning of a text, how long it is with its end, and whether the
end is there. -/
def lineLetters (raw : Bool) : Chars → List LineLetter × Nat × Bool
  | [] => ([], 0, false)
  | c :: more =>
    if c = '\n' then ([], 1, true)
    else if c = '\\' && !raw then
      match more with
      | [] => ([], 1, false)
      | '\n' :: rest =>
        let (letters, count, ended) := lineLetters raw rest
        (letters, count + 2, ended)
      | d :: rest =>
        let (letters, count, ended) := lineLetters raw rest
        ((d, true) :: letters, count + 2, ended)
    else
      let (letters, count, ended) := lineLetters raw more
      (if c = '\x00' then letters else (c, false) :: letters, count + 1, ended)

/-- Where the cutting of a line stands. -/
structure LineCutter where
  /-- The fields that are complete, latest first. -/
  fields : List Chars := []
  /-- How many fields may still be cut off. -/
  left : Nat
  /-- The letters since the last cut, latest first. -/
  current : Chars := []
  /-- How many of them are left if the line ends here. -/
  kept : Option Nat := none
  /-- Whether the last separator was a blank. -/
  behindBlank : Bool := false

namespace LineCutter

/-- Adds a letter to what was read since the last cut. -/
def push (k : LineCutter) (c : Char) : LineCutter :=
  { k with current := c :: k.current }

/-- A letter of the last field. -/
def feedLast (k : LineCutter) (c : Char) (isSeparator isBlank : Bool) : LineCutter :=
  if isBlank then { k.push c with kept := k.kept.or k.current.length }
  else
    { k.push c with
      kept := if isSeparator && k.behindBlank then k.kept else none
      behindBlank := false }

/-- A separator that ends a field. -/
def cut (k : LineCutter) (c : Char) (isBlank : Bool) : LineCutter :=
  if isBlank && k.current.isEmpty then { k with behindBlank := false }
  else if k.left = 1 then
    { k.push c with left := 0, kept := some k.current.length, behindBlank := isBlank }
  else
    { fields := k.current.reverse :: k.fields, left := k.left - 1, behindBlank := isBlank }

/-- A letter. -/
def feed (separators : Chars) (k : LineCutter) (l : LineLetter) : LineCutter :=
  let (c, escaped) := l
  if escaped then { k.push c with behindBlank := false }
  else
    let isSeparator := separators.contains c
    let isBlank := isSeparator && usualSeparators.contains c
    if k.left = 0 then k.feedLast c isSeparator isBlank
    else if k.behindBlank then
      if isBlank then k
      else if isSeparator then { k with behindBlank := false }
      else { k.push c with behindBlank := false }
    else if isSeparator then k.cut c isBlank
    else k.push c

/-- The fields in the end. -/
def finish (k : LineCutter) : List Chars :=
  let last := k.current.reverse.take (k.kept.getD k.current.length)
  (if last.isEmpty then k.fields else last :: k.fields).reverse

end LineCutter

/-- The fields of a line, so many at most. -/
def lineFields (separators : Chars) (count : Nat) (letters : List LineLetter) : List Chars :=
  (letters.foldl (LineCutter.feed separators) { left := count }).finish

/-- Sets variables to the fields of a line, to nothing where there are too few. -/
def assignFields : List Chars → List Chars → Sh Unit
  | [], _ => return ()
  | name :: names, fields => do
    Sh.assign name (fields.headD [])
    assignFields names fields.tail

/-- Reads a line. -/
def readCommand (args : List Chars) : Sh Nat := do
  let (options, names) ← readOptions ['p', ':', 'r'] args
  if names.isEmpty then Sh.fail "arg count".toList
  let raw := options.any (·.1 = 'r')
  let text := (← Sh.act (Act.remaining 0)).toOption.getD []
  let (letters, count, ended) := lineLetters raw text
  Sh.act (Act.pass 0 count)
  assignFields names (lineFields (separators (← get)) names.length letters)
  return if ended then 0 else 1

/-! ## Options -/

/-- What the search for an option found. -/
structure FoundOption where
  /-- The letter, or a sign that something is wrong. -/
  letter : Char
  /-- The argument of the option; nothing if the variable for it is to go. -/
  value : Option Chars := some []
  /-- The number of the argument to look at next. -/
  index : Nat
  /-- How far into the argument before that one the letters were read. -/
  offset : Option Nat := none
  /-- What is complained. -/
  complaint : Chars := []

/-- What the search for an option finds in a word whose number is one less than `index`, behind so
many characters. -/
def optionAt (allowed : Chars) (args : List Chars) (index offset : Nat) (letters : Chars) :
    FoundOption :=
  let silent := allowed.head? = some ':'
  match letters with
  | [] => { letter := '?', index }
  | c :: more =>
    match optionKind allowed c with
    | none =>
      if silent then
        { letter := '?', value := some [c], index, offset := some (offset + 1) }
      else
        { letter := '?', value := none, index, offset := some (offset + 1),
          complaint := "Illegal option -".toList ++ [c] }
    | some false => { letter := c, index, offset := some (offset + 1) }
    | some true =>
      if !more.isEmpty then { letter := c, value := some more, index }
      else match args[index - 1]? with
        | some value => { letter := c, value := some value, index := index + 1 }
        | none =>
          if silent then
            { letter := ':', value := some [c], index, offset := some (offset + 1) }
          else
            { letter := '?', value := none, index, offset := some (offset + 1),
              complaint := "No arg for -".toList ++ c :: " option".toList }

/-- What the search for the next option finds, nothing if there are no more, and the number of the
argument to look at next. -/
def nextOption (allowed : Chars) (args : List Chars) (index : Nat) (offset : Option Nat) :
    Except Nat FoundOption :=
  let before := if index ≤ 1 then [] else args.getD (index - 2) []
  let rest := offset.elim [] before.drop
  if index > 1 && !rest.isEmpty then
    .ok (optionAt allowed args index (offset.getD 0) rest)
  else match args[index - 1]? with
    | some ('-' :: c :: more) =>
      if c = '-' && more.isEmpty then .error (index + 1)
      else .ok (optionAt allowed args (index + 1) 1 (c :: more))
    | _ => .error index

/-- Finds the next option. -/
def getoptsCommand (args : List Chars) : Sh Nat := do
  match args with
  | allowed :: name :: more =>
    let s ← get
    let words := if more.isEmpty then s.args else more
    let tooFar := s.optionIndex > words.length + 1
    let index := if tooFar then 1 else s.optionIndex
    let offset := if tooFar then none else s.optionOffset
    let note (index : Nat) (offset : Option Nat) : Sh Unit := do
      Sh.assign "OPTIND".toList (Chars.ofNat index)
      modify ({ · with optionIndex := index, optionOffset := offset })
    match nextOption allowed words index offset with
    | .error index =>
      note index none
      Sh.assign name ['?']
      return 1
    | .ok found =>
      if !found.complaint.isEmpty then Sh.act (Act.complain found.complaint)
      match found.value with
      | some value => Sh.assign "OPTARG".toList value
      | none => Sh.unassign "OPTARG".toList
      note found.index found.offset
      Sh.assign name [found.letter]
      return 0
  | _ => Sh.fail "Usage: getopts optstring var [arg...]".toList

end Shakedown.Shell

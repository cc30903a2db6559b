import Shakedown.Build.Expansion

/-!
# Reading makefiles

A makefile is read line by line: conditions decide which lines count, assignments set variables, and
a rule goes on over the lines behind it that begin with a tab, its recipe.
-/

set_option autoImplicit false

namespace Shakedown.Build

/-! ## Lines -/

/-- Whether a line goes on in the next one. -/
def goesOn (line : Chars) : Bool :=
  (line.reverse.takeWhile (· = '\\')).length % 2 = 1

/-- Lines with their numbers, those that go on put together with what follows them. -/
def logicalLines : Option (Nat × Chars) → Nat → List Chars → List (Nat × Chars)
  | none, _, [] => []
  | some waiting, _, [] => [waiting]
  | waiting?, number, line :: more =>
    let (first, text) := match waiting? with
      | none => (number, line)
      | some (first, before) => (first, before ++ '\n' :: line)
    if goesOn line then logicalLines (some (first, text)) (number + 1) more
    else (first, text) :: logicalLines none (number + 1) more

/-- A line with a single space for every place where it goes on. -/
def unfolded (line : Chars) : Chars :=
  match line.splitBy fun a _ => a ≠ '\n' with
  | [] => []
  | parts =>
    let last := parts.length - 1
    let cleaned := parts.zipIdx.map fun (part, n) =>
      let part := if n = last then part else part.dropLast.dropLast
      let part := if n = last then part else (part.reverse.dropWhile Chars.isSpace).reverse
      if n = 0 then part else part.dropWhile Chars.isSpace
    Chars.spaced cleaned

/-- A line of a recipe without the tabs at the beginning of the lines that it goes on in. -/
def recipeText (line : Chars) : Chars :=
  let parts := Chars.splitAt '\n' line
  Chars.joined ['\n'] (parts.map fun part => if part.head? = some '\t' then part.tail else part)

/-- A line without its comment. -/
def withoutComment : Chars → Chars
  | [] => []
  | '\\' :: '#' :: more => '#' :: withoutComment more
  | c :: more => if c = '#' then [] else c :: withoutComment more

/-! ## Assignments -/

/-- The signs of assignments, longer ones first. -/
def settingSigns : List (String × Setting) :=
  [(":::=", .early), ("::=", .early), (":=", .early), ("+=", .append), ("?=", .default),
    ("!=", .output), ("=", .late)]

/-- The assignment that a line is, if it is one. -/
def assignment? (line : Chars) : Option Assignment :=
  let line := line.dropWhile Chars.isSpace
  let (name, rest) := cutAt (fun c => Chars.isSpace c || c = '=' || c = ':') line
  let isMarked := rest.head? = some '=' && (name.getLast?).any "+?!".toList.contains
  let (name, rest) := if isMarked then (name.dropLast, name.drop (name.length - 1) ++ rest)
    else (name, rest.dropWhile Chars.isSpace)
  match settingSigns.find? fun (sign, _) => sign.toList.isPrefixOf rest with
  | none => none
  | some (sign, setting) =>
    some { name, setting, text := (rest.drop sign.length).dropWhile Chars.isSpace }

/-- The assignment that a line is behind words that tell more about it. -/
def markedAssignment? : Nat → Chars → Option Assignment
  | 0, _ => none
  | n + 1, line =>
    let line := line.dropWhile Chars.isSpace
    let word := line.takeWhile (!Chars.isSpace ·)
    let rest := (line.drop word.length).dropWhile Chars.isSpace
    let isMark := ["override", "export", "private"].any (·.toList = word)
      && (settingSigns.all fun (sign, _) => !sign.toList.isPrefixOf rest)
    if isMark then
      (markedAssignment? n rest).map fun a =>
        { a with
          insists := a.insists || word = "override".toList
          exports := a.exports || word = "export".toList }
    else assignment? line

/-! ## The state of reading -/

/-- A condition whose lines are being read. -/
structure Condition where
  /-- Whether the lines count. -/
  holds : Bool
  /-- Whether lines of it counted already. -/
  held : Bool
  /-- Whether what is left is for the case that nothing else held. -/
  isLast : Bool := false

/-- A rule whose recipe is being read. -/
structure Pending where
  /-- The rule for every target. -/
  rules : List Rule
  /-- The lines of the recipe, latest first. -/
  lines : Recipe := []

/-- A variable whose text is being read. -/
structure Definition where
  /-- How it is set. -/
  assignment : Assignment
  /-- The lines, latest first. -/
  lines : List Chars := []

/-- How far reading is. -/
structure ReadState where
  /-- The rule that is being read. -/
  pending? : Option Pending := none
  /-- The variable that is being read. -/
  definition? : Option Definition := none
  /-- The conditions, innermost first. -/
  conditions : List Condition := []

/-- What reading does. -/
abbrev Read := StateT ReadState Make

/-! ## Rules -/

/-- The suffixes that rules can be written for. -/
def usualSuffixes : List String :=
  [".out", ".a", ".ln", ".o", ".c", ".cc", ".C", ".cpp", ".p", ".f", ".F", ".m", ".r", ".y", ".l",
    ".s", ".S", ".mod", ".sym", ".def", ".h", ".info", ".dvi", ".tex", ".texinfo", ".texi", ".w",
    ".ch", ".web", ".sh", ".elc", ".el"]

/-- The suffixes that there are. -/
def suffixes (s : State) : List Chars :=
  usualSuffixes.map String.toList
    ++ (s.rules.filter (·.target = ".SUFFIXES".toList)).flatMap Rule.prerequisites

/-- The pattern rule that a rule for suffixes stands for. -/
def suffixRule? (known : List Chars) (r : Rule) : Option Rule :=
  if !r.prerequisites.isEmpty || r.recipe?.isNone then none
  else if known.contains r.target then
    some { r with target := ['%'], prerequisites := ['%' :: r.target] }
  else
    (known.find? fun a => a.isPrefixOf r.target && known.contains (r.target.drop a.length)).map
      fun a => { r with
        target := '%' :: r.target.drop a.length
        prerequisites := ['%' :: a] }

/-- Warns about a recipe that replaces another one. -/
def warnOfReplacement (r : Rule) : Make Unit := do
  if r.isDouble then return
  match r.recipe? with
  | some ((place, _) :: _) =>
    match (← get).rules.reverse.find? fun old => old.target = r.target && old.recipe?.isSome with
    | some { recipe? := some ((before, _) :: _), .. } =>
      Act.complain (place.text ++ ": warning: overriding recipe for target '".toList ++ r.target
        ++ ['\''])
      Act.complain (before.text ++ ": warning: ignoring old recipe for target '".toList
        ++ r.target ++ ['\''])
    | _ => return
  | _ => return

/-- Takes a rule in. -/
def addRule (r : Rule) : Make Unit := do
  if isPattern r.target && r.stem.isEmpty then
    modify fun s => { s with patterns := s.patterns ++ [r] }
  else
    warnOfReplacement r
    match suffixRule? (suffixes (← get)) r with
    | some p => modify fun s => { s with patterns := s.patterns ++ [p] }
    | none => pure ()
    modify fun s => { s with rules := s.rules ++ [r] }

/-- Ends the rule that is being read. -/
def endRule : Read Unit := do
  match (← get).pending? with
  | none => return
  | some p =>
    modify ({ · with pending? := none })
    for r in p.rules do
      addRule (if p.lines.isEmpty then r else { r with recipe? := some p.lines.reverse })

/-- Notes a first target. -/
def noteGoal (target : Chars) : Make Unit := do
  let isSpecial := target.head? = some '.' && !target.contains '/'
  if (← get).goal?.isNone && !isSpecial && !isPattern target then
    modify ({ · with goal? := some target })

/-- Words with the paths put in that patterns of the shell among them stand for. -/
def withPaths (words : List Chars) : Make (List Chars) := do
  let p ← getThe Process
  return words.flatMap fun word =>
    if word.any "*?[".toList.contains then
      match wildcard p word with
      | [] => [word]
      | paths => paths
    else [word]

/-- Begins a rule for targets with the text behind the colon. -/
def beginRule (targets : List Chars) (isDouble : Bool) (text : Chars) : Read Unit := do
  let (first, rest) := cutAt (· = ':') text
  let (pattern?, text) := if rest.isEmpty then (none, text) else (some (stripped first), rest.tail)
  let normal := text.takeWhile (· ≠ '|')
  let prerequisites ← withPaths (wordsOf normal)
  let orderOnly ← withPaths (wordsOf (text.drop (normal.length + 1)))
  if let some pattern := pattern? then
    if !isPattern pattern then Make.fail "target pattern contains no '%'".toList
  let rules := targets.map fun target =>
    let stem := match pattern? with
      | none => []
      | some pattern => (stem? pattern target).getD []
    let fill := fun (words : List Chars) =>
      if pattern?.isSome then words.map (withStem stem) else words
    ({ target, prerequisites := fill prerequisites, orderOnly := fill orderOnly, stem, isDouble }
      : Rule)
  for target in targets do
    noteGoal target
  modify ({ · with pending? := some { rules } })

/-- Complains about a line that is nothing at all. -/
def missingSeparator {α : Type} (line : Chars) : Make α :=
  if "        ".toList.isPrefixOf line then
    Make.fail "missing separator (did you mean TAB instead of 8 spaces?)".toList
  else Make.fail "missing separator".toList

/-- Reads the first line of a rule. -/
def readRule (place : FilePlace) (line : Chars) : Read Unit := do
  let (front, recipe) := cutAt (fun c => c = ';' || c = '#') line
  let (left, right) := cutAt (· = ':') front
  let isDouble := right.take 2 = [':', ':']
  let behind := right.drop (if isDouble then 2 else 1)
  match if right.isEmpty then none else markedAssignment? 5 behind with
  | some a =>
    let whole := if recipe.head? = some ';' then { a with text := a.text ++ recipe } else a
    for target in ← withPaths (wordsOf (← expand left)) do
      modifyThe State fun s => { s with assignments := s.assignments ++ [(target, whole)] }
  | none =>
    let text ← expand front
    let (left, right) := cutAt (· = ':') text
    if right.isEmpty then
      if !(wordsOf text).isEmpty then missingSeparator line
    else
      let isDouble := right.take 2 = [':', ':']
      let targets ← withPaths (wordsOf left)
      if targets.isEmpty then modify ({ · with pending? := some { rules := [] } })
      else
        beginRule targets isDouble (right.drop (if isDouble then 2 else 1))
        if recipe.head? = some ';' then
          modify fun s => { s with pending? := s.pending?.map fun p =>
            { p with lines := [(place, recipe.tail)] } }

/-! ## Conditions -/

/-- Whether all lines count at the moment. -/
def counts : Read Bool := do
  return (← get).conditions.all Condition.holds

/-- The two texts that a condition compares. -/
def comparedTexts (text : Chars) : Make (Chars × Chars) := do
  let bad := Make.fail "invalid syntax in conditional".toList
  match stripped text with
  | '(' :: rest =>
    match cutReference '(' ')' 0 rest with
    | some (inside, []) =>
      match argumentsOf 2 0 [] inside with
      | [a, b] => return (← expand (stripped a), ← expand (stripped b))
      | _ => bad
    | _ => bad
  | q :: rest =>
    if q = '"' || q = '\'' then
      let a := rest.takeWhile (· ≠ q)
      match (rest.drop (a.length + 1)).dropWhile Chars.isSpace with
      | r :: more =>
        let b := more.takeWhile (· ≠ r)
        if (r = '"' || r = '\'') && b.length < more.length then
          return (← expand a, ← expand b)
        else bad
      | [] => bad
    else bad
  | [] => bad

/-- Whether the condition of a word holds. -/
def conditionHolds (word : String) (text : Chars) : Make Bool := do
  match word with
  | "ifeq" =>
    let (a, b) ← comparedTexts text
    return a = b
  | "ifneq" =>
    let (a, b) ← comparedTexts text
    return a ≠ b
  | _ =>
    let name := stripped (← expand text)
    let isSet := ((← Make.lookUp name).map fun v => !v.text.isEmpty).getD false
    return isSet = (word = "ifdef")

/-- The words that begin conditions. -/
def conditionWords : List String := ["ifeq", "ifneq", "ifdef", "ifndef"]

/-- Goes on with the other case of the innermost condition. -/
def otherCase (rest : Chars) : Read Unit := do
  match (← get).conditions with
  | [] => Make.fail "extraneous 'else'".toList
  | c :: outer =>
    if c.isLast then Make.fail "only one 'else' per conditional".toList
    let word := rest.takeWhile (!Chars.isSpace ·)
    let outside := outer.all Condition.holds
    if rest.isEmpty then
      let c := { holds := outside && !c.held, held := true, isLast := true : Condition }
      modify ({ · with conditions := c :: outer })
    else match conditionWords.find? (·.toList = word) with
      | none => Make.fail "extraneous text after 'else' directive".toList
      | some name =>
        let holds ← if outside && !c.held then conditionHolds name (rest.drop word.length)
          else pure false
        modify ({ · with conditions := { holds, held := c.held || holds } :: outer })

/-- Takes a line that belongs to conditions; tells whether it is one. -/
def readCondition (line : Chars) : Read Bool := do
  let line := stripped (withoutComment line)
  let word := line.takeWhile (!Chars.isSpace ·)
  let rest := (line.drop word.length).dropWhile Chars.isSpace
  if word = "endif".toList then
    match (← get).conditions with
    | [] => Make.fail "extraneous 'endif'".toList
    | _ :: outer => modify ({ · with conditions := outer })
    return true
  else if word = "else".toList then
    otherCase rest
    return true
  else match conditionWords.find? (·.toList = word) with
    | none => return false
    | some name =>
      let holds ← if ← counts then conditionHolds name rest else pure false
      modify fun s => { s with conditions := { holds, held := holds } :: s.conditions }
      return true

/-! ## Lines -/

/-- The words behind a word at the beginning of a line, if it is there. -/
def behindWord? (word : String) (line : Chars) : Option Chars :=
  let line := line.dropWhile Chars.isSpace
  let first := line.takeWhile (!Chars.isSpace ·)
  if first = word.toList then some ((line.drop first.length).dropWhile Chars.isSpace) else none

/-- Marks variables as exported, or not. -/
def markExported (exported : Bool) (names : List Chars) : Make Unit := do
  if names.isEmpty then modify ({ · with exportsAll := exported })
  for name in names do
    match ← Make.lookUp name with
    | some v => Make.put name { v with exported }
    | none => if exported then Make.put name { text := [], origin := .file, exported }

/-- The beginning of a variable with several lines. -/
def definition? (line : Chars) : Option Assignment :=
  match behindWord? "define" line with
  | none => none
  | some rest =>
    match assignment? rest with
    | some a => some a
    | none => some { name := stripped rest, setting := .late, text := [] }

/-- Takes a line of a variable with several lines. -/
def readDefinition (d : Definition) (line : Chars) : Read Unit := do
  if (behindWord? "endef" (withoutComment line)).isSome then
    modify ({ · with definition? := none })
    assign .file { d.assignment with text := Chars.joined ['\n'] d.lines.reverse }
  else modify ({ · with definition? := some { d with lines := line :: d.lines } })

/-- Takes a line that is neither in a recipe nor belongs to a condition. -/
def readPlain (include_ : Bool → Chars → Read Unit) (place : FilePlace) (line : Chars) :
    Read Unit := do
  let text := withoutComment line
  if (wordsOf text).isEmpty then return
  endRule
  match definition? text with
  | some assignment => modify ({ · with definition? := some { assignment } })
  | none =>
    match markedAssignment? 5 text with
    | some a => assign .file a
    | none =>
      if let some rest := behindWord? "export" text then
        markExported true (wordsOf (← expand rest))
      else if let some rest := behindWord? "unexport" text then
        markExported false (wordsOf (← expand rest))
      else if let some rest := behindWord? "undefine" text then
        let name := stripped (← expand rest)
        modifyThe State fun s => { s with bindings := s.bindings.filter (·.1 ≠ name) }
      else if let some rest := behindWord? "include" text then
        for path in ← withPaths (wordsOf (← expand rest)) do include_ true path
      else if let some rest := (behindWord? "-include" text).or (behindWord? "sinclude" text) then
        for path in ← withPaths (wordsOf (← expand rest)) do include_ false path
      else if (behindWord? "vpath" text).isSome then return
      else
        if line.head? = some '\t' then
          if (← getThe State).rules.isEmpty then
            Make.fail "recipe commences before first target".toList
          else missingSeparator line
        readRule place line

/-- Reads a line. -/
def readLine (include_ : Bool → Chars → Read Unit) (place : FilePlace) (line : Chars) :
    Read Unit := do
  modifyThe State ({ · with place? := some place })
  let s ← get
  match s.definition? with
  | some d => if ← counts then readDefinition d line
  | none =>
    match s.pending?, line with
    | some p, '\t' :: more =>
      if ← counts then
        modify ({ · with pending? := some { p with
          lines := (place, recipeText more) :: p.lines } })
    | _, _ =>
      let plain := unfolded line
      if !(← readCondition plain) && (← counts) then readPlain include_ place plain

/-- Complains about a file that should be included. -/
def cannotInclude (path : Chars) (e : Fault) : Make Unit := do
  let front ← match (← get).place? with
    | some p => pure p.text
    | none => Make.programName
  Act.complain (front ++ ": ".toList ++ path ++ ": ".toList ++ Act.reason e)
  modify ({ · with place? := none })
  Make.fail ("No rule to make target '".toList ++ path ++ ['\''])

/-- Reads a makefile that may include others so deep. -/
def readFile : Nat → Bool → Chars → Read Unit
  | 0, _, _ => return
  | n + 1, demanded, path => do
    match ← Act.readPath path with
    | .error e => if demanded then cannotInclude path e
    | .ok text =>
      let outer := (← get).conditions
      let place? := (← getThe State).place?
      modify ({ · with conditions := [] })
      endRule
      for (number, line) in logicalLines none 1 (Chars.lines text) do
        readLine (readFile n) { file := path, line := number } line
      let ending : FilePlace := { file := path, line := (Chars.lines text).length + 1 }
      modifyThe State ({ · with place? := some ending })
      if !(← get).conditions.isEmpty then Make.fail "missing 'endif'".toList
      if (← get).definition?.isSome then
        Make.fail "missing 'endef', unterminated 'define'".toList
      endRule
      modifyThe State ({ · with place? := place? })
      modify ({ · with conditions := outer })

/-- How deep makefiles may include others. -/
def includeDepth : Nat := 50

/-- Reads a makefile. -/
def readMakefile (path : Chars) : Make Unit := do
  let _ ← (readFile includeDepth true path).run {}

end Shakedown.Build

import Shakedown.Build.Read
import Shakedown.Process.Property
import Shakedown.Process.Signal

/-!
# Bringing targets up to date

A target is made if it is missing or older than something that it depends on, after that itself was
brought up to date. Who has no recipe of its own may get one from a rule for a pattern.
-/

set_option autoImplicit false

namespace Shakedown.Build

/-! ## Rules that are always there -/

/-- The text of the recipe of a rule that is always there. -/
def builtinRule (target prerequisite : String) (recipe : List String) : Rule :=
  { target := target.toList
    prerequisites := [prerequisite.toList]
    recipe? := some (recipe.map fun line =>
      ({ file := "<builtin>".toList, line := 0 : FilePlace }, line.toList)) }

/-- The rules that are always there. -/
def builtinRules : List Rule :=
  [builtinRule "%" "%.o" ["$(LINK.o) $^ $(LOADLIBES) $(LDLIBS) -o $@"],
    builtinRule "%" "%.c" ["$(LINK.c) $^ $(LOADLIBES) $(LDLIBS) -o $@"],
    builtinRule "%.o" "%.c" ["$(COMPILE.c) $(OUTPUT_OPTION) $<"],
    builtinRule "%" "%.cc" ["$(LINK.cc) $^ $(LOADLIBES) $(LDLIBS) -o $@"],
    builtinRule "%.o" "%.cc" ["$(COMPILE.cc) $(OUTPUT_OPTION) $<"],
    builtinRule "%" "%.cpp" ["$(LINK.cpp) $^ $(LOADLIBES) $(LDLIBS) -o $@"],
    builtinRule "%.o" "%.cpp" ["$(COMPILE.cpp) $(OUTPUT_OPTION) $<"],
    builtinRule "%" "%.s" ["$(LINK.s) $^ $(LOADLIBES) $(LDLIBS) -o $@"],
    builtinRule "%.o" "%.s" ["$(COMPILE.s) -o $@ $<"],
    builtinRule "%" "%.sh" ["cat $< >$@ ", "chmod a+x $@"]]

/-- The variables that are always there. -/
def builtinVariables : List (String × String) :=
  [("CC", "cc"), ("CXX", "g++"), ("CPP", "$(CC) -E"), ("AR", "ar"), ("ARFLAGS", "-rv"),
    ("AS", "as"), ("LD", "ld"), ("FC", "f77"), ("LEX", "lex"), ("YACC", "yacc"), ("RM", "rm -f"),
    ("SHELL", "/bin/sh"), (".SHELLFLAGS", "-c"), ("MAKE", "$(MAKE_COMMAND)"),
    ("MAKE_VERSION", "4.3"), ("OUTPUT_OPTION", "-o $@"),
    ("COMPILE.c", "$(CC) $(CFLAGS) $(CPPFLAGS) $(TARGET_ARCH) -c"),
    ("COMPILE.cc", "$(CXX) $(CXXFLAGS) $(CPPFLAGS) $(TARGET_ARCH) -c"),
    ("COMPILE.cpp", "$(COMPILE.cc)"), ("COMPILE.s", "$(AS) $(ASFLAGS) $(TARGET_MACH)"),
    ("LINK.o", "$(CC) $(LDFLAGS) $(TARGET_ARCH)"),
    ("LINK.c", "$(CC) $(CFLAGS) $(CPPFLAGS) $(LDFLAGS) $(TARGET_ARCH)"),
    ("LINK.cc", "$(CXX) $(CXXFLAGS) $(CPPFLAGS) $(LDFLAGS) $(TARGET_ARCH)"),
    ("LINK.cpp", "$(LINK.cc)"), ("LINK.s", "$(CC) $(ASFLAGS) $(LDFLAGS) $(TARGET_MACH)")]

/-! ## Rules for targets -/

/-- How a target is made. -/
structure Way where
  /-- What it depends on. -/
  prerequisites : List Chars := []
  /-- What has to be there first. -/
  orderOnly : List Chars := []
  /-- The recipe. -/
  recipe? : Option Recipe := none
  /-- The stem. -/
  stem : Chars := []
  /-- Whether the recipe is run even if nothing is missing or old. -/
  isUnconditional : Bool := false

/-- The rules for a target. -/
def rulesFor (s : State) (target : Chars) : List Rule :=
  s.rules.filter (·.target = target)

/-- The prerequisites of a special target. -/
def listed (s : State) (special : String) : List Chars :=
  (rulesFor s special.toList).flatMap Rule.prerequisites

/-- Whether a special target holds for a target: it does for all if nothing is named. -/
def isMarked (s : State) (special : String) (target : Chars) : Bool :=
  let rules := rulesFor s special.toList
  !rules.isEmpty && (rules.all (·.prerequisites.isEmpty)
    || (rules.flatMap Rule.prerequisites).contains target)

/-- Whether a target is no file. -/
def isPhony (s : State) (target : Chars) : Bool :=
  (listed s ".PHONY").contains target

/-- Whether something is a target or something that one depends on. -/
def isMentioned (s : State) (name : Chars) : Bool :=
  s.rules.any fun r => r.target = name || r.prerequisites.contains name

/-- When a file was last changed, if it is there. -/
def modified? (p : Process) (path : Chars) : Option Nat :=
  (p.node? path true).map fun (_, n) => p.world.tree.timeOf n

/-- What the percent sign of a pattern stands for in a target, and the directory that goes in front
of prerequisites. -/
def ruleStem? (pattern target : Chars) : Option (Chars × Chars) :=
  if pattern.contains '/' || !target.contains '/' then
    match stem? pattern target with
    | some stem => if stem.isEmpty then none else some ([], stem)
    | none => none
  else
    match stem? pattern (nameOf target) with
    | some stem => if stem.isEmpty then none else some (directoryOf target, stem)
    | none => none

/-- The way that a rule for a pattern gives for a target, if what it depends on can be there. -/
def wayByPattern? (s : State) (p : Process) (target : Chars) (r : Rule) : Option Way :=
  match r.recipe?, ruleStem? r.target target with
  | some recipe, some (directory, stem) =>
    let fill := fun (word : Chars) =>
      if isPattern word then directory ++ withStem stem word else word
    let prerequisites := r.prerequisites.map fill
    if prerequisites.all fun q => (p.node? q true).isSome || isMentioned s q then
      some { prerequisites, orderOnly := r.orderOnly.map fill, recipe? := some recipe
             stem := directory ++ stem }
    else none
  | _, _ => none

/-- The known suffix at the end of a target taken off. -/
def stemOfTarget (s : State) (target : Chars) : Chars :=
  match (suffixes s).find? fun a => a.isSuffixOf target && a.length < target.length with
  | some a => target.take (target.length - a.length)
  | none => []

/-- The way of a target by its own rules; the prerequisites of the one with the recipe come
first. -/
def explicitWay (s : State) (target : Chars) (rules : List Rule) : Way :=
  let main? := rules.reverse.find? (·.recipe?.isSome)
  let others := match main? with
    | none => rules
    | some _ => rules.filter (·.recipe?.isNone)
  let ordered := main?.toList ++ others
  { prerequisites := ordered.flatMap Rule.prerequisites
    orderOnly := ordered.flatMap Rule.orderOnly
    recipe? := main?.bind Rule.recipe?
    stem := match ordered.find? (!·.stem.isEmpty) with
      | some r => r.stem
      | none => stemOfTarget s target }

/-- The way of a target, if there is one. -/
def way? (s : State) (p : Process) (target : Chars) : Option Way :=
  let rules := rulesFor s target
  let own := explicitWay s target rules
  let patterns := s.patterns ++ if s.options.bare then [] else builtinRules
  let isOwn := own.recipe?.isSome || isPhony s target
  match if isOwn then none else patterns.findSome? (wayByPattern? s p target) with
  | some w =>
    some { w with
      prerequisites := w.prerequisites ++ own.prerequisites
      orderOnly := w.orderOnly ++ own.orderOnly }
  | none =>
    if !rules.isEmpty then some own
    else if (p.node? target true).isSome then none
    else
      match (rulesFor s ".DEFAULT".toList).getLast? with
      | some r => some { recipe? := r.recipe? }
      | none => none

/-! ## Recipes -/

/-- A line of a recipe as it is run. -/
structure RecipeLine where
  /-- The text. -/
  text : Chars
  /-- Whether it is not shown. -/
  isSilent : Bool
  /-- Whether a failure does not matter. -/
  isCareless : Bool
  /-- Whether it is run in any case. -/
  isAlways : Bool

/-- A line with the signs in front of it read. -/
def readRecipeLine (mentionsItself : Bool) (text : Chars) : RecipeLine :=
  let marks := text.takeWhile fun c => c = '@' || c = '-' || c = '+' || c = ' ' || c = '\t'
  { text := text.drop marks.length
    isSilent := marks.contains '@'
    isCareless := marks.contains '-'
    isAlways := marks.contains '+' || mentionsItself }

/-- A text cut at the newlines before which there is no backslash. -/
def separateLines : Chars → List Chars
  | [] => [[]]
  | '\\' :: '\n' :: more =>
    match separateLines more with
    | [] => []
    | s :: rest => ('\\' :: '\n' :: s) :: rest
  | c :: more =>
    match separateLines more with
    | [] => []
    | s :: rest => if c = '\n' then [] :: s :: rest else (c :: s) :: rest

/-- The characters that only a shell understands. -/
def shellSigns : Chars := "#;\"*?[]&|<>()\x7b\x7d$\x60^~!\n".toList

/-- The commands that only a shell has. -/
def shellWords : List String :=
  [".", ":", "alias", "bg", "break", "case", "cd", "command", "continue", "eval", "exec", "exit",
    "export", "fc", "fg", "for", "getopts", "hash", "if", "jobs", "login", "logout", "read",
    "readonly", "return", "set", "shift", "test", "times", "trap", "type", "ulimit", "umask",
    "unalias", "unset", "wait", "while"]

/-- The words of a line without signs of a shell. -/
def plainWords : Bool → Option Chars → Chars → List Chars
  | _, word?, [] => word?.toList
  | true, word?, c :: more =>
    if c = '\'' then plainWords false word? more
    else plainWords true (some (word?.getD [] ++ [c])) more
  | false, word?, '\\' :: c :: more => plainWords false (some (word?.getD [] ++ [c])) more
  | false, word?, c :: more =>
    if c = '\'' then plainWords true (some (word?.getD [])) more
    else if c = ' ' || c = '\t' then word?.toList ++ plainWords false none more
    else plainWords false (some (word?.getD [] ++ [c])) more

/-- The words of a program that a line runs, through a shell where it needs one. -/
def programOf (shell text : Chars) : List Chars :=
  let words := plainWords false none text
  let first := words.headD []
  if shell ≠ usualShell || text.any shellSigns.contains || first.contains '='
      || shellWords.any (·.toList = first) then
    [shell, ['-', 'c'], text]
  else words

/-- Runs a program. -/
def runProgram (words : List Chars) : Make Ending := do
  let host ← read
  let s ← get
  let name ← Make.programName
  Act.child do
    modify fun p => { p with env := environmentFor s p.env }
    let e ← Act.become host words
    Act.complain (name ++ ": ".toList ++ words.headD [] ++ ": ".toList ++ Act.reason e)
    Act.exit 127

/-- How a program ended that failed. -/
def endingText : Ending → Chars
  | .exited status => "Error ".toList ++ Chars.ofNat status.toNat
  | .killed signal => Signal.description signal

/-- Runs a line of a recipe; tells whether all is well. -/
def runLine (place : FilePlace) (target : Chars) (l : RecipeLine) : Make Bool := do
  let s ← get
  let isSilent := (l.isSilent || s.options.silent || isMarked s ".SILENT" target) && !s.options.dry
  let isCareless := l.isCareless || s.options.careless || isMarked s ".IGNORE" target
  modify fun s => { s with runs := s.runs + 1 }
  if !isSilent then Act.writeLine l.text
  if s.options.dry && !l.isAlways then return true
  let shell ← expand "$(SHELL)".toList
  match ← runProgram (programOf shell l.text) with
  | .exited 0 => return true
  | ending =>
    let where_ := if place.line = 0 then place.file else place.text
    let message := '[' :: where_ ++ ": ".toList ++ target ++ "] ".toList ++ endingText ending
    if isCareless then
      Make.grumble (message ++ " (ignored)".toList)
      return true
    Make.grumble ("*** ".toList ++ message)
    return false

/-- Whether a line runs the program itself once more. -/
def mentionsItself (text : Chars) : Bool :=
  occurs "$(MAKE)".toList text || occurs "$\x7bMAKE\x7d".toList text

/-- Runs the lines of a recipe; tells whether all is well. -/
def runRecipe (target : Chars) (recipe : Recipe) : Make Bool := do
  for (place, text) in recipe do
    modify ({ · with place? := some place })
    let expanded ← expand text
    modify ({ · with place? := none })
    for line in separateLines expanded do
      let l := readRecipeLine (mentionsItself text) line
      if !(stripped l.text).isEmpty then
        if !(← runLine place target l) then return false
  return true

/-- Changes the time of a target, which is made if it is missing. -/
def touch (target : Chars) : Make Unit := do
  modify fun s => { s with runs := s.runs + 1 }
  if !(← get).options.silent then Act.writeLine ("touch ".toList ++ target)
  if (modified? (← getThe Process) target).isNone then
    let _ ← Act.openPath .append target
  let _ ← Act.changeTree fun t cwd time => t.setTime cwd ⟨Chars.toBytes target⟩ time

/-- Removes a target whose recipe failed. -/
def discard (target : Chars) (before? : Option Nat) : Make Unit := do
  let now? := modified? (← getThe Process) target
  if now?.isSome && now? ≠ before? && !isPhony (← get) target then
    Make.grumble ("*** Deleting file '".toList ++ target ++ ['\''])
    let _ ← Act.changeTree fun t cwd time => t.unlink cwd ⟨Chars.toBytes target⟩ time

/-! ## Targets -/

/-- Sets the variables that tell about a target. -/
def setAutomatics (target : Chars) (w : Way) (newer : List Chars) : Make Unit := do
  let unique := withoutRepeats w.prerequisites
  for (name, text) in
    [('@', target), ('<', w.prerequisites.headD []), ('^', Chars.spaced unique),
      ('+', Chars.spaced w.prerequisites), ('?', Chars.spaced (withoutRepeats newer)),
      ('*', w.stem), ('|', Chars.spaced (withoutRepeats w.orderOnly))] do
    Make.put [name] { text, late := false, origin := .automatic }

/-- Makes a target by its recipe. -/
def make (target : Chars) (w : Way) (newer : List Chars) : Make Standing := do
  match w.recipe? with
  | none => return .fresh
  | some recipe =>
    let options := (← get).options
    if options.asking then Act.exit 1
    let before? := modified? (← getThe Process) target
    setAutomatics target w newer
    let isPhony := isPhony (← get) target
    let succeeded ← if options.touching && !isPhony then do
        touch target
        pure true
      else runRecipe target recipe
    if succeeded then
      let isThere := (modified? (← getThe Process) target).isSome
      return if isPhony || !isThere || options.dry then .fresh else .made
    else
      if isMarked (← get) ".DELETE_ON_ERROR" target then discard target before?
      if options.persistent then return .failed else Act.exit Make.failureStatus

/-- Complains that nothing tells how a target is made. -/
def noRule (parent? : Option Chars) (target : Chars) : Make Standing := do
  let message := "No rule to make target '".toList ++ target ++ '\'' :: match parent? with
    | none => []
    | some parent => ", needed by '".toList ++ parent ++ ['\'']
  if (← get).options.persistent then
    Make.grumble ("*** ".toList ++ message ++ ['.'])
    return .failed
  else Make.fail message

/-- Brings prerequisites up to date, but for those that the target is needed for itself. -/
def updateAll (recur : Chars → Make Standing) (target : Chars) :
    List Chars → Make (List (Chars × Standing))
  | [] => return []
  | q :: more => do
    if (← get).ongoing.contains q then
      Make.grumble ("Circular ".toList ++ target ++ " <- ".toList ++ q
        ++ " dependency dropped.".toList)
      updateAll recur target more
    else
      let standing ← recur q
      return (q, standing) :: (← updateAll recur target more)

/-- Whether something that a target of a time depends on counts as newer. -/
def isNewer (p : Process) (time : Nat) (q : Chars) (standing : Standing) : Bool :=
  match standing with
  | .fresh => true
  | _ => (modified? p q).all (· > time)

/-- Brings a target up to date in a way. -/
def follow (recur : Chars → Make Standing) (target : Chars) (w : Way) : Make Standing := do
  let found ← updateAll recur target w.prerequisites
  let others ← updateAll recur target w.orderOnly
  if (found ++ others).any fun (_, standing) => standing = .failed then return .failed
  let s ← get
  let p ← getThe Process
  let w := { w with prerequisites := found.map (·.1) }
  match if isPhony s target then none else modified? p target with
  | none => make target w (found.map (·.1))
  | some time =>
    let newer := (found.filter fun (q, standing) => isNewer p time q standing).map (·.1)
    if !newer.isEmpty || s.options.always || w.isUnconditional then make target w newer
    else return .current

/-- Brings a target up to date. -/
def updateBy (recur : Chars → Make Standing) (parent? : Option Chars) (target : Chars) :
    Make Standing := do
  let s ← get
  let rules := rulesFor s target
  if rules.any Rule.isDouble then
    let mut all := Standing.current
    for r in rules do
      let w := { explicitWay s target [r] with isUnconditional := r.prerequisites.isEmpty }
      match ← follow recur target w with
      | .current => pure ()
      | standing => all := standing
    return all
  else match way? s (← getThe Process) target with
    | some w => follow recur target w
    | none =>
      if (modified? (← getThe Process) target).isSome then return .current
      else noRule parent? target

/-- Brings a target up to date that another one may need, over so many steps at most. -/
def update : Nat → Option Chars → Chars → Make Standing
  | 0, _, _ => return .failed
  | n + 1, parent?, target => do
    match (← get).finished.lookup target with
    | some standing => return standing
    | none =>
      let before := (← get).bindings
      modify fun s => { s with ongoing := target :: s.ongoing }
      for (name, a) in (← get).assignments do
        if name = target || (stem? name target).isSome then assign .file a
      let standing ← updateBy (update n (some target)) parent? target
      modify fun s => { s with
        bindings := before
        ongoing := s.ongoing.drop 1
        finished := (target, standing) :: s.finished }
      return standing

/-- How long a chain of targets may be that depend on one another. -/
def chainLength : Nat := 400

/-- Whether a target failed for the sake of something that it depends on. -/
def isBlocked (s : State) (target : Chars) : Bool :=
  (rulesFor s target).any fun r => r.prerequisites.any fun q =>
    s.finished.lookup q = some .failed

/-- Brings a goal up to date; tells whether that failed. -/
def updateGoal (goal : Chars) : Make Bool := do
  let before := (← get).runs
  let standing ← update chainLength none goal
  let s ← get
  if standing = .failed then
    if isBlocked s goal then
      Make.grumble ("Target '".toList ++ goal ++ "' not remade because of errors.".toList)
    return true
  if s.runs = before && !s.options.silent && !s.options.asking then
    let hasRecipe := ((way? s (← getThe Process) goal).bind Way.recipe?).isSome
    if hasRecipe && !isPhony s goal then
      Make.tell ('\'' :: goal ++ "' is up to date.".toList)
    else Make.tell ("Nothing to be done for '".toList ++ goal ++ "'.".toList)
  return false

end Shakedown.Build

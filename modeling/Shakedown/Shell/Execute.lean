import Shakedown.Shell.Builtin

/-!
# Executing commands

What a shell does for a command. The commands inside of a command are left to a `Runner`; `execute`
ties the knot with a bound on the depth, beyond which a shell is ended as one that has used up its
stack.
-/

set_option autoImplicit false

namespace Shakedown.Shell

/-! ## Simple commands -/

/-- What carries out a simple command. -/
inductive Callee where
  /-- A function. -/
  | function (d : Definition)
  /-- A builtin command. -/
  | builtin (b : Builtin)
  /-- A program. -/
  | program

/-- A simple command whose words are known. -/
structure Call where
  /-- The words, with the name first. -/
  words : List Chars
  /-- What carries it out. -/
  callee : Callee
  /-- Whether a mistake ends the shell, and assignments last. -/
  isSpecial : Bool := false
  /-- Whether programs are looked for on the usual search path. -/
  usualPath : Bool := false

namespace Runner

/-- The arguments of the first words that stand for any, and the words behind those. -/
def firstFields (r : Runner) : List (List Piece) → Sh (List Chars × List (List Piece))
  | [] => return ([], [])
  | word :: more => do
    let fields ← expandArguments r.capture word
    if fields.isEmpty then firstFields r more else return (fields, more)

/-- The pieces of the name in an assignment, and those of the value. -/
def assignmentPieces (word : List Piece) : Chars × List Piece :=
  let isName : Piece → Bool
    | .plain c => isNameChar c
    | _ => false
  ((literal? (word.takeWhile isName)).getD [], (word.dropWhile isName).tail)

/-- The name and the value of an assignment. -/
def expandAssignment (r : Runner) (word : List Piece) : Sh (Chars × Chars) := do
  let (name, value) := assignmentPieces word
  return (name, ← expandText r.capture Mode.assigned value)

/-- An assignment as one word. -/
def joinedAssignment (name value : Chars) : Chars :=
  name ++ '=' :: value

/-- The arguments of words. Where `assigns`, those that look like assignments are not split. -/
def otherFields (r : Runner) (assigns : Bool) : List (List Piece) → Sh (List Chars)
  | [] => return []
  | word :: more => do
    let fields ← if assigns && isAssignment word then do
        let (name, value) ← expandAssignment r word
        pure [joinedAssignment name value]
      else expandArguments r.capture word
    return fields ++ (← otherFields r assigns more)

/-- The command that another one is asked to run without regard to functions. -/
structure Inner where
  /-- The words that were passed over, latest first. -/
  passed : List Chars
  /-- The arguments from the command on. -/
  fields : List Chars
  /-- The words that are not expanded yet. -/
  rest : List (List Piece)
  /-- Whether the usual search path is asked for. -/
  usualPath : Bool := false
  /-- Whether there is a command. -/
  isThere : Bool := false

/-- The inner command with at least one argument, if there is one left. -/
def Inner.filled (r : Runner) (i : Inner) : Sh Inner := do
  if i.fields.isEmpty then
    let (fields, rest) ← r.firstFields i.rest
    return { i with fields, rest }
  else return i

/-- Passes over the options in front of an inner command, so many at most. -/
def Inner.pass (r : Runner) : Nat → Inner → Sh Inner
  | 0, i => return i
  | n + 1, i => do
    let i ← i.filled r
    match i.fields with
    | [] => return i
    | word :: more =>
      let behind := { i with passed := word :: i.passed, fields := more }
      match word with
      | ['-', '-'] =>
        let j ← behind.filled r
        return if j.fields.isEmpty then i else { j with isThere := true }
      | '-' :: c :: letters =>
        if (c :: letters).all (· = 'p') then pass r n { behind with usualPath := true }
        else return i
      | _ => return { i with isThere := true }

/-- What carries out a command of a name. -/
def calleeOf (s : Shell) (skipsFunctions : Bool) (name : Chars) : Callee :=
  match if skipsFunctions then none else s.functions.lookup name with
  | some d => .function d
  | none =>
    match builtin? name with
    | some b => .builtin b
    | none => .program

/-- The name of the command that runs others without regard to functions. -/
def commandName : Chars := "command".toList

/-- The call of an inner command, which may be one that runs others again. -/
def innerCall (r : Runner) : Nat → Inner → Sh Call
  | 0, i => return { words := i.fields, callee := .program }
  | n + 1, i => do
    let i ← i.pass r (i.fields.length + i.rest.length + 1)
    let s ← get
    match i.isThere, i.fields with
    | true, name :: more =>
      if name = commandName then
        innerCall r n { i with passed := name :: i.passed, fields := more, isThere := false }
      else
        let callee := calleeOf s true name
        let assigns := match callee with
          | .builtin b => b.assigns
          | _ => false
        let words := i.fields ++ (← r.otherFields assigns i.rest)
        return { words, callee, usualPath := i.usualPath }
    | _, _ =>
      let words := i.passed.reverse ++ i.fields ++ (← r.otherFields false i.rest)
      return { words, callee := calleeOf s true commandName }

/-- The call that words stand for, if there is one. -/
def callOf (r : Runner) (words : List (List Piece)) : Sh (Option Call) := do
  match ← r.firstFields words with
  | ([], _) => return none
  | (name :: more, rest) =>
    match calleeOf (← get) false name with
    | .builtin b =>
      if b.name.toList = commandName then
        return some (← r.innerCall (words.length + 1) { passed := [name], fields := more, rest })
      else
        let fields ← r.otherFields b.assigns rest
        return some
          { words := name :: more ++ fields, callee := .builtin b, isSpecial := b.isSpecial }
    | callee =>
      return some { words := name :: more ++ (← r.otherFields false rest), callee }

/-! ### Showing commands -/

/-- The letter of the option under which commands are shown before they are run. -/
def traceOption : Char := 'x'

/-- A text with its parameters, commands and expressions replaced. -/
def expandQuoted (r : Runner) (text : Chars) : Sh Chars := do
  let s ← get
  let reader : Reader :=
    { rest := text, left := text.length, line := 1, nextDocument := s.nextDocument }
  match parseQuoted reader with
  | .ok (pieces, _) => expandText r.capture {} pieces
  | .error _ => return text

/-- Shows a command through an open file. -/
def trace (r : Runner) (number : Option Nat) (words : List Chars) : Sh Unit := do
  let s ← get
  if s.has traceOption && !s.showing then
    modify ({ · with showing := true })
    let front ← Sh.always (r.expandQuoted (s.getD "PS4")) (modify ({ · with showing := false }))
    match number with
    | some n =>
      let _ ← Sh.act (Act.putTo n (front ++ Chars.spaced words ++ Chars.newline))
    | none => return ()

/-! ### Carrying out commands -/

/-- Carries out a builtin command. -/
def callBuiltin (r : Runner) (m : Manner) (b : Builtin) (name : Chars) (args : List Chars) :
    Sh Unit := do
  let before := (← get).command
  modify fun s => { s with command := some name, process := { s.process with fault := none } }
  Sh.always
    (do
      let status ← b.run r m args
      if (← get).process.fault.isSome then
        Sh.complain (name ++ ": I/O error".toList)
        Sh.leave (status ||| 1)
      else Sh.leave status)
    (modify ({ · with command := before }))

/-- How many functions may be run inside of one another. -/
def callDepth : Nat := 1000

/-- Carries out a function. -/
def callFunction (r : Runner) (m : Manner) (d : Definition) (args : List Chars) : Sh Unit := do
  let before ← get
  if before.calls ≥ callDepth then
    Sh.fail <| "Maximum function recursion depth (".toList ++ Chars.ofNat callDepth
      ++ ") reached".toList
  modify fun s => { withArgs s args with loops := 0, calls := s.calls + 1 }
  let result ← Sh.attempt <| Sh.always (r.run { tested := m.tested } d.body) <| modify fun s =>
    { s with
      args := before.args
      optionIndex := before.optionIndex
      optionOffset := before.optionOffset
      loops := before.loops
      calls := before.calls }
  match result with
  | .error .returns => return ()
  | .error e => throw e
  | .ok () => return ()

/-- Whether something is to be done when a signal comes, or at the end. -/
def hasTraps (s : Shell) : Bool :=
  s.traps.any fun (_, action) => !action.isEmpty

/-- Whether jobs wait to be run. -/
def hasPending (s : Shell) : Bool :=
  s.jobs.any (!·.hasEnded)

/-- Carries out a program. The shell becomes the program if it has nothing else to do. -/
def callProgram (r : Runner) (m : Manner) (call : Call) : Sh Unit := do
  let s ← get
  let name := call.words.headD []
  let directories := if call.usualPath then Chars.splitAt ':' usualPath else searchDirectories s
  match findProgram s directories name with
  | .error e =>
    Sh.complain (name ++ ": ".toList ++ programReason e)
    Sh.leave 127
  | .ok _ =>
    if !name.contains '/' then
      modify fun s => { s with known := name :: s.known.filter (· ≠ name) }
    if m.last && !hasTraps s && !hasPending s then becomeProgram r directories call.words
    else
      if name = sleepName then r.catchUp else r.keepPace
      r.waitFor (becomeProgram r directories call.words)

/-- Carries out a call. -/
def carryOut (r : Runner) (m : Manner) (call : Call) : Sh Unit :=
  match call.callee with
  | .function d => r.callFunction m d call.words.tail
  | .builtin b => do
    match ← Sh.attempt (r.callBuiltin m b (call.words.headD []) call.words.tail) with
    | .ok () => return ()
    | .error .fails => if call.isSpecial then throw .fails
    | .error e => throw e
  | .program => r.callProgram m call

/-- Whether a callee keeps the redirections of its call. -/
def Callee.keepsRedirections : Callee → Bool
  | .builtin b => b.name = "exec"
  | _ => false

/-- Sets a variable in front of a call: for the call alone, or to last. -/
def assignFor (isLocal exported : Bool) (name value : Chars) : Sh Unit := do
  if isLocal then hide name
  Sh.assign name value
  if isLocal || exported then modify (·.modifyVariable name ({ · with exported := true }))

/-- Sets variables in front of a call, and answers them as words. -/
def assignAll (r : Runner) (isLocal exported : Bool) : List (List Piece) → Sh (List Chars)
  | [] => return []
  | word :: more => do
    let (name, value) ← r.expandAssignment word
    assignFor isLocal exported name value
    return joinedAssignment name value :: (← assignAll r isLocal exported more)

/-- Runs a command with redirections, which are taken back unless they are kept. A mistake in them
is one of the command. -/
def withTargets (keeps isSpecial : Bool) (targets : List (Redirection Target)) (a : Sh Unit) :
    Sh Unit := do
  let saved := savedDescriptors (← get) targets
  let body : Sh Unit := do
    if ← redirectAll targets then a
    else
      Sh.leave 2
      if isSpecial then throw .fails
  if keeps then body else Sh.always body (giveBack saved)

/-- Runs a simple command without words: its assignments last. -/
def runAssignments (r : Runner) (assignments : List (List Piece))
    (redirections : List (Redirection (List Piece))) : Sh Unit := do
  let errors := (← get).process.descriptors.lookup 2
  let targets ← targetsOf r.capture redirections
  withTargets false false targets do
    r.trace errors (← r.assignAll false false assignments)
    Sh.leave (← get).wordStatus

/-- Runs a simple command with words. -/
def runCall (r : Runner) (m : Manner) (call : Call) (assignments : List (List Piece))
    (redirections : List (Redirection (List Piece))) : Sh Unit := do
  let errors := (← get).process.descriptors.lookup 2
  let keeps := Callee.keepsRedirections call.callee
  let body : Sh Unit := do
    let targets ← targetsOf r.capture redirections
    withTargets keeps call.isSpecial targets do
      let exported := keeps && call.words.length > 1
      let shown ← r.assignAll (!call.isSpecial) exported assignments
      r.trace errors (shown ++ call.words)
      r.carryOut m call
  if call.isSpecial then body else withFrame body

/-- Runs a simple command. -/
def runSimple (r : Runner) (m : Manner) (line : Nat) (assignments words : List (List Piece))
    (redirections : List (Redirection (List Piece))) : Sh Unit := do
  modify ({ · with complaintLine := line, wordStatus := 0 })
  match ← r.callOf words with
  | none =>
    if assignments.isEmpty && redirections.isEmpty && words.isEmpty then return ()
    else r.runAssignments assignments redirections
  | some call => r.runCall m call assignments redirections

/-! ## Processes of their own -/

/-- Runs a command in a subshell, or in this shell if it ends with it. -/
def runSubshell (r : Runner) (m : Manner) (line : Nat) (body : Command)
    (redirections : List (Redirection (List Piece))) : Sh Unit := do
  modify ({ · with complaintLine := line })
  let targets ← targetsOf r.capture redirections
  let inside : Sh Unit := do
    if ← redirectAll targets then r.run { tested := m.tested, last := true } body
    else
      Sh.leave 2
      throw .exits
  let s ← get
  if m.last && !hasTraps s && !hasPending s then
    inside
    throw .exits
  else r.waitFor inside

/-- Runs a command of a pipeline with its input and its output. -/
def runStage (r : Runner) (m : Manner) (input output : Option Nat) (c : Command) : Sh Ending :=
  r.subshell do
    modifyProcess fun p =>
      let p := input.elim p (p.withDescriptor 0)
      output.elim p (p.withDescriptor 1)
    r.run { tested := m.tested, last := true } c

/-- Opens a pipe, and answers the open files to write and to read it. -/
def openPipe : Sh (Nat × Nat) := do
  let (world, number, writer) :=
    (← get).process.world.addCollector (some World.pipeLimit)
  let (world, reader) := world.addOpen { channel := .buffer number, readable := true }
  modifyProcess ({ · with world })
  return (writer, reader)

/-- Runs the commands of a pipeline, the first of which has an input. -/
def runStages (r : Runner) (m : Manner) : Option Nat → List Command → Sh Unit
  | _, [] => return ()
  | input, [c] => do
    let e ← r.runStage m input none c
    report e
    Sh.leave e.status
  | input, c :: more => do
    let (writer, reader) ← openPipe
    report (← r.runStage m input (some writer) c)
    runStages r m (some reader) more

/-- The path of what a command reads that is not waited for. -/
def nullPath : Chars := "/dev/null".toList

/-- Notes a command as a job. -/
def runBackground (line : Nat) (body : Command)
    (redirections : List (Redirection (List Piece))) : Sh Unit := do
  modify ({ · with complaintLine := line })
  let input ← Sh.act (Act.openPath .read nullPath)
  let s ← get
  let number := s.process.world.started + 1
  let command : Command :=
    if redirections.isEmpty then body else .redirected line body redirections
  let process := input.toOption.elim s.process (s.process.withDescriptor 0)
  let job : Job := { number, state := .pending { s.toMemory with process } command }
  set { s with
    process := { s.process with world := s.process.world.withProcess number }
    status := 0
    lastJob := number
    jobs := job :: s.jobs.filter fun j => !(j.waited && j.hasEnded) }

/-! ## Loops and choices -/

/-- Runs something as a loop whose rounds leave statuses, and leaves the last one. -/
def inLoop (a : Sh Nat) : Sh Unit := do
  modify fun s => { s with loops := s.loops + 1 }
  let status ← Sh.always a (modify fun s => { s with loops := s.loops - 1 })
  Sh.leave status

/-- Runs the body of a loop, and answers its status and whether another round may follow. What stops
it may stop outer loops, too. -/
def runBody (r : Runner) (m : Manner) (body : Command) : Sh (Nat × Bool) := do
  match ← Sh.attempt (r.run { tested := m.tested } body) with
  | .ok () => return ((← get).status, true)
  | .error (.breaks n) =>
    if n ≤ 1 then return ((← get).status, false) else throw (.breaks (n - 1))
  | .error (.continues n) =>
    if n ≤ 1 then return ((← get).status, true) else throw (.continues (n - 1))
  | .error e => throw e

/-- How often a loop may run. -/
def roundLimit : Nat := 10000000

/-- Runs a loop with a condition. -/
def runLoop (r : Runner) (m : Manner) (wanted : Bool) (condition body : Command) : Sh Unit :=
  inLoop <| Sh.iterating
    (fun status => do
      match ← Sh.attempt (r.run { tested := true } condition) with
      | .ok () =>
        if decide ((← get).status = 0) = wanted then r.runBody m body else return (status, false)
      | .error (.breaks n) =>
        if n ≤ 1 then return (status, false) else throw (.breaks (n - 1))
      | .error (.continues n) =>
        if n ≤ 1 then return (status, true) else throw (.continues (n - 1))
      | .error e => throw e)
    roundLimit 0

/-- Runs a loop over values. -/
def runEach (r : Runner) (m : Manner) (name : Chars) (body : Command) (values : List Chars) :
    Sh Unit :=
  inLoop do
    let (status, _) ← Sh.iterating
      (fun (status, values) => do
        match values with
        | [] => return ((status, []), false)
        | value :: more =>
          Sh.assign name value
          let (status, goesOn) ← r.runBody m body
          return ((status, more), goesOn))
      (values.length + 1) (0, values)
    return status

/-- The command of the first pattern that a text is as. -/
def chosen (r : Runner) (text : Chars) :
    List (List (List Piece) × Command) → Sh (Option Command)
  | [] => return none
  | (patterns, c) :: more => do
    if ← matchesAny patterns then return some c else chosen r text more
where
  /-- Whether the text is as one of several patterns. -/
  matchesAny : List (List Piece) → Sh Bool
    | [] => return false
    | p :: more => do
      if (← expandPattern r.capture p).holds text then return true else matchesAny more

/-- Runs a choice between commands. -/
def runChoice (r : Runner) (m : Manner) (subject : List Piece)
    (cases : List (List (List Piece) × Command)) : Sh Unit := do
  let text ← expandText r.capture Mode.single subject
  match ← r.chosen text cases with
  | none => Sh.leave 0
  | some .idle => Sh.leave 0
  | some c => r.run m c

/-! ## All commands -/

/-- Runs one command after the other. -/
def runSequence (r : Runner) (m : Manner) : List Command → Sh Unit
  | [] => return ()
  | [c] => r.run m c
  | c :: more => do
    r.run { tested := m.tested } c
    runSequence r m more

/-- The letter of the option under which a failure ends the shell. -/
def failureOption : Char := 'e'

/-- Runs something after which a failure may end the shell. -/
def checked (m : Manner) (a : Sh Unit) : Sh Unit := do
  let ends := (← get).has failureOption && !m.tested
  a
  if ends && (← get).status ≠ 0 then throw .exits

/-- Runs a command whose redirections are taken back. -/
def runRedirected (r : Runner) (m : Manner) (line : Nat) (c : Command)
    (redirections : List (Redirection (List Piece))) : Sh Unit := do
  modify ({ · with complaintLine := line })
  let targets ← targetsOf r.capture redirections
  redirectedWith targets (r.run { tested := m.tested } c)

/-- Runs a command by the rules for its kind. -/
def runKind (r : Runner) (m : Manner) : Command → Sh Unit
  | .idle => return ()
  | .simple line assignments words redirections =>
    checked m (r.runSimple m line assignments words redirections)
  | .sequence commands => r.runSequence m commands
  | .both a b => do
    r.run { tested := true } a
    if (← get).status = 0 then r.run m b
  | .either a b => do
    r.run { tested := true } a
    if (← get).status ≠ 0 then r.run m b
  | .negation c => do
    r.run { tested := true } c
    Sh.leave (if (← get).status = 0 then 1 else 0)
  | .pipeline commands => checked m (r.runStages m none commands)
  | .background line c redirections => checked m (runBackground line c redirections)
  | .subshell line c redirections => checked m (r.runSubshell m line c redirections)
  | .redirected line c redirections => r.runRedirected m line c redirections
  | .branch condition body otherwise => do
    r.run { tested := true } condition
    match (← get).status, otherwise with
    | 0, _ => r.run m body
    | _, .idle => Sh.leave 0
    | _, _ => r.run m otherwise
  | .loop wanted condition body => r.runLoop m wanted condition body
  | .each line name words body => do
    modify ({ · with complaintLine := line })
    r.runEach m name body (← r.otherFields false words)
  | .choice line subject cases => do
    modify ({ · with complaintLine := line })
    r.runChoice m subject cases
  | .definition line name body => do
    modify fun s =>
      { s with functions := (name, ⟨line, body⟩) :: s.functions.filter (·.1 ≠ name), status := 0 }

end Runner

/-- The signal that ends a shell that has used up its stack. -/
def stackSignal : Nat := 11

/-- Runs a command, so deep at most. -/
def execute (host : Host) : Nat → Manner → Command → Sh Unit
  | 0, _, _ => throw (.ended (.killed stackSignal))
  | n + 1, m, c => do
    let r : Runner := { host, run := execute host n }
    if !(← get).has Runner.idleOption then
      r.runKind m c
      r.dealWithSignals

/-- How deep commands may be run inside of one another. -/
def executionDepth : Nat := 20000

/-- How a shell runs commands that may start programs. -/
def runner (host : Host) : Runner :=
  { host, run := execute host executionDepth }

end Shakedown.Shell

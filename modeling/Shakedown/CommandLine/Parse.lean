import Shakedown.CommandLine.Basic

/-!
# Reading the command line

Arguments are read from left to right. A value that was read is kept pending until the next argument
that is understood, or the end, settles it; only then is it checked. So of two mistakes the one
that is understood first decides the error: an unknown argument wins over a bad value right before
it.

After the last argument two environment variables stand in for options that were not given, then
options that exclude each other are refused, and last of all a missing compiler.
-/

set_option autoImplicit false

namespace Shakedown

/-! ## Names -/

/-- The long name of an option with a value. -/
def Parameter.longName : Parameter → String
  | .plan => "plan"
  | .projectDir => "project-dir"
  | .buildTool => "build-tool"
  | .referenceCompiler => "reference-cc"

/-- The environment variable that stands in for an option. -/
def Parameter.standIn : Parameter → Option String
  | .plan => some "CCGAUNTLET_PLAN"
  | .referenceCompiler => some "CCGAUNTLET_REFERENCE_CC"
  | _ => none

/-- Every option with a value. -/
def Parameter.all : List Parameter :=
  [.plan, .projectDir, .buildTool, .referenceCompiler]

/-- The long name of an option without a value. -/
def Flag.longName : Flag → String
  | .failFast => "fail-fast"
  | .dryRun => "dry-run"
  | .verbose => "verbose"
  | .quiet => "quiet"
  | .json => "json"
  | .help => "help"
  | .version => "version"

/-- Every option without a value. -/
def Flag.all : List Flag :=
  [.failFast, .dryRun, .verbose, .quiet, .json, .help, .version]

/-- An option of either kind. -/
inductive Switch where
  /-- With a value. -/
  | parameter (p : Parameter)
  /-- Without one. -/
  | flag (f : Flag)
  deriving DecidableEq, Repr

/-- The option with a long name. -/
def Switch.ofLong (name : Bytes) : Option Switch :=
  match Parameter.all.find? fun p => Utf8.bytes p.longName = name with
  | some p => some (.parameter p)
  | none => (Flag.all.find? fun f => Utf8.bytes f.longName = name).map .flag

/-- The option with a letter. -/
def Switch.ofLetter (letter : UInt8) : Option Switch :=
  if letter = 0x43 then some (.parameter .projectDir)
  else if letter = 0x76 then some (.flag .verbose)
  else if letter = 0x71 then some (.flag .quiet)
  else if letter = 0x68 then some (.flag .help)
  else if letter = 0x56 then some (.flag .version)
  else none

/-! ## What is known while arguments are read -/

namespace CommandLine

/-- A command line under way. -/
structure Draft where
  compiler : Option String := none
  plan : Option Path := none
  projectDir : Option Path := none
  buildTool : Option String := none
  referenceCompiler : Option String := none
  failFast : Bool := false
  dryRun : Bool := false
  verbose : UInt8 := 0
  quiet : Bool := false
  json : Bool := false
  deriving DecidableEq, Repr

/-- A value that is a path. -/
def pathValue (value : Bytes) : Except UsageError Path :=
  if value = [] then .error .invalidValue else .ok ⟨value⟩

/-- A value that is a text. -/
def textValue (value : Bytes) : Except UsageError String :=
  match Utf8.decode? value with
  | none => .error .notText
  | some cs => .ok (String.ofList cs)

namespace Draft

/-- Whether an option already has a value. -/
def has (d : Draft) : Parameter → Bool
  | .plan => d.plan.isSome
  | .projectDir => d.projectDir.isSome
  | .buildTool => d.buildTool.isSome
  | .referenceCompiler => d.referenceCompiler.isSome

/-- Gives an option its value. -/
def give (d : Draft) (p : Parameter) (value : Bytes) : Except UsageError Draft :=
  match p with
  | .plan => (pathValue value).map fun v => { d with plan := some v }
  | .projectDir => (pathValue value).map fun v => { d with projectDir := some v }
  | .buildTool => (textValue value).map fun v => { d with buildTool := some v }
  | .referenceCompiler => (textValue value).map fun v => { d with referenceCompiler := some v }

/-- Gives an option its value on the command line, where it may have only one. -/
def giveOnce (d : Draft) (p : Parameter) (value : Bytes) : Except UsageError Draft :=
  if d.has p then .error .conflict else d.give p value

/-- Names the compiler. -/
def name (d : Draft) (value : Bytes) : Except UsageError Draft :=
  if value = [] then .error .invalidValue
  else (textValue value).map fun v => { d with compiler := some v }

/-- Raises an option without a value. Only the verbosity may be raised again, and it stops at the
greatest value of its type. -/
def raise (d : Draft) : Flag → Except UsageError Draft
  | .failFast => if d.failFast then .error .conflict else .ok { d with failFast := true }
  | .dryRun => if d.dryRun then .error .conflict else .ok { d with dryRun := true }
  | .verbose => .ok { d with verbose := if d.verbose = 255 then 255 else d.verbose + 1 }
  | .quiet => if d.quiet then .error .conflict else .ok { d with quiet := true }
  | .json => if d.json then .error .conflict else .ok { d with json := true }
  | .help => .error .help
  | .version => .error .version

end Draft

/-- What has been read and not yet settled. -/
inductive Pending where
  /-- Nothing. -/
  | nothing
  /-- An option that waits for its value. -/
  | awaiting (p : Parameter)
  /-- An option with its value. -/
  | given (p : Parameter) (value : Bytes)
  /-- The compiler's name. -/
  | named (value : Bytes)
  deriving DecidableEq, Repr

/-- Where the reader of the arguments stands. -/
structure Reading where
  /-- What is settled. -/
  draft : Draft := {}
  /-- What is not. -/
  pending : Pending := .nothing
  /-- Whether `--` has been read: all that follows is no option. -/
  literal : Bool := false
  deriving DecidableEq, Repr

namespace Reading

/-- Settles what is pending. -/
def settle (r : Reading) : Except UsageError Draft :=
  match r.pending with
  | .nothing => .ok r.draft
  | .awaiting _ => .error .invalidValue
  | .given p value => r.draft.giveOnce p value
  | .named value => r.draft.name value

/-- Whether the compiler has been named. -/
def isNamed (r : Reading) : Bool :=
  r.draft.compiler.isSome || match r.pending with
    | .named _ => true
    | _ => false

/-- An argument that is no option: the compiler. -/
def positional (r : Reading) (value : Bytes) : Except UsageError Reading :=
  if r.isNamed then .error .unknownArgument
  else r.settle.map fun draft => { r with draft, pending := .named value }

/-- An argument that may be the value of the option before it. -/
def value (r : Reading) (argument : Bytes) : Except UsageError Reading :=
  match r.pending with
  | .awaiting p => .ok { r with pending := .given p argument }
  | _ => r.positional argument

/-- An option with a value, which may be attached. -/
def parameter (r : Reading) (p : Parameter) (attached : Option Bytes) :
    Except UsageError Reading :=
  match r.settle with
  | .error e => .error e
  | .ok draft =>
    match attached with
    | none => .ok { r with draft, pending := .awaiting p }
    | some value =>
      (draft.giveOnce p value).map fun draft => { r with draft, pending := .nothing }

/-- An option without a value. -/
def flag (r : Reading) (f : Flag) : Except UsageError Reading :=
  match r.settle with
  | .error e => .error e
  | .ok draft => (draft.raise f).map fun draft => { r with draft, pending := .nothing }

/-- The sign between a long name and its value. -/
def equals : UInt8 := 0x3D

/-- The value behind a long name. -/
def attached (body : Bytes) : Option Bytes :=
  match body.dropWhile (· ≠ equals) with
  | [] => none
  | _ :: value => some value

/-- An option by its long name, the dashes taken off. -/
def long (r : Reading) (body : Bytes) : Except UsageError Reading :=
  match Switch.ofLong (body.takeWhile (· ≠ equals)) with
  | none => .error .unknownArgument
  | some (.parameter p) => r.parameter p (attached body)
  | some (.flag f) =>
    match attached body with
    | some _ => .error .unwantedValue
    | none => r.flag f

/-- The value behind a letter: what is left of the argument, an equals sign taken off. -/
def attachedToLetter : Bytes → Option Bytes
  | [] => none
  | c :: value => if c = equals then some value else some (c :: value)

/-- Options by their letters, the dash taken off. -/
def letters (r : Reading) : Bytes → Except UsageError Reading
  | [] => .ok r
  | c :: more =>
    match Switch.ofLetter c with
    | none => .error .unknownArgument
    | some (.parameter p) => r.parameter p (attachedToLetter more)
    | some (.flag f) =>
      match r.flag f with
      | .error e => .error e
      | .ok r => r.letters more

/-- One more argument. -/
def argument (r : Reading) (a : Bytes) : Except UsageError Reading :=
  if r.literal then r.positional a
  else match a with
    | [0x2D, 0x2D] => .ok { r with literal := true }
    | 0x2D :: 0x2D :: body => r.long body
    | 0x2D :: c :: body => r.letters (c :: body)
    | _ => r.value a

/-- All arguments in order. -/
def arguments (r : Reading) : List Bytes → Except UsageError Reading
  | [] => .ok r
  | a :: more =>
    match r.argument a with
    | .error e => .error e
    | .ok r => r.arguments more

end Reading

namespace Draft

/-- Lets an environment variable stand in for an option that was not given. -/
def consult (env : Environment) (d : Draft) (p : Parameter) : Except UsageError Draft :=
  match p.standIn with
  | none => .ok d
  | some name =>
    match env.get? (Utf8.bytes name) with
    | none => .ok d
    | some value => if d.has p then .ok d else d.give p value

/-- Lets environment variables stand in for all options. -/
def consultAll (env : Environment) (d : Draft) : List Parameter → Except UsageError Draft
  | [] => .ok d
  | p :: more =>
    match d.consult env p with
    | .error e => .error e
    | .ok d => d.consultAll env more

/-- The command line, if nothing in it excludes another and the compiler is named. -/
def finish (d : Draft) : Except UsageError CommandLine :=
  if d.quiet && d.json then .error .conflict
  else match d.compiler with
    | none => .error .missingCompiler
    | some compiler =>
      .ok
        { compiler
          plan := d.plan
          projectDir := d.projectDir
          buildTool := d.buildTool
          referenceCompiler := d.referenceCompiler
          failFast := d.failFast
          dryRun := d.dryRun
          verbose := d.verbose
          quiet := d.quiet
          json := d.json }

end Draft

/-- Reads the arguments, the program's own name left off. -/
def parse (env : Environment) (args : List Bytes) : Except UsageError CommandLine :=
  match Reading.arguments {} args with
  | .error e => .error e
  | .ok r =>
    match r.settle with
    | .error e => .error e
    | .ok d =>
      match d.consultAll env Parameter.all with
      | .error e => .error e
      | .ok d => d.finish

end CommandLine

end Shakedown

import Shakedown.Process.Property
import Shakedown.Text.Numeral
import Shakedown.Utility.Option

/-!
# Utilities for the surroundings of a process

Who runs it, on what system, with which environment and search path.
-/

set_option autoImplicit false

namespace Shakedown.Utility

/-- An environment variable as it is written. -/
def variableText (v : Bytes × Bytes) : Chars :=
  Chars.ofBytes v.1 ++ '=' :: Chars.ofBytes v.2

/-- Writes the environment, or the values of some variables. -/
def printenv : Utility := do
  let a ← Act.arguments [{ key := 'z', names := ["null"], hasLetter := false },
    { key := '0' }] true 2
  let ending : Chars := if a.has 'z' || a.has '0' then ['\x00'] else Chars.newline
  let env := (← get).env
  if a.operands.isEmpty then
    for v in env do
      Act.write (variableText v ++ ending)
    return 0
  let mut failed := false
  for name in a.operands do
    match env.get? (Chars.toBytes name) with
    | some value => Act.write (Chars.ofBytes value ++ ending)
    | none => failed := true
  return statusOf failed

/-- Complains if there is an operand. -/
def withoutOperands (a : Arguments) : Act Unit :=
  a.operands.head?.forM (Act.extraOperand ·)

/-- Writes the name of the user. -/
def whoami : Utility := do
  withoutOperands (← Act.arguments [])
  Act.writeLine "root".toList
  return 0

/-- Writes what the user is known as. -/
def id : Utility := do
  let a ← Act.arguments [.named 'u' "user", .named 'g' "group", .named 'G' "groups",
    .named 'n' "name", .named 'r' "real", .named 'z' "zero", { key := 'a' }]
  for user in a.operands do
    if user ≠ "root".toList && user ≠ ['0'] then
      Act.die (user.shown ++ ": no such user".toList)
  let chosen := (a.lastOf? ['u', 'g', 'G']).isSome
  if !chosen && a.has 'n' then
    Act.die "cannot print only names or real IDs in default format".toList
  Act.writeLine <|
    if !chosen then "uid=0(root) gid=0(root) groups=0(root)".toList
    else if a.has 'n' then "root".toList
    else ['0']
  return 0

/-- What `uname` tells by letters. -/
def systemFacts : List (Char × String) :=
  [('s', "Linux"), ('n', "localhost"), ('r', "6.1.0"), ('v', "#1 SMP"), ('m', "x86_64"),
    ('o', "GNU/Linux")]

/-- Tells about the system. -/
def uname : Utility := do
  let a ← Act.arguments [.named 'a' "all", .named 's' "kernel-name", .named 'n' "nodename",
    .named 'r' "kernel-release", .named 'v' "kernel-version", .named 'm' "machine",
    .named 'p' "processor", .named 'i' "hardware-platform", .named 'o' "operating-system"]
  withoutOperands a
  let wanted := fun key => a.has key || a.has 'a' || (a.options.isEmpty && key = 's')
  let unknown := ['p', 'i'].filter a.has
  let parts := systemFacts.filterMap fun (key, text) => if wanted key then some text.toList else none
  Act.writeLine (Chars.spaced (parts ++ unknown.map fun _ => "unknown".toList))
  return 0

/-- How many processors there are. -/
def nproc : Utility := do
  withoutOperands (← Act.arguments [.long 'a' "all", .long 'i' "ignore" .value])
  Act.writeLine ['4']
  return 0

/-- Tells that the input is no terminal. -/
def tty : Utility := do
  let a ← Act.arguments [.named 's' "silent", .long 'q' "quiet"]
  withoutOperands a
  if !(a.has 's' || a.has 'q') then Act.writeLine "not a tty".toList
  return 1

/-- Brings files to the disk, which needs nothing more than that they are there. -/
def sync : Utility := do
  let a ← Act.arguments [.named 'd' "data", .named 'f' "file-system"]
  let mut failed := false
  for path in a.operands do
    match ← Act.stat path with
    | .ok _ => pure ()
    | .error e =>
      Act.grumble ("error opening ".toList ++ path.shown ++ ": ".toList ++ Act.reason e)
      failed := true
  return statusOf failed

/-- Waits. Time passes at once, so that only the intervals have to make sense. -/
def sleep : Utility := do
  let a ← Act.arguments []
  if a.operands.isEmpty then Act.missingOperand
  let isInterval := fun word : Chars =>
    match Numeral.leadingReading? word with
    | some (.finite negative .., rest) =>
      !negative && (rest.isEmpty || (rest.length = 1 && rest.all "smhd".toList.contains))
    | some (.infinite negative, []) => !negative
    | _ => false
  let bad := a.operands.filter (!isInterval ·)
  for word in bad do
    Act.grumble ("invalid time interval ".toList ++ word.shown)
  if !bad.isEmpty then Act.referToHelp
  return 0

/-- Whether a path names a file that may be run. -/
def isRunnableAt (p : Process) (path : Chars) : Bool :=
  (p.node? path true).any fun (_, n) => p.world.tree.isPlainFile n && p.world.tree.isRunnable n

/-- Where a program is found on the search path. -/
def placesOf (p : Process) (name : Chars) : List Chars :=
  let candidates := if name.contains '/' then [name]
    else (Chars.splitAt ':' ((p.getEnv? "PATH").getD [])).map fun directory =>
      (if directory.isEmpty then ['.'] else directory) ++ '/' :: name
  candidates.filter (isRunnableAt p)

/-- Tells where programs are found. -/
def which : Utility := do
  let args := (← get).args
  let all := args.head? = some ['-', 'a']
  let names := if all || args.head? = some ['-', '-'] then args.tail else args
  let mut failed := names.isEmpty
  for name in names do
    let places := placesOf (← get) name
    if places.isEmpty then failed := true
    for place in if all then places else places.take 1 do
      Act.writeLine place
  return statusOf failed

end Shakedown.Utility

import Shakedown.Process.Signal
import Shakedown.Shell.Option

/-!
# Traps and signals

What a shell is to do when a signal comes, or at its end, and how it sends signals.
-/

set_option autoImplicit false

namespace Shakedown.Shell

/-- The number of a signal that an argument gives as a number or, from a least number on, by
name. -/
def signalOf? (least : Nat) (text : Chars) : Option Nat :=
  match Chars.decimal? text with
  | some n => if n ≤ Signal.largest then some n else none
  | none =>
    if least = 0 && text.map Char.toUpper = "EXIT".toList then some 0 else Signal.ofName? text

/-- The number of the first and of the last signal without a meaning of its own. -/
def freeSignals : Nat × Nat := (34, 64)

/-- The name of a signal as the shell tells it. -/
def signalName (number : Nat) : Chars :=
  let (first, last) := freeSignals
  let middle := (first + last) / 2
  if number = 0 then "EXIT".toList
  else if first ≤ number && number ≤ last then
    if number = first then "RTMIN".toList
    else if number = last then "RTMAX".toList
    else if number ≤ middle then "RTMIN+".toList ++ Chars.ofNat (number - first)
    else "RTMAX-".toList ++ Chars.ofNat (last - number)
  else if number = 16 then Chars.ofNat number
  else (Signal.name? number).elim (Chars.ofNat number) String.toList

/-! ## Traps -/

/-- Tells the process which signals it catches and which it ignores. -/
def noteTraps : Sh Unit :=
  modify fun s =>
    let (ignored, caught) := (s.traps.filter (·.1 ≠ 0)).partition (·.2.isEmpty)
    { s with
      process := { s.process with caught := caught.map (·.1), ignored := ignored.map (·.1) } }

/-- Sets or removes a trap. -/
def setTrap (action : Option Chars) (number : Nat) : Sh Unit := do
  modify fun s =>
    let others := s.traps.filter (·.1 ≠ number)
    { s with traps := action.elim others fun a => (number, a) :: others }
  noteTraps

/-- Lists the traps. -/
def showTraps : Sh Unit := do
  let traps := (← get).traps.mergeSort fun a b => decide (a.1 ≤ b.1)
  traps.forM fun (number, action) =>
    Sh.writeLine ("trap -- ".toList ++ quoted action ++ ' ' :: signalName number)

/-- Sets traps for signals up to the first one that there is not. -/
def setTraps (action : Option Chars) : List Chars → Sh Nat
  | [] => return 0
  | text :: more => do
    match signalOf? 0 text with
    | some number =>
      setTrap action number
      setTraps action more
    | none =>
      Sh.act (Act.complain ("trap: ".toList ++ text ++ ": bad trap".toList))
      return 1

/-- Sets or lists traps. -/
def trapCommand (args : List Chars) : Sh Nat := do
  match ← withoutOptions args with
  | [] =>
    showTraps
    return 0
  | first :: more =>
    if more.isEmpty || ((Chars.decimal? first).isSome && (signalOf? 0 first).isSome) then
      setTraps none (first :: more)
    else setTraps (if first = ['-'] then none else some first) more

/-! ## Sending signals -/

/-- Explains how signals are sent. -/
def failKill {α : Type} : Sh α :=
  Sh.fail <| "Usage: kill [-s sigspec | -signum | -sigspec] [pid | job]... or\n".toList
    ++ "kill -l [exitstatus]".toList

/-- Lists the names of signals. -/
def showSignals (args : List Chars) : Sh Nat := do
  match args with
  | [] =>
    Sh.writeLine ['0']
    (List.range Signal.largest).forM fun n => Sh.writeLine (signalName (n + 1))
  | text :: _ =>
    let n ← numberArgument text
    let number := if 128 < n then n - 128 else n
    if 0 < number && number ≤ Signal.largest then Sh.writeLine (signalName number)
    else Sh.fail ("invalid signal number or exit status: ".toList ++ text)
  return 0

/-- The number of the process that an argument means; nothing for one that cannot be. -/
def processOf (s : Shell) (text : Chars) : Sh (Option Nat) := do
  match text with
  | '%' :: more =>
    let n := (Chars.decimal? more).getD 0
    match if n = 0 then none else s.jobs.reverse[n - 1]? with
    | some job => return some job.number
    | none => Sh.fail ("No such job: ".toList ++ text)
  | '-' :: more =>
    let _ ← numberArgument more
    return none
  | _ => return some (← numberArgument text)

/-- Sends a signal to processes. -/
def sendSignals (number : Nat) : List Chars → Sh Nat
  | [] => return 0
  | text :: more => do
    let failed ← match ← processOf (← get) text with
      | none => pure (some Fault.noProcess)
      | some target => Sh.act (Act.signal target number)
    match failed with
    | none => sendSignals number more
    | some e =>
      Sh.complain (Act.reason e ++ Chars.newline)
      let _ ← sendSignals number more
      return 1

/-- Sends a signal, or lists them. -/
def killCommand (args : List Chars) : Sh Nat := do
  let (listed, signal?, targets) ← match args with
    | [] => failKill
    | first :: more =>
      match if first.head? = some '-' then signalOf? 1 first.tail else none with
      | some n => pure (false, some n, more)
      | none =>
        let (options, targets) ← readOptions ['l', 's', ':'] args
        let named ← options.filterMapM fun (letter, value) => do
          if letter ≠ 's' then return none
          else match signalOf? 1 value with
            | some n => return some n
            | none => Sh.fail ("invalid signal number or name: ".toList ++ value)
        pure (options.any (·.1 = 'l'), named.getLast?, targets)
  if listed then showSignals targets
  else if targets.isEmpty then failKill
  else sendSignals (signal?.getD Signal.terminate) targets

end Shakedown.Shell

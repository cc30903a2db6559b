import Shakedown.Process.Signal
import Shakedown.Utility.Option

/-!
# Sending signals

The utility `kill`, which sends a signal to processes or tells the names and numbers of signals.
-/

set_option autoImplicit false

namespace Shakedown.Utility.Kill

/-- How the utility is used. -/
def usage : Chars :=
  "\nUsage:\n kill [options] <pid> [...]\n\nOptions:\n".toList
  ++ " <pid> [...]            send signal to every <pid> listed\n".toList
  ++ " -<signal>, -s, --signal <signal>\n".toList
  ++ "                        specify the <signal> to be sent\n".toList
  ++ " -q, --queue <value>    integer value to be sent with the signal\n".toList
  ++ " -l, --list=[<signal>]  list all signal names, or convert one to a name\n".toList
  ++ " -L, --table            list all signal names in a nice table\n\n".toList
  ++ " -h, --help     display this help and exit\n".toList
  ++ " -V, --version  output version information and exit\n\n".toList
  ++ "For more details see kill(1).".toList

/-- Explains how the utility is used, and ends it. -/
def misused : Act UInt8 := do
  Act.complain usage
  return 1

/-- Complains about an argument that has no meaning, and ends the utility. -/
def refuse (letter : Chars) : Act UInt8 := do
  Act.grumble ("invalid argument ".toList ++ letter)
  misused

/-- The names of signals as they are listed. -/
def listedNames : List Chars :=
  Signal.names.map fun (name, number) => (if number = 29 then "POLL" else name).toList

/-- The number of a signal of a name, which may have a `SIG` in front. -/
def ofName? (word : Chars) : Option Nat :=
  let upper := word.map Char.toUpper
  let name := if upper.take 3 = "SIG".toList then upper.drop 3 else upper
  (listedNames.idxOf? name).map (· + 1)

/-- The number of a signal that a word gives as a number or by name. -/
def ofWord? (word : Chars) : Option Nat :=
  match Chars.decimal? word with
  | some n => if n ≤ Signal.largest then some n else none
  | none => ofName? word

/-- Words in lines that have room for so many letters. -/
def filled (room : Nat) : Chars → List Chars → List Chars
  | line, [] => [line]
  | [], word :: more => filled room word more
  | line, word :: more =>
    if line.length + word.length + 1 > room then line :: filled room word more
    else filled room (line ++ ' ' :: word) more

/-- Tells the names of signals, or the number for a name or the name for a number. -/
def tell (word? : Option Chars) : Act UInt8 := do
  match word? with
  | none =>
    (filled 80 [] listedNames).forM fun line => Act.writeLine line
    return 0
  | some word =>
    let number? := Chars.decimal? word
    match number?.bind fun n => if n = 0 then none else listedNames[n - 1]? with
    | some name =>
      Act.writeLine name
      return 0
    | none =>
      match if number?.isNone then ofName? word else none with
      | some n =>
        Act.writeLine (Chars.ofNat n)
        return 0
      | none =>
        Act.grumble ("unknown signal name ".toList ++ word)
        return 0

/-- Sends a signal to processes. -/
def send (signal : Nat) (words : List Chars) : Act UInt8 := do
  if words.isEmpty then return ← misused
  let mut failed := false
  for word in words do
    match Chars.decimal? word with
    | none => Act.die ("failed to parse argument: ".toList ++ word.shown)
    | some target =>
      if let some e := ← Act.signal target signal then
        Act.grumble ("(".toList ++ word ++ "): ".toList ++ Act.reason e)
        failed := true
  return statusOf failed

/-- Sends a signal, or tells about signals. -/
def kill : Utility := do
  match (← get).args with
  | [] => misused
  | word :: more =>
    if word = "-l".toList || word = "--list".toList then tell more.head?
    else if word.take 7 = "--list=".toList then tell (some (word.drop 7))
    else if word = "--".toList then send Signal.terminate more
    else if word = "-s".toList || word = "--signal".toList then
      match more with
      | name :: targets => (ofWord? name).elim (refuse ['s']) fun n => send n targets
      | [] => refuse ['s']
    else match word with
    | '-' :: name =>
      match ofWord? name with
      | some n => send n more
      | none => if word.length = 1 then send Signal.terminate (word :: more) else refuse (name.take 1)
    | _ => send Signal.terminate (word :: more)

end Shakedown.Utility.Kill

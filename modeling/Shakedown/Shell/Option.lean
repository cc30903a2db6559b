import Shakedown.Shell.State
import Shakedown.Text.Numeral

/-!
# Options of builtin commands

The letters behind hyphens in front of the arguments of a builtin command.
-/

set_option autoImplicit false

namespace Shakedown.Shell

/-- Whether a letter is among those allowed, and whether it takes an argument, as a colon behind it
says. -/
def optionKind (allowed : Chars) (c : Char) : Option Bool :=
  match allowed with
  | [] => none
  | d :: more => if c = d && c ≠ ':' then some (more.head? = some ':') else optionKind more c

/-- Reads the letters of one word behind those that were found, and answers which letter still waits
for its argument. -/
def readLetters (allowed : Chars) : Chars → Sh (List (Char × Chars) × Option Char)
  | [] => return ([], none)
  | c :: more =>
    match optionKind allowed c with
    | none => Sh.fail ("Illegal option -".toList ++ [c])
    | some true => return if more.isEmpty then ([], some c) else ([(c, more)], none)
    | some false => do
      let (found, waiting) ← readLetters allowed more
      return ((c, []) :: found, waiting)

/-- Reads the options in front of arguments, with the arguments they take, and answers what is
behind them. -/
def readOptions (allowed : Chars) : List Chars → Sh (List (Char × Chars) × List Chars)
  | ('-' :: c :: cluster) :: more => do
    if c = '-' && cluster.isEmpty then return ([], more)
    else
      let (found, waiting) ← readLetters allowed (c :: cluster)
      match waiting with
      | none =>
        let (others, rest) ← readOptions allowed more
        return (found ++ others, rest)
      | some d =>
        match more with
        | [] => Sh.fail ("No arg for -".toList ++ d :: " option".toList)
        | value :: behind =>
          let (others, rest) ← readOptions allowed behind
          return (found ++ (d, value) :: others, rest)
  | args => return ([], args)

/-- Passes over the end of options in front of arguments; there are none. -/
def withoutOptions (args : List Chars) : Sh (List Chars) := do
  return (← readOptions [] args).2

/-- Complains about an argument that is no number. -/
def failNumber {α : Type} (text : Chars) : Sh α :=
  Sh.fail ("Illegal number: ".toList ++ text)

/-- The largest number that builtin commands take. -/
def numberLimit : Nat := 2147483647

/-- The number that an argument stands for. -/
def numberArgument (text : Chars) : Sh Nat :=
  match Numeral.integerIn? 10 text with
  | some (.ofNat n) => if n ≤ numberLimit then return n else failNumber text
  | _ => failNumber text

end Shakedown.Shell

import Shakedown.Build.Makefile
import Shakedown.Shell.Pattern

/-!
# Expanding references in makefiles

A reference is the name of a variable, perhaps with a rewriting of its words, or a function with its
arguments. Expansion reads files and runs programs where functions ask for that.
-/

set_option autoImplicit false

namespace Shakedown.Build

/-- The shell that runs recipes, unless a makefile names another one. -/
def usualShell : Chars := "/bin/sh".toList

/-- The environment of programs: variables from the environment and those that are exported. -/
def environmentFor (s : State) (env : Environment) : Environment :=
  let isExported := fun (v : Variable) =>
    v.exported || v.origin = .commandLine || (s.exportsAll && v.origin ≠ .builtin)
  let chosen := s.bindings.reverse.filter fun (name, v) =>
    isExported v || (env.any (·.1 = Chars.toBytes name) && v.origin ≠ .builtin)
  let env := chosen.foldl
    (fun e (name, v) => e.put (Chars.toBytes name) (Chars.toBytes v.text)) env
  env.put (Utf8.bytes "MAKELEVEL") (Utf8.bytes (s.level + 1).repr)

/-- The output of an act. -/
def outputOf (act : Act Unit) : Act Chars := do
  let p ← get
  let (world, number, writer) := p.world.addCollector none
  set { p with world }
  let _ ← Act.child do
    modify (·.withDescriptor 1 writer)
    act
  return Chars.ofBytes ((← get).world.written number)

/-- The output of a command, line by line with a space between. -/
def commandOutput (command : Chars) : Make Chars := do
  let host ← read
  let text ← outputOf do
    let _ ← Act.become host [usualShell, ['-', 'c'], command]
    Act.exit 127
  let kept := (text.reverse.dropWhile (· = '\n')).reverse
  return kept.map fun c => if c = '\n' then ' ' else c

/-- The paths that a pattern of the shell stands for. -/
def wildcard (p : Process) (pattern : Chars) : List Chars :=
  (Shell.pathsOf p (pattern.map fun c => (c, false))).filter fun path =>
    ! ["/.".toList, "/..".toList].any (·.isSuffixOf path) && path ≠ ['.'] && path ≠ ['.', '.']

/-- An absolute path without steps that lead nowhere. -/
def absolutePath (cwd : Location) (word : Chars) : Chars :=
  let start := if word.head? = some '/' then [] else cwd.map Chars.ofBytes
  let parts := (Chars.splitAt '/' word).foldl
    (fun found part =>
      if part.isEmpty || part = ['.'] then found
      else if part = ['.', '.'] then found.tail
      else part :: found)
    start.reverse
  '/' :: Chars.joined ['/'] parts.reverse

/-- What a variable is. -/
def flavorOf : Option Variable → String
  | none => "undefined"
  | some v => if v.late then "recursive" else "simple"

/-- The result of a function whose arguments are expanded. -/
def applyFunction (name : String) (args : List Chars) : Make Chars := do
  let first := args.headD []
  match textFunction? name args with
  | some text => return text
  | none =>
    match name with
    | "wildcard" =>
      let p ← getThe Process
      return Chars.spaced ((wordsOf first).flatMap (wildcard p))
    | "shell" => commandOutput first
    | "abspath" =>
      let p ← getThe Process
      return Chars.spaced ((wordsOf first).map (absolutePath p.cwd))
    | "realpath" =>
      let p ← getThe Process
      return Chars.spaced ((wordsOf first).filterMap fun word =>
        (p.node? word true).map fun (l, _) => Chars.ofBytes l.path.bytes)
    | "value" => return ((← Make.lookUp first).map Variable.text).getD []
    | "origin" =>
      return (((← Make.lookUp first).map fun v => v.origin.word).getD "undefined").toList
    | "flavor" => return (flavorOf (← Make.lookUp first)).toList
    | "error" => Make.fail first
    | "warning" =>
      let front ← match (← get).place? with
        | some p => pure p.text
        | none => Make.programName
      Act.complain (front ++ ": ".toList ++ first)
      return []
    | _ =>
      Act.writeLine first
      return []

/-- Does something while variables have other values. -/
def withVariables (bindings : List (Chars × Chars)) (body : Make Chars) : Make Chars := do
  let before := (← get).bindings
  for (name, text) in bindings do
    Make.put name { text, late := false, origin := .automatic }
  let result ← body
  modify ({ · with bindings := before })
  return result

/-- The first of some texts that is not empty when it is expanded, or the last one if all have to
be. -/
def firstOf (expand : Chars → Make Chars) (all : Bool) : List Chars → Chars → Make Chars
  | [], last => return last
  | text :: more, _ => do
    let value ← expand (stripped text)
    if value.isEmpty = all then return value else firstOf expand all more value

/-- The result of a function. -/
def callFunction (expand : Chars → Make Chars) (name : String) (args : List Chars) :
    Make Chars := do
  match name, args with
  | "if", condition :: yes :: more =>
    if (← expand (stripped condition)).isEmpty then expand (more.headD []) else expand yes
  | "or", args => firstOf expand false args []
  | "and", args => firstOf expand true args []
  | "foreach", [name, words, body] =>
    let name ← expand (stripped name)
    let results ← (wordsOf (← expand words)).mapM fun word =>
      withVariables [(name, word)] (expand body)
    return Chars.spaced results
  | "call", name :: args =>
    let name := stripped (← expand name)
    let args ← args.mapM expand
    match ← Make.lookUp name with
    | none => return []
    | some v =>
      let numbered := (args.zipIdx 1).map fun (text, n) => (Chars.ofNat n, text)
      withVariables ((['0'], name) :: numbered) (expand v.text)
  | _, args => applyFunction name (← args.mapM expand)

/-- The function that a reference calls, with its arguments as they are written. -/
def functionCall? (content : Chars) : Option (String × List Chars) :=
  let name := content.takeWhile (!Chars.isSpace ·)
  if name.length = content.length then none
  else match functionArities.find? fun (known, _) => known.toList = name with
    | none => none
    | some (known, count) =>
      some (known, argumentsOf count 0 [] ((content.drop name.length).dropWhile Chars.isSpace))

/-- The value of a variable, or of a part of the words of an automatic one. -/
def valueOf (expand : Chars → Make Chars) (name : Chars) : Make Chars := do
  match ← Make.lookUp name with
  | some v =>
    if !v.late then return v.text
    if (← get).expanding.contains name then
      modify fun s => { s with place? := v.place?.or s.place? }
      Make.fail ("Recursive variable '".toList ++ name ++ "' references itself (eventually)".toList)
    modify fun s => { s with expanding := name :: s.expanding }
    let text ← expand v.text
    modify fun s => { s with expanding := s.expanding.drop 1 }
    return text
  | none =>
    match name with
    | [c, part] =>
      let text := ((← Make.lookUp [c]).map Variable.text).getD []
      let directory := fun (word : Chars) =>
        let d := directoryOf word
        if d.length > 1 then d.dropLast else d
      match part with
      | 'D' => return Chars.spaced ((wordsOf text).map directory)
      | 'F' => return Chars.spaced ((wordsOf text).map nameOf)
      | _ => return []
    | _ => return []

/-- A rewriting behind the name of a variable: the name, the pattern and the replacement. -/
def rewriting? (content : Chars) : Option (Chars × Chars × Chars) :=
  let (name, rest) := cutAt (· = ':') content
  let (pattern, rest) := cutAt (· = '=') rest.tail
  if rest.isEmpty then none else some (name, pattern, rest.tail)

/-- The text of a reference. -/
def expandReference (expand : Chars → Make Chars) (content : Chars) : Make Chars := do
  match functionCall? content with
  | some (name, args) => callFunction expand name args
  | none =>
    match rewriting? content with
    | none => valueOf expand (← expand content)
    | some (name, pattern, replacement) =>
      let words := wordsOf (← valueOf expand (← expand name))
      let pattern ← expand pattern
      let replacement ← expand replacement
      let (pattern, replacement) := if isPattern pattern then (pattern, replacement)
        else ('%' :: pattern, '%' :: replacement)
      return Chars.spaced (words.map (rewritten pattern replacement))

/-- A text with its references expanded, which may be so deep. -/
def expandWithin : Nat → Chars → Make Chars
  | 0, _ => return []
  | n + 1, text => do
    match partsOf (text.length + 1) text with
    | none => Make.fail "unterminated variable reference".toList
    | some parts =>
      let texts ← parts.mapM fun
        | .text s => pure s
        | .reference content => expandReference (expandWithin n) content
      return texts.flatten

/-- How deep references may be. -/
def referenceDepth : Nat := 100

/-- A text with its references expanded. -/
def expand (text : Chars) : Make Chars :=
  expandWithin referenceDepth text

/-- Carries out an assignment of an origin, unless what is there is stronger. -/
def assign (origin : Origin) (a : Assignment) : Make Unit := do
  let name := stripped (← expand a.name)
  if name.isEmpty then Make.fail "empty variable name".toList
  let old? ← Make.lookUp name
  let origin := if a.insists then .insisting else origin
  let exported := a.exports || old?.any Variable.exported
  let isWeaker := old?.any fun old => origin.strength < old.origin.strength
  let v : Variable := { text := a.text, origin, exported, place? := (← get).place? }
  if !isWeaker then
    match a.setting with
    | .late => Make.put name v
    | .early => Make.put name { v with text := ← expand a.text, late := false }
    | .default => if old?.isNone then Make.put name v
    | .output => Make.put name { v with text := ← commandOutput (← expand a.text) }
    | .append =>
      match old? with
      | none => Make.put name v
      | some old =>
        let more ← if old.late then pure a.text else expand a.text
        let text := if old.text.isEmpty then more else old.text ++ ' ' :: more
        Make.put name { old with text, origin, exported }
  else if a.exports then
    old?.forM fun old => Make.put name { old with exported := true }

end Shakedown.Build

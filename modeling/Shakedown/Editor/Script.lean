import Shakedown.Regex.Basic

/-!
# Editing scripts

A script is a list of commands, each with the lines for which it is carried out. Blocks and jumps
refer to commands by their places in the list.
-/

set_option autoImplicit false

namespace Shakedown.Editor

/-- An expression of a script: one of its own, or the one that was used last. -/
structure Expression where
  /-- The expression with its groups, unless it is the one that was used last. -/
  own? : Option (Regex × Nat)
  /-- How it is matched. -/
  style : MatchStyle := {}

/-- An address of lines. -/
inductive Address where
  /-- A line by its number. -/
  | line (number : Nat)
  /-- The last line. -/
  | last
  /-- Lines in which an expression occurs. -/
  | holds (e : Expression)
  /-- Every so many lines from a first one on. -/
  | every (first step : Nat)
  /-- So many lines behind the first one of a range. -/
  | further (count : Nat)
  /-- The next line whose number is a multiple. -/
  | multiple (step : Nat)

/-- The lines for which a command is carried out. -/
structure Selection where
  /-- The first address. -/
  first : Option Address := none
  /-- The address of the end of a range. -/
  last : Option Address := none
  /-- Whether it is carried out for the other lines. -/
  negated : Bool := false

/-- How the case of letters is changed in a replacement. -/
inductive CaseChange where
  /-- Not at all. -/
  | keep
  /-- All letters become capital ones. -/
  | upper
  /-- All letters become small ones. -/
  | lower
  deriving DecidableEq, Repr

/-- A part of a replacement. -/
inductive Part where
  /-- A text. -/
  | text (s : Chars)
  /-- What a group has matched; zero stands for the whole match. -/
  | group (number : Nat)
  /-- From here on the case of letters is changed. -/
  | change (c : CaseChange)
  /-- The case of the next letter is changed. -/
  | changeNext (c : CaseChange)

/-- A substitution. -/
structure Substitution where
  /-- What is replaced. -/
  expression : Expression
  /-- By what it is replaced. -/
  parts : List Part
  /-- Whether all matches are replaced from the chosen one on. -/
  all : Bool := false
  /-- Which match is replaced first. -/
  number : Nat := 1
  /-- How often the result is written. -/
  prints : Bool := false
  /-- The file to which the result is written. -/
  file : Option Chars := none

/-- What a command does. -/
inductive Action where
  /-- The beginning of a block that ends at a command. -/
  | block (finish : Nat)
  /-- The end of a block, a label, or nothing. -/
  | none
  /-- Writes the number of the line. -/
  | number
  /-- Writes a text behind the line. -/
  | append (text : Chars)
  /-- Writes a text. -/
  | insert (text : Chars)
  /-- Writes a text in place of the line. -/
  | replace (text : Chars)
  /-- Jumps to a command. -/
  | jump (target : Nat)
  /-- Jumps to a command after a substitution. -/
  | jumpIf (target : Nat)
  /-- Jumps to a command unless there was a substitution. -/
  | jumpUnless (target : Nat)
  /-- Drops the pattern space. -/
  | delete
  /-- Drops the first line of the pattern space. -/
  | deleteLine
  /-- Writes the name of the file. -/
  | fileName
  /-- Takes the hold space. -/
  | get
  /-- Appends the hold space. -/
  | getAppend
  /-- Fills the hold space. -/
  | hold
  /-- Appends to the hold space. -/
  | holdAppend
  /-- Exchanges the spaces. -/
  | exchange
  /-- Shows the pattern space with lines of a width. -/
  | list (width : Option Nat)
  /-- Goes on to the next line. -/
  | next
  /-- Appends the next line. -/
  | nextAppend
  /-- Writes the pattern space. -/
  | print
  /-- Writes the first line of the pattern space. -/
  | printLine
  /-- Ends with a status, perhaps after the pattern space was written. -/
  | quit (status : Nat) (silent : Bool)
  /-- Writes a file behind the line. -/
  | readFile (path : Chars)
  /-- Writes the next line of a file behind the line. -/
  | readLine (path : Chars)
  /-- Replaces. -/
  | substitute (s : Substitution)
  /-- Writes the pattern space, or its first line, to a file. -/
  | writeFile (path : Chars) (firstLine : Bool)
  /-- Exchanges characters. -/
  | translate (pairs : List (Char × Char))
  /-- Empties the pattern space. -/
  | empty

/-- A command. -/
structure Command where
  /-- When it is carried out. -/
  selection : Selection
  /-- What it does. -/
  action : Action

end Shakedown.Editor

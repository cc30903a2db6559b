import Shakedown.Regex.Basic
import Shakedown.Scan.Value

/-!
# Scanning scripts

A script is a list of rules, each of which has a trigger and a statement that is carried out for the
records that pull it, and of functions that expressions may call.
-/

set_option autoImplicit false

namespace Shakedown.Scan

/-- An expression. -/
inductive Expr where
  /-- A number. -/
  | number (x : Float)
  /-- A text. -/
  | text (s : Chars)
  /-- A regular expression, which by itself is compared with the record. -/
  | regex (r : Regex)
  /-- A variable. -/
  | name (s : Chars)
  /-- An element of a table. -/
  | element (table : Chars) (index : List Expr)
  /-- A field of the record. -/
  | field (number : Expr)
  /-- An assignment. -/
  | assign (target value : Expr)
  /-- An assignment that carries out an operation. -/
  | update (operation : Operation) (target value : Expr)
  /-- A step up or down, whose value is the one before it or behind it. -/
  | step (target : Expr) (up before : Bool)
  /-- The opposite number. -/
  | negative (e : Expr)
  /-- The number of a value. -/
  | positive (e : Expr)
  /-- The opposite truth. -/
  | opposite (e : Expr)
  /-- An operation. -/
  | arithmetic (operation : Operation) (a b : Expr)
  /-- One text behind another. -/
  | concat (a b : Expr)
  /-- A comparison. -/
  | compare (c : Comparison) (a b : Expr)
  /-- Whether a text is as a regular expression says, or not. -/
  | matches_ (negated : Bool) (a pattern : Expr)
  /-- Whether both hold. -/
  | both (a b : Expr)
  /-- Whether one of both holds. -/
  | either (a b : Expr)
  /-- One of two values. -/
  | choice (condition yes no : Expr)
  /-- Whether a table has an index. -/
  | isIn (index : List Expr) (table : Chars)
  /-- The value of a function. -/
  | call (function : Chars) (args : List Expr)
  /-- The value of a function that is always there. -/
  | builtin (function : String) (args : List Expr)
  /-- Reads the next record. -/
  | readNext (target : Option Expr)
  /-- Reads a line of a file. -/
  | readFile (target : Option Expr) (path : Expr)
  /-- Reads a line of what a command writes. -/
  | readCommand (target : Option Expr) (command : Expr)
  /-- Several expressions in parentheses. -/
  | several (items : List Expr)
  deriving Inhabited

/-- Where something is written. -/
inductive Outlet where
  /-- To a file, which is emptied first. -/
  | file
  /-- To the end of a file. -/
  | fileEnd
  /-- To a command. -/
  | command
  deriving DecidableEq, Repr

/-- A statement. -/
inductive Stmt where
  /-- Nothing. -/
  | idle
  /-- An expression. -/
  | expr (e : Expr)
  /-- Writes values, perhaps by a format. -/
  | print (formats : Bool) (args : List Expr) (outlet : Option (Outlet × Expr))
  /-- One of two statements. -/
  | choice (condition : Expr) (yes no : Stmt)
  /-- A statement as long as a condition holds; `first` tells whether it is carried out once in any
  case. -/
  | loop (first : Bool) (condition : Expr) (body : Stmt)
  /-- A loop with a beginning and a step. -/
  | counted (start : Stmt) (condition : Option Expr) (step : Stmt) (body : Stmt)
  /-- A statement for every key of a table. -/
  | each (variable_ table : Chars) (body : Stmt)
  /-- Statements one after the other. -/
  | block (all : List Stmt)
  /-- Goes on with the next record. -/
  | nextRecord
  /-- Goes on with the next file. -/
  | nextFile
  /-- Leaves a loop. -/
  | leave
  /-- Goes on with the next round of a loop. -/
  | again
  /-- Ends the script. -/
  | exit (status : Option Expr)
  /-- Ends a function. -/
  | answer (value : Option Expr)
  /-- Takes an element of a table away, or all of them. -/
  | delete (table : Chars) (index : List Expr)
  deriving Inhabited

/-- What pulls a rule. -/
inductive Trigger where
  /-- The beginning. -/
  | start
  /-- The end. -/
  | finish
  /-- Every record. -/
  | always
  /-- Records for which a condition holds. -/
  | where_ (condition : Expr)
  /-- Records from one for which the first condition holds to one for which the second does. -/
  | range (first last : Expr)

/-- A rule. -/
structure Rule where
  /-- What pulls it. -/
  trigger : Trigger
  /-- What is done. -/
  body : Stmt

/-- A function. -/
structure Function where
  /-- The names of its arguments. -/
  parameters : List Chars
  /-- What it does. -/
  body : Stmt

/-- A script. -/
structure Script where
  /-- The rules, in order. -/
  rules : List Rule := []
  /-- The functions. -/
  functions : List (Chars × Function) := []

end Shakedown.Scan

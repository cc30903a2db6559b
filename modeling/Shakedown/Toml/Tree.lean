import Shakedown.Toml.Value

/-!
# Tables under construction

A TOML document names its tables piece by piece: a header opens a table, a dotted key reaches into
one, and a double header adds an element to a list of tables. A `Node` remembers how a table came
about, since that decides what may still be added to it.

`reach` walks a path of keys and changes the table at its end. Everything else is a change handed to
it: `insert` puts a value, `openTable` and `openElement` carry out the two kinds of header.
-/

set_option autoImplicit false

namespace Shakedown.Toml

/-- How a table came about. -/
inductive Origin where
  /-- A header names it, or it is an element of a list of tables. -/
  | header
  /-- It stands on the way to a table that a header names. -/
  | implied
  /-- A dotted key names it. -/
  | dotted
  deriving DecidableEq, Repr

/-- An entry of a table under construction. -/
inductive Node where
  /-- A finished value. -/
  | value (v : Value)
  /-- A table. -/
  | table (origin : Origin) (entries : List (String × Node))
  /-- A list of tables. -/
  | tables (elements : List (List (String × Node)))

/-- The entries of a table under construction, in order. -/
abbrev Entries := List (String × Node)

namespace Entries

/-- The entries without a key. -/
def without (entries : Entries) (key : String) : Entries :=
  entries.filter (·.1 ≠ key)

/-- The entries with another node at a key. -/
def replace (entries : Entries) (key : String) (node : Node) : Entries :=
  entries.map fun entry => if entry.1 = key then (key, node) else entry

/-- A change to a table, which may be refused. It is told how the table came about. -/
abbrev Change := Origin → Entries → Option Entries

/-- The origin of a table that a path brings about. -/
def newOrigin (dotted : Bool) : Origin :=
  if dotted then .dotted else .implied

/-- Changes the table at the end of a path. Missing tables are brought about; a list of tables
stands for its last element; a dotted key may not pass a table that a header names, and nothing
passes a value. -/
def reach (dotted : Bool) (change : Change) : List String → Change
  | [], origin, entries => change origin entries
  | key :: path, _, entries =>
    match entries.lookup key with
    | none =>
      match reach dotted change path (newOrigin dotted) [] with
      | none => none
      | some inner => some (entries ++ [(key, .table (newOrigin dotted) inner)])
    | some (.value _) => none
    | some (.table origin inner) =>
      if dotted ∧ origin = .header then none
      else
        match reach dotted change path origin inner with
        | none => none
        | some inner => some (replace entries key (.table origin inner))
    | some (.tables elements) =>
      match elements.getLast? with
      | none => none
      | some last =>
        match reach dotted change path .header last with
        | none => none
        | some last => some (replace entries key (.tables (elements.dropLast ++ [last])))

/-- A path cut before its last key. -/
def cutLast : List String → Option (List String × String)
  | [] => none
  | [key] => some ([], key)
  | key :: path =>
    match cutLast path with
    | none => none
    | some (front, last) => some (key :: front, last)

/-- Puts a new key into a table: one that a dotted key names if the key is dotted, and only then. -/
def put (dotted : Bool) (key : String) (v : Value) : Change :=
  fun origin entries =>
    if decide (origin = .dotted) ≠ dotted then none
    else if (entries.lookup key).isSome then none
    else some (entries ++ [(key, .value v)])

/-- Puts a value at a key, which may be dotted. -/
def insert (key : List String) (v : Value) : Change :=
  match cutLast key with
  | none => fun _ _ => none
  | some (front, last) => reach true (put (!front.isEmpty) last v) front

/-- Opens a table by a header: a new one, or one that other headers implied, which then counts as
the latest. -/
def openTable (header : List String) : Change :=
  match cutLast header with
  | none => fun _ _ => none
  | some (front, last) =>
    reach false
      (fun _ entries =>
        match entries.lookup last with
        | none => some (entries ++ [(last, .table .header [])])
        | some (.table .implied inner) =>
          some (entries.without last ++ [(last, .table .header inner)])
        | some _ => none)
      front

/-- Adds an element to a list of tables by a double header. -/
def openElement (header : List String) : Change :=
  match cutLast header with
  | none => fun _ _ => none
  | some (front, last) =>
    reach false
      (fun _ entries =>
        match entries.lookup last with
        | none => some (entries ++ [(last, .tables [[]])])
        | some (.tables elements) => some (replace entries last (.tables (elements ++ [[]])))
        | some _ => none)
      front

end Entries

mutual

/-- The finished value of a node. -/
def Node.finish : Node → Value
  | .value v => v
  | .table _ entries => .table (finishEntries entries)
  | .tables elements => .list (finishElements elements)

/-- The finished fields of a table. -/
def finishEntries : List (String × Node) → List (String × Value)
  | [] => []
  | (key, node) :: more => (key, node.finish) :: finishEntries more

/-- The finished elements of a list of tables. -/
def finishElements : List (List (String × Node)) → List Value
  | [] => []
  | entries :: more => .table (finishEntries entries) :: finishElements more

end

/-- The table of keys, possibly dotted, with their values. -/
def tableOfPairs : Entries → List (List String × Value) → Option (List (String × Value))
  | entries, [] => some (finishEntries entries)
  | entries, (key, v) :: more =>
    match Entries.insert key v .header entries with
    | none => none
    | some entries => tableOfPairs entries more

end Shakedown.Toml

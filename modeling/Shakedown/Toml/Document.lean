import Shakedown.Toml.Statement

/-!
# TOML documents

The statements of a text build one table. A header says where the keys after it go.
-/

set_option autoImplicit false

namespace Shakedown.Toml

/-- A table under construction, and where the next keys go. -/
structure Draft where
  /-- What has been built. -/
  entries : Entries := []
  /-- The latest header. -/
  header : List String := []

namespace Draft

/-- The draft with a change to its root that a header makes. -/
def opened (key : List String) (change : Entries.Change) (d : Draft) : Option Draft :=
  match change .header d.entries with
  | none => none
  | some entries => some ⟨entries, key⟩

/-- The draft after one more statement. -/
def add (d : Draft) : Statement → Option Draft
  | .assign key v =>
    match Entries.reach false (Entries.insert key v) d.header .header d.entries with
    | none => none
    | some entries => some { d with entries }
  | .header key => d.opened key (Entries.openTable key)
  | .element key => d.opened key (Entries.openElement key)

/-- The draft after statements in order. -/
def addAll (d : Draft) : List Statement → Option Draft
  | [] => some d
  | s :: more =>
    match d.add s with
    | none => none
    | some d => d.addAll more

end Draft

/-- A text without the byte-order mark at its start. -/
def dropMark : List Char → List Char
  | '\uFEFF' :: rest => rest
  | s => s

/-- The table that a text describes, if it is well-formed. -/
def parse (text : String) : Option (List (String × Value)) :=
  let s := dropMark text.toList
  match statements (s.length + 1) s with
  | none => none
  | some lines =>
    match Draft.addAll {} lines with
    | none => none
    | some d => some (finishEntries d.entries)

end Shakedown.Toml

import Shakedown.Json.Token

/-!
# JSON text as a tree that may break off

Text becomes a tree even when it is malformed: the tree then breaks off where the first problem is,
in a list or an object that is not closed. A reader that walks the tree from left to right meets the
problems of the text and its own in the order in which they stand.

The tree is built by an automaton over lexemes, with the open lists and objects on a stack.
-/

set_option autoImplicit false

namespace Shakedown.Json

/-- JSON text as a tree. -/
inductive Doc where
  /-- A document without parts. -/
  | scalar (s : Scalar)
  /-- Items, and whether the list is closed behind them. -/
  | list (items : List Doc) (closed : Bool)
  /-- Entries in order, and whether the object is closed behind them. -/
  | object (entries : List (Option String × Doc)) (closed : Bool)
  /-- Malformed text. -/
  | broken

/-- An open list or object, its parts latest first. -/
inductive Frame where
  /-- Items of a list. -/
  | list (items : List Doc)
  /-- Entries of an object. -/
  | object (entries : List (Option String × Doc))
  /-- Entries of an object and the key of the next one. -/
  | entry (entries : List (Option String × Doc)) (key : Option String)

/-- What may follow. -/
inductive Expect where
  /-- A document. -/
  | value
  /-- A document or the end of the list just opened. -/
  | firstItem
  /-- A key or the end of the object just opened. -/
  | firstKey
  /-- A key. -/
  | key
  /-- A colon. -/
  | colon
  /-- A comma, an end, or the end of the text. -/
  | after (d : Doc)
  /-- Nothing: the text has a problem, and the tree is this. -/
  | nothing (d : Doc)

/-- The state of the automaton: the open lists and objects, innermost first, and what may follow. -/
structure Reading where
  /-- What is open. -/
  frames : List Frame
  /-- What may follow. -/
  expect : Expect

/-- The tree that breaks off inside the open lists and objects after the document `d`. -/
def abandon : List Frame → Doc → Doc
  | [], d => d
  | .list items :: fs, d => abandon fs (.list (items.reverse ++ [d]) false)
  | .object entries :: fs, _ => abandon fs (.object entries.reverse false)
  | .entry entries key :: fs, d => abandon fs (.object (entries.reverse ++ [(key, d)]) false)

/-- The tree that breaks off inside the open lists and objects where no document stands. -/
def breakOff : List Frame → Doc
  | [] => .broken
  | .list items :: fs => abandon fs (.list items.reverse false)
  | .object entries :: fs => abandon fs (.object entries.reverse false)
  | .entry entries key :: fs => abandon fs (.object (entries.reverse ++ [(key, .broken)]) false)

namespace Reading

/-- The text has a problem here. -/
def fail (fs : List Frame) : Reading :=
  ⟨[], .nothing (breakOff fs)⟩

/-- A document where one may stand. -/
def stepValue (fs : List Frame) : Token → Reading
  | .scalar s => ⟨fs, .after (.scalar s)⟩
  | .listStart => ⟨.list [] :: fs, .firstItem⟩
  | .objectStart => ⟨.object [] :: fs, .firstKey⟩
  | _ => ⟨[], .nothing (abandon fs .broken)⟩

/-- A key where one may stand. Only a text is one. -/
def stepKey (fs : List Frame) : Token → Reading
  | .scalar (.text s) =>
    match fs with
    | .object entries :: fs => ⟨.entry entries s :: fs, .colon⟩
    | fs => fail fs
  | _ => fail fs

/-- What follows a finished document `d`. -/
def stepAfter (fs : List Frame) (d : Doc) : Token → Reading
  | .comma =>
    match fs with
    | .list items :: fs => ⟨.list (d :: items) :: fs, .value⟩
    | .entry entries key :: fs => ⟨.object ((key, d) :: entries) :: fs, .key⟩
    | fs => ⟨[], .nothing (abandon fs d)⟩
  | .listEnd =>
    match fs with
    | .list items :: fs => ⟨fs, .after (.list (items.reverse ++ [d]) true)⟩
    | fs => ⟨[], .nothing (abandon fs d)⟩
  | .objectEnd =>
    match fs with
    | .entry entries key :: fs =>
      ⟨fs, .after (.object (entries.reverse ++ [(key, d)]) true)⟩
    | fs => ⟨[], .nothing (abandon fs d)⟩
  | _ => ⟨[], .nothing (abandon fs d)⟩

/-- One lexeme. -/
def step (r : Reading) (t : Token) : Reading :=
  match r.expect with
  | .value => stepValue r.frames t
  | .firstItem =>
    match t, r.frames with
    | .listEnd, .list _ :: fs => ⟨fs, .after (.list [] true)⟩
    | .listEnd, fs => fail fs
    | .scalar _, fs => stepValue fs t
    | .listStart, fs => stepValue fs t
    | .objectStart, fs => stepValue fs t
    | _, fs => fail fs
  | .firstKey =>
    match t, r.frames with
    | .objectEnd, .object _ :: fs => ⟨fs, .after (.object [] true)⟩
    | _, fs => stepKey fs t
  | .key => stepKey r.frames t
  | .colon =>
    match t with
    | .colon => ⟨r.frames, .value⟩
    | _ => fail r.frames
  | .after d => stepAfter r.frames d t
  | .nothing d => ⟨[], .nothing d⟩

/-- The tree at the end of the text, and whether the text is one document and nothing more. -/
def finish (r : Reading) : Doc × Bool :=
  match r.expect with
  | .after d => (abandon r.frames d, r.frames.isEmpty)
  | .nothing d => (d, false)
  | .value => (abandon r.frames .broken, false)
  | _ => (breakOff r.frames, false)

end Reading

/-- The tree of a text, and whether the text is one document and nothing more. -/
def parse (text : String) : Doc × Bool :=
  ((tokens text.toList).foldl Reading.step ⟨[], .value⟩).finish

end Shakedown.Json

import Shakedown.Document
import Shakedown.Json.Doc

/-!
# Reading values from JSON text

The ways in which the types of a run are read: as a structure, given as an object or as a list of
its fields; as an alternative, given by its name alone or as an object with one entry; and as a
tagged alternative, whose tag stands among its fields. A reader walks the tree of the text from left
to right and reports the first problem it meets, be it of the text or of the shape.
-/

set_option autoImplicit false

namespace Shakedown.Json

/-- Why text cannot be read as a value. -/
inductive ReadError where
  /-- The text is malformed, or goes on where it should end. -/
  | malformed
  /-- The text is well-formed up to where its shape is wrong. -/
  | shape (c : Cause)
  deriving DecidableEq, Repr

/-- A reader of documents. -/
abbrev Reader (α : Type) := Doc → Except ReadError α

/-- The deepest nesting of lists and objects in a document that is kept while it is read. -/
def nestingLimit : Nat := 127

namespace Doc

mutual

/-- Whether a document that nobody wants the value of is well-formed. -/
def wellFormed : Doc → Bool
  | .scalar _ => true
  | .list items closed => closed && allWellFormed items
  | .object entries closed => closed && allEntriesWellFormed entries
  | .broken => false

/-- Whether all documents of a list are well-formed. -/
def allWellFormed : List Doc → Bool
  | [] => true
  | d :: more => d.wellFormed && allWellFormed more

/-- Whether all documents of an object are well-formed. -/
def allEntriesWellFormed : List (Option String × Doc) → Bool
  | [] => true
  | (_, d) :: more => d.wellFormed && allEntriesWellFormed more

end

mutual

/-- Whether a document has a value and nests no deeper than `depth`. -/
def hasValue (depth : Nat) : Doc → Bool
  | .scalar (.number n) => n ≠ .outOfRange
  | .scalar (.text s) => s.isSome
  | .scalar _ => true
  | .list items closed => 0 < depth && closed && allHaveValue (depth - 1) items
  | .object entries closed => 0 < depth && closed && allEntriesHaveValue (depth - 1) entries
  | .broken => false

/-- Whether all documents of a list have values. -/
def allHaveValue (depth : Nat) : List Doc → Bool
  | [] => true
  | d :: more => d.hasValue depth && allHaveValue depth more

/-- Whether all documents of an object have values. -/
def allEntriesHaveValue (depth : Nat) : List (Option String × Doc) → Bool
  | [] => true
  | (key, d) :: more => key.isSome && d.hasValue depth && allEntriesHaveValue depth more

end

/-- The complaint about a document without parts where something else is wanted. -/
def wrongScalar (s : Scalar) (wanted : String) : ReadError :=
  match s with
  | .null => .shape (.invalidType .null wanted)
  | .bool b => .shape (.invalidType (.boolean b) wanted)
  | .number (.natural n) => .shape (.invalidType (.integer n) wanted)
  | .number (.negative n) => .shape (.invalidType (.integer (-n)) wanted)
  | .number (.float x) => .shape (.invalidType (.float x.scientific) wanted)
  | .number .outOfRange => .malformed
  | .text (some s) => .shape (.invalidType (.text s) wanted)
  | .text none => .malformed

/-- The complaint about a document where something else is wanted. -/
def wrong (d : Doc) (wanted : String) : ReadError :=
  match d with
  | .scalar s => wrongScalar s wanted
  | .list .. => .shape (.invalidType .sequence wanted)
  | .object .. => .shape (.invalidType .map wanted)
  | .broken => .malformed

end Doc

/-! ## Documents without parts -/

/-- A text, called `wanted` in complaints. -/
def readTextAs (wanted : String) : Reader String
  | .scalar (.text (some s)) => .ok s
  | d => .error (d.wrong wanted)

/-- A text. -/
def readText : Reader String :=
  readTextAs "a string"

/-- A truth value. -/
def readBool : Reader Bool
  | .scalar (.bool b) => .ok b
  | d => .error (d.wrong "a boolean")

/-- An integer, if it lies between two bounds. -/
def inRange (low high : Int) (wanted : String) (n : Int) : Except ReadError Int :=
  if low ≤ n ∧ n ≤ high then .ok n else .error (.shape (.invalidValue n wanted))

/-- An integer between two bounds. -/
def readInteger (low high : Int) (wanted : String) : Reader Int
  | .scalar (.number (.natural n)) => inRange low high wanted n
  | .scalar (.number (.negative n)) => inRange low high wanted (-n)
  | d => .error (d.wrong wanted)

/-- The empty value. -/
def readUnit : Reader Unit
  | .scalar .null => .ok ()
  | d => .error (d.wrong "unit")

/-- A value that may be absent. -/
def readOptional {α : Type} (read : Reader α) : Reader (Option α)
  | .scalar .null => .ok none
  | d => (read d).map some

/-! ## Lists -/

/-- All items in order. -/
def readItems {α : Type} (read : Reader α) : List Doc → Bool → Except ReadError (List α)
  | [], true => .ok []
  | [], false => .error .malformed
  | d :: more, closed =>
    match read d with
    | .error e => .error e
    | .ok a =>
      match readItems read more closed with
      | .error e => .error e
      | .ok as => .ok (a :: as)

/-- A list of values. -/
def readList {α : Type} (read : Reader α) : Reader (List α)
  | .list items closed => readItems read items closed
  | d => .error (d.wrong "a sequence")

/-! ## Structures -/

/-- The items of a list that are still to be read, and whether the list is closed. -/
abbrev Items := List Doc × Bool

/-- The next item, if there is one. -/
def nextItem : Items → Except ReadError (Option Doc × Items)
  | ([], true) => .ok (none, [], true)
  | ([], false) => .error .malformed
  | (d :: more, closed) => .ok (some d, more, closed)

/-- The field at position `index` of a structure given as a list. -/
def requiredItem {α : Type} (read : Reader α) (index : Nat) (wanted : String) (items : Items) :
    Except ReadError (α × Items) := do
  match ← nextItem items with
  | (none, _) => .error (.shape (.invalidLength index wanted))
  | (some d, items) => return (← read d, items)

/-- A field with a default of a structure given as a list. -/
def defaultedItem {α : Type} (read : Reader α) (default : α) (items : Items) :
    Except ReadError (α × Items) := do
  match ← nextItem items with
  | (none, items) => return (default, items)
  | (some d, items) => return (← read d, items)

/-- The end of a list, nothing being left over. -/
def endOfItems : Items → Except ReadError Unit
  | ([], true) => .ok ()
  | _ => .error .malformed

/-- The wanted length of a structure given as a list. -/
def structureLength (name : String) (count : Nat) : String :=
  structureName name ++ " with " ++ elementCount count

/-- What is known of a structure while its entries are read. -/
abbrev FieldUpdate (γ : Type) := γ → Doc → Except ReadError γ

/-- The update that reads a field and refuses it the second time. -/
def once {γ α : Type} (name : String) (read : Reader α) (get : γ → Option α) (put : γ → α → γ) :
    FieldUpdate γ :=
  fun known d =>
    match get known with
    | some _ => .error (.shape (.duplicateField name))
    | none =>
      match read d with
      | .error e => .error e
      | .ok a => .ok (put known a)

/-- The entries of an object in order: known fields update what is known, unknown ones need only be
well-formed. -/
def readEntries {γ : Type} (field : String → Option (FieldUpdate γ)) :
    γ → List (Option String × Doc) → Bool → Except ReadError γ
  | known, [], true => .ok known
  | _, [], false => .error .malformed
  | _, (none, _) :: _, _ => .error .malformed
  | known, (some key, d) :: more, closed =>
    match field key with
    | none => if d.wellFormed then readEntries field known more closed else .error .malformed
    | some update =>
      match update known d with
      | .error e => .error e
      | .ok known => readEntries field known more closed

/-- A field that must have been there. -/
def required {α : Type} (name : String) : Option α → Except ReadError α
  | some a => .ok a
  | none => .error (.shape (.missingField name))

/-! ## Alternatives -/

/-- A name among those known. -/
def knownVariant (known : List String) (name : String) : Except ReadError String :=
  if name ∈ known then .ok name else .error (.shape (.unknownVariant name known))

/-- The complaint about something other than a text where the name of an alternative is wanted. -/
def notAName : String := "variant identifier"

/-- An alternative: its name alone, or an object with one entry of that name. The payload of a name
alone is absent. -/
def readAlternative {α : Type} (known : List String)
    (read : String → Option Doc → Except ReadError α) : Reader α
  | .scalar (.text (some name)) => do read (← knownVariant known name) none
  | .object [(some name, d)] closed => do
    let a ← read (← knownVariant known name) (some d)
    if closed then return a else .error .malformed
  | .object ((some name, d) :: _) _ => do
    let _ ← read (← knownVariant known name) (some d)
    .error .malformed
  | _ => .error .malformed

/-- The payload of an alternative that is a text. -/
def textPayload : Option Doc → Except ReadError String
  | none => .error (.shape (.invalidType .unitVariant "newtype variant"))
  | some d => readText d

/-- The payload of an alternative that has none. -/
def unitPayload : Option Doc → Except ReadError Unit
  | none => .ok ()
  | some d => readUnit d

/-- What stands beside the tag of a tagged alternative. -/
inductive Beside where
  /-- The other entries of an object. -/
  | entries (entries : List (Option String × Doc))
  /-- The other items of a list. -/
  | items (items : List Doc)

/-- A tag. -/
def readTag (known : List String) : Reader String
  | .scalar (.text (some name)) => knownVariant known name
  | d => .error (d.wrong notAName)

/-- The tag among the entries of an object, and the other entries. -/
def splitTag (tag : String) (known : List String) (depth : Nat) (closed : Bool) :
    Option String → List (Option String × Doc) →
      Except ReadError (String × List (Option String × Doc))
  | found, [] =>
    if !closed then .error .malformed
    else match found with
      | none => .error (.shape (.missingField tag))
      | some name => .ok (name, [])
  | _, (none, _) :: _ => .error .malformed
  | found, (some key, d) :: more =>
    if key = tag then
      match found with
      | some _ => .error (.shape (.duplicateField tag))
      | none =>
        match readTag known d with
        | .error e => .error e
        | .ok name => splitTag tag known depth closed (some name) more
    else if d.hasValue depth then
      match splitTag tag known depth closed found more with
      | .error e => .error e
      | .ok (name, others) => .ok (name, (some key, d) :: others)
    else .error .malformed

/-- A tagged alternative inside `enclosing` lists and objects: its tag, and what stands beside
it. -/
def readTagged (typeName tag : String) (known : List String) (enclosing : Nat) :
    Reader (String × Beside)
  | .object entries closed =>
    (splitTag tag known (nestingLimit - enclosing - 1) closed none entries).map
      fun (name, others) => (name, .entries others)
  | .list [] true => .error (.shape (.missingField tag))
  | .list [] false => .error .malformed
  | .list (d :: more) closed => do
    let name ← readTag known d
    if closed && Doc.allHaveValue (nestingLimit - enclosing - 1) more then
      return (name, .items more)
    else .error .malformed
  | d => .error (d.wrong ("internally tagged enum " ++ typeName))

/-- An alternative that has nothing beside its tag. -/
def Beside.nothing : Beside → Except ReadError Unit
  | .entries _ => .ok ()
  | .items [] => .ok ()
  | .items ds => .error (.shape (.invalidLength ds.length (elementCount 0 ++ " in sequence")))

/-- An alternative with one field beside its tag. A field with a default may be missing from an
object. -/
def Beside.field {α : Type} (variant name : String) (read : Reader α) (default : Option α) :
    Beside → Except ReadError α
  | .entries es => do
    let found ← readEntries (γ := Option α)
      (fun key => if key = name then some (once name read id fun _ a => some a) else none)
      none es true
    match found, default with
    | some a, _ => return a
    | none, some a => return a
    | none, none => .error (.shape (.missingField name))
  | .items [] =>
    .error (.shape (.invalidLength 0 ("struct variant " ++ variant ++ " with " ++ elementCount 1)))
  | .items (d :: more) => do
    let a ← read d
    if more.isEmpty then return a
    else .error (.shape (.invalidLength (more.length + 1) (elementCount 1 ++ " in sequence")))

/-! ## Texts -/

/-- Reads a whole text. -/
def readWhole {α : Type} (read : Reader α) (text : String) : Except ReadError α := do
  let (d, whole) := parse text
  let a ← read d
  if whole then return a else .error .malformed

end Shakedown.Json

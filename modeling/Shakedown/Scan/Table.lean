import Shakedown.Scan.Value
import Std.Data.HashMap

/-!
# Tables of scanning scripts

A table maps keys to values. A walk over a table meets its keys in the order of chains, into which
they are distributed by a number that is computed from them; a key that is looked up moves to the
front of its chain. Whole numbers have chains of their own until a text is looked up, when all keys
get their place among the texts. Whatever the order, a key has the value that was set last.
-/

set_option autoImplicit false

namespace Shakedown.Scan

/-- A key of a table. -/
inductive Key where
  /-- A whole number. -/
  | whole (i : Int)
  /-- A text. -/
  | text (s : Chars)
  deriving DecidableEq, Repr

/-- A key as text. -/
def Key.toChars : Key → Chars
  | .whole i => Chars.ofInt i
  | .text s => s

/-- Texts are hashed character by character. -/
instance : Hashable Chars :=
  @instHashableList Char instHashableChar

/-- A table. -/
structure Table where
  /-- The values by the texts of their keys. -/
  cells : Std.HashMap Chars Value := {}
  /-- The chains of whole numbers. -/
  wholes : Array (List Int) := #[]
  /-- The chains of texts. -/
  texts : Array (List Chars) := #[]
  /-- Whether all keys have a place among the texts. -/
  hasTexts : Bool := false

namespace Table

/-- How many chains there are at first. -/
def firstSize : Nat := 64

/-- How many keys there may be for each chain. -/
def fullness : Nat := 12

/-- The number by which the characters of a key are mixed. -/
def mixPrime : UInt32 := 16777619

/-- The number from which mixing starts. -/
def mixStart : UInt32 := 2166136261

/-- The number that is computed from a key. -/
def mix (s : Chars) : Nat :=
  (s.foldl (fun h c => (h ^^^ c.toNat.toUInt32) * mixPrime) mixStart).toNat

/-- How many chains a table has. -/
def size (t : Table) : Nat :=
  if t.texts.size = 0 then firstSize else t.texts.size

/-- The table with its chains made. -/
def opened (t : Table) : Table :=
  if t.texts.size = 0 then
    { t with texts := Array.replicate firstSize [], wholes := Array.replicate firstSize [] }
  else t

/-- A list with an element at its front, whether it was in it or not. -/
def toFront {α : Type} [DecidableEq α] (a : α) (l : List α) : List α :=
  if l.head? = some a then l else a :: l.erase a

/-- Puts a text to the front of its chain. -/
def touchText (s : Chars) (t : Table) : Table :=
  { t with texts := t.texts.modify (mix s % t.size) (toFront s) }

/-- Puts a whole number to the front of its chain. -/
def touchWhole (i : Int) (t : Table) : Table :=
  { t with wholes := t.wholes.modify (i % (t.size : Int)).toNat (toFront i) }

/-- Gives every whole number a place among the texts. -/
def spreadWholes (t : Table) : Table :=
  if t.hasTexts then t
  else
    let keys := t.wholes.toList.flatten.map Chars.ofInt
    { keys.foldl (fun t s => touchText s t) t with hasTexts := true }

/-- The elements of chains that belong to the first half and to the second half of twice as many. -/
def split {α : Type} (place : α → Nat) (chains : Array (List α)) : Array (List α) :=
  let size := chains.size
  let half (upper : Bool) : Array (List α) := chains.mapIdx fun i chain =>
    chain.filter fun a => (place a % (2 * size) = i) != upper
  half false ++ half true

/-- Makes room for more keys if there are too many. -/
def grown (t : Table) : Table :=
  if t.cells.size > fullness * t.size then
    let size := 2 * t.size
    { t with
      wholes := split (fun i => (i % (size : Int)).toNat) t.wholes
      texts := split mix t.texts }
  else t

/-- The table after a key was looked up, which is there or not. -/
def visited (t : Table) (k : Key) (isThere : Bool) : Table :=
  match k with
  | .text s =>
    let t := t.spreadWholes
    if isThere then touchText s t else t
  | .whole i =>
    if !isThere then t
    else
      let isWhole := ((t.wholes[(i % (t.size : Int)).toNat]?).getD []).contains i
      let t := if t.hasTexts && !isWhole then touchText (Chars.ofInt i) t else t
      touchWhole i t

/-- The value of a key, if it is there, and the table after the look. -/
def get? (t : Table) (k : Key) : Option Value × Table :=
  let found := t.cells.get? k.toChars
  (found, t.opened.visited k found.isSome)

/-- Sets the value of a key. -/
def set (t : Table) (k : Key) (v : Value) : Table :=
  let t := t.opened
  let isThere := t.cells.contains k.toChars
  let t := { t with cells := t.cells.insert k.toChars v }
  (if isThere then t else t.grown).visited k true

/-- Takes a key away. -/
def erase (t : Table) (k : Key) : Table :=
  let s := k.toChars
  let t := t.opened
  let t := match k with
    | .text _ => t.spreadWholes
    | .whole _ => t
  let withoutWhole : Array (List Int) := match Numeral.integer? s with
    | some i => t.wholes.modify (i % (t.size : Int)).toNat (·.erase i)
    | none => t.wholes
  { t with
    cells := t.cells.erase s
    texts := t.texts.modify (mix s % t.size) (·.erase s)
    wholes := withoutWhole }

/-- The keys in the order of a walk, and the table after it. -/
def keys (t : Table) : List Chars × Table :=
  let t := t.opened.spreadWholes
  (t.texts.toList.flatten, t)

/-! ## What a look finds -/

section Cells

variable (t : Table)

/-- A text that is moved in its chain changes no value. -/
@[simp]
theorem cells_touchText (s : Chars) : (touchText s t).cells = t.cells := rfl

/-- A whole number that is moved in its chain changes no value. -/
@[simp]
theorem cells_touchWhole (i : Int) : (touchWhole i t).cells = t.cells := rfl

/-- The chains that are made change no value. -/
@[simp]
theorem cells_opened : t.opened.cells = t.cells := by
  rw [opened]
  split <;> rfl

/-- Whole numbers that get their place among the texts change no value. -/
@[simp]
theorem cells_spreadWholes : t.spreadWholes.cells = t.cells := by
  have hfold (l : List Chars) (t : Table) :
      (l.foldl (fun t s => touchText s t) t).cells = t.cells := by
    induction l generalizing t with
    | nil => rfl
    | cons s l ih => rw [List.foldl_cons, ih, cells_touchText]
  rw [spreadWholes]
  split
  · rfl
  · exact hfold _ t

/-- Room that is made changes no value. -/
@[simp]
theorem cells_grown : t.grown.cells = t.cells := by
  rw [grown]
  split <;> rfl

/-- A key that is looked up changes no value. -/
@[simp]
theorem cells_visited (k : Key) (isThere : Bool) : (t.visited k isThere).cells = t.cells := by
  cases k with
  | text s => cases isThere <;> simp [visited]
  | whole i =>
    cases isThere with
    | false => rfl
    | true =>
      simp only [visited, Bool.not_true, Bool.false_eq_true, if_false, cells_touchWhole]
      split <;> rfl

/-- A look changes no value. -/
theorem get?_get? (k k' : Key) : ((t.get? k).2.get? k').1 = (t.get? k').1 := by
  simp [get?]

/-- A key has the value that was set last, whether it is given as a number or as its text. -/
theorem get?_set (k : Key) (v : Value) (k' : Key) :
    ((t.set k v).get? k').1 = if k.toChars = k'.toChars then some v else (t.get? k').1 := by
  have hcells : (t.set k v).cells = t.cells.insert k.toChars v := by
    rw [set]
    simp only [cells_visited]
    split <;> simp
  simp only [get?, hcells, Std.HashMap.get?_eq_getElem?, Std.HashMap.getElem?_insert, beq_iff_eq]

/-- A key that was taken away has no value, and the others keep theirs. -/
theorem get?_erase (k k' : Key) :
    ((t.erase k).get? k').1 = if k.toChars = k'.toChars then none else (t.get? k').1 := by
  have hcells : (t.erase k).cells = t.cells.erase k.toChars := by
    cases k <;> simp [erase]
  simp only [get?, hcells, Std.HashMap.get?_eq_getElem?, Std.HashMap.getElem?_erase, beq_iff_eq]

end Cells

end Table

end Shakedown.Scan

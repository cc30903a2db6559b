import Shakedown.Utility.Input

/-!
# Sorting by precedence

The utility `tsort`, which reads pairs of words and writes all words so that the first of each pair
comes before the second. Words that nothing precedes any more come in the order in which they were
set free.
-/

set_option autoImplicit false

namespace Shakedown.Utility.Precedence

/-- A word before which others come. -/
structure Item where
  /-- The word. -/
  word : Chars
  /-- How many pairs have it at the end. -/
  before : Nat := 0
  /-- The words of pairs that have it at the beginning, latest first. -/
  behind : List Chars := []
  deriving DecidableEq, Repr

/-- The items with one changed, which is added if it is new. -/
def changed (word : Chars) (change : Item → Item) (items : List Item) : List Item :=
  if items.any (·.word = word) then
    items.map fun i => if i.word = word then change i else i
  else items ++ [change { word }]

/-- The items of pairs of words; a pair of the same word only names it. -/
def itemsOf : List Chars → List Item → List Item
  | a :: b :: more, items =>
    let items :=
      if a = b then changed a (fun i => i) items
      else changed b (fun i => { i with before := i.before + 1 })
        (changed a (fun i => { i with behind := b :: i.behind }) items)
    itemsOf more items
  | _, items => items

/-- The items after one word less is before a word, and the free words, to which this one is added
if no other word is before it. -/
def relieved (state : List Item × List Chars) (word : Chars) : List Item × List Chars :=
  let items := changed word (fun i => { i with before := i.before - 1 }) state.1
  if items.any fun i => i.word = word && i.before = 0 then (items, state.2 ++ [word])
  else (items, state.2)

/-- The items after one was written, and the words that are set free by that. -/
def released (item : Item) (items : List Item) : List Item × List Chars :=
  item.behind.foldl relieved (items, [])

/-- The words in order as far as that is possible, and the items that are left. -/
def ordered : Nat → List Chars → List Item → List Chars × List Item
  | 0, _, items => ([], items)
  | _ + 1, [], items => ([], items)
  | n + 1, word :: queue, items =>
    match items.find? (·.word = word) with
    | none => ordered n queue items
    | some item =>
      let (items, free) := released item (items.filter (·.word ≠ word))
      let (words, left) := ordered n (queue ++ free) items
      (word :: words, left)

/-- One look through items for a loop: words each of which comes before the next one are gathered at
the front of a list, until one of them comes again. -/
def traced : List Chars → List Item → List Chars × Option Item
  | found, [] => (found, none)
  | [], i :: more => traced [i.word] more
  | word :: found, i :: more =>
    if i.behind.contains word then
      if (word :: found).dropLast.contains i.word then (word :: found, some i)
      else traced (i.word :: word :: found) more
    else traced (word :: found) more

/-- The words of a loop in items all of which have others before them. -/
def loopOf (items : List Item) : Nat → List Chars → List Chars
  | 0, found => found
  | n + 1, found =>
    match traced found items with
    | (found, some i) => found.takeWhile (· ≠ i.word) ++ [i.word]
    | (found, none) => loopOf items n found

/-- The words that nothing precedes. -/
def freeWords (items : List Item) : List Chars :=
  ((items.filter (·.before = 0)).map Item.word).mergeSort fun s t => !Chars.before t s

/-- Writes words in order; a loop is told and broken. Tells whether there was one. -/
def writeOrdered (name : Chars) : Nat → Bool → List Item → Act Bool
  | 0, failed, _ => return failed
  | n + 1, failed, items => do
    let (words, left) := ordered (items.length + 1) (freeWords items) items
    for word in words do Act.writeLine word
    let sorted := left.mergeSort fun a b => !Chars.before b.word a.word
    match sorted with
    | [] => return failed
    | _ :: _ =>
      let loop := loopOf sorted (sorted.length + 2) []
      Act.grumble (name ++ ": input contains a loop:".toList)
      for word in loop do Act.grumble word
      let last := loop.getLast?.getD []
      let target := loop.headD []
      let broken := left.map fun i =>
        if i.word = last then { i with behind := i.behind.erase target }
        else if i.word = target then { i with before := i.before - 1 }
        else i
      writeOrdered name n true broken

/-- Sorts words by precedence. -/
def tsort : Utility := do
  let a ← Act.arguments []
  if let some word := a.operands[1]? then Act.extraOperand word
  let operand := a.operands.headD ['-']
  let text ← Act.demandSource operand
  let words := Chars.fields Chars.isSpace text
  let name := operand.fileLabel
  if words.length % 2 = 1 then
    Act.die (name ++ ": input contains an odd number of tokens".toList)
  let items := itemsOf words []
  return statusOf (← writeOrdered name (words.length + 1) false items)

end Shakedown.Utility.Precedence

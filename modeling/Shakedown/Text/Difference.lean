/-!
# Differences between two lists

What has to be taken out of a list and put into it to make another one of it, with as much as
possible left as it is. `commonLengths` tells how much two lists have in common from any two places
on, and `changes` lists the places that differ.
-/

set_option autoImplicit false

namespace Shakedown

/-- A part of a list in whose place another part stands in the other list. -/
structure Change where
  /-- Where the part begins. -/
  left : Nat
  /-- How many elements it has. -/
  leftCount : Nat
  /-- Where the other part begins. -/
  right : Nat
  /-- How many elements that one has. -/
  rightCount : Nat
  deriving DecidableEq, Repr

namespace Difference

/-- How much a list that begins with an element has in common with the other list from each place
on, given the same for what is behind that element. -/
def commonRow {α : Type} [DecidableEq α] (x : α) : List α → List Nat → List Nat
  | [], _ => [0]
  | y :: ys, next =>
    let rest := commonRow x ys next.tail
    let here := if x = y then next.tail.headD 0 + 1 else max (next.headD 0) (rest.headD 0)
    here :: rest

/-- How much two lists have in common from any two places on. -/
def commonLengths {α : Type} [DecidableEq α] (ys : List α) : List α → List (List Nat)
  | [] => [List.replicate (ys.length + 1) 0]
  | x :: xs =>
    let rest := commonLengths ys xs
    commonRow x ys (rest.headD []) :: rest

/-- A step from one list to the other. -/
inductive Step where
  /-- An element stays. -/
  | keep
  /-- An element is taken out. -/
  | remove
  /-- An element is put in. -/
  | insert
  deriving DecidableEq, Repr

/-- The steps from two places on, of which so many are made at most. -/
def steps {α : Type} [DecidableEq α] (xs ys : Array α) (common : Array (Array Nat)) :
    Nat → Nat → Nat → List Step
  | 0, _, _ => []
  | n + 1, i, j =>
    let lengthAt := fun (i j : Nat) => ((common[i]?).bind (·[j]?)).getD 0
    match xs[i]?, ys[j]? with
    | none, none => []
    | some _, none => .remove :: steps xs ys common n (i + 1) j
    | none, some _ => .insert :: steps xs ys common n i (j + 1)
    | some x, some y =>
      if x = y then .keep :: steps xs ys common n (i + 1) (j + 1)
      else if lengthAt (i + 1) j ≥ lengthAt i (j + 1) then
        .remove :: steps xs ys common n (i + 1) j
      else .insert :: steps xs ys common n i (j + 1)

/-- The changes that steps from two places on make, after one that they may continue. -/
def gather : Nat → Nat → Option Change → List Step → List Change
  | _, _, open?, [] => open?.toList
  | i, j, open?, s :: more =>
    let change := open?.getD { left := i, leftCount := 0, right := j, rightCount := 0 }
    match s with
    | .keep => open?.toList ++ gather (i + 1) (j + 1) none more
    | .remove => gather (i + 1) j (some { change with leftCount := change.leftCount + 1 }) more
    | .insert => gather i (j + 1) (some { change with rightCount := change.rightCount + 1 }) more

/-- What makes one list of another one. -/
def changes {α : Type} [DecidableEq α] (xs ys : List α) : List Change :=
  let common := ((commonLengths ys xs).map List.toArray).toArray
  gather 0 0 none (steps xs.toArray ys.toArray common (xs.length + ys.length) 0 0)

end Difference

end Shakedown

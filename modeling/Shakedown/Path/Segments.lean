/-!
# The structure of a path

A path is a word over an alphabet with two distinguished letters, the slash and the dot. The same
rules read byte paths and texts, so they are stated for any such alphabet. `segments` cuts a path at
its slashes and `joinSegments` is its inverse; `components` is the reading of a path in which
repeated slashes and inner `.` segments do not count; `fileName?` is the last component, if that is
a name, and `withObjectSuffix?` swaps the extension of that name for `.o`.

Main statements: `joinSegments_segments`, no letter of a path is lost in its segments, and
`segments_no_slash`, no segment holds a slash.
-/

set_option autoImplicit false

namespace Shakedown

/-- An alphabet in which paths are written. -/
class PathLetter (α : Type) where
  /-- The letter between two segments. -/
  slash : α
  /-- The letter of `.`, `..` and of extensions. -/
  dot : α
  /-- The two letters differ. -/
  slash_ne_dot : slash ≠ dot

instance : PathLetter Char where
  slash := '/'
  dot := '.'
  slash_ne_dot := by decide

instance : PathLetter UInt8 where
  slash := 0x2F
  dot := 0x2E
  slash_ne_dot := by decide

namespace PathLetter

variable {α : Type} [DecidableEq α] [PathLetter α]

/-- The path cut at every slash; a path with `n` slashes has `n + 1` segments, some of them
empty. -/
def segments : List α → List (List α)
  | [] => [[]]
  | c :: r =>
    if c = slash then [] :: segments r
    else match segments r with
      | [] => [[c]]
      | s :: more => (c :: s) :: more

/-- Segments with a slash between each two. -/
def joinSegments (segs : List (List α)) : List α :=
  [slash].intercalate segs

/-- One step along a path. -/
inductive Component (α : Type) where
  /-- The leading slash. -/
  | root
  /-- A leading `.`. -/
  | here
  /-- `..` -/
  | up
  /-- Anything else. -/
  | name (n : List α)
  deriving DecidableEq, Repr

/-- The segment `.`. -/
def single : List α := [dot]

/-- The segment `..`. -/
def double : List α := [dot, dot]

/-- Whether a segment, other than the first, is skipped. -/
def isTrivial (s : List α) : Bool :=
  s = [] || s = single

/-- The component of a segment that counts. -/
def component (s : List α) : Component α :=
  if s = double then .up else .name s

/-- The components of a path. Empty segments and `.` do not count, but for a slash or a `.` at the
very start. -/
def components (p : List α) : List (Component α) :=
  match segments p with
  | [] => []
  | first :: more =>
    let rest := (more.filter (fun s => !isTrivial s)).map component
    if first = [] then (if more = [] then [] else .root :: rest)
    else if first = single then .here :: rest
    else component first :: rest

/-- Whether a path starts at the root. -/
def isAbsolute (p : List α) : Bool :=
  p.head? = some slash

/-- A path taken from a base: an absolute path stands for itself, any other follows the base after
one slash. -/
def join (base p : List α) : List α :=
  if isAbsolute p then p
  else if base = [] ∨ base.getLast? = some slash then base ++ p
  else base ++ slash :: p

/-- The segments of a path up to its last component, latest first, trailing `.` and empty segments
left off. -/
def significantReversed (p : List α) : List (List α) :=
  (segments p).reverse.dropWhile isTrivial

/-- The last component, if it is a name. -/
def fileName? (p : List α) : Option (List α) :=
  match significantReversed p with
  | [] => none
  | n :: _ => if n = double then none else some n

/-- A name without its extension: what stands before its last dot, or all of it when it has no dot
but perhaps the first letter. -/
def stem (n : List α) : List α :=
  match n.reverse.dropWhile (· ≠ dot) with
  | [] => n
  | [_] => n
  | _ :: before => before.reverse

/-- Whether cutting the extension off the end of the path `p` leaves `..` of its name `n`. -/
def cutsToParent (p n : List α) : Bool :=
  stem n = single && (segments p).getLast? = some n

/-- The path with the extension of its name replaced by `.` and `suffix`, and anything after the
name dropped; nothing when the last component is no name. The extension is cut off first: where that
leaves `..`, there is no name any more and nothing is put in its place. -/
def withSuffix? (suffix : List α) (p : List α) : Option (List α) :=
  match significantReversed p with
  | [] => none
  | n :: before =>
    if n = double then none
    else
      let name := if cutsToParent p n then double else stem n ++ dot :: suffix
      some (joinSegments (before.reverse ++ [name]))

/-- The segments of a path are never none. -/
theorem segments_ne_nil (p : List α) : segments p ≠ [] := by
  cases p with
  | nil => simp [segments]
  | cons c r =>
    unfold segments
    split
    · simp
    · split <;> simp

omit [DecidableEq α] in
/-- A segment in front of others is followed by a slash. -/
theorem joinSegments_cons_cons (s t : List α) (more : List (List α)) :
    joinSegments (s :: t :: more) = s ++ slash :: joinSegments (t :: more) := by
  simp [joinSegments, List.intercalate]

/-- No letter of a path is lost in its segments. -/
@[simp]
theorem joinSegments_segments (p : List α) : joinSegments (segments p) = p := by
  induction p with
  | nil => simp [segments, joinSegments, List.intercalate]
  | cons c r ih =>
    unfold segments
    obtain ⟨s, more, hs⟩ : ∃ s more, segments r = s :: more := by
      cases h : segments r with
      | nil => exact absurd h (segments_ne_nil r)
      | cons s more => exact ⟨s, more, rfl⟩
    split
    · next hc => rw [hs, joinSegments_cons_cons, ← hs, ih, hc]; rfl
    · rw [hs] at ih ⊢
      cases more with
      | nil => simpa [joinSegments, List.intercalate] using ih
      | cons t more =>
        simp only [joinSegments_cons_cons] at ih ⊢
        rw [← ih]; rfl

/-- No segment holds a slash. -/
theorem segments_no_slash (p : List α) : ∀ s ∈ segments p, slash ∉ s := by
  induction p with
  | nil => simp [segments]
  | cons c r ih =>
    unfold segments
    split
    · intro s hs
      rcases List.mem_cons.1 hs with rfl | hs
      · simp
      · exact ih s hs
    · next hc =>
      split
      · next hn => simpa using fun h => hc h.symm
      · next s more hs =>
        intro t ht
        rcases List.mem_cons.1 ht with rfl | ht
        · have := ih s (by simp [hs])
          exact fun h => (List.mem_cons.1 h).elim (fun h => hc h.symm) this
        · exact ih t (by simp [hs, ht])

end PathLetter

end Shakedown

import Shakedown.Shell.Pattern

/-!
# Fields

A word expands to marks: characters, some of which may be split at or have a meaning in a pattern,
and the boundaries between arguments. `Mark.fields` makes arguments out of them, whose letters still
know whether they stand for themselves, and `Mark.text` one text.
-/

set_option autoImplicit false

namespace Shakedown.Shell

/-- A part of what a word stands for. -/
inductive Mark where
  /-- A character that stands for itself. -/
  | solid (c : Char)
  /-- A character of the script that may have a meaning in a pattern. -/
  | plain (c : Char)
  /-- A character of a value, at which the word is split if it is a separator. -/
  | soft (c : Char)
  /-- Quotes, which make an argument even if nothing is in them. -/
  | presence
  /-- The boundary between two arguments, which are there even if they are empty. -/
  | cut
  /-- The boundary between two arguments, which are gone if they are empty. -/
  | gap
  /-- The beginning of a value. -/
  | seam
  deriving DecidableEq, Repr

/-- The separators of fields where none are set. -/
def usualSeparators : Chars := [' ', '\t', '\n']

/-- Where the splitting of a word stands. -/
structure Splitter where
  /-- The fields that are complete, latest first. -/
  fields : List (List Letter) := []
  /-- The field that was begun, latest letter first. -/
  begun : Option (List Letter) := none
  /-- Whether the last field was ended by a blank, so that one more separator belongs to it. -/
  behindBlank : Bool := false

namespace Splitter

/-- Adds a letter. -/
def push (s : Splitter) (l : Letter) : Splitter :=
  { s with begun := some (l :: s.begun.getD []), behindBlank := false }

/-- Ends the field that was begun, or an empty one. -/
def close (s : Splitter) (begun : Option (List Letter)) (behindBlank : Bool) : Splitter :=
  { fields := (s.begun.getD []).reverse :: s.fields, begun, behindBlank }

/-- Meets a separator that is a blank. -/
def blank (s : Splitter) : Splitter :=
  if s.behindBlank || s.begun.isNone then s else s.close none true

/-- Meets a separator that is no blank. -/
def separate (s : Splitter) : Splitter :=
  if s.behindBlank then { s with behindBlank := false } else s.close none false

/-- A letter of a value. A backslash there has no meaning for file names. -/
def letter (c : Char) : Letter :=
  (c, c = '\\')

/-- Meets a mark. -/
def feed (separators : Chars) (s : Splitter) : Mark → Splitter
  | .solid c => s.push (c, true)
  | .plain c => s.push (c, false)
  | .soft c =>
    if !separators.contains c then s.push (letter c)
    else if usualSeparators.contains c then s.blank
    else s.separate
  | .presence => { s with begun := some (s.begun.getD []), behindBlank := false }
  | .cut => s.close (some []) false
  | .gap => s.blank
  | .seam => { s with behindBlank := false }

/-- The fields in the end. -/
def finish (s : Splitter) : List (List Letter) :=
  match s.begun with
  | none => s.fields.reverse
  | some l => (l.reverse :: s.fields).reverse

end Splitter

namespace Mark

/-- The fields that marks amount to. -/
def fields (separators : Chars) (marks : List Mark) : List (List Letter) :=
  (marks.foldl (Splitter.feed separators) {}).finish

/-- The letters of marks when nothing is split. -/
def letters (marks : List Mark) : List Letter :=
  marks.filterMap fun
    | .solid c => some (c, true)
    | .plain c => some (c, false)
    | .soft c => some (c, false)
    | .cut => some (' ', true)
    | .gap => some (' ', true)
    | .presence => none
    | .seam => none

/-- The text of marks when nothing is split. -/
def text (marks : List Mark) : Chars :=
  (letters marks).map (·.1)

/-- The letters of a pattern, where a backslash in a value keeps the next letter from its
meaning. -/
def escaped : List Letter → List Letter
  | ('\\', false) :: (c, _) :: more => (c, true) :: escaped more
  | l :: more => l :: escaped more
  | [] => []

/-- The pattern of marks. -/
def pattern (marks : List Mark) : Pattern :=
  .ofLetters (escaped (letters marks))

end Mark

end Shakedown.Shell

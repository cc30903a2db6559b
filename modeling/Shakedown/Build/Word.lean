import Shakedown.Text.Octet
import Shakedown.Utility.Name

/-!
# Words of makefiles

A makefile is text in which references stand for other text, and most of what it tells is lists of
words. A word may be a pattern: a percent sign in it stands for anything but nothing, its stem.
-/

set_option autoImplicit false

namespace Shakedown.Build

/-- The words of a text. -/
def wordsOf (s : Chars) : List Chars :=
  Chars.fields Chars.isSpace s

/-- Whether a word is a pattern. -/
def isPattern (word : Chars) : Bool :=
  word.contains '%'

/-- What the percent sign of a pattern stands for in a word. -/
def stem? (pattern word : Chars) : Option Chars :=
  let front := pattern.takeWhile (· ≠ '%')
  let back := pattern.drop (front.length + 1)
  if !isPattern pattern then if pattern = word then some [] else none
  else if front.length + back.length ≤ word.length && front.isPrefixOf word
      && back.isSuffixOf word then
    some ((word.drop front.length).take (word.length - front.length - back.length))
  else none

/-- A pattern with its percent sign replaced. -/
def withStem (stem pattern : Chars) : Chars :=
  if isPattern pattern then
    let front := pattern.takeWhile (· ≠ '%')
    front ++ stem ++ pattern.drop (front.length + 1)
  else pattern

/-- A word rewritten after a pattern, if it is as the pattern says. -/
def rewritten (pattern replacement word : Chars) : Chars :=
  match stem? pattern word with
  | none => word
  | some stem => if isPattern pattern then withStem stem replacement else replacement

/-- A text without blanks around it. -/
def stripped (s : Chars) : Chars :=
  ((s.dropWhile Chars.isSpace).reverse.dropWhile Chars.isSpace).reverse

/-- The directory part of a word, with its slash. -/
def directoryOf (word : Chars) : Chars :=
  match word.reverse.dropWhile (· ≠ '/') with
  | [] => ['.', '/']
  | front => front.reverse

/-- The part of a word behind its last slash. -/
def nameOf (word : Chars) : Chars :=
  (word.reverse.takeWhile (· ≠ '/')).reverse

/-- The suffix of a word, with its dot. -/
def suffixOf (word : Chars) : Chars :=
  let name := nameOf word
  if name.contains '.' then '.' :: (name.reverse.takeWhile (· ≠ '.')).reverse else []

/-- A word without its suffix. -/
def withoutSuffix (word : Chars) : Chars :=
  word.take (word.length - (suffixOf word).length)

/-- Words without repeats, the first ones kept. -/
def withoutRepeats (l : List Chars) : List Chars :=
  (l.foldl (fun kept word => if kept.contains word then kept else word :: kept) []).reverse

/-! ## References -/

/-- A part of a text. -/
inductive Part where
  /-- Text that stands for itself. -/
  | text (s : Chars)
  /-- A reference, with what stands between its brackets. -/
  | reference (content : Chars)

/-- What stands up to the closing bracket that belongs to an opening one, and the rest. -/
def cutReference (opening closing : Char) : Nat → Chars → Option (Chars × Chars)
  | _, [] => none
  | depth, c :: more =>
    if c = closing then
      if depth = 0 then some ([], more)
      else (cutReference opening closing (depth - 1) more).map fun (s, rest) => (c :: s, rest)
    else
      (cutReference opening closing (if c = opening then depth + 1 else depth) more).map
        fun (s, rest) => (c :: s, rest)

/-- The parts of a text, of which there are so many at most; nothing if a reference does not
end. -/
def partsOf : Nat → Chars → Option (List Part)
  | 0, _ => some []
  | _ + 1, [] => some []
  | n + 1, '$' :: more =>
    match more with
    | [] => some []
    | '$' :: rest => (partsOf n rest).map (.text ['$'] :: ·)
    | '(' :: rest =>
      match cutReference '(' ')' 0 rest with
      | none => none
      | some (content, rest) => (partsOf n rest).map (.reference content :: ·)
    | '\x7b' :: rest =>
      match cutReference '\x7b' '\x7d' 0 rest with
      | none => none
      | some (content, rest) => (partsOf n rest).map (.reference content :: ·)
    | c :: rest => (partsOf n rest).map (.reference [c] :: ·)
  | n + 1, c :: more =>
    let text := (c :: more).takeWhile (· ≠ '$')
    (partsOf n ((c :: more).drop text.length)).map (.text text :: ·)

/-- A text cut at commas outside of brackets, into so many parts at most if a limit is given. -/
def argumentsOf (limit : Nat) : Nat → Chars → Chars → List Chars
  | _, current, [] => [current.reverse]
  | depth, current, c :: more =>
    if c = ',' && depth = 0 && limit ≠ 1 then
      current.reverse :: argumentsOf (limit - 1) 0 [] more
    else
      let depth := if c = '(' || c = '\x7b' then depth + 1
        else if c = ')' || c = '\x7d' then depth - 1 else depth
      argumentsOf limit depth (c :: current) more

/-- Where a text can be cut at the first of some characters outside of references: what stands in
front, and the rest with the character. -/
def cutWithin (isSign : Char → Bool) : Bool → Nat → Chars → Chars × Chars
  | _, _, [] => ([], [])
  | afterDollar, depth, c :: more =>
    let isOpening := c = '(' || c = '\x7b'
    if !afterDollar && depth = 0 && isSign c then ([], c :: more)
    else
      let depth := if isOpening && (afterDollar || depth > 0) then depth + 1
        else if c = ')' || c = '\x7d' then depth - 1 else depth
      let (front, rest) := cutWithin isSign (c = '$' && !afterDollar) depth more
      (c :: front, rest)

/-- A text cut at the first of some characters outside of references. -/
def cutAt (isSign : Char → Bool) (s : Chars) : Chars × Chars :=
  cutWithin isSign false 0 s

/-! ## Functions -/

/-- The functions of which the arguments are expanded first, with the number of these; zero stands
for any number. -/
def functionArities : List (String × Nat) :=
  [("subst", 3), ("patsubst", 3), ("strip", 1), ("findstring", 2), ("filter", 2),
    ("filter-out", 2), ("sort", 1), ("word", 2), ("wordlist", 3), ("words", 1), ("firstword", 1),
    ("lastword", 1), ("dir", 1), ("notdir", 1), ("suffix", 1), ("basename", 1), ("addsuffix", 2),
    ("addprefix", 2), ("join", 2), ("wildcard", 1), ("realpath", 1), ("abspath", 1), ("value", 1),
    ("origin", 1), ("flavor", 1), ("error", 1), ("warning", 1), ("info", 1), ("shell", 1),
    ("if", 3), ("or", 0), ("and", 0), ("foreach", 3), ("call", 0)]

/-- A text with every occurrence of another one replaced; so many characters are looked at. -/
def replaced (old new : Chars) : Nat → Chars → Chars
  | 0, s => s
  | _ + 1, [] => []
  | n + 1, c :: more =>
    if !old.isEmpty && old.isPrefixOf (c :: more) then
      new ++ replaced old new n ((c :: more).drop old.length)
    else c :: replaced old new n more

/-- Whether a text stands in another one. -/
def occurs (part : Chars) : Chars → Bool
  | [] => part.isEmpty
  | c :: more => part.isPrefixOf (c :: more) || occurs part more

/-- Two lists of words joined word by word. -/
def joinWords : List Chars → List Chars → List Chars
  | a :: s, b :: t => (a ++ b) :: joinWords s t
  | [], t => t
  | s, [] => s

/-- The result of a function that only looks at its arguments. -/
def textFunction? (name : String) (args : List Chars) : Option Chars :=
  let first := args.headD []
  let second := args.getD 1 []
  let third := args.getD 2 []
  let each := fun (f : Chars → Chars) (s : Chars) => Chars.spaced ((wordsOf s).map f)
  match name with
  | "subst" => some (replaced first second (third.length + 1) third)
  | "patsubst" => some (each (rewritten first second) third)
  | "strip" => some (Chars.spaced (wordsOf first))
  | "findstring" => some (if occurs first second then first else [])
  | "filter" =>
    some (Chars.spaced ((wordsOf second).filter fun w =>
      (wordsOf first).any fun p => (stem? p w).isSome))
  | "filter-out" =>
    some (Chars.spaced ((wordsOf second).filter fun w =>
      !(wordsOf first).any fun p => (stem? p w).isSome))
  | "sort" =>
    some (Chars.spaced (withoutRepeats ((wordsOf first).mergeSort fun a b => !Chars.before b a)))
  | "word" => some ((wordsOf second).getD ((Chars.decimal? (stripped first)).getD 1 - 1) [])
  | "wordlist" =>
    let low := (Chars.decimal? (stripped first)).getD 1
    let high := (Chars.decimal? (stripped second)).getD 0
    some (Chars.spaced (((wordsOf third).take high).drop (low - 1)))
  | "words" => some (Chars.ofNat (wordsOf first).length)
  | "firstword" => some ((wordsOf first).headD [])
  | "lastword" => some ((wordsOf first).getLast?.getD [])
  | "dir" => some (each directoryOf first)
  | "notdir" => some (Chars.spaced (((wordsOf first).map nameOf).filter (!·.isEmpty)))
  | "suffix" => some (Chars.spaced (((wordsOf first).map suffixOf).filter (!·.isEmpty)))
  | "basename" => some (each withoutSuffix first)
  | "addsuffix" => some (each (· ++ first) second)
  | "addprefix" => some (each (first ++ ·) second)
  | "join" => some (Chars.spaced (joinWords (wordsOf first) (wordsOf second)))
  | _ => none

end Shakedown.Build

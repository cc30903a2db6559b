import Shakedown.Text.CharSet

/-!
# Regular expressions

A regular expression and where it can end: `Regex.ends` lists the places that a match may reach from
a given one, the preferred ones first. What was matched by a group is part of a place, since later
parts of the expression may refer to it.

A match is the longest of those that begin first, as `Regex.search` finds it.
-/

set_option autoImplicit false

namespace Shakedown

/-- A condition on the characters around a place. -/
inductive Boundary where
  /-- Nothing stands before it on the line. -/
  | lineStart
  /-- Nothing stands behind it on the line. -/
  | lineEnd
  /-- Nothing stands before it at all. -/
  | textStart
  /-- Nothing stands behind it at all. -/
  | textEnd
  /-- A word begins. -/
  | wordStart
  /-- A word ends. -/
  | wordEnd
  /-- A word begins or ends. -/
  | wordEdge
  /-- No word begins or ends. -/
  | noWordEdge
  deriving DecidableEq, Repr

/-- A regular expression. -/
inductive Regex where
  /-- Nothing at all. -/
  | empty
  /-- A character of a set. -/
  | char (s : CharSet)
  /-- A condition on the place. -/
  | boundary (b : Boundary)
  /-- One expression behind another. -/
  | seq (first second : Regex)
  /-- One of two expressions. -/
  | either (first second : Regex)
  /-- A group with its number. -/
  | group (number : Nat) (inner : Regex)
  /-- What a group has matched. -/
  | same (number : Nat)
  /-- An expression several times in a row. -/
  | repeated (inner : Regex) (least : Nat) (most : Option Nat)

/-- How regular expressions are matched. -/
structure MatchStyle where
  /-- Whether the case of letters does not matter. -/
  folds : Bool := false
  /-- Whether newlines separate lines. -/
  multiline : Bool := false

/-- A part of a text that a group has matched. -/
structure Captured where
  /-- The number of the group. -/
  number : Nat
  /-- Where it begins. -/
  start : Nat
  /-- What it is. -/
  text : Chars
  deriving DecidableEq, Repr

/-- A place in a text. -/
structure Place where
  /-- The character before. -/
  before : Option Char := none
  /-- What stands behind. -/
  rest : Chars
  /-- How far it is from the beginning. -/
  offset : Nat := 0
  /-- What groups have matched, latest first. -/
  captures : List Captured := []

namespace Place

/-- The place behind the next character. -/
def advance (p : Place) (c : Char) (rest : Chars) : Place :=
  { p with before := some c, rest, offset := p.offset + 1 }

/-- The place so many characters further on. -/
def forward (p : Place) : Nat → Place
  | 0 => p
  | n + 1 =>
    match p.rest with
    | [] => p
    | c :: rest => (p.advance c rest).forward n

/-- Whether a character belongs to words. -/
def isWordChar (c : Char) : Bool :=
  c.isAlphanum || c = '_'

/-- Whether a condition holds. -/
def satisfies (multiline : Bool) (p : Place) (b : Boundary) : Bool :=
  let wordBefore := p.before.any isWordChar
  let wordBehind := p.rest.head?.any isWordChar
  match b with
  | .lineStart => p.before.isNone || (multiline && p.before = some '\n')
  | .lineEnd => p.rest.isEmpty || (multiline && p.rest.head? = some '\n')
  | .textStart => p.before.isNone
  | .textEnd => p.rest.isEmpty
  | .wordStart => !wordBefore && wordBehind
  | .wordEnd => wordBefore && !wordBehind
  | .wordEdge => wordBefore != wordBehind
  | .noWordEdge => wordBefore = wordBehind

/-- The place with what a group has matched, which began at another place. -/
def withCapture (p : Place) (number : Nat) (start : Place) : Place :=
  let text := start.rest.take (p.offset - start.offset)
  { p with captures := { number, start := start.offset, text }
      :: p.captures.filter (·.number ≠ number) }

/-- What a group has matched. -/
def captured? (p : Place) (number : Nat) : Option Chars :=
  (p.captures.find? (·.number = number)).map Captured.text

/-- Places without those that only repeat an earlier offset. -/
def distinct (l : List Place) : List Place :=
  (l.foldl (fun kept p => if kept.any (·.offset = p.offset) then kept else p :: kept) []).reverse

/-- Places without repeats, where there can be any. -/
def tidy (l : List Place) : List Place :=
  match l with
  | _ :: _ :: _ => distinct l
  | _ => l

end Place

/-- Whether a character is in a set. -/
def MatchStyle.has (m : MatchStyle) (s : CharSet) (c : Char) : Bool :=
  if m.folds then s.hasFolded c else s.has c

/-- Whether two texts are the same. -/
def MatchStyle.agree (m : MatchStyle) (s t : Chars) : Bool :=
  if m.folds then s.map Char.toLower = t.map Char.toLower else s = t

/-- The places that a step taken again and again leads to, more steps first. A step that leads
nowhere is not taken more often than it has to be. -/
def repeatStep (step : Place → List Place) : Nat → Nat → Option Nat → Place → List Place
  | 0, _, _, p => [p]
  | n + 1, least, most, p =>
    if most = some 0 then [p]
    else
      let after := Place.tidy (step p)
      let further := after.flatMap fun q =>
        if q.offset = p.offset then (if least = 0 then [] else [q])
        else repeatStep step n (least - 1) (most.map (· - 1)) q
      let reached := match after with
        | _ :: _ :: _ => Place.tidy further
        | _ => further
      if least = 0 then reached ++ [p] else reached

/-- The places behind characters of a set, of which there are at least and at most so many. -/
def runOf (m : MatchStyle) (s : CharSet) (least : Nat) (most : Option Nat) (p : Place) :
    List Place :=
  let run := (p.rest.takeWhile (m.has s)).length
  let longest := most.elim run (min run)
  let reached := (List.range (longest + 1)).foldl
    (fun (found, q) _ => (q :: found, q.forward 1)) (([] : List Place), p)
  reached.1.take (longest + 1 - least)

namespace Regex

/-- The places that a match may reach. -/
def ends (m : MatchStyle) : Regex → Place → List Place
  | .empty, p => [p]
  | .char s, p =>
    match p.rest with
    | [] => []
    | c :: rest => if m.has s c then [p.advance c rest] else []
  | .boundary b, p => if p.satisfies m.multiline b then [p] else []
  | .seq r s, p =>
    match ends m r p with
    | [q] => ends m s q
    | places => Place.tidy (places.flatMap (ends m s))
  | .either r s, p => Place.tidy (ends m r p ++ ends m s p)
  | .group n r, p => (ends m r p).map (·.withCapture n p)
  | .same n, p =>
    match p.captured? n with
    | none => []
    | some text =>
      if m.agree (p.rest.take text.length) text then [p.forward text.length] else []
  | .repeated r least most, p =>
    match r with
    | .char s => runOf m s least most p
    | _ => repeatStep (ends m r) (p.rest.length + least + 1) least most p

/-- The first of the longest matches among places. -/
def longest (places : List Place) : Option Place :=
  places.foldl
    (fun best q =>
      match best with
      | none => some q
      | some b => if q.offset > b.offset then some q else best)
    none

/-- The longest match that begins at a place and ends where it may. -/
def matchAt (m : MatchStyle) (r : Regex) (mayEnd : Place → Bool) (p : Place) : Option Place :=
  longest ((ends m r p).filter mayEnd)

end Regex

/-- A match in a text. -/
structure Match where
  /-- Where it begins. -/
  start : Nat
  /-- Where it ends. -/
  stop : Place

/-- The text of a group of a match; what the whole match is has the number zero. -/
def Match.group? (whole : Chars) (m : Match) (number : Nat) : Option Chars :=
  if number = 0 then some ((whole.drop m.start).take (m.stop.offset - m.start))
  else m.stop.captured? number

namespace Regex

/-- The first match that begins at a place or behind it, looked for at so many places. -/
def searchFrom (m : MatchStyle) (r : Regex) (mayBegin mayEnd : Place → Bool) :
    Nat → Place → Option Match
  | 0, _ => none
  | n + 1, p =>
    match if mayBegin p then matchAt m r mayEnd p else none with
    | some stop => some { start := p.offset, stop }
    | none =>
      match p.rest with
      | [] => none
      | c :: rest => searchFrom m r mayBegin mayEnd n (p.advance c rest)

/-- The first match at a place or behind it. -/
def search (m : MatchStyle) (r : Regex) (p : Place) : Option Match :=
  searchFrom m r (fun _ => true) (fun _ => true) (p.rest.length + 1) { p with captures := [] }

/-- The first match in a text. -/
def find (m : MatchStyle) (r : Regex) (text : Chars) : Option Match :=
  search m r { rest := text }

/-- Whether there is a match in a text. -/
def occursIn (m : MatchStyle) (r : Regex) (text : Chars) : Bool :=
  (find m r text).isSome

/-- The matches in a text one after the other, up to so many. An empty match does not stand directly
behind another match. `touched` tells that a match ends at the place. -/
def matches_ (m : MatchStyle) (r : Regex) : Nat → Bool → Place → List Match
  | 0, _, _ => []
  | n + 1, touched, p =>
    match search m r p with
    | none => []
    | some found =>
      let isEmpty := found.stop.offset = found.start
      if isEmpty && touched && found.start = p.offset then
        match p.rest with
        | [] => []
        | c :: rest => matches_ m r n false (p.advance c rest)
      else if isEmpty then
        match found.stop.rest with
        | [] => [found]
        | c :: rest => found :: matches_ m r n false (found.stop.advance c rest)
      else found :: matches_ m r n true found.stop

/-- All matches in a text. -/
def allMatches (m : MatchStyle) (r : Regex) (text : Chars) : List Match :=
  matches_ m r (2 * text.length + 2) false { rest := text }

end Regex

end Shakedown

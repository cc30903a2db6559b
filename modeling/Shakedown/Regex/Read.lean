import Shakedown.Regex.Basic
import Shakedown.Text.Numeral

/-!
# Reading regular expressions

A regular expression is read in two steps. First its characters become tokens, where it is decided
which characters are signs; what is a sign in one style is a plain character in another one. Then
the tokens are put together, with a frame for every group that is still open.
-/

set_option autoImplicit false

namespace Shakedown

/-- How regular expressions are written. -/
structure RegexStyle where
  /-- Whether signs go without a backslash. -/
  extended : Bool
  /-- Whether counts may stand in braces. -/
  counts : Bool := true
  /-- Whether a closing parenthesis without a partner is a plain character. -/
  looseClosing : Bool := false
  /-- Whether backslashes are escapes in sets, too, and stand for control characters. -/
  escapes : Bool := false
  /-- Whether expressions may refer to groups. -/
  refers : Bool := true
  /-- Whether a mistake in a count is told, and no count or star stands behind another one unless
  signs go without a backslash. -/
  strict : Bool := false

/-- A token of a regular expression. -/
inductive RegexToken where
  /-- A character of a set. -/
  | char (s : CharSet)
  /-- A condition on the place. -/
  | boundary (b : Boundary)
  /-- How often the expression before stands in a row; its own text comes last. -/
  | times (least : Nat) (most : Option Nat) (text : String)
  /-- The beginning of a group. -/
  | opening
  /-- The end of a group. -/
  | closing
  /-- What separates alternatives. -/
  | bar
  /-- What a group has matched. -/
  | same (number : Nat)

namespace Regex

/-! ## Sets -/

/-- A text between signs inside brackets, and the rest: `[:` and `:]` stand around the name of a
class. -/
def untilSign (sign : Char) : Chars → Option (Chars × Chars)
  | c :: d :: more =>
    if c = sign && d = ']' then some ([], more)
    else (untilSign sign (d :: more)).map fun (found, rest) => (c :: found, rest)
  | _ => none

/-- What is said about a set that does not end. -/
def openBracket : String :=
  "Unmatched [, [^, [:, [., or [="

/-- The characters that letters behind a backslash stand for. -/
def escapeLetters : List (Char × Char) :=
  [('a', '\x07'), ('b', '\x08'), ('f', '\x0c'), ('n', '\n'), ('r', '\r'), ('t', '\t'),
    ('v', '\x0b')]

/-- A member of a set that may begin a range, and the rest. -/
def setMember (style : RegexStyle) (s : Chars) : Except String (Char × Chars) :=
  match s with
  | '[' :: '.' :: more =>
    match untilSign '.' more with
    | some ([c], rest) => .ok (c, rest)
    | some _ => .error "Invalid collation character"
    | none => .error openBracket
  | '[' :: '=' :: more =>
    match untilSign '=' more with
    | some ([c], rest) => .ok (c, rest)
    | some _ => .error "Invalid collation character"
    | none => .error openBracket
  | '\\' :: c :: more =>
    if style.escapes then .ok ((escapeLetters.lookup c).getD c, more) else .ok ('\\', c :: more)
  | c :: more => .ok (c, more)
  | [] => .error openBracket

/-- The rest of a set behind its opening bracket, of which so many members are read at most. -/
def setRest (style : RegexStyle) (set : CharSet) : Nat → Bool → Chars →
    Except String (CharSet × Chars)
  | 0, _, _ => .error openBracket
  | _ + 1, _, [] => .error openBracket
  | n + 1, first, c :: more =>
    if c = ']' && !first then .ok (set, more)
    else match c, more with
      | '[', ':' :: inside =>
        match untilSign ':' inside with
        | none => .error openBracket
        | some (name, rest) =>
          let name := String.ofList name
          if characterClasses.any (·.1 = name) then
            setRest style { set with classes := name :: set.classes } n false rest
          else .error "Invalid character class name"
      | _, _ =>
        match setMember style (c :: more) with
        | .error e => .error e
        | .ok (low, rest) =>
          match rest with
          | '-' :: d :: behind =>
            if d = ']' then
              setRest style { set with ranges := (low, low) :: set.ranges } n false rest
            else match setMember style (d :: behind) with
              | .error e => .error e
              | .ok (high, rest) =>
                if high < low then .error "Invalid range end"
                else setRest style { set with ranges := (low, high) :: set.ranges } n false rest
          | _ => setRest style { set with ranges := (low, low) :: set.ranges } n false rest

/-- A set behind its opening bracket, and the rest. -/
def readSet (style : RegexStyle) (s : Chars) : Except String (CharSet × Chars) :=
  let negated := s.head? = some '^'
  let s := if negated then s.tail else s
  if s.isEmpty then .error "Invalid regular expression"
  else setRest style { negated } (s.length + 1) true s

/-! ## Tokens -/

/-- The largest count. -/
def countLimit : Nat := 32767

/-- What is wrong with counts. -/
structure CountFault where
  /-- What is said about it. -/
  message : String
  /-- Whether the brace can be taken for a plain character. -/
  isPlain : Bool := false

/-- What is said about counts that make no sense. -/
def badCounts : String :=
  "Invalid content of \\\x7b\\\x7d"

/-- The characters of a count, the comma or the brace that ends it, and the rest. -/
def untilCountEnd (extended : Bool) : Chars → Option (Chars × Char × Chars)
  | [] => none
  | c :: more =>
    if c = ',' || (extended && c = '\x7d') then some ([], c, more)
    else if !extended && c = '\\' && more.head? = some '\x7d' then some ([], '\x7d', more.tail)
    else (untilCountEnd extended more).map fun (found, sign, rest) => (c :: found, sign, rest)

/-- The counts behind an opening brace, and the rest. -/
def readCounts (extended : Bool) (s : Chars) : Except CountFault (Nat × Option Nat × Chars) :=
  let unmatched : CountFault := { message := "Unmatched \\\x7b", isPlain := true }
  let bounded := fun (low : Nat) (high : Option Nat) (rest : Chars) =>
    if high.any (· < low) then .error { message := badCounts : CountFault }
    else if high.getD low > countLimit then
      .error { message := "Regular expression too big" : CountFault }
    else .ok (low, high, rest)
  match untilCountEnd extended s with
  | none => .error unmatched
  | some (least, sign, rest) =>
    let low := Numeral.numberOf 10 least
    if least.isEmpty && sign ≠ ',' then .error { message := badCounts }
    else if !least.all Char.isDigit then .error { message := badCounts, isPlain := true }
    else if sign ≠ ',' then bounded low (some low) rest
    else match untilCountEnd extended rest with
      | none => .error unmatched
      | some (most, sign, rest) =>
        if !most.all Char.isDigit then .error { message := badCounts, isPlain := true }
        else if sign = ',' then .error { message := badCounts }
        else bounded low (if most.isEmpty then none else some (Numeral.numberOf 10 most)) rest

/-- The characters of words. -/
def wordSet (negated : Bool) : CharSet :=
  { negated, ranges := [('_', '_')], classes := ["alnum"] }

/-- The blank characters. -/
def blankSet (negated : Bool) : CharSet :=
  { negated, classes := ["space"] }

/-- What letters behind a backslash stand for in every style. -/
def letterToken? (c : Char) : Option RegexToken :=
  match c with
  | 'w' => some (.char (wordSet false))
  | 'W' => some (.char (wordSet true))
  | 's' => some (.char (blankSet false))
  | 'S' => some (.char (blankSet true))
  | 'b' => some (.boundary .wordEdge)
  | 'B' => some (.boundary .noWordEdge)
  | '<' => some (.boundary .wordStart)
  | '>' => some (.boundary .wordEnd)
  | '\x60' => some (.boundary .textStart)
  | '\'' => some (.boundary .textEnd)
  | _ => none

/-- The token of a sign that goes with a backslash in one style and without in the other. -/
def signToken? (c : Char) : Option RegexToken :=
  match c with
  | '(' => some .opening
  | ')' => some .closing
  | '|' => some .bar
  | '+' => some (.times 1 none "+")
  | '?' => some (.times 0 (some 1) "?")
  | _ => none

/-- Whether a token is one behind which an expression begins. -/
def isBeginning : Option RegexToken → Bool
  | none => true
  | some .opening => true
  | some .bar => true
  | _ => false

/-- Whether a token tells how often the expression before it stands in a row. -/
def isTimes : Option RegexToken → Bool
  | some (.times ..) => true
  | _ => false

/-- Whether a token is the condition that a line begins. -/
def isLineStart : Option RegexToken → Bool
  | some (.boundary .lineStart) => true
  | _ => false

/-- How counts are called in messages. -/
def countsSign : String :=
  "\x7b...\x7d"

/-- The token of a character that stands for itself. -/
def plainToken (c : Char) : RegexToken :=
  .char (.single c)

/-- The token behind a backslash, and the rest. -/
def escapedToken (style : RegexStyle) (previous : Option RegexToken) (c : Char) (more : Chars) :
    Except String (RegexToken × Chars) :=
  if style.escapes && (escapeLetters.lookup c).isSome then
    .ok (plainToken ((escapeLetters.lookup c).getD c), more)
  else if style.refers && '1' ≤ c && c ≤ '9' then .ok (.same (c.toNat - '0'.toNat), more)
  else match if style.escapes then none else letterToken? c with
    | some t => .ok (t, more)
    | none =>
      if style.extended then .ok (plainToken c, more)
      else if c = '\x7b' then
        if style.strict && (isBeginning previous || isTimes previous || isLineStart previous) then
          .error "Invalid preceding regular expression"
        else if isBeginning previous || isLineStart previous then .ok (plainToken c, more)
        else match readCounts false more with
          | .ok (least, most, rest) => .ok (.times least most countsSign, rest)
          | .error e => .error e.message
      else match signToken? c with
        | some (.times least most text) =>
          .ok (if isBeginning previous then plainToken c else .times least most text, more)
        | some t => .ok (t, more)
        | none => .ok (plainToken c, more)

/-- Whether what follows ends an expression. -/
def isEndBehind (style : RegexStyle) (more : Chars) : Bool :=
  style.extended || more.isEmpty || more.take 2 = ['\\', ')'] || more.take 2 = ['\\', '|']

/-- The token at the beginning of a text, and the rest. -/
def nextToken (style : RegexStyle) (previous : Option RegexToken) (c : Char) (more : Chars) :
    Except String (RegexToken × Chars) :=
  match c with
  | '\\' =>
    match more with
    | [] => .error "Trailing backslash"
    | d :: rest => escapedToken style previous d rest
  | '[' => (readSet style more).map fun (s, rest) => (.char s, rest)
  | '.' => .ok (.char .all, more)
  | '^' =>
    .ok (if style.extended || isBeginning previous then .boundary .lineStart else plainToken c, more)
  | '$' => .ok (if isEndBehind style more then .boundary .lineEnd else plainToken c, more)
  | '*' =>
    let isPlain := !style.extended && (isBeginning previous || isLineStart previous)
    if style.strict && !style.extended && isTimes previous then
      .error "Invalid preceding regular expression"
    else .ok (if isPlain then plainToken c else .times 0 none "*", more)
  | '\x7b' =>
    if style.extended && style.counts then
      match readCounts true more, isBeginning previous with
      | .ok _, true =>
        if style.strict then .error "Invalid preceding regular expression"
        else .ok (.times 1 (some 1) countsSign, more)
      | .ok (least, most, rest), false => .ok (.times least most countsSign, rest)
      | .error e, isFirst =>
        if style.strict then
          .error (if isFirst then "Invalid preceding regular expression" else e.message)
        else if isFirst then .ok (.times 1 (some 1) "", more)
        else if e.isPlain then .ok (plainToken c, more)
        else .error e.message
    else .ok (plainToken c, more)
  | _ => .ok (if style.extended then (signToken? c).getD (plainToken c) else plainToken c, more)

/-- The tokens of a text, of which so many are read at most. -/
def readTokens (style : RegexStyle) : Nat → Option RegexToken → Chars →
    Except String (List RegexToken)
  | 0, _, _ => .ok []
  | _ + 1, _, [] => .ok []
  | n + 1, previous, c :: more =>
    match nextToken style previous c more with
    | .error e => .error e
    | .ok (t, rest) => (readTokens style n (some t) rest).map (t :: ·)

/-! ## Putting together -/

/-- A group that is still open. -/
structure OpenGroup where
  /-- Its number. -/
  number : Nat
  /-- The alternatives that are complete, latest first. -/
  alternatives : List Regex := []
  /-- The parts of the alternative that is being read, latest first. -/
  parts : List Regex := []

/-- Parts one behind another; the latest comes first. -/
def seqOf : List Regex → Regex
  | [] => .empty
  | r :: more => more.foldl (fun all part => .seq part all) r

/-- The expression inside a group. -/
def OpenGroup.inside (g : OpenGroup) : Regex :=
  g.alternatives.foldl (fun all r => .either r all) (seqOf g.parts)

/-- How far the putting together is. -/
structure Assembly where
  /-- The innermost open group. -/
  inner : OpenGroup := { number := 0 }
  /-- The groups around it, innermost first. -/
  outer : List OpenGroup := []
  /-- How many groups have been opened. -/
  groups : Nat := 0
  /-- The groups that are complete. -/
  complete : List Nat := []
  /-- Signs that stand where nothing precedes them, latest first. -/
  dangling : List String := []

/-- Adds a part. -/
def Assembly.add (a : Assembly) (r : Regex) : Assembly :=
  { a with inner := { a.inner with parts := r :: a.inner.parts } }

/-- Takes a token in. -/
def Assembly.take (style : RegexStyle) (a : Assembly) (t : RegexToken) :
    Except String Assembly :=
  match t with
  | .char s => .ok (a.add (.char s))
  | .boundary b => .ok (a.add (.boundary b))
  | .same n =>
    if a.complete.contains n then .ok (a.add (.same n)) else .error "Invalid back reference"
  | .times least most text =>
    match a.inner.parts with
    | [] =>
      .ok { a.add .empty with dangling := if text = "" then a.dangling else text :: a.dangling }
    | r :: more =>
      let isStart := match r with
        | .boundary .lineStart => true
        | _ => false
      .ok { a with
        inner := { a.inner with parts := .repeated r least most :: more }
        dangling := if isStart then text :: a.dangling else a.dangling }
  | .bar =>
    .ok { a with inner := { a.inner with
      alternatives := seqOf a.inner.parts :: a.inner.alternatives, parts := [] } }
  | .opening =>
    .ok { a with
      inner := { number := a.groups + 1 }, outer := a.inner :: a.outer, groups := a.groups + 1 }
  | .closing =>
    match a.outer with
    | g :: more =>
      let r := Regex.group a.inner.number a.inner.inside
      .ok { a with
        inner := { g with parts := r :: g.parts }
        outer := more
        complete := a.inner.number :: a.complete }
    | [] =>
      if style.looseClosing then .ok (a.add (.char (.single ')')))
      else .error "Unmatched ) or \\)"

/-- A regular expression that was read. -/
structure Compiled where
  /-- The expression. -/
  regex : Regex
  /-- How many groups it has. -/
  groups : Nat
  /-- Signs that stand where nothing precedes them. -/
  dangling : List String

/-- The regular expression of a text. -/
def read (style : RegexStyle) (text : Chars) : Except String Compiled := do
  let tokens ← readTokens style (text.length + 1) none text
  let a ← tokens.foldlM (Assembly.take style) {}
  if !a.outer.isEmpty then throw "Unmatched ( or \\("
  return { regex := a.inner.inside, groups := a.groups, dangling := a.dangling.reverse }

end Regex

end Shakedown

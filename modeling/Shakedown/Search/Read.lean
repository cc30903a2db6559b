import Shakedown.Machine.ModeChange
import Shakedown.Regex.Read
import Shakedown.Search.Criterion

/-!
# Reading what is searched for

The words of a search become items one by one, where each criterion takes the words that belong to
it. The items are then put together by the usual order of operators: negation, conjunction, which
needs no sign, disjunction, and the comma.
-/

set_option autoImplicit false

namespace Shakedown.Search

/-- An item of a search. -/
inductive Item where
  /-- A criterion or a deed. -/
  | operand (w : Wish)
  /-- A sign for the opposite. -/
  | opposite
  /-- A sign between two wishes. -/
  | binary (looseness : Nat)
  /-- An opening parenthesis. -/
  | opening
  /-- A closing parenthesis. -/
  | closing

/-- What holds for a search as a whole. -/
structure Settings where
  /-- Beyond which depth nothing is visited. -/
  deepest : Option Nat := none
  /-- Below which depth no wish is evaluated. -/
  shallowest : Nat := 0
  /-- Whether what is in a directory comes before it. -/
  contentsFirst : Bool := false
  /-- Whether links are followed, -/
  follows : Bool := false
  /-- at least those that are starting points. -/
  followsStarts : Bool := false
  /-- Whether there is a deed that makes writing the path superfluous. -/
  acts : Bool := false
  /-- Whether regular expressions are of the extended style. -/
  extended : Bool := false
  /-- How many programs are to be run for all paths together. -/
  collections : Nat := 0

/-! ## Arguments -/

/-- Reads items: what holds for the search is the state, a complaint ends the reading. -/
abbrev Reading := ExceptT Chars (StateM Settings)

/-- A pattern in which a backslash takes the meaning of the next character away. -/
def patternOf (folds : Bool) (text : Chars) : Shell.Pattern :=
  .ofLetters (letters (if folds then text.map Char.toLower else text))
where
  /-- The letters of a text. -/
  letters : Chars → List Shell.Letter
    | '\\' :: c :: more => (c, true) :: letters more
    | c :: more => (c, false) :: letters more
    | [] => []

/-- The bound that a text is. -/
def bound? (text : Chars) : Option Bound :=
  let order := match text.head? with
    | some '+' => Ordering.gt
    | some '-' => .lt
    | _ => .eq
  (Chars.decimal? (if order = .eq then text else text.tail)).map fun number => { order, number }

/-- The bound of a criterion. -/
def boundOf (name text : Chars) : Reading Bound :=
  match bound? text with
  | some b => return b
  | none => throw ("invalid argument \x60".toList ++ text ++ "' to \x60".toList ++ name ++ ['\''])

/-- The units of sizes by their letters. -/
def sizeUnits : List (Char × Nat) :=
  [('b', 512), ('c', 1), ('w', 2), ('k', 1024), ('M', 1048576), ('G', 1073741824)]

/-- The criterion for a size. -/
def sizeCriterion (text : Chars) : Reading Criterion := do
  let last := text.getLast?.getD ' '
  let (unit, number) ← if last.isDigit then pure (512, text)
    else match sizeUnits.lookup last with
      | some unit => pure (unit, text.dropLast)
      | none => throw ("invalid -size type \x60".toList ++ [last, '\''])
  match bound? number with
  | some b => return .size b unit
  | none => throw ("invalid argument \x60".toList ++ text ++ "' to \x60-size'".toList)

/-- The criterion for permission bits. -/
def modeCriterion (text : Chars) : Reading Criterion := do
  let (rule, word) := match text with
    | '-' :: more => (ModeRule.all, more)
    | '/' :: more => (ModeRule.any, more)
    | _ => (ModeRule.same, text)
  match ModeChange.read? 0 word with
  | some change => return .mode rule (change false 0)
  | none => throw ("invalid mode ".toList ++ text.shown)

/-- The letters of kinds. -/
def kindLetters : Chars := "bcdpflsD".toList

/-- The criterion for kinds, whose letters stand between commas. -/
def kindCriterion (name text : Chars) (throughLinks : Bool) : Reading Criterion := do
  let parts := Chars.splitAt ',' text
  for part in parts do
    match part with
    | [] =>
      throw <| if text.isEmpty then
          "Arguments to ".toList ++ name ++ " should contain at least one letter".toList
        else "Last file type in list argument to ".toList ++ name
          ++ " is missing, i.e., list is ending on: ','".toList
    | c :: more =>
      if !kindLetters.contains c then
        throw ("Unknown argument to ".toList ++ name ++ ": ".toList ++ [c])
      if !more.isEmpty then
        throw <| "Must separate multiple arguments to ".toList ++ name ++ " using: ','".toList
  return .kind parts.flatten throughLinks

/-- What stands at a path that a criterion refers to. -/
def reference (p : Process) (path : Chars) : Reading (Location × Node) :=
  match p.world.tree.stat p.cwd ⟨Chars.toBytes path⟩ with
  | .ok found => return found
  | .error e => throw (path.shown ++ ": ".toList ++ Act.reason e)

/-- The criterion for an owner. -/
def ownerCriterion (kind text : Chars) : Reading Criterion := do
  if text = "root".toList || text = ['0'] then return .constant true
  if (Chars.decimal? text).isSome || text = "nobody".toList || text = "daemon".toList then
    return .constant false
  throw (text.shown ++ " is not the name of ".toList ++ kind)

/-- A regular expression whose plain signs of repetition need no backslash, in the form where they
need one. -/
def withSignsEscaped : Chars → Chars
  | '\\' :: c :: more => '\\' :: c :: withSignsEscaped more
  | c :: more =>
    if c = '+' || c = '?' then '\\' :: c :: withSignsEscaped more else c :: withSignsEscaped more
  | [] => []

/-- The criterion for a regular expression. -/
def regexCriterion (text : Chars) (folds : Bool) : Reading Criterion := do
  let extended := (← get).extended
  match Regex.read { extended } (if extended then text else withSignsEscaped text) with
  | .ok c => return .regex c.regex folds
  | .error e =>
    throw ("failed to compile regular expression '".toList ++ text ++ "': ".toList ++ e.toList)

/-- A depth. -/
def depthOf (name text : Chars) : Reading Nat :=
  match Chars.decimal? text with
  | some n => return n
  | none =>
    throw ("Expected a positive decimal integer argument to ".toList ++ name
      ++ ", but got ".toList ++ text.shown)

/-- The criterion of a name and an argument, if the name is that of one. -/
def criterion? (p : Process) (name text : Chars) : Option (Reading Criterion) :=
  match String.ofList name with
  | "-name" => some (return .name (patternOf false text) false)
  | "-iname" => some (return .name (patternOf true text) true)
  | "-path" => some (return .path (patternOf false text) false)
  | "-wholename" => some (return .path (patternOf false text) false)
  | "-ipath" => some (return .path (patternOf true text) true)
  | "-iwholename" => some (return .path (patternOf true text) true)
  | "-lname" => some (return .target (patternOf false text) false)
  | "-ilname" => some (return .target (patternOf true text) true)
  | "-regex" => some (regexCriterion text false)
  | "-iregex" => some (regexCriterion text true)
  | "-regextype" => some do
    modify ({ · with extended := text ≠ "posix-basic".toList && text ≠ "emacs".toList })
    return .constant true
  | "-type" => some (kindCriterion name text false)
  | "-xtype" => some (kindCriterion name text true)
  | "-size" => some (sizeCriterion text)
  | "-perm" => some (modeCriterion text)
  | "-newer" => some do
    let (_, n) ← reference p text
    return .newer (p.world.tree.timeOf n)
  | "-anewer" => some do
    let (_, n) ← reference p text
    return .newer (p.world.tree.timeOf n)
  | "-cnewer" => some do
    let (_, n) ← reference p text
    return .newer (p.world.tree.timeOf n)
  | "-samefile" => some do
    let (place, node) ← reference p text
    return .same place node
  | "-mtime" => some do return .age (← boundOf name text) 86400
  | "-atime" => some do return .age (← boundOf name text) 86400
  | "-ctime" => some do return .age (← boundOf name text) 86400
  | "-mmin" => some do return .age (← boundOf name text) 60
  | "-amin" => some do return .age (← boundOf name text) 60
  | "-cmin" => some do return .age (← boundOf name text) 60
  | "-links" => some do return .names (← boundOf name text)
  | "-uid" => some do return .constant ((← boundOf name text).holds 0)
  | "-gid" => some do return .constant ((← boundOf name text).holds 0)
  | "-user" => some (ownerCriterion "a known user".toList text)
  | "-group" => some (ownerCriterion "an existing group".toList text)
  | "-maxdepth" => some do
    let n ← depthOf name text
    modify ({ · with deepest := some n })
    return .constant true
  | "-mindepth" => some do
    let n ← depthOf name text
    modify ({ · with shallowest := n })
    return .constant true
  | _ => none

/-! ## Items -/

/-- Notes a deed that makes writing the path superfluous. -/
def deed (d : Deed) : Reading Item := do
  modify ({ · with acts := true })
  return .operand (.act d)

/-- A criterion as an item. -/
def Criterion.item (c : Criterion) : Item :=
  .operand (.test c)

/-- The item of a word that takes no argument, if it is one. -/
def plainItem? (word : Chars) : Option (Reading Item) :=
  match String.ofList word with
  | "(" => some (return .opening)
  | ")" => some (return .closing)
  | "!" => some (return .opposite)
  | "-not" => some (return .opposite)
  | "-a" => some (return .binary 2)
  | "-and" => some (return .binary 2)
  | "-o" => some (return .binary 1)
  | "-or" => some (return .binary 1)
  | "," => some (return .binary 0)
  | "-true" => some (return Criterion.item (.constant true))
  | "-false" => some (return Criterion.item (.constant false))
  | "-empty" => some (return Criterion.item .empty)
  | "-readable" => some (return Criterion.item (.property 'r'))
  | "-writable" => some (return Criterion.item (.property 'w'))
  | "-executable" => some (return Criterion.item (.property 'x'))
  | "-nouser" => some (return Criterion.item (.constant false))
  | "-nogroup" => some (return Criterion.item (.constant false))
  | "-mount" => some (return Criterion.item (.constant true))
  | "-xdev" => some (return Criterion.item (.constant true))
  | "-noleaf" => some (return Criterion.item (.constant true))
  | "-daystart" => some (return Criterion.item (.constant true))
  | "-warn" => some (return Criterion.item (.constant true))
  | "-nowarn" => some (return Criterion.item (.constant true))
  | "-follow" => some do
    modify ({ · with follows := true, followsStarts := true })
    return Criterion.item (.constant true)
  | "-depth" => some do
    modify ({ · with contentsFirst := true })
    return Criterion.item (.constant true)
  | "-d" => some do
    modify ({ · with contentsFirst := true })
    return Criterion.item (.constant true)
  | "-prune" => some (return .operand (.act .prune))
  | "-quit" => some (return .operand (.act .quit))
  | "-print" => some (deed (.print '\n'))
  | "-print0" => some (deed (.print '\x00'))
  | "-delete" => some do
    modify ({ · with contentsFirst := true })
    deed .remove
  | _ => none

/-- The words of a program up to their end, whether that is the sign for all paths together, and the
words behind it. -/
def programWords : List Chars → List Chars → Option (List Chars × Bool × List Chars)
  | _, [] => none
  | before, word :: more =>
    if word = [';'] then some (before.reverse, false, more)
    else if word = ['+'] && before.head? = some ['\x7b', '\x7d'] then
      some (before.tail.reverse, true, more)
    else programWords (word :: before) more

/-- The deed that runs a program, and the words behind it. -/
def programItem (name : Chars) (inside : Bool) (more : List Chars) :
    Reading (Item × List Chars) := do
  match programWords [] more with
  | none => throw ("missing argument to \x60".toList ++ name ++ ['\''])
  | some ([], _, _) =>
    throw ("invalid argument \x60;' to \x60".toList ++ name ++ ['\''])
  | some (words, false, rest) => return (← deed (.run words inside), rest)
  | some (words, true, rest) =>
    let number := (← get).collections
    modify ({ · with collections := number + 1 })
    return (← deed (.collect number words), rest)

/-- The item at the beginning of words, and the words behind it. -/
def readItem (p : Process) (word : Chars) (more : List Chars) : Reading (Item × List Chars) := do
  let demandArgument : Reading (Chars × List Chars) := match more with
    | [] => throw ("missing argument to \x60".toList ++ word ++ ['\''])
    | argument :: rest => return (argument, rest)
  match plainItem? word with
  | some item => return (← item, more)
  | none =>
    if word = "-exec".toList then programItem word false more
    else if word = "-execdir".toList then programItem word true more
    else if word = "-printf".toList then
      let (argument, rest) ← demandArgument
      return (← deed (.format argument), rest)
    else if (criterion? p word []).isNone then
      throw ("unknown predicate \x60".toList ++ word ++ ['\''])
    else
      let (argument, rest) ← demandArgument
      match criterion? p word argument with
      | some reading => return ((← reading).item, rest)
      | none => throw ("unknown predicate \x60".toList ++ word ++ ['\''])

/-- Whether a word begins the wish rather than being a starting point. Where it is not the first of
the wish, a closing parenthesis and a comma do, too. -/
def beginsWish (leading : Bool) (word : Chars) : Bool :=
  match word with
  | ['('] => true
  | ['!'] => true
  | [')'] => !leading
  | [','] => !leading
  | '-' :: _ :: _ => true
  | _ => false

/-- The items of words, of which there are so many at most; each stands with its word. -/
def readItems (p : Process) : Nat → Option Chars → List Chars → Reading (List (Chars × Item))
  | 0, _, _ => return []
  | _ + 1, _, [] => return []
  | n + 1, previous, word :: more => do
    if !beginsWish false word then
      let hint := if previous = some "-name".toList && (p.node? word true).isSome then
          "\nfind: possible unquoted pattern after predicate \x60-name'?".toList
        else []
      throw ("paths must precede expression: \x60".toList ++ word ++ '\'' :: hint)
    let (item, rest) ← readItem p word more
    return (word, item) :: (← readItems p n (some word) rest)

/-! ## Putting together -/

/-- Puts items together: those that are left are the state, a complaint ends it. -/
abbrev Assembling := ExceptT Chars (StateM (List (Chars × Item)))

/-- Complains about what stands where a wish should begin behind another item. -/
def noWish (previous : Option (Chars × Item)) (isEnd : Bool) : Chars :=
  match previous with
  | some (_, .opening) =>
    if isEnd then
      "invalid expression; expected to find a ')' but didn't see one. ".toList
        ++ "Perhaps you need an extra predicate after '('".toList
    else "invalid expression; empty parentheses are not allowed.".toList
  | some (word, _) =>
    if isEnd then "expected an expression after '".toList ++ word ++ ['\'']
    else "expected an expression between '".toList ++ word ++ "' and ')'".toList
  | none => "invalid expression; you have too many ')'".toList

/-- Two wishes with a sign between them. -/
def join (looseness : Nat) (first second : Wish) : Wish :=
  match looseness with
  | 0 => .after first second
  | 1 => .either first second
  | _ => .both first second

mutual

/-- A wish whose signs bind at least as tightly as those of a level, behind another item. -/
def wish : Nat → Nat → Option (Chars × Item) → Assembling Wish
  | 0, _, _ => return .test (.constant true)
  | n + 1, level, previous => do
    if level < 3 then
      let first ← wish n (level + 1) previous
      further n level first
    else
      match ← get with
      | [] => throw (noWish previous true)
      | (word, item) :: more =>
        match item with
        | .operand w =>
          set more
          return w
        | .opposite =>
          set more
          return .opposite (← wish n 3 (some (word, item)))
        | .binary _ =>
          throw ("invalid expression; you have used a binary operator '".toList ++ word
            ++ "' with nothing before it.".toList)
        | .closing => throw (noWish previous false)
        | .opening =>
          set more
          let inner ← wish n 0 (some (word, item))
          match ← get with
          | (_, .closing) :: rest =>
            set rest
            return inner
          | _ =>
            throw <| "invalid expression; I was expecting to find a ')' somewhere but did not ".toList
              ++ "see one.".toList

/-- The signs of a level behind a wish, with what follows them. -/
def further : Nat → Nat → Wish → Assembling Wish
  | 0, _, first => return first
  | n + 1, level, first => do
    match ← get with
    | [] => return first
    | (word, item) :: more =>
      match item with
      | .binary looseness =>
        if looseness = level then
          set more
          let second ← wish n (level + 1) (some (word, item))
          further n level (join level first second)
        else return first
      | .closing => return first
      | _ =>
        if level = 2 then
          let second ← wish n 3 none
          further n level (join level first second)
        else return first

end

/-- The wish that items are. -/
def assemble (items : List (Chars × Item)) : Except Chars Wish :=
  if items.isEmpty then .ok (.test (.constant true))
  else match wish (10 * items.length + 10) 0 none items with
    | (.error e, _) => .error e
    | (.ok w, []) => .ok w
    | (.ok _, _) => .error "you have too many ')'".toList

/-- The wish that words are, and what holds for the search. Without a deed the path is written. -/
def read (p : Process) (settings : Settings) (words : List Chars) :
    Except Chars (Wish × Settings) :=
  match readItems p (words.length + 1) none words settings with
  | (.error e, _) => .error e
  | (.ok items, settings) =>
    (assemble items).map fun w =>
      (if settings.acts then w else .both w (.act (.print '\n')), settings)

end Shakedown.Search

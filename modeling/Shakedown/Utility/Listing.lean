import Shakedown.Text.Escape
import Shakedown.Text.Moment
import Shakedown.Utility.Operation

/-!
# Utilities that show files

`ls` lists directories, `stat` tells properties of files, and `chmod` and `chown` change them.
-/

set_option autoImplicit false

namespace Shakedown.Utility

/-! ## Properties as text -/

/-- Permission bits of one class as letters. -/
def classText (bits : Nat) (special : Bool) (letter : Char) : Chars :=
  let x := if special then (if bits &&& 1 ≠ 0 then letter else letter.toUpper)
    else if bits &&& 1 ≠ 0 then 'x' else '-'
  [if bits &&& 4 ≠ 0 then 'r' else '-', if bits &&& 2 ≠ 0 then 'w' else '-', x]

/-- Permission bits as letters. -/
def modeText (mode : Nat) : Chars :=
  classText (mode / 64 % 8) (mode &&& 0o4000 ≠ 0) 's'
    ++ classText (mode / 8 % 8) (mode &&& 0o2000 ≠ 0) 's'
    ++ classText (mode % 8) (mode &&& 0o1000 ≠ 0) 't'

/-- The letter of the kind of a node. -/
def kindLetter (t : FileTree) (n : Node) : Char :=
  match n with
  | .directory .. => 'd'
  | .link _ => 'l'
  | _ => if t.isDevice n then 'c' else '-'

/-- Permission bits in octal digits. -/
def octalText (n : Nat) : Chars :=
  Nat.toDigits 8 n

/-- How many names a node has. -/
def nameCount (t : FileTree) (l : Location) (n : Node) : Nat :=
  match n with
  | .directory .. =>
    2 + (t.nodes.filter fun (place, m) =>
      place ≠ [] && place.dropLast = l && FileTree.isDirectoryNode m).length
  | .file _ => (t.nodes.filter fun (_, m) => m = n).length
  | .link _ => 1

/-- A time as it is shown in lists. -/
def timeText (time : Nat) : Chars :=
  let (_, month, day) := dateOfDays (time / 86400)
  let second := time % 86400
  (monthNames.getD (month - 1) "").toList ++ ' ' :: Chars.padLeft 2 (Chars.ofNat day)
    ++ ' ' :: twoDigits (second / 3600) ++ ':' :: twoDigits (second / 60 % 60)

/-! ## Listing -/

/-- Something that is listed. -/
structure Entry where
  /-- The name that is shown. -/
  name : Chars
  /-- Where it stands. -/
  place : Location
  /-- What it is. -/
  node : Node

/-- The options of `ls`. -/
def lsOptions : List OptionKind :=
  [.named 'a' "all", .named 'A' "almost-all", .named 'B' "ignore-backups", .named 'd' "directory",
    .named 'F' "classify", .named 'h' "human-readable", .named 'i' "inode",
    .namedValue 'I' "ignore", .named 'L' "dereference", .named 'n' "numeric-uid-gid",
    .named 'N' "literal", .named 'Q' "quote-name", .named 'r' "reverse", .named 'R' "recursive",
    .named 's' "size", .named 'G' "no-group", .named 'k' "kibibytes", .named 'b' "escape",
    .namedValue 'w' "width", .long 'Y' "color" .perhaps, .long 'Z' "sort" .value,
    .long 'D' "group-directories-first"] ++ OptionKind.letters "1CcfglmopqStuUvxX"

/-- The block count of a node, in units of a thousand and twenty-four bytes. -/
def blocksOf (t : FileTree) (n : Node) : Nat :=
  match n with
  | .link _ => 0
  | .directory .. => 4
  | _ => (t.sizeOf n + 4095) / 4096 * 4

/-- The sign behind a name. -/
def signOf (a : Arguments) (t : FileTree) (n : Node) : Chars :=
  match n with
  | .directory .. => if a.has 'F' || a.has 'p' then ['/'] else []
  | .link _ => if a.has 'F' then (if a.has 'l' then [] else ['@']) else []
  | .file _ =>
    if a.has 'F' && FileTree.isExecutableMode (t.modeOf n) && t.isPlainFile n then ['*'] else []

/-- A size as it is shown. -/
def sizeText (human : Bool) (size : Nat) : Chars :=
  if !human || size < 1024 then Chars.ofNat size
  else
    let tenths := (size * 10 + 1023) / 1024
    if tenths < 100 then Chars.ofNat (tenths / 10) ++ '.' :: Chars.ofNat (tenths % 10) ++ ['K']
    else if size ≤ 1024 * 1023 then Chars.ofNat ((size + 1023) / 1024) ++ ['K']
    else
      let tenths := (size * 10 + 1048575) / 1048576
      if tenths < 100 then Chars.ofNat (tenths / 10) ++ '.' :: Chars.ofNat (tenths % 10) ++ ['M']
      else Chars.ofNat ((size + 1048575) / 1048576) ++ ['M']

/-- A name as it is shown. -/
def nameText (a : Arguments) (name : Chars) : Chars :=
  if a.has 'Q' then '"' :: name ++ ['"']
  else if a.has 'b' then name.flatMap fun c => if c = ' ' then ['\\', ' '] else [c]
  else name

/-- The columns of a long listing in front of the name, aligned to both sides. -/
def longColumns (a : Arguments) (t : FileTree) (e : Entry) : List (Bool × Chars) :=
  let owner : Chars := if a.has 'n' then ['0'] else "root".toList
  let size := if t.isDevice e.node then "1, 3".toList
    else sizeText (a.has 'h') (t.sizeOf e.node)
  [(true, kindLetter t e.node :: modeText (t.modeOf e.node)),
    (false, Chars.ofNat (nameCount t e.place e.node))]
    ++ (if a.has 'g' then [] else [(true, owner)])
    ++ (if a.has 'o' || a.has 'G' then [] else [(true, owner)])
    ++ [(false, size), (true, timeText (t.timeOf e.node))]

/-- Rows of columns with every column as wide as its widest entry. -/
def aligned (rows : List (List (Bool × Chars))) : List Chars :=
  let count := (rows.map List.length).foldl max 0
  let widths := (List.range count).map fun k =>
    (rows.map fun row => (row.getD k (true, [])).2.length).foldl max 0
  rows.map fun row =>
    Chars.spaced ((row.zip widths).map fun ((left, text), width) =>
      if left then Chars.padRight width text else Chars.padLeft width text)

/-- The number by which a node is known. -/
def inodeOf (n : Node) : Chars :=
  match n with
  | .file number => Chars.ofNat (number + 1000)
  | .directory .. => "900".toList
  | .link _ => "800".toList

/-- The lines of a listing. -/
def listingLines (a : Arguments) (t : FileTree) (entries : List Entry) : List Chars :=
  let long := a.has 'l' || a.has 'n' || a.has 'g' || a.has 'o'
  let fronts := aligned <| entries.map fun e =>
    (if a.has 'i' then [(false, inodeOf e.node)] else [])
      ++ (if a.has 's' then [(false, Chars.ofNat (blocksOf t e.node))] else [])
      ++ if long then longColumns a t e else []
  (entries.zip fronts).map fun (e, front) =>
    let target := match e.node with
      | .link target => if long then " -> ".toList ++ Chars.ofBytes target else []
      | _ => []
    (if front.isEmpty then [] else front ++ [' ']) ++ nameText a e.name ++ signOf a t e.node
      ++ target

/-- The part of a name from its last dot on. -/
def ending (name : Chars) : Chars :=
  if name.contains '.' then '.' :: (name.reverse.takeWhile (· ≠ '.')).reverse else []

/-- Entries in the order that options ask for. -/
def ordered (a : Arguments) (t : FileTree) (entries : List Entry) : List Entry :=
  let key := match a.lastOf? ['S', 't', 'U', 'X', 'f', 'Z', 'v'] with
    | some 'Z' => match a.value? 'Z' with
      | some ['s', 'i', 'z', 'e'] => 'S'
      | some ['t', 'i', 'm', 'e'] => 't'
      | some ['n', 'o', 'n', 'e'] => 'U'
      | _ => ' '
    | some key => key
    | none => ' '
  let named := entries.mergeSort fun x y => !Chars.before y.name x.name
  let sorted := match key with
    | 'S' => named.mergeSort fun x y => t.sizeOf x.node ≥ t.sizeOf y.node
    | 't' => named.mergeSort fun x y => t.timeOf x.node ≥ t.timeOf y.node
    | 'X' => named.mergeSort fun x y => !Chars.before (ending y.name) (ending x.name)
    | 'U' => entries
    | 'f' => entries
    | _ => named
  let turned := if a.has 'r' && key ≠ 'U' && key ≠ 'f' then sorted.reverse else sorted
  if a.has 'D' then
    turned.filter (FileTree.isDirectoryNode ·.node)
      ++ turned.filter fun e => !FileTree.isDirectoryNode e.node
  else turned

/-- Whether a name is listed. -/
def isListed (a : Arguments) (name : Chars) : Bool :=
  (a.has 'a' || a.has 'A' || a.has 'f' || name.head? ≠ some '.')
    && !(a.has 'B' && name.getLast? = some '~') && !(a.values 'I').contains name

/-- What is in a directory, as far as it is listed. -/
def entriesOf (a : Arguments) (t : FileTree) (l : Location) : List Entry :=
  let inside := (t.entries l).filterMap fun name =>
    (t.node? (l ++ [name])).map fun node =>
      { name := Chars.ofBytes name, place := l ++ [name], node : Entry }
  let dots := if a.has 'a' || a.has 'f' then
      [(['.'], l), (['.', '.'], l.dropLast)].filterMap fun (name, place) =>
        (t.node? place).map fun node => { name, place, node : Entry }
    else []
  ordered a t (dots ++ inside.filter fun e => isListed a e.name)

/-- Writes a listing of entries. -/
def writeListing (a : Arguments) (entries : List Entry) : Act Unit := do
  let lines := listingLines a (← get).world.tree entries
  if a.has 'm' then
    if !lines.isEmpty then Act.writeLine (Chars.joined [',', ' '] lines)
  else Act.write (Chars.ofLines lines)

/-- Writes a listing of a directory and, where that is asked for, of those in it. A title comes
first where `titled`, and an empty line where something came before. -/
def listDirectory (a : Arguments) : Nat → Bool → Bool → Chars → Location → Act Unit
  | 0, _, _, _, _ => pure ()
  | depth + 1, titled, spaced, path, l => do
    if spaced then Act.write Chars.newline
    if titled then Act.writeLine (path ++ [':'])
    let t := (← get).world.tree
    let entries := entriesOf a t l
    if a.has 'l' || a.has 'n' || a.has 'g' || a.has 'o' || a.has 's' then
      let total := (entries.map fun e => blocksOf t e.node).foldl (· + ·) 0
      Act.writeLine ("total ".toList ++ Chars.ofNat total)
    writeListing a entries
    if a.has 'R' then
      for e in entries do
        if FileTree.isDirectoryNode e.node && e.name ≠ ['.'] && e.name ≠ ['.', '.'] then
          listDirectory a depth true true (nameIn path e.name) e.place

/-- Lists files and directories. -/
def ls : Utility := do
  let a ← Act.arguments lsOptions false 2
  let paths := if a.operands.isEmpty then [['.']] else a.operands
  let long := a.has 'l' || a.has 'n' || a.has 'g' || a.has 'o'
  let mut failed := false
  let mut files := []
  let mut directories := []
  for path in paths do
    let p ← get
    let followed := (p.node? path true).filter fun (_, n) =>
      a.has 'L' || (FileTree.isDirectoryNode n && !long && !a.has 'd' && !a.has 'F')
    match followed.elim (← Act.stat path false) .ok with
    | .error e =>
      Act.cannot "cannot access" path e
      failed := true
    | .ok (place, node) =>
      let e : Entry := { name := path, place, node }
      if FileTree.isDirectoryNode node && !a.has 'd' then directories := e :: directories
      else files := e :: files
  let t := (← get).world.tree
  let shownFiles := ordered a t files.reverse
  writeListing a shownFiles
  let titled := paths.length > 1 || a.has 'R'
  for (e, n) in (ordered a t directories.reverse).zipIdx do
    listDirectory a Act.treeDepth titled (n > 0 || !shownFiles.isEmpty) e.name e.place
  return if failed then 2 else 0

/-! ## Properties by directives -/

/-- What a letter stands for in a format of `stat`. -/
def statText (t : FileTree) (path : Chars) (l : Location) (n : Node) (letter : Char) : Chars :=
  let time := t.timeOf n
  match letter with
  | 'n' => path
  | 'N' => match n with
    | .link target => path.shown ++ " -> ".toList ++ (Chars.ofBytes target).shown
    | _ => path.shown
  | 's' => Chars.ofNat (t.sizeOf n)
  | 'F' => (kindText t n).toList
  | 'a' => octalText (t.modeOf n)
  | 'A' => kindLetter t n :: modeText (t.modeOf n)
  | 'U' => "root".toList
  | 'G' => "root".toList
  | 'u' => ['0']
  | 'g' => ['0']
  | 'h' => Chars.ofNat (nameCount t l n)
  | 'i' => inodeOf n
  | 'b' => Chars.ofNat (2 * blocksOf t n)
  | 'B' => "512".toList
  | 'Y' => Chars.ofNat time
  | 'X' => Chars.ofNat time
  | 'Z' => Chars.ofNat time
  | 'm' => ['/']
  | '%' => ['%']
  | _ => ['?']

/-- A format of `stat` filled in. Widths are passed over. -/
def statFormat (tell : Char → Chars) : Nat → Chars → Chars
  | 0, _ => []
  | _ + 1, [] => []
  | n + 1, '%' :: more =>
    match more.dropWhile fun c => c.isDigit || c = '-' with
    | letter :: rest => tell letter ++ statFormat tell n rest
    | [] => ['%']
  | n + 1, c :: more => c :: statFormat tell n more

/-- The options of `stat`. -/
def statOptions : List OptionKind :=
  [.namedValue 'c' "format", .named 'L' "dereference", .named 'f' "file-system",
    .named 't' "terse", .long 'p' "printf" .value]

/-- The format of `stat` where none is given. -/
def usualStatFormat : String :=
  "  File: %N\n  Size: %s\tBlocks: %b\tIO Block: 4096   %F\n" ++
    "Access: (0%a/%A)  Uid: (    0/    root)   Gid: (    0/    root)"

/-- Tells properties of files. -/
def stat : Utility := do
  let a ← Act.arguments statOptions
  if a.operands.isEmpty then Act.missingOperand
  let format := (a.value? 'p').map fun f =>
    (Escape.expand { zeroLeads := false, hexadecimal := true, stops := false } f).1
  let whole := format.getD ((a.value? 'c').getD usualStatFormat.toList ++ Chars.newline)
  let mut failed := false
  for path in a.operands do
    match ← Act.stat path (a.has 'L') with
    | .error e =>
      Act.cannot "cannot statx" path e
      failed := true
    | .ok (l, n) =>
      let t := (← get).world.tree
      Act.write (statFormat (statText t path l n) (whole.length + 1) whole)
  return statusOf failed

end Shakedown.Utility

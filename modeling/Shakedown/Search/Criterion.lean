import Shakedown.Process.Property
import Shakedown.Regex.Basic
import Shakedown.Shell.Pattern
import Shakedown.Utility.Listing

/-!
# What is searched for

A search visits everything below some starting points and evaluates a wish for each visit. A wish is
made of criteria, which only look, and deeds, which do something.
-/

set_option autoImplicit false

namespace Shakedown.Search

/-- A number that another one is compared with. -/
structure Bound where
  /-- How the other one has to compare with it. -/
  order : Ordering
  /-- The number. -/
  number : Nat
  deriving DecidableEq, Repr

/-- Whether a number is as a bound demands. -/
def Bound.holds (b : Bound) (n : Nat) : Bool :=
  compare n b.number = b.order

/-- How permission bits are compared with given ones. -/
inductive ModeRule where
  /-- They are the same. -/
  | same
  /-- All of them are set. -/
  | all
  /-- One of them is set, if there are any. -/
  | any
  deriving DecidableEq, Repr

/-- A criterion. -/
inductive Criterion where
  /-- Always, or never. -/
  | constant (value : Bool)
  /-- The name is as a pattern says. -/
  | name (pattern : Shell.Pattern) (folds : Bool)
  /-- The whole path is as a pattern says. -/
  | path (pattern : Shell.Pattern) (folds : Bool)
  /-- The whole path is as a regular expression says. -/
  | regex (r : Regex) (folds : Bool)
  /-- It is a link to a path that is as a pattern says. -/
  | target (pattern : Shell.Pattern) (folds : Bool)
  /-- It is of one of the kinds of letters, perhaps when links are followed. -/
  | kind (letters : Chars) (throughLinks : Bool)
  /-- The size in units, rounded up. -/
  | size (b : Bound) (unit : Nat)
  /-- It is a directory or a file without anything in it. -/
  | empty
  /-- It was changed after a time. -/
  | newer (time : Nat)
  /-- The time since the last change in units, rounded down. -/
  | age (b : Bound) (unit : Nat)
  /-- The permission bits. -/
  | mode (rule : ModeRule) (bits : Nat)
  /-- The number of names. -/
  | names (b : Bound)
  /-- It has the property of a letter. -/
  | property (letter : Char)
  /-- It is the very thing that stands at a place. -/
  | same (place : Location) (node : Node)

/-- What is done. -/
inductive Deed where
  /-- The path is written, with an ending. -/
  | print (ending : Char)
  /-- A text is written in which directives tell about the visit. -/
  | format (text : Chars)
  /-- It is removed. -/
  | remove
  /-- What is in it is not visited. -/
  | prune
  /-- The search ends. -/
  | quit
  /-- A program is run, perhaps in the directory. -/
  | run (words : List Chars) (inside : Bool)
  /-- A program is to be run for all paths together; deeds of this kind are numbered. -/
  | collect (number : Nat) (words : List Chars)

/-- What is wished of a visit. -/
inductive Wish where
  /-- A criterion. -/
  | test (c : Criterion)
  /-- A deed. -/
  | act (d : Deed)
  /-- The opposite. -/
  | opposite (w : Wish)
  /-- Both; the second only if the first holds. -/
  | both (first second : Wish)
  /-- One of both; the second only if the first does not hold. -/
  | either (first second : Wish)
  /-- The second, after the first. -/
  | after (first second : Wish)

/-- A visit. -/
structure Visit where
  /-- The path. -/
  path : Chars
  /-- The starting point. -/
  start : Chars
  /-- How many directories lie between. -/
  depth : Nat
  /-- The location. -/
  place : Location
  /-- What stands there. -/
  node : Node

/-! ## Criteria -/

/-- The letter of the kind of a node. -/
def kindOf (t : FileTree) (n : Node) : Char :=
  match Utility.kindLetter t n with
  | '-' => 'f'
  | c => c

/-- How many units a size takes. -/
def unitsOf (unit size : Nat) : Nat :=
  (size + unit - 1) / unit

/-- Whether permission bits are as a rule demands. -/
def modeHolds (rule : ModeRule) (bits mode : Nat) : Bool :=
  match rule with
  | .same => mode = bits
  | .all => mode &&& bits = bits
  | .any => bits = 0 || mode &&& bits ≠ 0

/-- Whether a text is as a pattern says. -/
def textHolds (pattern : Shell.Pattern) (folds : Bool) (text : Chars) : Bool :=
  pattern.holds (if folds then text.map Char.toLower else text)

/-- Whether there is nothing in a node. -/
def isEmpty (t : FileTree) (place : Location) (n : Node) : Bool :=
  match n with
  | .directory .. => (t.entries place).isEmpty
  | _ => t.isPlainFile n && t.sizeOf n = 0

/-- Whether a criterion holds for a visit. -/
def Criterion.holds (p : Process) (v : Visit) : Criterion → Bool
  | .constant value => value
  | .name pattern folds => textHolds pattern folds (Utility.lastPart v.path)
  | .path pattern folds => textHolds pattern folds v.path
  | .regex r folds =>
    (Regex.matchAt { folds } r (fun q => q.rest.isEmpty) { rest := v.path }).isSome
  | .target pattern folds =>
    match v.node with
    | .link goal => textHolds pattern folds (Chars.ofBytes goal)
    | _ => false
  | .kind letters throughLinks =>
    let node := if throughLinks then (p.node? v.path true).elim v.node (·.2) else v.node
    letters.contains (kindOf p.world.tree node)
  | .size b unit => b.holds (unitsOf unit (p.world.tree.sizeOf v.node))
  | .empty => isEmpty p.world.tree v.place v.node
  | .newer time => p.world.tree.timeOf v.node > time
  | .age b unit => b.holds ((p.world.clock - p.world.tree.timeOf v.node) / unit)
  | .mode rule bits => modeHolds rule bits (p.world.tree.modeOf v.node)
  | .names b => b.holds (Utility.nameCount p.world.tree v.place v.node)
  | .property letter => p.fileHas letter v.path
  | .same place node =>
    match v.node, node with
    | .file m, .file n => m = n
    | _, _ => v.place = place

/-! ## Directives -/

/-- What the directive of a letter tells about a visit. -/
def directive? (p : Process) (v : Visit) (letter : Char) : Option Chars :=
  let t := p.world.tree
  match letter with
  | 'p' => some v.path
  | 'f' => some (Utility.lastPart v.path)
  | 'h' => some (if v.path.contains '/' then
      (v.path.reverse.dropWhile (· ≠ '/')).tail.reverse else ['.'])
  | 'P' => some ((v.path.drop v.start.length).dropWhile (· = '/'))
  | 'H' => some v.start
  | 's' => some (Chars.ofNat (t.sizeOf v.node))
  | 'b' => some (Chars.ofNat (8 * unitsOf 4096 (t.sizeOf v.node)))
  | 'k' => some (Chars.ofNat (4 * unitsOf 4096 (t.sizeOf v.node)))
  | 'm' => some (Utility.octalText (t.modeOf v.node))
  | 'M' => some (Utility.kindLetter t v.node :: Utility.modeText (t.modeOf v.node))
  | 'y' => some [kindOf t v.node]
  | 'Y' => some [(p.node? v.path true).elim 'N' fun (_, n) => kindOf t n]
  | 'd' => some (Chars.ofNat v.depth)
  | 'l' => some (match v.node with
    | .link goal => Chars.ofBytes goal
    | _ => [])
  | 'n' => some (Chars.ofNat (Utility.nameCount t v.place v.node))
  | 'u' => some "root".toList
  | 'g' => some "root".toList
  | 'U' => some ['0']
  | 'G' => some ['0']
  | 'i' => some (Utility.inodeOf v.node)
  | '%' => some ['%']
  | _ => none

/-- A text with the directives and escapes in it replaced, of which there are so many at most, and
whether an escape ends it. -/
def expandFormat (p : Process) (v : Visit) : Nat → Chars → Chars
  | 0, _ => []
  | _ + 1, [] => []
  | n + 1, '%' :: more =>
    let shape := more.takeWhile fun c => c.isDigit || c = '-' || c = '.'
    match more.drop shape.length with
    | [] => '%' :: shape
    | letter :: rest =>
      match directive? p v letter with
      | none => '%' :: shape ++ letter :: expandFormat p v n rest
      | some text =>
        let width := Numeral.numberOf 10 ((shape.filter (· ≠ '-')).takeWhile Char.isDigit)
        let pad := if shape.head? = some '-' then Chars.padRight width else Chars.padLeft width
        pad text ++ expandFormat p v n rest
  | n + 1, '\\' :: more =>
    match Escape.read { zeroLeads := false, hexadecimal := false, stops := true } more with
    | (.char c, rest) => c :: expandFormat p v n rest
    | (.stop, _) => []
    | _ => '\\' :: more.take 1 ++ expandFormat p v n more.tail
  | n + 1, c :: more => c :: expandFormat p v n more

end Shakedown.Search

import Shakedown.Utility.Excerpt
import Shakedown.Utility.Operation

/-!
# Pieces of files

The utilities `split`, which writes pieces of a file to files of their own, and `dd`, which copies a
part of a file.
-/

set_option autoImplicit false

namespace Shakedown.Utility.Piece

/-! ## Splitting -/

/-- The options of `split`. -/
def splitOptions : List OptionKind :=
  [.namedValue 'a' "suffix-length", .long 'A' "additional-suffix" .value, .namedValue 'b' "bytes",
    .namedValue 'C' "line-bytes", { key := 'd' }, .long 'D' "numeric-suffixes" .perhaps,
    { key := 'x' }, .named 'e' "elide-empty-files", .namedValue 'l' "lines",
    .namedValue 'n' "number", .long 'V' "verbose"]

/-- A number in digits of an alphabet, so many of them; nothing if they do not suffice. -/
def suffix? (alphabet : Chars) (length n : Nat) : Option Chars :=
  let size := alphabet.length
  let (digits, rest) := (List.range length).foldl
    (fun (found, n) _ => (alphabet.getD (n % size) 'a' :: found, n / size)) (([] : Chars), n)
  if rest = 0 then some digits else none

/-- A list in parts of so many elements. -/
def chunks {α : Type} (size : Nat) : Nat → List α → List (List α)
  | 0, _ => []
  | _ + 1, [] => []
  | n + 1, l => l.take size :: chunks size n (l.drop size)

/-- A text in so many pieces of about the same length, the first ones longer. -/
def evenly (count : Nat) (text : Chars) : List Chars :=
  let size := text.length / count
  let larger := text.length % count
  ((List.range count).foldl
    (fun (found, rest) i =>
      let n := if i < larger then size + 1 else size
      (rest.take n :: found, rest.drop n))
    (([] : List Chars), text)).1.reverse

/-- A text in so many pieces that end with lines: each takes the lines that begin in its share. -/
def evenLines (count : Nat) (text : Chars) : List Chars :=
  let size := text.length / count
  let larger := text.length % count
  let share := fun (place : Nat) =>
    let i := if place < larger * (size + 1) then place / (size + 1)
      else larger + (place - larger * (size + 1)) / max size 1
    min i (count - 1)
  let placed := ((text.pieces '\n').foldl
    (fun (found, place) line => ((share place, line) :: found, place + line.length))
    (([] : List (Nat × Chars)), 0)).1.reverse
  (List.range count).map fun i => (placed.filter (·.1 = i)).flatMap (·.2)

/-- A text in pieces of whole lines that are not longer than a size; a longer line is cut. -/
def lineChunks (size : Nat) (text : Chars) : List Chars :=
  let parts := (text.pieces '\n').flatMap fun line => chunks size line.length line
  let (found, last) := parts.foldl
    (fun (found, last) part =>
      let isOpen := !(last : Chars).isEmpty
      if isOpen && last.length + part.length > size then (last :: found, part)
      else (found, last ++ part))
    (([] : List Chars), ([] : Chars))
  (if last.isEmpty then found else last :: found).reverse

/-- A size that an option gives. -/
def sizeOf (what : String) (word : Chars) : Act Nat := do
  match size? word with
  | some n =>
    if n > 0 then return n
    else Act.die ("invalid number of ".toList ++ what.toList ++ ": ".toList ++ word.shown)
  | none => Act.die ("invalid number of ".toList ++ what.toList ++ ": ".toList ++ word.shown)

/-- How options ask to cut a text into pieces. -/
def cutOf (a : Arguments) : Act (Chars → List Chars) := do
  match a.lastOf? ['b', 'C', 'l', 'n'] with
  | some 'b' =>
    let size ← sizeOf "bytes" ((a.value? 'b').getD [])
    return fun text => chunks size text.length text
  | some 'C' => return lineChunks (← sizeOf "bytes" ((a.value? 'C').getD []))
  | some 'n' =>
    match (a.value? 'n').getD [] with
    | 'l' :: '/' :: word => return evenLines (← sizeOf "chunks" word)
    | word => return evenly (← sizeOf "chunks" word)
  | key? =>
    let size ← key?.elim (pure 1000) fun key => sizeOf "lines" ((a.value? key).getD [])
    return fun text =>
      let lines := text.pieces '\n'
      (chunks size lines.length lines).map List.flatten

/-- The letters of suffixes. -/
def suffixAlphabet (a : Arguments) : Chars :=
  if a.has 'd' || a.has 'D' then "0123456789".toList
  else if a.has 'x' then "0123456789abcdef".toList
  else "abcdefghijklmnopqrstuvwxyz".toList

/-- Writes pieces of a file. -/
def split : Utility := do
  let a ← Act.arguments splitOptions
  if let some word := a.operands[2]? then Act.extraOperand word
  let length ← match a.value? 'a' with
    | none => pure 2
    | some word => match Chars.decimal? word with
      | some n => pure (if n = 0 then 2 else n)
      | none => Act.die ("invalid suffix length: ".toList ++ word.shown)
  let front := a.operands.getD 1 ['x']
  let cut ← cutOf a
  let text ← Act.demandSource (a.operands.headD ['-']) fun operand e =>
    "cannot open ".toList ++ operand.shown ++ " for reading: ".toList ++ Act.reason e.fault
  let start := ((a.value? 'D').bind Chars.decimal?).getD 0
  for (piece, i) in (cut text).zipIdx do
    match suffix? (suffixAlphabet a) length (start + i) with
    | none => Act.die "output file suffixes exhausted".toList
    | some letters =>
      let path := front ++ letters ++ (a.value? 'A').getD []
      if a.has 'V' then Act.write ("creating file ".toList ++ path.shown ++ ['\n'])
      if !(a.has 'e' && piece.isEmpty) then
        if let some e := ← Act.writePath path piece then
          Act.die (path.fileLabel ++ ": ".toList ++ Act.reason e)
  return 0

/-! ## Copying a part -/

/-- What `dd` is asked for: names with their values. -/
abbrev Wishes := List (String × Chars)

/-- The names of wishes. -/
def wishNames : List String :=
  ["bs", "cbs", "conv", "count", "ibs", "if", "iflag", "obs", "of", "oflag", "seek", "skip",
    "status"]

/-- The conversions that are known. -/
def conversions : List String :=
  ["ucase", "lcase", "notrunc", "sync", "noerror", "fsync", "fdatasync", "excl", "nocreat",
    "swab", "sparse"]

/-- The wish that a word is. -/
def wishOf (word : Chars) : Act (String × Chars) := do
  let name := String.ofList (word.takeWhile (· ≠ '='))
  if word.contains '=' && wishNames.contains name then
    return (name, word.drop (name.length + 1))
  else Act.misused ("unrecognized operand ".toList ++ word.shown)

/-- The number that a wish gives. -/
def numberOf? (wishes : Wishes) (name : String) (positive : Bool) : Act (Option Nat) := do
  match wishes.reverse.lookup name with
  | none => return none
  | some word =>
    let word' := if word.getLast? = some 'c' then word.dropLast else word
    match size? word' with
    | some n =>
      if positive && n = 0 then Act.die ("invalid number: ".toList ++ word.shown)
      return some n
    | none => Act.die ("invalid number: ".toList ++ word.shown)

/-- A text converted. -/
def converted (wanted : List String) (text : Chars) : Chars :=
  let text := if wanted.contains "ucase" then text.map Char.toUpper else text
  if wanted.contains "lcase" then text.map Char.toLower else text

/-- How many whole blocks and how many others a text has. -/
def blockTally (size : Nat) (text : Chars) : Chars :=
  Chars.ofNat (text.length / size) ++ '+' :: (if text.length % size = 0 then ['0'] else ['1'])

/-- Writes a text to a file from a place on, what is behind it taken away if `cuts`. -/
def writeFrom (path : Chars) (place : Nat) (cuts : Bool) (text : Chars) : Act Unit := do
  let old ← match ← Act.nodeAt path with
    | some _ => pure ((← Act.readPath path).toOption.getD [])
    | none => pure []
  let front := old.take place ++ List.replicate (place - old.length) '\x00'
  let behind := if cuts then [] else old.drop (place + text.length)
  if let some e := ← Act.writePath path (front ++ text ++ behind) then
    Act.die ("failed to open ".toList ++ path.shown ++ ": ".toList ++ Act.reason e)

/-- Copies a part of a file. -/
def dd : Utility := do
  let wishes ← (← get).args.mapM wishOf
  let wanted := ((wishes.reverse.lookup "conv").getD []) |> Chars.splitAt ',' |>.map String.ofList
    |>.filter (· ≠ "")
  if let some word := wanted.find? (!conversions.contains ·) then
    Act.misused ("invalid conversion: ".toList ++ Chars.shown word.toList)
  let both? ← numberOf? wishes "bs" true
  let inSize := both?.getD ((← numberOf? wishes "ibs" true).getD 512)
  let outSize := both?.getD ((← numberOf? wishes "obs" true).getD 512)
  let count? ← numberOf? wishes "count" false
  let skip := (← numberOf? wishes "skip" false).getD 0
  let seek := (← numberOf? wishes "seek" false).getD 0
  let path? := wishes.reverse.lookup "if"
  let failure := fun (path : Chars) (e : Fault) =>
    "failed to open ".toList ++ path.shown ++ ": ".toList ++ Act.reason e
  let part := fun (text : Chars) =>
    let rest := text.drop (skip * inSize)
    count?.elim rest fun n => rest.take (n * inSize)
  let mut failed := false
  let text ← match path? with
    | some path => match ← Act.readSource path with
      | .ok text => pure (part text)
      | .error e =>
        if e.opening then Act.die (failure path e.fault)
        Act.grumble ("error reading ".toList ++ path.shown ++ ": ".toList ++ Act.reason e.fault)
        failed := true
        pure []
    | none =>
      let all := (← Act.readPart 0 fun text => (text.drop 0).length - (text.drop (skip * inSize)
        |>.drop ((part text).length)).length).toOption.getD []
      pure (part all)
  let result := converted wanted text
  match wishes.reverse.lookup "of" with
  | some path => writeFrom path (seek * outSize) (!wanted.contains "notrunc") result
  | none => Act.write result
  let status := wishes.reverse.lookup "status"
  if status ≠ some "none".toList then
    Act.complain (blockTally inSize text ++ " records in".toList)
    Act.complain (blockTally outSize result ++ " records out".toList)
    if status ≠ some "noxfer".toList then
      Act.complain (Chars.ofNat result.length
        ++ (if result.length = 1 then " byte" else " bytes").toList
        ++ " copied, 0 s, Infinity B/s".toList)
  return statusOf failed

end Shakedown.Utility.Piece

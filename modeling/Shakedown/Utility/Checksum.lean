import Shakedown.Text.Digest
import Shakedown.Text.Numeral
import Shakedown.Utility.Input

/-!
# Checksums

The utilities that write digests of files and compare them with those that were written before, and
`cksum` and `sum`, which write sums with the sizes of files.
-/

set_option autoImplicit false

namespace Shakedown.Utility.Checksum

/-- A digest. -/
structure Method where
  /-- Its name. -/
  name : String
  /-- How many hexadecimal digits it has. -/
  length : Nat
  /-- How it is computed. -/
  compute : List Nat → Chars

/-- The digest of 128 bits. -/
def md5 : Method := { name := "MD5", length := 32, compute := Digest.short }

/-- The digest of 160 bits. -/
def sha1 : Method := { name := "SHA1", length := 40, compute := Digest.medium }

/-- The digest of 256 bits. -/
def sha256 : Method := { name := "SHA256", length := 64, compute := Digest.long }

/-- The digest of a text. -/
def Method.of (m : Method) (text : Chars) : Chars :=
  m.compute (text.map Char.toNat)

/-- The options of the utilities for digests. -/
def digestOptions : List OptionKind :=
  [.named 'b' "binary", .named 'c' "check", .named 't' "text", .named 'w' "warn",
    .named 'z' "zero", .long 'T' "tag", .long 'S' "status", .long 'Q' "quiet", .long 'R' "strict",
    .long 'I' "ignore-missing"]

/-- The escapes of characters in names. -/
def escaped (name : Chars) : Chars :=
  name.flatMap fun c =>
    if c = '\\' then ['\\', '\\'] else if c = '\n' then ['\\', 'n'] else [c]

/-- A name without escapes. -/
def unescaped : Chars → Chars
  | '\\' :: 'n' :: more => '\n' :: unescaped more
  | '\\' :: '\\' :: more => '\\' :: unescaped more
  | c :: more => c :: unescaped more
  | [] => []

/-- Whether a name needs escapes. -/
def needsEscapes (name : Chars) : Bool :=
  name.any fun c => c = '\\' || c = '\n'

/-- What a line says of a file whose name is shown. -/
def lineBody (m : Method) (tagged binary : Bool) (shown text : Chars) : Chars :=
  if tagged then m.name.toList ++ " (".toList ++ shown ++ ") = ".toList ++ m.of text
  else m.of text ++ ' ' :: (if binary then '*' else ' ') :: shown

/-- A line for a file. -/
def lineOf (m : Method) (tagged binary zero : Bool) (name text : Chars) : Chars :=
  let special := !zero && needsEscapes name
  (if special then ['\\'] else [])
    ++ lineBody m tagged binary (if special then escaped name else name) text
    ++ [if zero then '\x00' else '\n']

/-- The digest and the shown name in what a line says. -/
def lineParts? (m : Method) (line : Chars) : Option (Chars × Chars) :=
  let tag := m.name.toList ++ " (".toList
  if tag.isPrefixOf line then
    let digest := line.drop (line.length - m.length)
    let front := line.take (line.length - m.length)
    if ") = ".toList.isSuffixOf front && tag.length + 4 ≤ front.length then
      some (digest, (front.drop tag.length).take (front.length - tag.length - 4))
    else none
  else
    match line.drop m.length with
    | ' ' :: mark :: name =>
      if mark = ' ' || mark = '*' then some (line.take m.length, name) else none
    | _ => none

/-- The digest and the name that a line tells of. -/
def readLine? (m : Method) (line : Chars) : Option (Chars × Chars) :=
  let special := line.head? = some '\\'
  (lineParts? m (if special then line.tail else line)).bind fun (digest, name) =>
    if digest.length = m.length && digest.all (Numeral.isDigitOf 16) && !name.isEmpty then
      some (digest.map Char.toLower, if special then unescaped name else name)
    else none

/-- What became of the lines of a file. -/
structure Tally where
  /-- How many lines told of a file. -/
  good : Nat := 0
  /-- How many did not. -/
  bad : Nat := 0
  /-- How many files could not be read. -/
  unread : Nat := 0
  /-- How many digests were others. -/
  wrong : Nat := 0
  /-- How many digests were the same. -/
  right : Nat := 0

/-- Compares the file that a line tells of. -/
def checkLine (m : Method) (a : Arguments) (digest name : Chars) (tally : Tally) : Act Tally := do
  let loud := !a.has 'S'
  let shown := if needsEscapes name then '\\' :: escaped name else name
  let tally := { tally with good := tally.good + 1 }
  match ← Act.readSource name with
  | .error e =>
    if a.has 'I' && e.fault = .notFound then return tally
    Act.grumbleAbout name e.fault
    if loud then Act.write (shown ++ ": FAILED open or read\n".toList)
    return { tally with unread := tally.unread + 1 }
  | .ok text =>
    if m.of text = digest then
      if loud && !a.has 'Q' then Act.write (shown ++ ": OK\n".toList)
      return { tally with right := tally.right + 1 }
    else
      if loud then Act.write (shown ++ ": FAILED\n".toList)
      return { tally with wrong := tally.wrong + 1 }

/-- Warns about something of which there was one or more. -/
def warn (count : Nat) (one many : String) : Act Unit := do
  if count > 0 then
    Act.grumble ("WARNING: ".toList ++ Chars.ofNat count ++ ' ' ::
      (if count = 1 then one else many).toList)

/-- Compares the files that a file tells of; tells whether all is well. -/
def check (m : Method) (a : Arguments) (path : Chars) : Act Bool := do
  match ← Act.readSource path with
  | .error e =>
    Act.grumbleAbout path e.fault
    return false
  | .ok text =>
    let label := if path = ['-'] then "'standard input'".toList else path.fileLabel
    let mut tally : Tally := {}
    for (line, i) in text.lines.zipIdx do
      if line.head? = some '#' then pure ()
      else match readLine? m line with
        | some (digest, name) => tally ← checkLine m a digest name tally
        | none =>
          tally := { tally with bad := tally.bad + 1 }
          if a.has 'w' then
            Act.grumble (label ++ ": ".toList ++ Chars.ofNat (i + 1)
              ++ ": improperly formatted ".toList ++ m.name.toList ++ " checksum line".toList)
    if tally.good = 0 then
      Act.grumble (label ++ ": no properly formatted checksum lines found".toList)
      return false
    if !a.has 'S' then
      warn tally.bad "line is improperly formatted" "lines are improperly formatted"
      warn tally.unread "listed file could not be read" "listed files could not be read"
      warn tally.wrong "computed checksum did NOT match" "computed checksums did NOT match"
    if a.has 'I' && tally.right + tally.wrong + tally.unread = 0 then
      Act.grumble (label ++ ": no file was verified".toList)
      return false
    return tally.wrong + tally.unread = 0 && (tally.bad = 0 || !a.has 'R')

/-- Writes lines for files. -/
def writeAll (m : Method) (tagged binary zero : Bool) (operands : List Chars) : Act Bool :=
  Act.forSources operands Act.usualComplaint fun name text =>
    Act.write (lineOf m tagged binary zero name text)

/-- The utility for a digest. -/
def digest (m : Method) : Utility := do
  let a ← Act.arguments digestOptions
  if a.has 'c' then
    let mut failed := false
    for path in a.sources do
      if !(← check m a path) then failed := true
    return statusOf failed
  else
    let binary := a.lastOf? ['b', 't'] = some 'b'
    return statusOf (← writeAll m (a.has 'T') binary (a.has 'z') a.sources)

/-! ## Sums -/

/-- A name behind numbers, unless the input is meant that no operand names. -/
def nameBehind (a : Arguments) (name : Chars) : Chars :=
  if a.operands.isEmpty then [] else ' ' :: name

/-- How many blocks of a size a text fills. -/
def blockCount (size : Nat) (text : Chars) : Nat :=
  (text.length + size - 1) / size

/-- A number of five digits. -/
def fiveDigits (n : Nat) : Chars :=
  let digits := Chars.ofNat n
  List.replicate (5 - digits.length) '0' ++ digits

/-- The line of the sum that is turned. -/
def turnedLine (text : Chars) : Chars :=
  fiveDigits (Digest.turnedSum (text.map Char.toNat)) ++ ' ' ::
    Chars.padLeft 5 (Chars.ofNat (blockCount 1024 text))

/-- The line of the plain sum. -/
def plainLine (text : Chars) : Chars :=
  Chars.ofNat (Digest.plainSum (text.map Char.toNat)) ++ ' ' ::
    Chars.ofNat (blockCount 512 text)

/-- The line of the remainder. -/
def remainderLine (text : Chars) : Chars :=
  Chars.ofNat (Digest.remainder (text.map Char.toNat)) ++ ' ' :: Chars.ofNat text.length

/-- Writes the lines of files. -/
def writeLines (a : Arguments) (line : Chars → Chars) : Utility := do
  return statusOf <| ← Act.forSources a.sources Act.usualComplaint fun name text =>
    Act.write (line text ++ nameBehind a name ++ Chars.newline)

/-- Writes sums. -/
def sum : Utility := do
  let a ← Act.arguments [.named 's' "sysv", { key := 'r' }]
  writeLines a (if a.lastOf? ['s', 'r'] = some 's' then plainLine else turnedLine)

/-- The digests by their names. -/
def methods : List (String × Method) := [("md5", md5), ("sha1", sha1), ("sha256", sha256)]

/-- Writes remainders, or what an option asks for. -/
def cksum : Utility := do
  let a ← Act.arguments [.namedValue 'a' "algorithm", .long 'U' "untagged", .long 'T' "tag"]
  match a.value? 'a' with
  | none => writeLines a remainderLine
  | some word =>
    let name := String.ofList word
    match methods.lookup name with
    | some m => return statusOf (← writeAll m (!a.has 'U') false false a.sources)
    | none =>
      if name = "crc" then writeLines a remainderLine
      else if name = "bsd" then writeLines a turnedLine
      else if name = "sysv" then writeLines a plainLine
      else
        Act.grumble ("invalid argument ".toList ++ word.shown ++ " for '--algorithm'".toList)
        Act.complain "Valid arguments are:".toList
        for known in ["bsd", "sysv", "crc", "md5", "sha1", "sha224", "sha256", "sha384", "sha512",
            "blake2b", "sm3"] do
          Act.complain ("  - ".toList ++ Chars.quoted known.toList)
        Act.referToHelp

/-! ## Texts of a small alphabet -/

/-- The characters for six bits each. -/
def alphabet : Array Char :=
  "ABCDEFGHIJKLMNOPQRSTUVWXYZabcdefghijklmnopqrstuvwxyz0123456789+/".toList.toArray

/-- The character for six bits. -/
def sixBits (n : Nat) : Char :=
  (alphabet[n % 64]?).getD 'A'

/-- A text three characters of which become four of the alphabet. -/
def encoded : Chars → Chars
  | a :: b :: c :: more =>
    let n := 65536 * a.toNat + 256 * b.toNat + c.toNat
    sixBits (n / 262144) :: sixBits (n / 4096) :: sixBits (n / 64) :: sixBits n :: encoded more
  | [a, b] =>
    let n := 1024 * a.toNat + 4 * b.toNat
    [sixBits (n / 4096), sixBits (n / 64), sixBits n, '=']
  | [a] =>
    let n := 16 * a.toNat
    [sixBits (n / 64), sixBits n, '=', '=']
  | [] => []

/-- A text in lines of a width. -/
def wrapped (width : Nat) (s : Chars) : Chars :=
  if width = 0 then s
  else Chars.ofLines (Digest.parts width s.length s)

/-- What the values of characters stand for, six bits each; bits that make no whole byte are
dropped. -/
def joinedBits (values : List Nat) : Chars :=
  let n := values.foldl (fun n v => 64 * n + v) 0
  let bits := 6 * values.length
  (List.range (bits / 8)).map fun i => Char.ofNat (n / twoTo (bits - 8 * (i + 1)) % 256)

/-- What a text of the alphabet stands for, four characters at a time, and whether all of it is
right. -/
def decoded : Nat → Chars → Chars × Bool
  | 0, _ => ([], true)
  | _ + 1, [] => ([], true)
  | n + 1, s =>
    let part := s.take 4
    let values := (part.takeWhile (· ≠ '=')).map fun c => alphabet.toList.idxOf? c
    let known := (values.takeWhile Option.isSome).filterMap fun v? => v?
    let signs := part.drop values.length
    let isWhole := known.length = values.length && known.length + signs.length = 4
      && known.length ≥ 2 && signs.all (· = '=')
    if isWhole then
      let (rest, fine) := decoded n (s.drop 4)
      (joinedBits known ++ rest, fine)
    else (joinedBits known, false)

/-- Writes files in a small alphabet, or what such a text stands for. -/
def base64 : Utility := do
  let a ← Act.arguments [.named 'd' "decode", .named 'i' "ignore-garbage", .namedValue 'w' "wrap"]
  let width ← match a.value? 'w' with
    | none => pure 76
    | some word => match Chars.decimal? word with
      | some n => pure n
      | none => Act.die ("invalid wrap size: ".toList ++ word.shown)
  if let some word := a.operands[1]? then Act.extraOperand word
  let text ← Act.demandSource (a.operands.headD ['-'])
  if a.has 'd' then
    let wanted := text.filter fun c =>
      if a.has 'i' then c = '=' || alphabet.contains c else c ≠ '\n'
    let (found, fine) := decoded (wanted.length + 1) wanted
    Act.write found
    if !fine then
      Act.grumble "invalid input".toList
      return 1
  else Act.write (wrapped width (encoded text))
  return 0

end Shakedown.Utility.Checksum

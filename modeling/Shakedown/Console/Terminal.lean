import Shakedown.Machine.Basic

/-!
# Styled text and output that is no terminal

Help is styled with the control sequences of a terminal. Where the output is none, all control
sequences are taken out again, those that a value of the environment brought along included, and so
are control characters other than white space.

`plain` is an automaton over bytes. It follows the states of a terminal: a sequence starts with an
escape byte, and the bytes behind it decide of which kind it is and where it ends.
-/

set_option autoImplicit false

namespace Shakedown

namespace Terminal

/-! ## Styles -/

/-- The sequence that ends all styles. -/
def reset : String := "\x1b[0m"

/-- A text in bold. -/
def bold (s : String) : String :=
  "\x1b[1m" ++ s ++ reset

/-- A heading, bold and underlined. -/
def heading (s : String) : String :=
  "\x1b[1m\x1b[4m" ++ s ++ reset

/-- Whether styles are kept although the output is no terminal: the environment can force them, but
a wish for no colors goes first. -/
def keepsStyles (env : Environment) : Bool :=
  let unwanted := match env.get? (Utf8.bytes "NO_COLOR") with
    | some value => value ≠ []
    | none => false
  match env.get? (Utf8.bytes "CLICOLOR_FORCE") with
  | some value => !unwanted && value ≠ Utf8.bytes "0"
  | none => false

/-! ## Control sequences -/

/-- Where a terminal stands between two bytes. -/
inductive Phase where
  /-- Outside of all sequences. -/
  | ground
  /-- Inside a character, so many bytes before its end. -/
  | character (left : Nat)
  /-- Behind an escape byte. -/
  | escape
  /-- Behind an escape byte and intermediate bytes. -/
  | escapeIntermediate
  /-- At the start of a control sequence. -/
  | control
  /-- Among the parameters of a control sequence. -/
  | controlParameters
  /-- Behind the intermediate bytes of a control sequence. -/
  | controlIntermediate
  /-- In a malformed control sequence. -/
  | controlIgnored
  /-- At the start of a device string. -/
  | device
  /-- Among the parameters of a device string. -/
  | deviceParameters
  /-- Behind the intermediate bytes of a device string. -/
  | deviceIntermediate
  /-- In the data of a device string. -/
  | deviceData
  /-- In a malformed device string. -/
  | deviceIgnored
  /-- In a string for the operating system. -/
  | systemString
  /-- In a string of another kind. -/
  | otherString
  deriving DecidableEq, Repr

/-- What a byte amounts to. -/
inductive Effect where
  /-- It is shown. -/
  | shown
  /-- It is a control character on its own. -/
  | executed
  /-- It is a part of a sequence. -/
  | consumed
  deriving DecidableEq, Repr

/-- Whether a byte is a control character that does not start or end a sequence. -/
def isControl (b : UInt8) : Bool :=
  b ≤ 0x17 || b = 0x19 || (0x1C ≤ b && b ≤ 0x1F)

/-- The phase behind a byte of a character that starts with it. -/
def characterPhase (b : UInt8) : Phase :=
  if b < 0xE0 then .character 1 else if b < 0xF0 then .character 2 else .character 3

/-- What a byte outside of all sequences amounts to, and the phase behind it. -/
def outside (b : UInt8) : Phase × Effect :=
  if isControl b then (.ground, .executed)
  else if b < 0x80 then (.ground, .shown)
  else if 0xC2 ≤ b && b ≤ 0xF4 then (characterPhase b, .shown)
  else (.ground, .executed)

/-- The phase behind a byte that follows an escape byte. -/
def behindEscape (b : UInt8) : Phase :=
  if 0x20 ≤ b && b ≤ 0x2F then .escapeIntermediate
  else if b = 0x5B then .control
  else if b = 0x5D then .systemString
  else if b = 0x50 then .device
  else if b = 0x58 || b = 0x5E || b = 0x5F then .otherString
  else if 0x30 ≤ b && b ≤ 0x7E then .ground
  else .escape

/-- The phase behind a byte of a sequence with parameters, given the phases for each kind of byte:
intermediate bytes, parameters, private marks, and the end. -/
def behindParameter (b : UInt8) (stay intermediate parameter mark final : Phase) : Phase :=
  if 0x20 ≤ b && b ≤ 0x2F then intermediate
  else if 0x30 ≤ b && b ≤ 0x3B then parameter
  else if 0x3C ≤ b && b ≤ 0x3F then mark
  else if 0x40 ≤ b && b ≤ 0x7E then final
  else stay

/-- The phase of a string behind a byte of it, where one byte ends it. -/
def behindString (b : UInt8) (stay : Phase) (final : UInt8) : Phase :=
  if b = final then .ground else stay

/-- Whether control characters inside a phase count on their own. -/
def Phase.executes : Phase → Bool
  | .escape | .escapeIntermediate | .control | .controlParameters | .controlIntermediate
  | .controlIgnored => true
  | _ => false

/-- The phase behind a byte of a sequence. -/
def Phase.next (p : Phase) (b : UInt8) : Phase :=
  match p with
  | .ground => (outside b).1
  | .character left => if left ≤ 1 then .ground else .character (left - 1)
  | .escape => behindEscape b
  | .escapeIntermediate => if 0x30 ≤ b && b ≤ 0x7E then .ground else p
  | .control =>
    behindParameter b p .controlIntermediate .controlParameters .controlParameters .ground
  | .controlParameters =>
    behindParameter b p .controlIntermediate .controlParameters .controlIgnored .ground
  | .controlIntermediate =>
    behindParameter b p .controlIntermediate .controlIgnored .controlIgnored .ground
  | .controlIgnored => if 0x40 ≤ b && b ≤ 0x7E then .ground else p
  | .device =>
    behindParameter b p .deviceIntermediate .deviceParameters .deviceParameters .deviceData
  | .deviceParameters =>
    behindParameter b p .deviceIntermediate .deviceParameters .deviceIgnored .deviceData
  | .deviceIntermediate =>
    behindParameter b p .deviceIntermediate .deviceIgnored .deviceIgnored .deviceData
  | .deviceData => behindString b p 0x9C
  | .deviceIgnored => behindString b p 0x9C
  | .systemString => behindString b p 0x07
  | .otherString => behindString b p 0x9C

/-- What a byte amounts to in a phase, and the phase behind it. Three bytes mean the same in every
phase: two that break a sequence off, and the one that starts one. -/
def advance (p : Phase) (b : UInt8) : Phase × Effect :=
  if b = 0x1B then (.escape, .consumed)
  else if b = 0x18 || b = 0x1A then (.ground, .executed)
  else if p = .ground then outside b
  else if p.executes && isControl b then (p, .executed)
  else (p.next b, .consumed)

/-- Whether a byte is white space. -/
def isWhite (b : UInt8) : Bool :=
  b = 0x20 || b = 0x09 || b = 0x0A || b = 0x0C || b = 0x0D

/-- Whether a byte stays, by what it amounts to. -/
def stays (b : UInt8) : Effect → Bool
  | .shown => b ≠ 0x7F
  | .executed => isWhite b
  | .consumed => false

/-- The bytes that stay. While they do (`showing`), a byte is taken as one outside of all sequences;
the first that does not stay is looked at again in its phase. -/
def plainFrom (p : Phase) (showing : Bool) : Bytes → Bytes
  | [] => []
  | b :: more =>
    match p with
    | .character _ => b :: plainFrom (p.next b) true more
    | p =>
      let (shownPhase, shownEffect) := advance .ground b
      if showing && stays b shownEffect then
        b :: plainFrom (if shownPhase = .ground then p else shownPhase) true more
      else
        let before := if showing && b = 0x1B then .escape else p
        let (next, effect) := advance before b
        if stays b effect then
          b :: plainFrom (if shownPhase = .ground then next else shownPhase) true more
        else plainFrom next false more

/-- The bytes without control sequences. -/
def plain (bytes : Bytes) : Bytes :=
  plainFrom .ground false bytes

/-- What is written of styled text in an environment. -/
def written (env : Environment) (s : String) : Bytes :=
  if keepsStyles env then Utf8.bytes s else plain (Utf8.bytes s)

end Terminal

end Shakedown

import Shakedown.Text.Octet

/-!
# Shell commands

The commands of a shell script after parsing. Words are lists of pieces, since what a word stands
for is known only when it is expanded: one piece is a character, others stand for the value of a
parameter, the output of a command, or the value of an expression. A piece knows whether it stands
inside quotes, where its value is not split into several arguments.

A here-document is read after the line that asks for it, so a redirection refers to it by number and
the texts of the documents are kept beside the commands.
-/

set_option autoImplicit false

namespace Shakedown.Shell

/-- What a parameter in braces stands for. -/
inductive Rule where
  /-- Its value. -/
  | value
  /-- The length of its value. -/
  | length
  /-- The word, if the parameter is missing. -/
  | byDefault
  /-- The word, if the parameter is there. -/
  | ifPresent
  /-- The word, which is also assigned, if the parameter is missing. -/
  | assigning
  /-- The parameter, which must be there. -/
  | demanding
  /-- Its value without a beginning, or an end, that matches the word: the longest or the shortest
  one. -/
  | trimmed (atEnd longest : Bool)
  /-- Nothing: what stands in the braces has no meaning. -/
  | malformed
  deriving DecidableEq, Repr

/-- What a redirection does with a descriptor. -/
inductive RedirectionKind where
  /-- Opens a file for reading. -/
  | read
  /-- Opens a file for writing and empties it. -/
  | write
  /-- Opens a file for writing and empties it, whatever the options say. -/
  | clobber
  /-- Opens a file for writing behind its end. -/
  | append
  /-- Opens a file for reading and writing. -/
  | update
  /-- Makes it stand for what another descriptor stands for, or closes it. -/
  | duplicate
  /-- Makes it read a here-document. -/
  | document (number : Nat)
  deriving DecidableEq, Repr

/-- A redirection of a descriptor to what a word stands for. -/
structure Redirection (word : Type) where
  /-- The descriptor: 0 is the input, 1 the output, 2 the error output. -/
  descriptor : Nat
  /-- What is done. -/
  kind : RedirectionKind
  /-- The file, or the number of the other descriptor. -/
  target : word

mutual

/-- A piece of a word. -/
inductive Piece where
  /-- A character outside of quotes. -/
  | plain (c : Char)
  /-- A character that stands for itself. -/
  | quoted (c : Char)
  /-- A quotation mark that opens or closes quotes. -/
  | mark
  /-- What a parameter stands for by a rule with a word; where `nonEmpty`, an empty value counts as
  missing. -/
  | parameter (name : Chars) (rule : Rule) (nonEmpty : Bool) (word : List Piece) (inQuotes : Bool)
  /-- What a command writes. -/
  | output (command : Command) (inQuotes : Bool)
  /-- The value of an expression. -/
  | arithmetic (expression : List Piece) (inQuotes : Bool)

/-- A command. -/
inductive Command where
  /-- Nothing. -/
  | idle
  /-- Assignments, then a program with its arguments. -/
  | simple (line : Nat) (assignments words : List (List Piece))
    (redirections : List (Redirection (List Piece)))
  /-- One after the other. -/
  | sequence (commands : List Command)
  /-- The second only if the first succeeds. -/
  | both (first second : Command)
  /-- The second only if the first fails. -/
  | either (first second : Command)
  /-- With success and failure exchanged. -/
  | negation (command : Command)
  /-- The output of each as the input of the next. -/
  | pipeline (commands : List Command)
  /-- Without waiting for it. -/
  | background (line : Nat) (command : Command)
    (redirections : List (Redirection (List Piece)))
  /-- In a process of its own. -/
  | subshell (line : Nat) (body : Command) (redirections : List (Redirection (List Piece)))
  /-- With descriptors redirected. -/
  | redirected (line : Nat) (command : Command) (redirections : List (Redirection (List Piece)))
  /-- One of two, by a condition. -/
  | branch (condition body otherwise : Command)
  /-- Again and again while a condition has a result. -/
  | loop (wanted : Bool) (condition body : Command)
  /-- Once for each word. -/
  | each (line : Nat) (name : Chars) (words : List (List Piece)) (body : Command)
  /-- The command of the first pattern that a word matches. -/
  | choice (line : Nat) (subject : List Piece) (cases : List (List (List Piece) × Command))
  /-- Gives a command a name. -/
  | definition (line : Nat) (name : Chars) (body : Command)

end

instance : Inhabited Command := ⟨.idle⟩

/-! ## Characters -/

/-- Whether a character starts a name. -/
def isNameStart (c : Char) : Bool :=
  c.isAlpha || c = '_'

/-- Whether a character continues a name. -/
def isNameChar (c : Char) : Bool :=
  c.isAlphanum || c = '_'

/-- Whether a text is a name. -/
def isName : Chars → Bool
  | [] => false
  | c :: more => isNameStart c && more.all isNameChar

/-- Whether a character is a parameter of its own, digits aside. -/
def isSpecialParameter (c : Char) : Bool :=
  c = '@' || c = '*' || c = '#' || c = '?' || c = '$' || c = '!' || c = '-'

/-- The characters that words consist of, as far as they are unquoted. -/
def literal? : List Piece → Option Chars
  | [] => some []
  | .plain c :: more => (literal? more).map (c :: ·)
  | _ => none

/-- Whether a word assigns a variable. -/
def isAssignment (word : List Piece) : Bool :=
  match word with
  | .plain c :: more =>
    let rest := more.dropWhile fun
      | .plain d => isNameChar d
      | _ => false
    isNameStart c && (match rest with
      | .plain '=' :: _ => true
      | _ => false)
  | _ => false

/-- A word in which every character stands for itself. -/
def quotedWord (s : Chars) : List Piece :=
  s.map .quoted

end Shakedown.Shell

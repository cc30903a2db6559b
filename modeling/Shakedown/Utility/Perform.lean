import Shakedown.Shell.Program
import Shakedown.Utility.Checksum
import Shakedown.Utility.Clock
import Shakedown.Utility.Column
import Shakedown.Utility.Compile
import Shakedown.Utility.Concatenate
import Shakedown.Utility.Condition
import Shakedown.Utility.Copy
import Shakedown.Utility.Count
import Shakedown.Utility.Difference
import Shakedown.Utility.Dump
import Shakedown.Utility.Edit
import Shakedown.Utility.Excerpt
import Shakedown.Utility.Exchange
import Shakedown.Utility.Expression
import Shakedown.Utility.File
import Shakedown.Utility.Find
import Shakedown.Utility.Grep
import Shakedown.Utility.Kill
import Shakedown.Utility.Layout
import Shakedown.Utility.Make
import Shakedown.Utility.Name
import Shakedown.Utility.Permission
import Shakedown.Utility.Piece
import Shakedown.Utility.Precedence
import Shakedown.Utility.Scan
import Shakedown.Utility.Sort
import Shakedown.Utility.Starter
import Shakedown.Utility.Surroundings
import Shakedown.Utility.Text

/-!
# The programs of the system

Every program by its name, and what a process does that is started.
-/

set_option autoImplicit false

namespace Shakedown

open Utility

/-- The programs by their names. -/
def programs : List (String × Program) :=
  [("dash", Shell.program), ("bash", Shell.program), ("[", Condition.bracket.program 2),
    ("test", Condition.test.program 2), ("echo", echo.program), ("printf", printf.program),
    ("seq", seq.program), ("yes", yes.program), ("true", fun _ => Act.exit 0),
    ("false", fun _ => Act.exit 1), ("basename", basename.program),
    ("dirname", dirname.program), ("pwd", pwd.program), ("readlink", readlink.program),
    ("realpath", realpath.program), ("printenv", printenv.program 2), ("whoami", whoami.program),
    ("id", id.program), ("uname", uname.program), ("nproc", nproc.program), ("tty", tty.program 3),
    ("sync", sync.program), ("sleep", sleep.program), ("which", which.program), ("env", env),
    ("nice", nice), ("nohup", nohup), ("timeout", timeout), ("xargs", xargs),
    ("cat", cat.program), ("tac", tac.program), ("rev", rev.program), ("tee", tee.program),
    ("head", head.program), ("tail", tail.program), ("wc", wc.program), ("nl", nl.program),
    ("fold", fold.program), ("expand", expand.program), ("unexpand", unexpand.program),
    ("mkdir", mkdir.program), ("rmdir", rmdir.program), ("touch", touch.program),
    ("rm", rm.program), ("unlink", Utility.unlink.program), ("ln", ln.program),
    ("mktemp", mktemp.program), ("cp", cp.program), ("mv", mv.program),
    ("install", install.program), ("ls", ls.program 2), ("stat", Utility.stat.program),
    ("chmod", chmod.program), ("chown", chown.program), ("chgrp", chown.program),
    ("sort", sort.program 2), ("uniq", uniq.program), ("cut", cut.program),
    ("paste", paste.program), ("comm", comm.program), ("join", join.program),
    ("tr", Exchange.exchange.program),
    ("grep", (Grep.grep []).program 2), ("egrep", (Grep.grep ["-E".toList]).program 2),
    ("fgrep", (Grep.grep ["-F".toList]).program 2),
    ("sed", Edit.sed), ("mawk", Scan.mawk), ("od", Dump.od.program),
    ("md5sum", (Checksum.digest Checksum.md5).program),
    ("sha1sum", (Checksum.digest Checksum.sha1).program),
    ("sha256sum", (Checksum.digest Checksum.sha256).program),
    ("sum", Checksum.sum.program), ("cksum", Checksum.cksum.program),
    ("base64", Checksum.base64.program),
    ("split", Piece.split.program), ("dd", Piece.dd.program), ("tsort", Precedence.tsort.program),
    ("kill", Kill.kill.program), ("date", Clock.date.program),
    ("cmp", Difference.cmp.program 2), ("diff", Difference.diff.program 2),
    ("expr", Expression.expr.program 2), ("find", Find.find), ("make", Make.make),
    ("gcc", Compile.gcc.program)]

/-- How many programs may be started from one another in a row. -/
def programDepth : Nat := 400

/-- What a process does that is started. A program that the system does not bring along says that it
is missing. -/
def perform : Nat → Launch → Act Unit
  | 0, _ => Act.exit 126
  | depth + 1, l => do
    modify fun p => { p with words := l.words.map Chars.ofBytes, file := Chars.ofBytes l.file }
    match programs.lookup l.program with
    | some program => program ⟨perform depth⟩
    | none =>
      Act.complain (l.program.toList ++ ": not installed".toList)
      Act.exit 127

end Shakedown

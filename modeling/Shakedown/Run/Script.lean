import Shakedown.Run.Runner

/-!
# Runners that follow a script

A script answers invocations without starting anything: by their number, or else by what their
command line contains, or else with success. `forCommand_eq_some_iff` says which part of a command
line it is that decides, and `Runner.getElem?_calls_script` which call gets which answer.
-/

set_option autoImplicit false

namespace Shakedown

/-- Whether a text occurs within another. -/
def occursIn (needle : List Char) : List Char → Bool
  | [] => needle.isEmpty
  | c :: more => needle.isPrefixOf (c :: more) || occursIn needle more

/-- A text is found in another one exactly if it stands in it. -/
theorem occursIn_iff {needle hay : List Char} : occursIn needle hay ↔ needle <:+: hay := by
  induction hay with
  | nil => rw [occursIn, List.isEmpty_iff, List.infix_nil]
  | cons c more ih =>
    rw [occursIn, Bool.or_eq_true, List.isPrefixOf_iff_prefix, ih, List.infix_cons_iff]

/-- Prepared answers. -/
structure Script where
  /-- Answers by the number of the invocation. -/
  byNumber : List (Option Answer) := []
  /-- Answers by a part of the command line, earlier ones first. -/
  byCommand : List (String × Answer) := []

namespace Script

/-- The first answer whose text occurs in a command line. -/
def forCommand (s : Script) (command : String) : Option Answer :=
  (s.byCommand.find? fun (part, _) => occursIn part.toList command.toList).map (·.2)

/-- A command line gets the answer of the first text that stands in it. -/
theorem forCommand_eq_some_iff {s : Script} {command : String} {a : Answer} :
    s.forCommand command = some a ↔
      ∃ before part behind, s.byCommand = before ++ (part, a) :: behind ∧
        part.toList <:+: command.toList ∧
          ∀ entry ∈ before, ¬entry.1.toList <:+: command.toList := by
  rw [forCommand, Option.map_eq_some_iff]
  constructor
  · rintro ⟨⟨part, a⟩, hfound, rfl⟩
    obtain ⟨hpart, before, behind, hentries, hbefore⟩ := List.find?_eq_some_iff_append.1 hfound
    exact ⟨before, part, behind, hentries, occursIn_iff.1 hpart, fun entry hentry h => by
      simpa [occursIn_iff.2 h] using hbefore entry hentry⟩
  · rintro ⟨before, part, behind, hentries, hpart, hbefore⟩
    refine ⟨(part, a), List.find?_eq_some_iff_append.2 ?_, rfl⟩
    refine ⟨occursIn_iff.2 hpart, before, behind, hentries, fun entry hentry => ?_⟩
    rw [Bool.not_eq_true', Bool.eq_false_iff]
    exact fun h => hbefore entry hentry (occursIn_iff.1 h)

/-- The answer to the invocation with a number. -/
def answer (s : Script) (number : Nat) (i : Invocation) : Answer :=
  match s.byNumber[number]? with
  | some (some a) => a
  | _ => (s.forCommand i.render).getD (.ok (.exited 0))

/-- The runner that follows a script; its state is the number of the next invocation. -/
def runner (s : Script) : Runner Nat :=
  fun i _ number => ({ answer := s.answer number i }, number + 1)

end Script

end Shakedown

import Mathlib.Data.List.Forall2
import Shakedown.CommandLine.Run
import Shakedown.Proofs.CommandLine.Acceptance

/-!
# The order of the arguments

An accepted command line stays accepted, as the same, in every order of its groups, and with the
values of its options behind an equals sign or in arguments of their own: what it says is the same
in another order, and what comes of it does not depend on the order. A refused one ends the program
before anything is read or run.

Main statement: `parse_arranged`.
-/

set_option autoImplicit false

namespace Shakedown.CommandLine

variable {env : Environment} {args : List Bytes} {c : CommandLine}

/-! ## Rearranged groups -/

/-- Groups in another order, and with some values joined to their options or split from them. -/
def Rearranged (groups groups' : List Group) : Prop :=
  ∃ ordered, groups.Perm ordered ∧ List.Forall₂ Group.Respelled ordered groups'

/-- Rearranged groups say the same in another order. -/
theorem Rearranged.items_perm {groups groups' : List Group} (h : Rearranged groups groups') :
    (groups.flatMap Group.items).Perm (groups'.flatMap Group.items) := by
  obtain ⟨ordered, hperm, hspelled⟩ := h
  have heq : groups'.flatMap Group.items = ordered.flatMap Group.items := by
    clear hperm
    induction hspelled with
    | nil => rfl
    | cons hone _ ih => rw [List.flatMap_cons, List.flatMap_cons, hone.items_eq, ih]
  rw [heq]
  exact hperm.flatMap_right _

/-- Rearranged groups are complete if the groups were. -/
theorem Rearranged.complete {groups groups' : List Group} (h : Rearranged groups groups')
    (hgroups : ∀ g ∈ groups, g.Complete) : ∀ g ∈ groups', g.Complete := by
  obtain ⟨ordered, hperm, hspelled⟩ := h
  have hordered : ∀ g ∈ ordered, g.Complete := fun g hg => hgroups g (hperm.mem_iff.2 hg)
  clear hperm
  induction hspelled with
  | nil => exact hordered
  | cons hone _ ih =>
    obtain ⟨hg, hmore⟩ := List.forall_mem_cons.1 hordered
    exact List.forall_mem_cons.2 ⟨hone.complete hg, ih hmore⟩

/-- Rearranged arguments come to the same command line. -/
theorem parse_rearranged (h : parse env args = .ok c) {groups : List Group}
    (hgroups : Rearranged (cut args).1 groups) :
    parse env (spell groups ++ (cut args).2) = .ok c := by
  obtain ⟨d, htakes, hrest⟩ := parse_eq_ok_iff.1 h
  have hcomplete : ∀ g ∈ (cut args).1, g.Complete := by
    intro g hg
    refine (complete_or_lack hg).resolve_right ?_
    rintro ⟨p, hp⟩
    have hmem : .lack p ∈ items args :=
      List.mem_append_left _ (List.mem_flatMap.2 ⟨g, hg, hp⟩)
    cases htakes.isSound _ hmem
  have hcut := cut_spell (hgroups.complete hcomplete) (cut_rest args)
  have hperm : (items args).Perm (items (spell groups ++ (cut args).2)) := by
    rw [items, items, hcut]
    exact hgroups.items_perm.append_right _
  exact parse_eq_ok_iff.2 ⟨d, htakes.perm hperm, hrest⟩

/-- A mistake is answered with the exit status 2 and its complaint. -/
theorem respond_of_mistake {e : UsageError} (h : parse env args = .error e)
    (hmistake : e.isMistake = true) {m : Machine} (hm : m.env = env) :
    respond m args =
      ⟨2, Terminal.written env (e.reply env), Terminal.written env e.complaint⟩ := by
  have hcode : e.exitCode = 2 := if_pos hmistake
  unfold respond
  rw [hm, h, ← hcode]

/-- A command line is cut into groups, up to `--`, and a rest. It is accepted if nothing in it is at
fault, it does not ask for help or the version, and the values of its options, or those of the
environment for options that it leaves out, can be such values; and only then. An accepted one names
the compiler once, in text that is not empty, has these values, and is accepted as the same with its
groups in any order and the values of its options given in either way. A refused one that does not
ask for help or the version ends with status 2, and what is written depends on the environment and
the kind of mistake: on no file, so not on a plan, and on no process, so not on a stage. -/
theorem parse_arranged (env : Environment) (args : List Bytes) :
    spell (cut args).1 ++ (cut args).2 = args ∧
      ((∃ c, parse env args = .ok c) ↔
        ¬Faulty (items args) ∧ ¬Asks (items args) ∧
          ∀ p value, valueGiven env (items args) p = some value → IsValueOf value p) ∧
      (∀ c, parse env args = .ok c →
        names (items args) = [Utf8.bytes c.compiler] ∧ c.compiler ≠ "" ∧
        (∀ p, c.setting p = valueGiven env (items args) p) ∧
        ∀ groups, Rearranged (cut args).1 groups →
          parse env (spell groups ++ (cut args).2) = .ok c) ∧
      (¬Asks (items args) →
        (Faulty (items args) → ∃ e, parse env args = .error e) ∧
        ∀ e, parse env args = .error e → e.exitCode = 2 ∧ ∀ m : Machine, m.env = env →
          respond m args =
            ⟨2, Terminal.written env (e.reply env), Terminal.written env e.complaint⟩) := by
  refine ⟨spell_cut args, exists_parse_iff, ?_, ?_⟩
  · intro c h
    obtain ⟨hnames, hname, hsettings⟩ := said_of_parse h
    refine ⟨hnames, ?_, hsettings, fun groups => parse_rearranged h⟩
    intro hempty
    exact hname.1 (by rw [hempty]; rfl)
  · intro hasks
    constructor
    · intro hfaulty
      cases h : parse env args with
      | error e => exact ⟨e, rfl⟩
      | ok c => exact absurd hfaulty (not_faulty_of_parse h)
    · intro e h
      have hmistake : e.isMistake = true := (isMistake_of_parse h).resolve_right hasks
      exact ⟨if_pos hmistake, fun m => respond_of_mistake h hmistake⟩

/-- The compiler last, and the value of the build tool behind an equals sign. -/
example : parse [] (["cc", "-vC", "lib", "--build-tool", "gmake"].map Utf8.bytes) =
    parse [] (["--build-tool=gmake", "-vC", "lib", "cc"].map Utf8.bytes) := by
  decide +kernel

end Shakedown.CommandLine

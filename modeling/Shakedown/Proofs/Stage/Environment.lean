import Shakedown.Process.Launch
import Shakedown.Proofs.Stage.Isolation
import Shakedown.Proofs.Text.Encoding

/-!
# The variables of an invocation

An invocation sets variables one after the other, and its process has the value that was set last
(`get?_childEnvironment`). What the invocation tells about itself is the value that was set first.
`envValue_agrees_iff` says when the two are the same: always if no variable is set twice, as in
the stages of a run.
-/

set_option autoImplicit false

namespace Shakedown

/-! ## Variables set one after the other -/

/-- A variable that is set has its new value, every other one what it had. -/
theorem Environment.get?_set (e : Environment) (name value key : Bytes) :
    (e.set name value).get? key = if key = name then some value else e.get? key := by
  unfold Environment.set Environment.get?
  by_cases hkey : key = name
  · simp [hkey]
  · have hbeq : (key == name) = false := by simpa using hkey
    rw [if_neg hkey, List.lookup_cons, hbeq]
    induction e with
    | nil => rfl
    | cons v e ih =>
      by_cases hv : v.1 = name
      · have hother : (key == v.1) = false := by simpa [hv] using hkey
        rw [List.filter_cons_of_neg (by simp [hv]), List.lookup_cons, hother]
        exact ih
      · rw [List.filter_cons_of_pos (by simp [hv]), List.lookup_cons, List.lookup_cons]
        cases key == v.1 with
        | true => rfl
        | false => exact ih

namespace Invocation

variable {i : Invocation} {key value : String}

/-- The value that an invocation sets for a variable at last. -/
def lastValue (i : Invocation) (key : String) : Option String :=
  i.env.reverse.lookup key

/-- Whether the process of an invocation has a value for a variable, whatever it inherits. -/
def Overrides (i : Invocation) (key value : String) : Prop :=
  ∀ inherited, (i.childEnvironment inherited).get? (Utf8.bytes key) = some (Utf8.bytes value)

/-- Whether the process of an invocation has a variable as it is inherited. -/
def Inherits (i : Invocation) (key : String) : Prop :=
  ∀ inherited, (i.childEnvironment inherited).get? (Utf8.bytes key) =
    inherited.get? (Utf8.bytes key)

/-- The process has the value that was set last, or what it inherits. -/
theorem get?_childEnvironment (i : Invocation) (key : String) (inherited : Environment) :
    (i.childEnvironment inherited).get? (Utf8.bytes key) =
      ((i.lastValue key).map Utf8.bytes).or (inherited.get? (Utf8.bytes key)) := by
  unfold childEnvironment lastValue
  generalize i.env = env
  induction env generalizing inherited with
  | nil => rfl
  | cons v env ih =>
    obtain ⟨name, value⟩ := v
    rw [List.foldl_cons, ih, Environment.get?_set, List.reverse_cons, List.lookup_append]
    cases env.reverse.lookup key with
    | some last => rfl
    | none =>
      by_cases hkey : key = name
      · simp [hkey]
      · have hbytes : Utf8.bytes key ≠ Utf8.bytes name := fun h => hkey (Utf8.bytes_injective h)
        have hbeq : (key == name) = false := by simpa using hkey
        simp [hbytes, hbeq, List.lookup_cons]

/-- One more variable is there for the process at once, and told only if it was not set before. -/
theorem setEnv_values (i : Invocation) (key value : String) :
    (i.setEnv key value).lastValue key = some value ∧
      (i.setEnv key value).envValue key = (i.envValue key).or (some value) := by
  unfold setEnv lastValue envValue
  constructor
  · simp
  · rw [List.lookup_append]
    simp

/-- No value is set at last for a variable exactly if none is told. -/
theorem lastValue_eq_none : i.lastValue key = none ↔ i.envValue key = none := by
  unfold lastValue envValue
  rw [List.lookup_eq_none_iff, List.lookup_eq_none_iff]
  simp only [List.mem_reverse]

/-- A value overrides what is inherited exactly if it is the one that is set at last. -/
theorem overrides_iff : i.Overrides key value ↔ i.lastValue key = some value := by
  constructor
  · intro h
    have hnothing := h []
    rw [get?_childEnvironment] at hnothing
    cases hlast : i.lastValue key with
    | none =>
      rw [hlast] at hnothing
      cases hnothing
    | some last =>
      rw [hlast] at hnothing
      exact congrArg some (Utf8.bytes_injective (Option.some.inj hnothing))
  · intro h inherited
    rw [get?_childEnvironment, h]
    rfl

/-- A variable is inherited exactly if no value is set for it. -/
theorem inherits_iff : i.Inherits key ↔ i.lastValue key = none := by
  constructor
  · intro h
    have hnothing := h []
    rw [get?_childEnvironment] at hnothing
    cases hlast : i.lastValue key with
    | none => rfl
    | some last =>
      rw [hlast] at hnothing
      cases hnothing
  · intro h inherited
    rw [get?_childEnvironment, h]
    rfl

/-- What an invocation tells of a variable is what its process has: the variable is not set just if
the process inherits it, and the value is that of the process, for all values, just if the one that
was set first is also the one that was set last. A variable that is set once more is there for the
process, and told only if it had no other value before. No invocation of a planned stage tells
anything else than its process has. -/
theorem envValue_agrees_iff (i : Invocation) (key : String) :
    (i.envValue key = none ↔ i.Inherits key) ∧
      ((∀ value, i.envValue key = some value ↔ i.Overrides key value) ↔
        i.envValue key = i.lastValue key) ∧
      (∀ value, (i.setEnv key value).Overrides key value ∧
        ((i.setEnv key value).envValue key = some value ↔
          i.envValue key = none ∨ i.envValue key = some value)) ∧
      ∀ (t : Trial) (c : Compiler) (planned : List PlannedStage), t.plannedStages c = .ok planned →
        ∀ s ∈ planned, s.invocation = i → i.envValue key = i.lastValue key := by
  refine ⟨?_, ?_, ?_, ?_⟩
  · rw [inherits_iff, lastValue_eq_none]
  · simp only [overrides_iff]
    constructor
    · intro h
      exact Option.ext h
    · intro h value
      rw [h]
  · intro value
    obtain ⟨hlast, hfirst⟩ := i.setEnv_values key value
    refine ⟨overrides_iff.2 hlast, ?_⟩
    rw [hfirst]
    cases i.envValue key <;> simp
  · intro t c planned h s hs hi
    have henv := (Trial.laysOut_of_plannedStages h).overrides s hs
    rw [hi] at henv
    unfold envValue lastValue
    rw [henv]
    split <;> rfl

/-- An invocation for which a variable is set twice. -/
def setTwice : Invocation :=
  (({ program := "make" } : Invocation).setEnv "CC" "gcc").setEnv "CC" "clang"

/-- Of a variable that is set twice the first value is told, and the process has the second. -/
theorem setTwice_tells_first :
    setTwice.envValue "CC" = some "gcc" ∧ ¬setTwice.Overrides "CC" "gcc" ∧
      setTwice.Overrides "CC" "clang" := by
  have hlast : setTwice.lastValue "CC" = some "clang" := by decide
  refine ⟨by decide, ?_, overrides_iff.2 hlast⟩
  intro h
  have hgcc := overrides_iff.1 h
  rw [hlast] at hgcc
  exact absurd (Option.some.inj hgcc) (by decide)

end Invocation

end Shakedown

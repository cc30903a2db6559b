import Mathlib.Logic.Function.Basic
import Shakedown.CommandLine.Parse
import Shakedown.Proofs.Text.Encoding

/-!
# The places of a draft

A draft is told by the bytes of its compiler's name, the bytes of its options' values and how often
the others were raised. Each of the ways to change it changes one of these places, if the place
allows it, and leaves the rest.

Main statements: `ext_places` and `exists_places`, a draft is its places, and `places_of_name`,
`places_of_give` and `places_of_raise`, what the changes do to them.
-/

set_option autoImplicit false

namespace Shakedown.CommandLine

open Function (update)

/-! ## Values -/

/-- Whether bytes are those of a text. -/
def IsText (value : Bytes) : Prop :=
  ∃ s : String, Utf8.bytes s = value

/-- Whether bytes can be the compiler's name. -/
def IsName (value : Bytes) : Prop :=
  value ≠ [] ∧ IsText value

/-- Whether bytes can be the value of an option. -/
def IsValueOf (value : Bytes) : Parameter → Prop
  | .plan | .projectDir => value ≠ []
  | .buildTool | .referenceCompiler => IsText value

/-- A value is read as a text if it has the bytes of the text. -/
theorem textValue_eq_ok {value : Bytes} {s : String} :
    textValue value = .ok s ↔ Utf8.bytes s = value := by
  unfold textValue
  constructor
  · intro h
    split at h
    · cases h
    · next hdecode =>
      cases h
      rw [Utf8.bytes, String.toList_ofList, Utf8.encode_of_decode? hdecode]
  · rintro rfl
    simp [Utf8.bytes, Utf8.decode?_encode]

/-- A value is read as a path if it is not empty. -/
theorem pathValue_eq_ok {value : Bytes} {p : Path} :
    pathValue value = .ok p ↔ value ≠ [] ∧ p = ⟨value⟩ := by
  unfold pathValue
  split <;> simp_all [eq_comm]

/-! ## Places of a draft -/

namespace Draft

/-- The bytes of the compiler's name. -/
def named (d : Draft) : Option Bytes :=
  d.compiler.map Utf8.bytes

/-- The bytes of an option's value. -/
def setting (d : Draft) : Parameter → Option Bytes
  | .plan => d.plan.map Path.bytes
  | .projectDir => d.projectDir.map Path.bytes
  | .buildTool => d.buildTool.map Utf8.bytes
  | .referenceCompiler => d.referenceCompiler.map Utf8.bytes

/-- How often an option without a value was raised. -/
def level (d : Draft) : Flag → Nat
  | .failFast => d.failFast.toNat
  | .dryRun => d.dryRun.toNat
  | .verbose => d.verbose.toNat
  | .quiet => d.quiet.toNat
  | .json => d.json.toNat
  | .help | .version => 0

variable {d d' : Draft} {p : Parameter} {f : Flag} {value : Bytes}

/-- Drafts with the same places are the same. -/
theorem ext_places (hnamed : d.named = d'.named) (hsetting : d.setting = d'.setting)
    (hlevel : d.level = d'.level) : d = d' := by
  -- Each field is told by its place, since texts and paths are told by their bytes.
  have hpath : Function.Injective (Option.map Path.bytes) :=
    Option.map_injective fun p q h => by cases p; cases q; cases h; rfl
  have htext : Function.Injective (Option.map Utf8.bytes) :=
    Option.map_injective Utf8.bytes_injective
  have hbool {b b' : Bool} (h : b.toNat = b'.toNat) : b = b' := by
    cases b <;> cases b' <;> simp_all
  cases d
  cases d'
  rw [mk.injEq]
  exact ⟨htext hnamed, hpath (congrFun hsetting .plan), hpath (congrFun hsetting .projectDir),
    htext (congrFun hsetting .buildTool), htext (congrFun hsetting .referenceCompiler),
    hbool (congrFun hlevel .failFast), hbool (congrFun hlevel .dryRun),
    UInt8.toNat_inj.1 (congrFun hlevel .verbose), hbool (congrFun hlevel .quiet),
    hbool (congrFun hlevel .json)⟩

/-- No option is raised above 255. -/
theorem level_le (d : Draft) (f : Flag) : d.level f ≤ 255 := by
  have hbool (b : Bool) : b.toNat ≤ 255 := by cases b <;> decide
  cases f with
  | verbose => exact Nat.le_of_lt_succ d.verbose.toNat_lt
  | help => exact Nat.zero_le _
  | version => exact Nat.zero_le _
  | _ => exact hbool _

/-- Every choice of places that hold what they may hold is a draft. -/
theorem exists_places {name : Option Bytes} {given : Parameter → Option Bytes} {count : Flag → Nat}
    (hname : ∀ value ∈ name, IsText value) (hgiven : ∀ p, ∀ value ∈ given p, IsValueOf value p)
    (hverbose : count .verbose ≤ 255) (hcount : ∀ f, f ≠ .verbose → count f ≤ 1)
    (hhelp : count .help = 0) (hversion : count .version = 0) :
    ∃ d : Draft, d.named = name ∧ d.setting = given ∧ d.level = count := by
  have htext {place : Option Bytes} (h : ∀ value ∈ place, IsText value) :
      ∃ t : Option String, t.map Utf8.bytes = place := by
    cases place with
    | none => exact ⟨none, rfl⟩
    | some value =>
      obtain ⟨s, hs⟩ := h value rfl
      exact ⟨some s, congrArg some hs⟩
  have hpath (place : Option Bytes) : (place.map Path.mk).map Path.bytes = place := by
    cases place <;> rfl
  have hbool {f : Flag} (hf : f ≠ .verbose) : (decide (count f = 1)).toNat = count f := by
    have hle := hcount f hf
    by_cases hone : count f = 1
    · simp [hone]
    · simp [hone]
      omega
  obtain ⟨compiler, hcompiler⟩ := htext hname
  obtain ⟨buildTool, hbuildTool⟩ := htext (hgiven .buildTool)
  obtain ⟨reference, hreference⟩ := htext (hgiven .referenceCompiler)
  refine ⟨⟨compiler, (given .plan).map Path.mk, (given .projectDir).map Path.mk, buildTool, reference,
    decide (count .failFast = 1), decide (count .dryRun = 1), .ofNat (count .verbose),
    decide (count .quiet = 1), decide (count .json = 1)⟩, hcompiler, ?_, ?_⟩
  · funext p
    cases p with
    | plan => exact hpath _
    | projectDir => exact hpath _
    | buildTool => exact hbuildTool
    | referenceCompiler => exact hreference
  · funext f
    cases f with
    | verbose =>
      change (UInt8.ofNat (count .verbose)).toNat = count .verbose
      rw [UInt8.toNat_ofNat']
      omega
    | help => exact hhelp.symm
    | version => exact hversion.symm
    | _ => exact hbool nofun

/-- A draft has an option if there is a value in its place. -/
theorem has_eq_isSome (d : Draft) (p : Parameter) : d.has p = (d.setting p).isSome := by
  cases p <;> simp [has, setting]

/-- Naming the compiler changes nothing else. -/
theorem places_of_name (h : d.name value = .ok d') :
    IsName value ∧ d'.named = some value ∧ d'.setting = d.setting ∧ d'.level = d.level := by
  unfold name at h
  split at h
  · cases h
  · next hne =>
    cases hvalue : textValue value with
    | error e =>
      rw [hvalue] at h
      cases h
    | ok s =>
      rw [hvalue] at h
      obtain rfl := Except.ok.inj h
      have hs := textValue_eq_ok.1 hvalue
      exact ⟨⟨hne, s, hs⟩, congrArg some hs, rfl, rfl⟩

/-- A draft takes every name of a compiler. -/
theorem exists_name (d : Draft) (h : IsName value) : ∃ d', d.name value = .ok d' := by
  obtain ⟨hne, s, hs⟩ := h
  unfold name
  rw [if_neg hne, textValue_eq_ok.2 hs]
  exact ⟨_, rfl⟩

/-- Giving an option its value changes nothing else. -/
theorem places_of_give (h : d.give p value = .ok d') :
    IsValueOf value p ∧ d'.named = d.named ∧ d'.setting = update d.setting p (some value) ∧
      d'.level = d.level := by
  cases p <;> rw [give] at h
  case plan | projectDir =>
    cases hvalue : pathValue value with
    | error e =>
      rw [hvalue] at h
      cases h
    | ok q =>
      rw [hvalue] at h
      obtain rfl := Except.ok.inj h
      obtain ⟨hne, rfl⟩ := pathValue_eq_ok.1 hvalue
      refine ⟨hne, rfl, ?_, rfl⟩
      funext p
      cases p <;> rfl
  case buildTool | referenceCompiler =>
    cases hvalue : textValue value with
    | error e =>
      rw [hvalue] at h
      cases h
    | ok s =>
      rw [hvalue] at h
      obtain rfl := Except.ok.inj h
      obtain rfl := textValue_eq_ok.1 hvalue
      refine ⟨⟨s, rfl⟩, rfl, ?_, rfl⟩
      funext p
      cases p <;> rfl

/-- A draft takes every value of an option. -/
theorem exists_give (d : Draft) (h : IsValueOf value p) : ∃ d', d.give p value = .ok d' := by
  cases p <;> rw [give]
  case plan | projectDir =>
    have hvalue : pathValue value = .ok ⟨value⟩ := pathValue_eq_ok.2 ⟨h, rfl⟩
    rw [hvalue]
    exact ⟨_, rfl⟩
  case buildTool | referenceCompiler =>
    obtain ⟨s, hs⟩ := h
    rw [textValue_eq_ok.2 hs]
    exact ⟨_, rfl⟩

/-- The verbosity is raised by one, up to 255. -/
theorem toNat_verbose_raise (verbose : UInt8) :
    (if verbose = 255 then 255 else verbose + 1 : UInt8).toNat = min 255 (verbose.toNat + 1) := by
  have hlt := verbose.toNat_lt
  split
  · next h =>
    subst h
    rfl
  · next h =>
    have hne : verbose.toNat ≠ 255 := fun heq => h (UInt8.toNat_inj.1 heq)
    rw [UInt8.toNat_add, Nat.mod_eq_of_lt (by simp; omega)]
    simp
    omega

/-- Whether a draft lets an option without a value be raised: once, or as often as one likes for the
verbosity. -/
def Admits (d : Draft) (f : Flag) : Prop :=
  f ≠ .help ∧ f ≠ .version ∧ (f ≠ .verbose → d.level f = 0)

/-- Raising an option changes nothing else. -/
theorem places_of_raise (h : d.raise f = .ok d') :
    d.Admits f ∧ d'.named = d.named ∧ d'.setting = d.setting ∧
      d'.level = update d.level f (min 255 (d.level f + 1)) := by
  cases f <;> rw [raise] at h
  case failFast | dryRun | quiet | json =>
    split at h
    · cases h
    · next hnot =>
      obtain rfl := Except.ok.inj h
      refine ⟨⟨by decide, by decide, fun _ => by simpa [level] using hnot⟩, rfl, rfl, ?_⟩
      funext g
      cases g <;> first | rfl | simp_all [level]
  case verbose =>
    obtain rfl := Except.ok.inj h
    refine ⟨⟨by decide, by decide, fun hne => absurd rfl hne⟩, rfl, rfl, ?_⟩
    funext g
    cases g <;> first | rfl | exact toNat_verbose_raise d.verbose
  case help | version => cases h

/-- A draft that lets an option be raised raises it. -/
theorem exists_raise (h : d.Admits f) : ∃ d', d.raise f = .ok d' := by
  obtain ⟨hhelp, hversion, hlevel⟩ := h
  cases f <;> rw [raise]
  case failFast | dryRun | quiet | json =>
    have hnot := hlevel (by decide)
    simp only [level, Bool.toNat_eq_zero] at hnot
    simp [hnot]
  case verbose => exact ⟨_, rfl⟩
  case help => exact absurd rfl hhelp
  case version => exact absurd rfl hversion

end Draft

end Shakedown.CommandLine

import Shakedown.Proofs.CommandLine.Draft
import Shakedown.Proofs.CommandLine.Group

/-!
# What items come to

Settling items one after the other succeeds exactly if each of them can be settled by itself and
none comes again that may come only once. What comes of it is told place by place, from what the
items say of the place: the order of the items does not matter.

Main statements: `Draft.takeAll_eq_ok_iff`, by induction on the items, and `Draft.Takes.perm`.
-/

set_option autoImplicit false

namespace Shakedown.CommandLine

open Function (update_self update_of_ne)

/-! ## Settling items -/

namespace Draft

variable {d d' : Draft}

/-- Settles one item. -/
def take (d : Draft) : Item → Except UsageError Draft
  | .name value => if d.named.isSome then .error .unknownArgument else d.name value
  | .give p value => d.giveOnce p value
  | .lack _ => .error .invalidValue
  | .raise f => d.raise f
  | .unwanted _ => .error .unwantedValue
  | .unknown => .error .unknownArgument

/-- Settles items in order. -/
def takeAll (d : Draft) : List Item → Except UsageError Draft
  | [] => .ok d
  | i :: more =>
    match d.take i with
    | .error e => .error e
    | .ok d => d.takeAll more

/-- Items are taken by the first one, and then the others. -/
theorem takeAll_cons_eq_ok {i : Item} {more : List Item} :
    d.takeAll (i :: more) = .ok d' ↔
      ∃ middle, d.take i = .ok middle ∧ middle.takeAll more = .ok d' := by
  rw [takeAll]
  cases d.take i <;> simp

/-- A single item is taken by itself. -/
theorem takeAll_singleton (d : Draft) (i : Item) : d.takeAll [i] = d.take i := by
  rw [takeAll]
  cases d.take i <;> rfl

/-- Items may be taken in two parts. -/
theorem takeAll_append_eq_ok {xs ys : List Item} :
    d.takeAll (xs ++ ys) = .ok d' ↔
      ∃ middle, d.takeAll xs = .ok middle ∧ middle.takeAll ys = .ok d' := by
  induction xs generalizing d with
  | nil => simp [takeAll]
  | cons i xs ih =>
    rw [List.cons_append, takeAll_cons_eq_ok]
    simp only [ih, takeAll_cons_eq_ok]
    constructor
    · rintro ⟨first, hfirst, middle, hmiddle, hrest⟩
      exact ⟨middle, ⟨first, hfirst, hmiddle⟩, hrest⟩
    · rintro ⟨middle, ⟨first, hfirst, hmiddle⟩, hrest⟩
      exact ⟨first, hfirst, middle, hmiddle, hrest⟩

end Draft

/-! ## What items say of a place -/

/-- The compiler's name, if an item gives one. -/
def Item.name? : Item → Option Bytes
  | .name value => some value
  | _ => none

/-- The value of an option, if an item gives one. -/
def Item.value? (p : Parameter) : Item → Option Bytes
  | .give q value => if q = p then some value else none
  | _ => none

/-- The names that are given to the compiler. -/
def names (items : List Item) : List Bytes :=
  items.filterMap Item.name?

/-- The values that are given to an option. -/
def values (p : Parameter) (items : List Item) : List Bytes :=
  items.filterMap (Item.value? p)

/-- How often an option without a value is raised. -/
def times (f : Flag) (items : List Item) : Nat :=
  items.count (.raise f)

/-- Whether an item by itself is no mistake and does not ask for help or the version. -/
def Item.isSound : Item → Bool
  | .name _ | .give _ _ => true
  | .raise f => f ≠ .help && f ≠ .version
  | .lack _ | .unwanted _ | .unknown => false

/-- What a place for one value comes to. -/
def Filled (admits : Bytes → Prop) (before : Option Bytes) (given : List Bytes)
    (after : Option Bytes) : Prop :=
  match given with
  | [] => after = before
  | [value] => before = none ∧ admits value ∧ after = some value
  | _ => False

/-- What a place for a number comes to. Only the verbosity may get above one. -/
def Risen (f : Flag) (before times after : Nat) : Prop :=
  after = min 255 (before + times) ∧ (f ≠ .verbose → before + times ≤ 1)

/-- A place takes a value only while it is empty. -/
theorem filled_cons {admits : Bytes → Prop} {before after : Option Bytes} {value : Bytes}
    {given : List Bytes} : Filled admits before (value :: given) after ↔
      before = none ∧ admits value ∧ Filled admits (some value) given after := by
  cases given with
  | nil => rfl
  | cons next more => cases more <;> simp [Filled]

/-- A place that was empty has the first value that is given, and there is no second one. -/
theorem filled_none {admits : Bytes → Prop} {given : List Bytes} {after : Option Bytes} :
    Filled admits none given after ↔
      after = given.head? ∧ given.length ≤ 1 ∧ ∀ value ∈ given, admits value := by
  cases given with
  | nil => simp [Filled]
  | cons first more =>
    cases more with
    | nil => simp [Filled, and_comm]
    | cons second rest => simp [Filled]

/-- What a place comes to does not depend on the order of what is given. -/
theorem Filled.perm {admits : Bytes → Prop} {before after : Option Bytes}
    {given given' : List Bytes}
    (h : Filled admits before given after) (hperm : given.Perm given') :
    Filled admits before given' after := by
  unfold Filled at h
  split at h
  · rw [List.nil_perm.1 hperm]
    exact h
  · rw [List.singleton_perm.1 hperm |>.symm]
    exact h
  · exact h.elim

/-- A number rises one step after the other. -/
theorem risen_succ {f : Flag} {before times after : Nat} : Risen f before (times + 1) after ↔
    (f ≠ .verbose → before = 0) ∧ Risen f (min 255 (before + 1)) times after := by
  unfold Risen
  constructor
  · rintro ⟨hafter, hone⟩
    refine ⟨fun hne => ?_, by omega, fun hne => ?_⟩
    · have := hone hne
      omega
    · have := hone hne
      omega
  · rintro ⟨hzero, hafter, hone⟩
    refine ⟨by omega, fun hne => ?_⟩
    have := hzero hne
    have := hone hne
    omega

/-- What becomes of a draft through items, told place by place. -/
structure Draft.Takes (d : Draft) (items : List Item) (d' : Draft) : Prop where
  isSound : ∀ i ∈ items, i.isSound = true
  named : Filled IsName d.named (names items) d'.named
  setting : ∀ p, Filled (IsValueOf · p) (d.setting p) (values p items) (d'.setting p)
  level : ∀ f, Risen f (d.level f) (times f items) (d'.level f)

namespace Draft

variable {d d' : Draft} {items items' : List Item}

/-- Without items a draft stays as it is. -/
theorem takes_nil : d.Takes [] d' ↔ d' = d := by
  constructor
  · intro h
    refine ext_places h.named (funext h.setting) (funext fun f => ?_)
    have hlevel := (h.level f).1
    have hle := d.level_le f
    change d'.level f = min 255 (d.level f) at hlevel
    omega
  · rintro rfl
    refine ⟨by simp, rfl, fun _ => rfl, fun f => ⟨?_, fun hne => ?_⟩⟩
    · have hle := d'.level_le f
      change d'.level f = min 255 (d'.level f)
      omega
    · change d'.level f ≤ 1
      have hbool (b : Bool) : b.toNat ≤ 1 := b.toNat_le
      cases f <;> first | exact hbool _ | exact Nat.zero_le _ | exact absurd rfl hne

/-- A draft takes a name and other items one after the other. -/
theorem takes_name_cons {value : Bytes} {more : List Item} : d.Takes (.name value :: more) d' ↔
    ∃ middle, d.take (.name value) = .ok middle ∧ middle.Takes more d' := by
  constructor
  · intro h
    obtain ⟨hnone, hname, hfilled⟩ := filled_cons.1 h.named
    obtain ⟨middle, hmiddle⟩ := exists_name d hname
    obtain ⟨-, hnamed, hsetting, hlevel⟩ := places_of_name hmiddle
    refine ⟨middle, by simp [take, hnone, hmiddle], (List.forall_mem_cons.1 h.isSound).2,
      ?_, ?_, ?_⟩
    · rw [hnamed]
      exact hfilled
    · rw [hsetting]
      exact h.setting
    · rw [hlevel]
      exact h.level
  · rintro ⟨middle, htake, h⟩
    have hnone : d.named = none := by
      cases hd : d.named with
      | none => rfl
      | some _ => simp [take, hd] at htake
    have hmiddle : d.name value = .ok middle := by simpa [take, hnone] using htake
    obtain ⟨hname, hnamed, hsetting, hlevel⟩ := places_of_name hmiddle
    refine ⟨List.forall_mem_cons.2 ⟨rfl, h.isSound⟩, ?_, ?_, ?_⟩
    · exact filled_cons.2 ⟨hnone, hname, hnamed ▸ h.named⟩
    · exact hsetting ▸ h.setting
    · exact hlevel ▸ h.level

/-- A draft takes an option with its value and other items one after the other. -/
theorem takes_give_cons {p : Parameter} {value : Bytes} {more : List Item} :
    d.Takes (.give p value :: more) d' ↔
      ∃ middle, d.take (.give p value) = .ok middle ∧ middle.Takes more d' := by
  have hself : values p (.give p value :: more) = value :: values p more := by
    simp [values, Item.value?]
  -- The other options are passed on as they are.
  have hother {q : Parameter} (hq : q ≠ p) : values q (.give p value :: more) = values q more := by
    simp [values, Item.value?, hq.symm]
  constructor
  · intro h
    obtain ⟨hnone, hvalue, hfilled⟩ := filled_cons.1 (hself ▸ h.setting p)
    obtain ⟨middle, hmiddle⟩ := exists_give d hvalue
    obtain ⟨-, hnamed, hsetting, hlevel⟩ := places_of_give hmiddle
    have htake : d.take (.give p value) = .ok middle := by
      simp [take, giveOnce, has_eq_isSome, hnone, hmiddle]
    refine ⟨middle, htake, (List.forall_mem_cons.1 h.isSound).2, ?_, fun q => ?_, ?_⟩
    · rw [hnamed]
      exact h.named
    · rw [hsetting]
      by_cases hq : q = p
      · subst hq
        rw [update_self]
        exact hfilled
      · rw [update_of_ne hq]
        exact hother hq ▸ h.setting q
    · rw [hlevel]
      exact h.level
  · rintro ⟨middle, htake, h⟩
    have hnone : d.setting p = none := by
      cases hd : d.setting p with
      | none => rfl
      | some _ => simp [take, giveOnce, has_eq_isSome, hd] at htake
    have hmiddle : d.give p value = .ok middle := by
      simpa [take, giveOnce, has_eq_isSome, hnone] using htake
    obtain ⟨hvalue, hnamed, hsetting, hlevel⟩ := places_of_give hmiddle
    refine ⟨List.forall_mem_cons.2 ⟨rfl, h.isSound⟩, ?_, fun q => ?_, ?_⟩
    · exact hnamed ▸ h.named
    · have hfilled := h.setting q
      rw [hsetting] at hfilled
      by_cases hq : q = p
      · subst hq
        rw [update_self] at hfilled
        rw [hself]
        exact filled_cons.2 ⟨hnone, hvalue, hfilled⟩
      · rw [update_of_ne hq] at hfilled
        rw [hother hq]
        exact hfilled
    · exact hlevel ▸ h.level

/-- A draft takes an option without a value and other items one after the other. -/
theorem takes_raise_cons {f : Flag} {more : List Item} : d.Takes (.raise f :: more) d' ↔
    ∃ middle, d.take (.raise f) = .ok middle ∧ middle.Takes more d' := by
  have hself : times f (.raise f :: more) = times f more + 1 := List.count_cons_self
  have hother {g : Flag} (hg : g ≠ f) : times g (.raise f :: more) = times g more :=
    List.count_cons_of_ne (by simpa using hg.symm)
  constructor
  · intro h
    obtain ⟨hzero, hrisen⟩ := risen_succ.1 (hself ▸ h.level f)
    obtain ⟨hi, hmore⟩ := List.forall_mem_cons.1 h.isSound
    have hneither : f ≠ .help ∧ f ≠ .version := by simpa [Item.isSound] using hi
    have hadmits : d.Admits f := ⟨hneither.1, hneither.2, hzero⟩
    obtain ⟨middle, hmiddle⟩ := exists_raise hadmits
    obtain ⟨-, hnamed, hsetting, hlevel⟩ := places_of_raise hmiddle
    refine ⟨middle, hmiddle, hmore, ?_, ?_, fun g => ?_⟩
    · rw [hnamed]
      exact h.named
    · rw [hsetting]
      exact h.setting
    · rw [hlevel]
      by_cases hg : g = f
      · subst hg
        rw [update_self]
        exact hrisen
      · rw [update_of_ne hg]
        exact hother hg ▸ h.level g
  · rintro ⟨middle, hmiddle, h⟩
    obtain ⟨⟨hhelp, hversion, hzero⟩, hnamed, hsetting, hlevel⟩ := places_of_raise hmiddle
    have hi : (Item.raise f).isSound = true := by simp [Item.isSound, hhelp, hversion]
    refine ⟨List.forall_mem_cons.2 ⟨hi, h.isSound⟩, ?_, ?_, fun g => ?_⟩
    · exact hnamed ▸ h.named
    · exact hsetting ▸ h.setting
    · have hrisen := h.level g
      rw [hlevel] at hrisen
      by_cases hg : g = f
      · subst hg
        rw [update_self] at hrisen
        rw [hself]
        exact risen_succ.2 ⟨hzero, hrisen⟩
      · rw [update_of_ne hg] at hrisen
        rw [hother hg]
        exact hrisen

/-- A draft takes an item and others one after the other. -/
theorem takes_cons {i : Item} {more : List Item} : d.Takes (i :: more) d' ↔
    ∃ middle, d.take i = .ok middle ∧ middle.Takes more d' := by
  cases i with
  | name value => exact takes_name_cons
  | give p value => exact takes_give_cons
  | raise f => exact takes_raise_cons
  | lack p | unwanted f | unknown =>
    constructor
    · intro h
      cases (List.forall_mem_cons.1 h.isSound).1
    · rintro ⟨middle, htake, -⟩
      cases htake

/-- Items can be settled in order exactly if all places allow it. -/
theorem takeAll_eq_ok_iff : d.takeAll items = .ok d' ↔ d.Takes items d' := by
  induction items generalizing d with
  | nil => simp [takeAll, takes_nil, eq_comm]
  | cons i more ih => simp only [takeAll_cons_eq_ok, takes_cons, ih]

/-- The empty draft has no value in any place. -/
theorem setting_empty (p : Parameter) : ({} : Draft).setting p = none := by
  cases p <;> rfl

/-- The empty draft has raised nothing. -/
theorem level_empty (f : Flag) : ({} : Draft).level f = 0 := by
  cases f <;> rfl

/-- Items come to something if each of them can, and none comes again that may come only once. -/
theorem exists_takes (hsound : ∀ i ∈ items, i.isSound = true) (hnames : (names items).length ≤ 1)
    (hname : ∀ value ∈ names items, IsName value) (hvalues : ∀ p, (values p items).length ≤ 1)
    (hvalue : ∀ p, ∀ value ∈ values p items, IsValueOf value p)
    (htimes : ∀ f, f ≠ .verbose → times f items ≤ 1) : ∃ d, Takes {} items d := by
  have hnone {f : Flag} (hf : Item.isSound (.raise f) = false) : times f items = 0 := by
    refine List.count_eq_zero.2 fun hmem => ?_
    rw [hsound _ hmem] at hf
    cases hf
  have hplaces : ∃ d : Draft, d.named = (names items).head? ∧
      d.setting = (fun p => (values p items).head?) ∧ d.level = fun f => min 255 (times f items) := by
    apply exists_places
    · intro value h
      exact (hname value (List.mem_of_mem_head? h)).2
    · intro p value h
      exact hvalue p value (List.mem_of_mem_head? h)
    · exact Nat.min_le_left ..
    · intro f hf
      exact Nat.le_trans (Nat.min_le_right ..) (htimes f hf)
    · rw [hnone rfl, Nat.min_zero]
    · rw [hnone rfl, Nat.min_zero]
  obtain ⟨d, hnamed, hsetting, hlevel⟩ := hplaces
  refine ⟨d, hsound, filled_none.2 ⟨hnamed, hnames, hname⟩, fun p => ?_, fun f => ?_⟩
  · rw [setting_empty]
    exact filled_none.2 ⟨congrFun hsetting p, hvalues p, hvalue p⟩
  · rw [level_empty, Risen, hlevel, Nat.zero_add]
    exact ⟨rfl, htimes f⟩

/-- What comes of items does not depend on their order. -/
theorem Takes.perm (h : d.Takes items d') (hperm : items.Perm items') : d.Takes items' d' where
  isSound i hi := h.isSound i (hperm.mem_iff.2 hi)
  named := h.named.perm (hperm.filterMap _)
  setting p := (h.setting p).perm (hperm.filterMap _)
  level f := by
    have hcount : times f items' = times f items := (hperm.count_eq _).symm
    rw [hcount]
    exact h.level f

end Draft

end Shakedown.CommandLine

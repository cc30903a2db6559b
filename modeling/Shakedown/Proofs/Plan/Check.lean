import Shakedown.Plan.Module

/-!
# What an accepted module list promises

The check of a module list goes through the entries with the object paths that are taken already.
`check_eq_ok` says what it accepts for any paths taken before: every entry can be compiled, and the
enabled ones come to object paths of which no two have the same key and none has that of a path
taken before. `checkAll_eq_ok` is the case of a whole list.
-/

set_option autoImplicit false

namespace Shakedown

namespace ModuleEntry

/-- Whether an entry has a source that can be compiled. -/
def Usable (m : ModuleEntry) : Prop :=
  isBlank m.source = false ∧ m.objectName?.isSome = true

/-- The object files of the entries that are enabled, in list order. -/
def objects (modules : List ModuleEntry) : List String :=
  (modules.filter (·.enabled)).filterMap objectName?

/-- What the object paths of the enabled entries amount to. -/
def objectKeys (modules : List ModuleEntry) : List (List (PathLetter.Component Char)) :=
  (objects modules).map objectKey

variable {m : ModuleEntry} {more modules : List ModuleEntry} {claimed : Claimed} {index : Nat}

/-- An entry that is not enabled has no object file of its own. -/
theorem objectKeys_cons_of_disabled (h : m.enabled = false) :
    objectKeys (m :: more) = objectKeys more := by
  unfold objectKeys objects
  rw [List.filter_cons_of_neg (by simp [h])]

/-- An enabled entry puts its object file in front of the others. -/
theorem objectKeys_cons_of_enabled (h : m.enabled = true) {object : String}
    (hobject : m.objectName? = some object) :
    objectKeys (m :: more) = objectKey object :: objectKeys more := by
  unfold objectKeys objects
  rw [List.filter_cons_of_pos h, List.filterMap_cons_some hobject, List.map_cons]

/-- A path is free after one more is taken if it is another one and was free before. -/
theorem lookup_cons_eq_none {key taken : List (PathLetter.Component Char)} {source : String} :
    List.lookup key ((taken, source) :: claimed) = none ↔
      key ≠ taken ∧ claimed.lookup key = none := by
  by_cases h : key = taken
  · simp [h]
  · have hbeq : (key == taken) = false := by simpa using h
    simp [List.lookup_cons, hbeq, h]

/-- What the check accepts at one entry: it can be compiled, and its object path is free unless the
entry is not enabled. -/
theorem check_cons_eq_ok :
    check claimed index (m :: more) = .ok () ↔
      m.Usable ∧
        (m.enabled = false ∧ check claimed (index + 1) more = .ok () ∨
          ∃ object, m.enabled = true ∧ m.objectName? = some object ∧
            claimed.lookup (objectKey object) = none ∧
              check ((objectKey object, m.source) :: claimed) (index + 1) more = .ok ()) := by
  rw [check]
  unfold objectName Usable
  cases hblank : isBlank m.source with
  | true => simp
  | false =>
    cases hobject : m.objectName? with
    | none => simp
    | some object =>
      cases henabled : m.enabled with
      | false => simp
      | true =>
        cases hfree : claimed.lookup (objectKey object) with
        | some first => simp [hfree, -List.lookup_eq_none_iff]
        | none => simp [hfree, -List.lookup_eq_none_iff]

/-- What the check accepts when some object paths are taken. -/
theorem check_eq_ok :
    check claimed index modules = .ok () ↔
      (∀ m ∈ modules, m.Usable) ∧ (objectKeys modules).Nodup ∧
        ∀ key ∈ objectKeys modules, claimed.lookup key = none := by
  induction modules generalizing claimed index with
  | nil => simp [check, objectKeys, objects]
  | cons m more ih =>
    rw [check_cons_eq_ok, List.forall_mem_cons]
    by_cases henabled : m.enabled = true
    · constructor
      · rintro ⟨husable, ⟨hdisabled, -⟩ | ⟨object, -, hobject, hfree, hcheck⟩⟩
        · rw [henabled] at hdisabled
          cases hdisabled
        obtain ⟨hmore, hnodup, hlookup⟩ := ih.1 hcheck
        rw [objectKeys_cons_of_enabled henabled hobject, List.nodup_cons, List.forall_mem_cons]
        -- A later entry with the same object path would have met this one.
        have hnew : objectKey object ∉ objectKeys more := fun hm =>
          (lookup_cons_eq_none.1 (hlookup _ hm)).1 rfl
        exact ⟨⟨husable, hmore⟩, ⟨hnew, hnodup⟩, hfree, fun key hkey =>
          (lookup_cons_eq_none.1 (hlookup key hkey)).2⟩
      · rintro ⟨⟨husable, hmore⟩, hnodup, hlookup⟩
        obtain ⟨object, hobject⟩ := Option.isSome_iff_exists.1 husable.2
        rw [objectKeys_cons_of_enabled henabled hobject] at hnodup hlookup
        obtain ⟨hnew, hnodup⟩ := List.nodup_cons.1 hnodup
        obtain ⟨hfree, hlookup⟩ := List.forall_mem_cons.1 hlookup
        refine ⟨husable, .inr ⟨object, henabled, hobject, hfree, ih.2 ⟨hmore, hnodup, ?_⟩⟩⟩
        intro key hkey
        exact lookup_cons_eq_none.2 ⟨fun h => hnew (h ▸ hkey), hlookup key hkey⟩
    · have hdisabled : m.enabled = false := by simpa using henabled
      simp only [objectKeys_cons_of_disabled hdisabled, ih, hdisabled, true_and,
        Bool.false_eq_true, false_and, exists_const, or_false, and_assoc]

/-- What an accepted module list promises: every entry can be compiled, and no two enabled ones come
to object paths with the same key. -/
theorem checkAll_eq_ok :
    checkAll modules = .ok () ↔ (∀ m ∈ modules, m.Usable) ∧ (objectKeys modules).Nodup := by
  unfold checkAll
  rw [check_eq_ok]
  simp

end ModuleEntry

end Shakedown

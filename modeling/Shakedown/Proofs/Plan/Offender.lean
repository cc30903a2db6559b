import Mathlib.Data.List.Forall2
import Shakedown.Proofs.Path.Segments
import Shakedown.Proofs.Plan.Check
import Shakedown.Proofs.Stage.Isolation

/-!
# The first entry that breaks a rule

The check of a module list goes through the entries once and stops at the first that breaks a rule
given those before it. What it knows of the entries before is the table of their object paths:
`claims` says what is in the table, `check_of_blames` and `check_of_not_offends` what one entry
does, and `check_eq_error` what the whole run does, by induction over the entries still to be
checked.

Main statement: `checkAll_blames_first`, which lists are accepted, which error the others get, and
that neither the order of the entries nor fewer of them can get an accepted list refused.
-/

set_option autoImplicit false

namespace Shakedown

open PathLetter (significant components_filter_eq_iff)

namespace ModuleEntry

variable {m m' first other : ModuleEntry} {modules earlier later : List ModuleEntry}

/-! ## Rules -/

/-- Whether two object paths are one but for `.` and repeated slashes. -/
def SameObject (object object' : String) : Prop :=
  PathLetter.isAbsolute object.toList = PathLetter.isAbsolute object'.toList ∧
    significant object.toList = significant object'.toList

/-- Two objects have one key exactly if their paths are one but for `.` and repeated slashes. -/
theorem objectKey_eq_iff {object object' : String} :
    objectKey object = objectKey object' ↔ SameObject object object' :=
  components_filter_eq_iff

/-- Whether two entries are enabled and write one object. -/
def Clash (m m' : ModuleEntry) : Prop :=
  m.enabled = true ∧ m'.enabled = true ∧ ∃ object object',
    m.objectName? = some object ∧ m'.objectName? = some object' ∧ SameObject object object'

/-- Whether an entry breaks a rule, given those before it. -/
def Offends (earlier : List ModuleEntry) (m : ModuleEntry) : Prop :=
  isBlank m.source = true ∨ m.lacksStem = true ∨ ∃ first ∈ earlier, Clash first m

/-- Whether no entry breaks a rule, given those before it. -/
def Passes (modules : List ModuleEntry) : Prop :=
  ∀ before m after, modules = before ++ m :: after → ¬Offends before m

/-- What an entry is refused for, given those before it. -/
inductive Blames (earlier : List ModuleEntry) (m : ModuleEntry) : ConfigError → Prop where
  /-- The source is blank. -/
  | blank (h : isBlank m.source = true) : Blames earlier m (.emptySource earlier.length)
  /-- The source has no stem. -/
  | stemless (hblank : isBlank m.source = false) (h : m.lacksStem = true) :
      Blames earlier m (.noObjectName m.source)
  /-- An earlier entry, and no other, writes the same object. -/
  | clash (hblank : isBlank m.source = false) {object : String}
      (hobject : m.objectName? = some object) {before after : List ModuleEntry}
      {first : ModuleEntry} (hearlier : earlier = before ++ first :: after) (h : Clash first m)
      (hunique : ∀ other ∈ before ++ after, ¬Clash other m) :
      Blames earlier m (.duplicateObject first.source m.source object)

/-- Entries clash with one another. -/
theorem Clash.symm (h : Clash m m') : Clash m' m := by
  obtain ⟨hm, hm', object, object', hobject, hobject', hstart, hsegments⟩ := h
  exact ⟨hm', hm, object', object, hobject', hobject, hstart.symm, hsegments.symm⟩

/-- An entry that clashes with two others makes these clash. -/
theorem Clash.trans (h : Clash first m) (h' : Clash m other) : Clash first other := by
  obtain ⟨hfirst, -, object, object', hobject, hobject', hstart, hsegments⟩ := h
  obtain ⟨-, hother, object'', object''', hobject'', hobject''', hstart', hsegments'⟩ := h'
  rw [hobject'] at hobject''
  cases hobject''
  exact ⟨hfirst, hother, object, object''', hobject, hobject''', hstart.trans hstart',
    hsegments.trans hsegments'⟩

/-- An entry is refused only if it breaks a rule. -/
theorem Blames.offends {e : ConfigError} (h : Blames earlier m e) : Offends earlier m := by
  cases h with
  | blank h => exact .inl h
  | stemless _ h => exact .inr (.inl h)
  | clash _ _ hearlier h _ =>
    refine .inr (.inr ⟨_, ?_, h⟩)
    rw [hearlier]
    simp

/-- An entry that breaks no rule may be added to others that break none. -/
theorem Passes.concat (h : Passes earlier) (hm : ¬Offends earlier m) : Passes (earlier ++ [m]) := by
  intro before m' after hsplit
  rcases List.eq_nil_or_concat after with rfl | ⟨after, last, rfl⟩
  · obtain ⟨rfl, hlast⟩ := List.append_inj' hsplit rfl
    cases hlast
    exact hm
  · rw [List.concat_eq_append, ← List.cons_append, ← List.append_assoc] at hsplit
    obtain ⟨rfl, -⟩ := List.append_inj' hsplit rfl
    exact h before m' after rfl

/-- Of entries that pass, one at most writes the object of a further entry. -/
theorem Passes.unique {before after : List ModuleEntry} (h : Passes (before ++ first :: after))
    (hfirst : Clash first m) : ∀ other ∈ before ++ after, ¬Clash other m := by
  intro other hother hclash
  rcases List.mem_append.1 hother with hbefore | hafter
  · exact h before first after rfl (.inr (.inr ⟨other, hbefore, hclash.trans hfirst.symm⟩))
  · obtain ⟨front, back, rfl⟩ := List.append_of_mem hafter
    refine h (before ++ first :: front) other back (by simp) ?_
    exact .inr (.inr ⟨first, by simp, hfirst.trans hclash.symm⟩)

/-! ## The table of object paths -/

/-- The object paths that entries take, latest first, each with its source. -/
def claims (earlier : List ModuleEntry) : Claimed :=
  ((earlier.filter (·.enabled)).filterMap fun m =>
    m.objectName?.map fun object => (objectKey object, m.source)).reverse

/-- An entry that is switched off takes no object. -/
theorem claims_concat_of_disabled (h : m.enabled = false) :
    claims (earlier ++ [m]) = claims earlier := by
  simp [claims, List.filter_append, h]

/-- An enabled entry takes its object, with its source. -/
theorem claims_concat_of_enabled (h : m.enabled = true) {object : String}
    (hobject : m.objectName? = some object) :
    claims (earlier ++ [m]) = (objectKey object, m.source) :: claims earlier := by
  simp [claims, List.filter_append, h, hobject]

/-- The objects taken are those of the enabled entries, each with the source of its entry. -/
theorem mem_claims {key : List (PathLetter.Component Char)} {source : String} :
    (key, source) ∈ claims earlier ↔ ∃ m ∈ earlier, m.enabled = true ∧ m.source = source ∧
      ∃ object, m.objectName? = some object ∧ objectKey object = key := by
  simp only [claims, List.mem_reverse, List.mem_filterMap, List.mem_filter, Option.map_eq_some_iff,
    Prod.mk.injEq]
  constructor
  · rintro ⟨m, ⟨hm, henabled⟩, object, hobject, hkey, hsource⟩
    exact ⟨m, hm, henabled, hsource, object, hobject, hkey⟩
  · rintro ⟨m, hm, henabled, hsource, object, hobject, hkey⟩
    exact ⟨m, ⟨hm, henabled⟩, object, hobject, hkey, hsource⟩

/-- What is found in the table for an enabled entry: an earlier one that writes the same object. -/
theorem exists_clash_of_lookup (henabled : m.enabled = true) {object source : String}
    (hobject : m.objectName? = some object)
    (h : (claims earlier).lookup (objectKey object) = some source) :
    ∃ first ∈ earlier, Clash first m ∧ first.source = source := by
  obtain ⟨front, back, hclaims, -⟩ := List.lookup_eq_some_iff.1 h
  have hmem : (objectKey object, source) ∈ claims earlier := by
    rw [hclaims]
    simp
  obtain ⟨first, hfirst, hfirst', hsource, object', hobject', hkey⟩ := mem_claims.1 hmem
  exact ⟨first, hfirst, ⟨hfirst', henabled, object', object, hobject', hobject,
    objectKey_eq_iff.1 hkey⟩, hsource⟩

/-- An entry clashes with none before it if its object is not taken. -/
theorem not_clash_of_lookup {object : String} (hobject : m.objectName? = some object)
    (h : (claims earlier).lookup (objectKey object) = none) :
    ∀ first ∈ earlier, ¬Clash first m := by
  rintro first hfirst ⟨henabled, -, object', object'', hobject', hobject'', hsame⟩
  rw [hobject] at hobject''
  cases hobject''
  have hmem : (objectKey object, first.source) ∈ claims earlier :=
    mem_claims.2 ⟨first, hfirst, henabled, rfl, object', hobject', objectKey_eq_iff.2 hsame⟩
  have hkey := List.lookup_eq_none_iff.1 h _ hmem
  simp at hkey

/-! ## One entry -/

/-- An entry with an object name is not refused for lacking one. -/
theorem objectName_eq_ok {object : String} (h : m.objectName? = some object) :
    m.objectName = .ok object := by
  unfold objectName
  rw [h]

/-- An entry that breaks a rule ends the check with what it is refused for. -/
theorem check_of_blames {e : ConfigError} (h : Blames earlier m e) (more : List ModuleEntry) :
    check (claims earlier) earlier.length (m :: more) = .error e := by
  rw [check]
  cases h with
  | blank h => rw [if_pos h]
  | stemless hblank h =>
    have hname : m.objectName = .error (.noObjectName m.source) := by
      unfold objectName
      rw [objectName?_eq_none.2 h]
    rw [if_neg (by simp [hblank]), hname]
  | clash hblank hobject hearlier h hunique =>
    rename_i object before after first
    rw [if_neg (by simp [hblank]), objectName_eq_ok hobject]
    simp only [if_pos h.2.1]
    cases hlookup : (claims earlier).lookup (objectKey object) with
    | none =>
      have hmem : first ∈ earlier := by rw [hearlier]; simp
      exact absurd h (not_clash_of_lookup hobject hlookup first hmem)
    | some source =>
      obtain ⟨found, hfound, hclash, rfl⟩ := exists_clash_of_lookup h.2.1 hobject hlookup
      -- The entry in the table is the one that is blamed, since there is no other.
      obtain rfl : found = first := by
        rw [hearlier] at hfound
        rcases List.mem_append.1 hfound with hmem | hmem
        · exact absurd hclash (hunique found (List.mem_append_left _ hmem))
        · rcases List.mem_cons.1 hmem with heq | hmem
          · exact heq
          · exact absurd hclash (hunique found (List.mem_append_right _ hmem))
      rfl

/-- An entry that breaks no rule is passed over, and the table grows by its object path. -/
theorem check_of_not_offends (h : ¬Offends earlier m) (more : List ModuleEntry) :
    check (claims earlier) earlier.length (m :: more) =
      check (claims (earlier ++ [m])) (earlier ++ [m]).length more := by
  simp only [Offends, not_or] at h
  obtain ⟨hblank, hstem, hclash⟩ := h
  obtain ⟨object, hobject⟩ : ∃ object, m.objectName? = some object := by
    cases hobject : m.objectName? with
    | none => exact absurd (objectName?_eq_none.1 hobject) hstem
    | some object => exact ⟨object, rfl⟩
  rw [check, if_neg hblank, objectName_eq_ok hobject, List.length_append]
  simp only
  cases henabled : m.enabled with
  | false =>
    rw [claims_concat_of_disabled henabled]
    simp
  | true =>
    rw [claims_concat_of_enabled henabled hobject]
    cases hlookup : (claims earlier).lookup (objectKey object) with
    | none => simp
    | some source =>
      obtain ⟨first, hfirst, hfirst', -⟩ := exists_clash_of_lookup henabled hobject hlookup
      exact absurd ⟨first, hfirst, hfirst'⟩ hclash

/-- Behind entries that pass, there is something to blame an entry for if it breaks a rule. -/
theorem Offends.exists_blames (hpasses : Passes earlier) (h : Offends earlier m) :
    ∃ e, Blames earlier m e := by
  cases hblank : isBlank m.source with
  | true => exact ⟨_, .blank hblank⟩
  | false =>
    cases hstem : m.lacksStem with
    | true => exact ⟨_, .stemless hblank hstem⟩
    | false =>
      obtain ⟨first, hfirst, hclash⟩ : ∃ first ∈ earlier, Clash first m := by
        simpa [Offends, hblank, hstem] using h
      obtain ⟨before, after, rfl⟩ := List.append_of_mem hfirst
      have ⟨_, _, _, object, _, hobject, _⟩ := hclash
      exact ⟨_, .clash hblank hobject rfl hclash (hpasses.unique hclash)⟩

/-! ## A whole list -/

/-- The check ends with the error of the first entry that breaks a rule. -/
theorem check_eq_error (hpasses : Passes earlier) (more : List ModuleEntry) (e : ConfigError) :
    check (claims earlier) earlier.length more = .error e ↔
      ∃ between m later, more = between ++ m :: later ∧ Passes (earlier ++ between) ∧
        Blames (earlier ++ between) m e := by
  induction more generalizing earlier with
  | nil => simp [check]
  | cons m more ih =>
    by_cases hm : Offends earlier m
    · obtain ⟨e', he'⟩ := hm.exists_blames hpasses
      rw [check_of_blames he' more]
      constructor
      · intro h
        cases h
        exact ⟨[], m, more, rfl, by simpa using hpasses, by simpa using he'⟩
      · rintro ⟨between, m', later, hmore, hbetween, hblames⟩
        cases between with
        | nil =>
          cases hmore
          rw [List.append_nil] at hblames
          rw [← check_of_blames hblames more, check_of_blames he' more]
        | cons m'' between =>
          cases hmore
          exact absurd hm (hbetween earlier m between rfl)
    · have hpasses' := hpasses.concat hm
      rw [check_of_not_offends hm more, ih hpasses']
      constructor
      · rintro ⟨between, m', later, rfl, hbetween, hblames⟩
        rw [List.append_assoc] at hbetween hblames
        exact ⟨m :: between, m', later, rfl, hbetween, hblames⟩
      · rintro ⟨between, m', later, hmore, hbetween, hblames⟩
        cases between with
        | nil =>
          cases hmore
          rw [List.append_nil] at hblames
          exact absurd hblames.offends hm
        | cons m'' between =>
          cases hmore
          refine ⟨between, m', later, rfl, ?_, ?_⟩
          · simpa using hbetween
          · simpa using hblames

/-- An entry can be used if its source is not blank and has a stem. -/
theorem usable_iff :
    m.Usable ↔ (∃ c ∈ m.source.toList, isWhiteSpace c = false) ∧ m.lacksStem = false := by
  unfold Usable
  rw [isBlank_eq_false, Option.isSome_iff_ne_none, ne_eq, objectName?_eq_none, Bool.not_eq_true]

/-- No object is taken twice exactly if no two entries clash. -/
theorem nodup_objectKeys_iff :
    (objectKeys modules).Nodup ↔ modules.Pairwise fun m m' => ¬Clash m m' := by
  unfold objectKeys objects List.Nodup
  rw [List.pairwise_map, List.pairwise_filterMap, List.pairwise_filter]
  constructor
  · intro h
    refine h.imp ?_
    rintro m m' hne ⟨henabled, henabled', object, object', hobject, hobject', hsame⟩
    exact hne henabled henabled' object hobject object' hobject' (objectKey_eq_iff.2 hsame)
  · intro h
    refine h.imp ?_
    intro m m' hclash henabled henabled' object hobject object' hobject' hkey
    exact hclash ⟨henabled, henabled', object, object', hobject, hobject',
      objectKey_eq_iff.1 hkey⟩

/-- What an accepted list looks like. -/
theorem checkAll_eq_ok_iff :
    checkAll modules = .ok () ↔
      (∀ m ∈ modules, (∃ c ∈ m.source.toList, isWhiteSpace c = false) ∧ m.lacksStem = false) ∧
        modules.Pairwise fun m m' => ¬Clash m m' := by
  rw [checkAll_eq_ok, nodup_objectKeys_iff]
  simp only [usable_iff]

/-! ## Lists that are cut down -/

/-- Whether an entry is another one, or that one switched off. -/
def AtMost (m' m : ModuleEntry) : Prop :=
  m' = m ∨ m' = { m with enabled := false }

/-- An entry that is another one or switched off has the same source. -/
theorem AtMost.source_eq (h : AtMost m' m) : m'.source = m.source := by
  rcases h with rfl | rfl <;> rfl

/-- An entry that is another one or switched off has the same object. -/
theorem AtMost.objectName?_eq (h : AtMost m' m) : m'.objectName? = m.objectName? := by
  rcases h with rfl | rfl <;> rfl

/-- An enabled entry is one that was enabled before. -/
theorem AtMost.enabled (h : AtMost m' m) (henabled : m'.enabled = true) : m.enabled = true := by
  rcases h with rfl | rfl
  · exact henabled
  · cases henabled

/-- An entry that is another one or switched off lacks a stem if the other does. -/
theorem AtMost.lacksStem_eq (h : AtMost m' m) : m'.lacksStem = m.lacksStem := by
  rcases h with rfl | rfl <;> rfl

/-- Entries that are at most two others clash only if these do. -/
theorem Clash.of_atMost {other' : ModuleEntry} (h : AtMost m' m) (hother : AtMost other' other)
    (hclash : Clash m' other') : Clash m other := by
  obtain ⟨henabled, henabled', object, object', hobject, hobject', hsame⟩ := hclash
  rw [h.objectName?_eq] at hobject
  rw [hother.objectName?_eq] at hobject'
  exact ⟨h.enabled henabled, hother.enabled henabled', object, object', hobject, hobject', hsame⟩

/-- A list cut down in this way has only entries that are at most one of the list. -/
theorem exists_atMost_of_mem {modules' : List ModuleEntry}
    (h : List.SublistForall₂ AtMost modules' modules) (hm : m' ∈ modules') :
    ∃ m ∈ modules, AtMost m' m := by
  induction h with
  | nil => cases hm
  | cons hatMost _ ih =>
    rcases List.mem_cons.1 hm with rfl | hm
    · exact ⟨_, List.mem_cons_self, hatMost⟩
    · obtain ⟨m, hmodules, hm'⟩ := ih hm
      exact ⟨m, List.mem_cons_of_mem _ hmodules, hm'⟩
  | cons_right _ ih =>
    obtain ⟨m, hmodules, hm'⟩ := ih hm
    exact ⟨m, List.mem_cons_of_mem _ hmodules, hm'⟩

/-- Entries of which some are left out or switched off do not clash if they did not before. -/
theorem pairwise_of_sublistForall₂ {modules' : List ModuleEntry}
    (h : List.SublistForall₂ AtMost modules' modules)
    (hmodules : modules.Pairwise fun m m' => ¬Clash m m') :
    modules'.Pairwise fun m m' => ¬Clash m m' := by
  induction h with
  | nil => exact List.Pairwise.nil
  | cons hatMost hmore ih =>
    obtain ⟨hfirst, hrest⟩ := List.pairwise_cons.1 hmodules
    refine List.pairwise_cons.2 ⟨?_, ih hrest⟩
    intro m' hm' hclash
    obtain ⟨m, hm, hatMost'⟩ := exists_atMost_of_mem hmore hm'
    exact hfirst m hm (hclash.of_atMost hatMost hatMost')
  | cons_right _ ih => exact ih hmodules.of_cons

/-! ## The whole check -/

/-- The check of a module list. It accepts a list if and only if every entry has a source that is
not blank and has a stem, and no two enabled entries write one object. What it refuses a list for is
what its first offender is refused for: the blank source and its place, else the source without a
stem, else the one entry before it that writes the same object. The order of the entries does not
matter for acceptance, and an accepted list stays one when entries are switched off or left out. -/
theorem checkAll_blames_first (modules : List ModuleEntry) :
    (checkAll modules = .ok () ↔
      (∀ m ∈ modules, (∃ c ∈ m.source.toList, isWhiteSpace c = false) ∧ m.lacksStem = false) ∧
        modules.Pairwise fun m m' => ¬Clash m m') ∧
    (∀ e, checkAll modules = .error e ↔ ∃ earlier m later,
      modules = earlier ++ m :: later ∧ Passes earlier ∧ Blames earlier m e) ∧
    (∀ modules', modules.Perm modules' →
      (checkAll modules = .ok () ↔ checkAll modules' = .ok ())) ∧
    ∀ modules', List.SublistForall₂ AtMost modules' modules → checkAll modules = .ok () →
      checkAll modules' = .ok () := by
  refine ⟨checkAll_eq_ok_iff, ?_, ?_, ?_⟩
  · intro e
    have hstart : Passes [] := by
      intro before m after h
      simp at h
    simpa [checkAll, claims] using check_eq_error hstart modules e
  · intro modules' hperm
    have hpairwise : (modules.Pairwise fun m m' => ¬Clash m m') ↔
        modules'.Pairwise fun m m' => ¬Clash m m' :=
      hperm.pairwise_iff fun hclash h => hclash h.symm
    rw [checkAll_eq_ok_iff, checkAll_eq_ok_iff, hpairwise]
    simp only [hperm.mem_iff]
  · intro modules' hkept hok
    obtain ⟨hsources, hpairwise⟩ := checkAll_eq_ok_iff.1 hok
    refine checkAll_eq_ok_iff.2 ⟨?_, pairwise_of_sublistForall₂ hkept hpairwise⟩
    intro m' hm'
    obtain ⟨m, hm, hatMost⟩ := exists_atMost_of_mem hkept hm'
    rw [hatMost.source_eq, hatMost.lacksStem_eq]
    exact hsources m hm

/-- An entry that is switched off takes no object path. -/
example :
    checkAll [{ source := "a.c" }, { source := "./a.c", enabled := false },
      { source := ".//a.c" }] = .error (.duplicateObject "a.c" ".//a.c" ".//a.o") := by
  decide

end ModuleEntry

end Shakedown

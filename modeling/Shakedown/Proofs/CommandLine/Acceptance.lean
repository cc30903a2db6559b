import Shakedown.Proofs.CommandLine.Mistake

/-!
# The command lines that are accepted

After the arguments the environment is asked for the options that they leave out, and what excludes
each other is refused. So a command line is accepted if it names one compiler, says nothing that may
not be said together, and the values that its options get can be such.

Main statement: `exists_parse_iff`.
-/

set_option autoImplicit false

namespace Shakedown.CommandLine

/-- What a command line must not say. -/
inductive Faulty (its : List Item) : Prop
  | names (h : (names its).length ≠ 1)
  | noName (value : Bytes) (hmem : value ∈ CommandLine.names its) (h : ¬IsName value)
  | unknown (h : .unknown ∈ its)
  | unwanted (f : Flag) (h : .unwanted f ∈ its)
  | lack (p : Parameter) (h : .lack p ∈ its)
  | repeatedValue (p : Parameter) (h : 2 ≤ (values p its).length)
  | repeatedFlag (f : Flag) (hf : f ≠ .verbose) (h : 2 ≤ times f its)
  | silentJson (hquiet : .raise .quiet ∈ its) (hjson : .raise .json ∈ its)

/-- What the environment gives for an option. -/
def standInValue (env : Environment) (p : Parameter) : Option Bytes :=
  p.standIn.bind fun name => env.get? (Utf8.bytes name)

/-- What a command line gives for an option, or else the environment. -/
def valueGiven (env : Environment) (its : List Item) (p : Parameter) : Option Bytes :=
  (values p its).head?.or (standInValue env p)

/-- The bytes of an option's value. -/
def setting (c : CommandLine) : Parameter → Option Bytes
  | .plan => c.plan.map Path.bytes
  | .projectDir => c.projectDir.map Path.bytes
  | .buildTool => c.buildTool.map Utf8.bytes
  | .referenceCompiler => c.referenceCompiler.map Utf8.bytes

/-! ## The environment and the end -/

namespace Draft

variable {d d' : Draft} {env : Environment}

/-- The environment decides on an option that has no value, and on nothing else. -/
theorem places_of_consult {p : Parameter} (h : d.consult env p = .ok d') :
    d'.named = d.named ∧ d'.level = d.level ∧
      d'.setting = Function.update d.setting p ((d.setting p).or (standInValue env p)) := by
  have hsame {given : Option Bytes} (hgiven : (d.setting p).or given = d.setting p)
      (h : d' = d) : d'.named = d.named ∧ d'.level = d.level ∧
        d'.setting = Function.update d.setting p ((d.setting p).or given) := by
    rw [h, hgiven, Function.update_eq_self]
    exact ⟨rfl, rfl, rfl⟩
  unfold consult at h
  unfold standInValue
  cases hname : p.standIn with
  | none =>
    rw [hname] at h
    exact hsame (Option.or_none) (Except.ok.inj h).symm
  | some name =>
    rw [hname] at h
    simp only [Option.bind_some]
    cases hget : env.get? (Utf8.bytes name) with
    | none =>
      simp only [hget] at h
      exact hsame (Option.or_none) (Except.ok.inj h).symm
    | some value =>
      simp only [hget, has_eq_isSome] at h
      cases hsetting : d.setting p with
      | some given =>
        simp only [hsetting, Option.isSome_some, if_true] at h
        rw [← hsetting]
        exact hsame (by simp [hsetting]) (Except.ok.inj h).symm
      | none =>
        simp only [hsetting, Option.isSome_none, Bool.false_eq_true, if_false] at h
        obtain ⟨-, hnamed, hplaces, hlevel⟩ := places_of_give h
        exact ⟨hnamed, hlevel, hplaces⟩

/-- The environment fills the places of the options that were not given, and no others. -/
theorem places_of_consultAll {ps : List Parameter} (h : d.consultAll env ps = .ok d') :
    d'.named = d.named ∧ d'.level = d.level ∧
      ∀ p, d'.setting p =
        if p ∈ ps then (d.setting p).or (standInValue env p) else d.setting p := by
  induction ps generalizing d with
  | nil =>
    cases h
    exact ⟨rfl, rfl, fun p => by simp⟩
  | cons q more ih =>
    rw [consultAll] at h
    cases hconsult : d.consult env q with
    | error e =>
      rw [hconsult] at h
      cases h
    | ok middle =>
      rw [hconsult] at h
      obtain ⟨hnamed, hlevel, hsetting⟩ := places_of_consult hconsult
      obtain ⟨hnamed', hlevel', hsetting'⟩ := ih h
      refine ⟨hnamed'.trans hnamed, hlevel'.trans hlevel, fun p => ?_⟩
      rw [hsetting' p, hsetting]
      by_cases hp : p = q
      · subst hp
        simp [Option.or_assoc]
      · rw [Function.update_of_ne hp]
        simp [hp]

/-- The environment is asked for a value that can be one. -/
theorem isValueOf_of_consult {p : Parameter} (h : d.consult env p = .ok d')
    (hnone : d.setting p = none) {value : Bytes} (hvalue : standInValue env p = some value) :
    IsValueOf value p := by
  obtain ⟨name, hname, hget⟩ := Option.bind_eq_some_iff.1 hvalue
  unfold consult at h
  simp only [hname, hget, has_eq_isSome, hnone, Option.isSome_none, Bool.false_eq_true,
    if_false] at h
  exact (places_of_give h).1

/-- What the environment fills in is a value of its option. -/
theorem isValueOf_of_consultAll {ps : List Parameter} (h : d.consultAll env ps = .ok d')
    {p : Parameter} (hp : p ∈ ps) (hnone : d.setting p = none) {value : Bytes}
    (hvalue : standInValue env p = some value) : IsValueOf value p := by
  induction ps generalizing d with
  | nil => cases hp
  | cons q more ih =>
    rw [consultAll] at h
    cases hconsult : d.consult env q with
    | error e =>
      rw [hconsult] at h
      cases h
    | ok middle =>
      rw [hconsult] at h
      by_cases heq : p = q
      · subst heq
        exact isValueOf_of_consult hconsult hnone hvalue
      · obtain ⟨-, -, hsetting⟩ := places_of_consult hconsult
        have hmiddle : middle.setting p = none := by
          rw [hsetting, Function.update_of_ne heq, hnone]
        exact ih h (List.mem_of_ne_of_mem heq hp) hmiddle

/-- The environment is consulted about an option without error if what it gives is a value of
that. -/
theorem exists_consult {p : Parameter}
    (h : ∀ value, (d.setting p).or (standInValue env p) = some value → IsValueOf value p) :
    ∃ d', d.consult env p = .ok d' := by
  unfold consult
  unfold standInValue at h
  cases hname : p.standIn with
  | none => exact ⟨d, rfl⟩
  | some name =>
    simp only [hname, Option.bind_some] at h
    cases hget : env.get? (Utf8.bytes name) with
    | none => exact ⟨d, by simp only [hget]⟩
    | some value =>
      simp only [hget, has_eq_isSome]
      cases hsetting : d.setting p with
      | some given => exact ⟨d, by simp⟩
      | none =>
        obtain ⟨d', hd'⟩ := exists_give d (h value (by rw [hsetting, hget]; rfl))
        exact ⟨d', by simp [hd']⟩

/-- The environment is consulted without error if all that it gives are values. -/
theorem exists_consultAll {ps : List Parameter}
    (h : ∀ p value, (d.setting p).or (standInValue env p) = some value → IsValueOf value p) :
    ∃ d', d.consultAll env ps = .ok d' := by
  induction ps generalizing d with
  | nil => exact ⟨d, rfl⟩
  | cons q more ih =>
    obtain ⟨middle, hmiddle⟩ := exists_consult (h q)
    obtain ⟨-, -, hsetting⟩ := places_of_consult hmiddle
    have hsame (p : Parameter) : (middle.setting p).or (standInValue env p) =
        (d.setting p).or (standInValue env p) := by
      by_cases hp : p = q
      · subst hp
        rw [hsetting, Function.update_self, Option.or_assoc, Option.or_self]
      · rw [hsetting, Function.update_of_ne hp]
    obtain ⟨d', hd'⟩ := ih fun p value hvalue => h p value (hsame p ▸ hvalue)
    exact ⟨d', by rw [consultAll, hmiddle]; exact hd'⟩

/-- A draft with a name can be finished unless it is both quiet and for documents. -/
theorem exists_finish {name : Bytes} (hnamed : d.named = some name)
    (hboth : ¬(d.level .quiet = 1 ∧ d.level .json = 1)) : ∃ c, d.finish = .ok c := by
  obtain ⟨compiler, hcompiler, -⟩ := Option.map_eq_some_iff.1 hnamed
  unfold finish
  rw [if_neg (by simpa [level] using hboth), hcompiler]
  exact ⟨_, rfl⟩

/-- A finished command line has what its draft has. -/
theorem places_of_finish {c : CommandLine} (h : d.finish = .ok c) :
    d.named = some (Utf8.bytes c.compiler) ∧ d.setting = c.setting ∧
      ¬(d.level .quiet = 1 ∧ d.level .json = 1) := by
  unfold finish at h
  split at h
  · cases h
  · next hboth =>
    cases hcompiler : d.compiler with
    | none =>
      rw [hcompiler] at h
      cases h
    | some compiler =>
      rw [hcompiler] at h
      obtain rfl := Except.ok.inj h
      refine ⟨by rw [named, hcompiler]; rfl, funext fun p => by cases p <;> rfl, ?_⟩
      simpa [level] using hboth

end Draft

/-! ## Accepted command lines -/

variable {env : Environment} {args : List Bytes} {c : CommandLine}

/-- Arguments are accepted if a draft takes all they say, the environment fills it up, and it is
finished. -/
theorem parse_eq_ok_iff : parse env args = .ok c ↔
    ∃ d, Draft.Takes {} (items args) d ∧
      ∃ d', d.consultAll env Parameter.all = .ok d' ∧ d'.finish = .ok c := by
  have hreads (d : Draft) : Reading.Reads {} args d ↔ Draft.Takes {} (items args) d := by
    rw [← Draft.takeAll_eq_ok_iff]
    exact Reading.reads_iff (r := {}) rfl nofun nofun args
  simp only [← hreads, Reading.Reads]
  unfold parse
  cases Reading.arguments {} args with
  | error e => simp
  | ok r =>
    simp only [Except.ok.injEq, exists_eq_left']
    cases r.settle with
    | error e => simp
    | ok d =>
      simp only [Except.ok.injEq, exists_eq_left']
      cases d.consultAll env Parameter.all <;> simp

/-- An accepted command line names the compiler once, and its options are what is given for them. -/
theorem said_of_parse (h : parse env args = .ok c) :
    names (items args) = [Utf8.bytes c.compiler] ∧ IsName (Utf8.bytes c.compiler) ∧
      ∀ p, c.setting p = valueGiven env (items args) p := by
  obtain ⟨d, htakes, d', hconsult, hfinish⟩ := parse_eq_ok_iff.1 h
  obtain ⟨hnamed', -, hsetting'⟩ := Draft.places_of_consultAll hconsult
  obtain ⟨hnamed, hsetting, -⟩ := Draft.places_of_finish hfinish
  have hcompiler : d.named = some (Utf8.bytes c.compiler) := hnamed' ▸ hnamed
  obtain ⟨hhead, hlength, hadmits⟩ := filled_none.1 htakes.named
  have hnames : names (items args) = [Utf8.bytes c.compiler] := by
    rw [hcompiler] at hhead
    cases hgiven : names (items args) with
    | nil => simp [hgiven] at hhead
    | cons first more =>
      rw [hgiven] at hhead hlength
      obtain rfl : more = [] := List.eq_nil_of_length_eq_zero (by simpa using hlength)
      exact congrArg (fun value => [value]) (Option.some.inj hhead).symm
  refine ⟨hnames, hadmits _ (by simp [hnames]), fun p => ?_⟩
  have hall : p ∈ Parameter.all := by cases p <;> decide
  obtain ⟨hgiven, -⟩ := filled_none.1 (Draft.setting_empty p ▸ htakes.setting p)
  rw [← hsetting, hsetting' p, if_pos hall, hgiven]
  rfl

/-- Accepted arguments do not say what they must not. -/
theorem not_faulty_of_parse (h : parse env args = .ok c) : ¬Faulty (items args) := by
  obtain ⟨d, htakes, d', hconsult, hfinish⟩ := parse_eq_ok_iff.1 h
  obtain ⟨-, hlevel', -⟩ := Draft.places_of_consultAll hconsult
  obtain ⟨-, -, hnot⟩ := Draft.places_of_finish hfinish
  obtain ⟨hnames, hname, -⟩ := said_of_parse h
  intro hfaulty
  cases hfaulty with
  | names h => simp [hnames] at h
  | noName value hmem h =>
    rw [hnames, List.mem_singleton] at hmem
    exact h (hmem ▸ hname)
  | unknown h => cases htakes.isSound _ h
  | unwanted f h => cases htakes.isSound _ h
  | lack p h => cases htakes.isSound _ h
  | repeatedValue p h =>
    obtain ⟨-, hlength, -⟩ := filled_none.1 (Draft.setting_empty p ▸ htakes.setting p)
    omega
  | repeatedFlag f hf h =>
    have hone := (htakes.level f).2 hf
    omega
  | silentJson hquiet hjson =>
    have hraised {f : Flag} (hf : f ≠ .verbose) (hmem : .raise f ∈ items args) :
        d'.level f = 1 := by
      have hone := (htakes.level f).2 hf
      have hlevel := (htakes.level f).1
      have hpos : 0 < times f (items args) := List.count_pos_iff.2 hmem
      rw [hlevel', hlevel]
      omega
    exact hnot ⟨hraised nofun hquiet, hraised nofun hjson⟩

/-- Accepted arguments do not ask for help or the version. -/
theorem not_asks_of_parse (h : parse env args = .ok c) : ¬Asks (items args) := by
  obtain ⟨d, htakes, -⟩ := parse_eq_ok_iff.1 h
  rintro (hhelp | hversion)
  · cases htakes.isSound _ hhelp
  · cases htakes.isSound _ hversion

/-- What accepted arguments or the environment give for an option is a value of it. -/
theorem isValueOf_of_parse (h : parse env args = .ok c) {p : Parameter} {value : Bytes}
    (hvalue : valueGiven env (items args) p = some value) : IsValueOf value p := by
  obtain ⟨d, htakes, d', hconsult, -⟩ := parse_eq_ok_iff.1 h
  obtain ⟨hsetting, -, hadmits⟩ := filled_none.1 (Draft.setting_empty p ▸ htakes.setting p)
  unfold valueGiven at hvalue
  cases hhead : (values p (items args)).head? with
  | some given =>
    rw [hhead, Option.some_or] at hvalue
    cases hvalue
    exact hadmits value (List.mem_of_mem_head? hhead)
  | none =>
    rw [hhead, Option.none_or] at hvalue
    have hall : p ∈ Parameter.all := by cases p <;> decide
    exact Draft.isValueOf_of_consultAll hconsult hall (hsetting.trans hhead) hvalue

/-- Arguments that say nothing wrong and do not ask say sound things only. -/
theorem isSound_of_not_faulty (hfaulty : ¬Faulty (items args)) (hasks : ¬Asks (items args)) :
    ∀ i ∈ items args, i.isSound = true := by
  intro i hi
  cases i with
  | name value => rfl
  | give p value => rfl
  | lack p => exact absurd (.lack p hi) hfaulty
  | unwanted f => exact absurd (.unwanted f hi) hfaulty
  | unknown => exact absurd (.unknown hi) hfaulty
  | raise f =>
    cases f with
    | help => exact absurd (.inl hi) hasks
    | version => exact absurd (.inr hi) hasks
    | _ => rfl

/-- The command lines that are accepted: nothing in them is at fault, they do not ask for help or
the version, and each option that gets a value, from them or from the environment, can have it. -/
theorem exists_parse_iff : (∃ c, parse env args = .ok c) ↔
    ¬Faulty (items args) ∧ ¬Asks (items args) ∧
      ∀ p value, valueGiven env (items args) p = some value → IsValueOf value p := by
  constructor
  · rintro ⟨c, h⟩
    exact ⟨not_faulty_of_parse h, not_asks_of_parse h, fun _ _ => isValueOf_of_parse h⟩
  · rintro ⟨hfaulty, hasks, hvalue⟩
    have hone : (names (items args)).length = 1 := by
      by_contra hne
      exact hfaulty (.names hne)
    have hname : ∀ value ∈ names (items args), IsName value := by
      intro value hmem
      by_contra hno
      exact hfaulty (.noName value hmem hno)
    have hvalues (p : Parameter) : (values p (items args)).length ≤ 1 := by
      by_contra htwo
      exact hfaulty (.repeatedValue p (by omega))
    have hadmits (p : Parameter) : ∀ value ∈ values p (items args), IsValueOf value p := by
      intro value hmem
      apply hvalue
      obtain ⟨given, hgiven⟩ := List.length_eq_one_iff.1
        (Nat.le_antisymm (hvalues p) (List.length_pos_of_mem hmem))
      rw [hgiven, List.mem_singleton] at hmem
      rw [valueGiven, hgiven, hmem]
      rfl
    have htimes (f : Flag) (hf : f ≠ .verbose) : times f (items args) ≤ 1 := by
      by_contra htwo
      exact hfaulty (.repeatedFlag f hf (by omega))
    have hsound := isSound_of_not_faulty hfaulty hasks
    obtain ⟨d, htakes⟩ := Draft.exists_takes hsound (Nat.le_of_eq hone) hname hvalues hadmits htimes
    have hsetting (p : Parameter) : d.setting p = (values p (items args)).head? :=
      (filled_none.1 (Draft.setting_empty p ▸ htakes.setting p)).1
    have hconsults : ∃ d', d.consultAll env Parameter.all = .ok d' := by
      refine Draft.exists_consultAll fun p value h => hvalue p value ?_
      rw [valueGiven, ← hsetting p]
      exact h
    obtain ⟨d', hconsult⟩ := hconsults
    obtain ⟨hnamed', hlevel', -⟩ := Draft.places_of_consultAll hconsult
    obtain ⟨name, hgiven⟩ := List.length_eq_one_iff.1 hone
    have hnamed : d'.named = some name := by
      rw [hnamed', (filled_none.1 htakes.named).1, hgiven]
      rfl
    have hraised {f : Flag} (h : d'.level f = 1) : .raise f ∈ items args := by
      have hlevel := (htakes.level f).1
      rw [hlevel'] at h
      rw [h, Draft.level_empty] at hlevel
      exact List.count_pos_iff.1 (show 0 < times f (items args) by omega)
    obtain ⟨c, hfinish⟩ := Draft.exists_finish hnamed fun h =>
      hfaulty (.silentJson (hraised h.1) (hraised h.2))
    exact ⟨c, parse_eq_ok_iff.2 ⟨d, htakes, d', hconsult, hfinish⟩⟩

end Shakedown.CommandLine

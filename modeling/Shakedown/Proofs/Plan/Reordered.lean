import Shakedown.Proofs.Plan.Described

/-!
# Documents in another order

The keys of a table may stand in any order, at any depth of a document. A document says the same of
a plan in each of them: `Carries` puts down, for everything that a value can be read as, that
another value describes it too, and every way to reorder a value carries it over.

Main statement: `Plan.Described.reorder`. It rests on `Value.Reorders.carries`, by induction on how
a value is reordered.
-/

set_option autoImplicit false

namespace Shakedown

open Toml (Value Says DescribesText DescribesBool DescribesPath DescribesList)

/-! ## Reordered documents -/

namespace Toml

/-- A value with the fields of some of its tables put in another order. -/
inductive Value.Reorders : Value → Value → Prop
  | refl (v : Value) : Reorders v v
  | trans {u v w : Value} (huv : Reorders u v) (hvw : Reorders v w) : Reorders u w
  | fields {fields fields' : List (String × Value)} (h : fields.Perm fields') :
      Reorders (.table fields) (.table fields')
  | field (before : List (String × Value)) (key : String) {v v' : Value} (h : Reorders v v')
      (after : List (String × Value)) :
      Reorders (.table (before ++ (key, v) :: after)) (.table (before ++ (key, v') :: after))
  | item (before : List Value) {v v' : Value} (h : Reorders v v') (after : List Value) :
      Reorders (.list (before ++ v :: after)) (.list (before ++ v' :: after))

/-- Where no key is there twice, a key gives a value exactly if both are a field. -/
theorem lookup_eq_some_iff_mem {fields : List (String × Value)}
    (hkeys : (fields.map Prod.fst).Nodup)
    {key : String} {v : Value} : fields.lookup key = some v ↔ (key, v) ∈ fields := by
  constructor
  · intro h
    obtain ⟨before, after, rfl, -⟩ := List.lookup_eq_some_iff.1 h
    simp
  · intro h
    obtain ⟨before, after, rfl⟩ := List.append_of_mem h
    refine List.lookup_eq_some_iff.2 ⟨before, after, rfl, fun f hf => ?_⟩
    have hne : f.1 ≠ key := by
      rw [List.map_append, List.nodup_append] at hkeys
      exact hkeys.2.2 f.1 (List.mem_map_of_mem hf) key (by simp)
    simpa using fun heq => hne heq.symm

/-- Where no key is there twice, the order of the fields does not change what a key gives. -/
theorem lookup_eq_of_perm {fields fields' : List (String × Value)}
    (hkeys : (fields.map Prod.fst).Nodup) (h : fields.Perm fields') (key : String) :
    fields.lookup key = fields'.lookup key := by
  have hkeys' : (fields'.map Prod.fst).Nodup := (h.map Prod.fst).nodup_iff.1 hkeys
  apply Option.ext
  intro v
  rw [lookup_eq_some_iff_mem hkeys, lookup_eq_some_iff_mem hkeys', h.mem_iff]

/-- A key that is kept gives what it gave before. -/
theorem lookup_filter (fields : List (String × Value)) {keys : List String} {key : String}
    (hkey : key ∈ keys) : (fields.filter fun f => f.1 ∈ keys).lookup key = fields.lookup key := by
  induction fields with
  | nil => rfl
  | cons f more ih =>
    obtain ⟨name, v⟩ := f
    by_cases hname : name ∈ keys
    · rw [List.filter_cons_of_pos (by simpa using hname), List.lookup_cons, List.lookup_cons, ih]
    · have hne : (key == name) = false := by
        simpa using fun heq : key = name => hname (heq ▸ hkey)
      rw [List.filter_cons_of_neg (by simpa using hname), List.lookup_cons, hne, ih]

/-- With the values of fields changed a key gives its changed value. -/
theorem lookup_map {g : String → Value → Value} (fields : List (String × Value)) (key : String) :
    (fields.map fun f => (f.1, g f.1 f.2)).lookup key = (fields.lookup key).map (g key) := by
  induction fields with
  | nil => rfl
  | cons f more ih =>
    rw [List.map_cons, List.lookup_cons, List.lookup_cons, ih]
    by_cases hkey : key = f.1
    · simp [hkey]
    · have hne : (key == f.1) = false := by simpa using hkey
      simp [hne]

/-- A field that is replaced is found where the field was. -/
theorem rel_lookup_replace {r : Value → Value → Prop} (hr : ∀ v, r v v) {v v' : Value} (h : r v v')
    (before after : List (String × Value)) (name key : String) :
    Option.Rel r ((before ++ (name, v) :: after).lookup key)
      ((before ++ (name, v') :: after).lookup key) := by
  have hsame : ∀ given : Option Value, Option.Rel r given given
    | none => .none
    | some u => .some (hr u)
  rw [List.lookup_append, List.lookup_append]
  cases before.lookup key with
  | some u => exact .some (hr u)
  | none =>
    rw [List.lookup_cons, List.lookup_cons]
    cases key == name with
    | true => exact .some h
    | false => exact hsame _

/-- An item that is replaced gets the key that the item had. -/
theorem rel_lookup_zip_replace {r : Value → Value → Prop} (hr : ∀ v, r v v) {v v' : Value}
    (h : r v v') (keys : List String) (before after : List Value) (key : String) :
    Option.Rel r ((keys.zip (before ++ v :: after)).lookup key)
      ((keys.zip (before ++ v' :: after)).lookup key) := by
  induction before generalizing keys with
  | nil =>
    cases keys with
    | nil => exact .none
    | cons name keys => exact rel_lookup_replace hr h [] (keys.zip after) name key
  | cons u before ih =>
    cases keys with
    | nil => exact .none
    | cons name keys =>
      simp only [List.cons_append, List.zip_cons_cons, List.lookup_cons]
      cases key == name with
      | true => exact .some (hr u)
      | false => exact ih keys

/-- A field says the same where what is given for it describes the same. -/
theorem Says.carry {α : Type} {describes : Value → α → Prop} {r : Value → Value → Prop}
    {default a : α} {given given' : Option Value} (hgiven : Option.Rel r given given')
    (hr : ∀ {v v'}, r v v' → describes v a → describes v' a) (h : Says describes default given a) :
    Says describes default given' a := by
  cases hgiven with
  | none => exact h
  | some hv => exact hr hv h

/-- A list describes the same with one item replaced by another that describes the same. -/
theorem DescribesList.replace {α : Type} {describes : Value → α → Prop} {v v' : Value}
    {before after : List Value} {as : List α} (hv : ∀ a, describes v a → describes v' a)
    (h : DescribesList describes (.list (before ++ v :: after)) as) :
    DescribesList describes (.list (before ++ v' :: after)) as := by
  obtain ⟨items, hitems, hall⟩ := h
  cases hitems
  refine ⟨_, rfl, ?_⟩
  induction before generalizing as with
  | nil =>
    cases hall with
    | cons hone hmore => exact .cons (hv _ hone) hmore
  | cons u before ih =>
    cases hall with
    | cons hone hmore => exact .cons hone (ih hmore)

end Toml

open Toml (lookup_eq_of_perm lookup_filter lookup_map rel_lookup_replace rel_lookup_zip_replace)

/-! ## What is described stays described -/

/-- Whether a value describes all that another one describes. -/
structure Carries (v v' : Value) : Prop where
  text : ∀ s, v = .text s → v' = .text s
  boolean : ∀ b, v = .boolean b → v' = .boolean b
  emptyTable : v = .table [] → v' = .table []
  emptyList : v = .list [] → v' = .list []
  flags : ∀ f, CompileFlags.Described v f → CompileFlags.Described v' f
  entry : ∀ m, ModuleEntry.Described v m → ModuleEntry.Described v' m
  modules : ∀ ms, DescribesList ModuleEntry.Described v ms →
    DescribesList ModuleEntry.Described v' ms
  plan : ∀ fields, v = .table fields →
    ∃ fields', v' = .table fields' ∧ ∀ p, Plan.Described fields p → Plan.Described fields' p

namespace Carries

/-- A value describes all that it describes. -/
theorem refl (v : Value) : Carries v v :=
  ⟨fun _ h => h, fun _ h => h, fun h => h, fun h => h, fun _ h => h, fun _ h => h, fun _ h => h,
    fun fields h => ⟨fields, h, fun _ hp => hp⟩⟩

/-- A value that describes all of another one describes what that one takes over from a third. -/
theorem trans {u v w : Value} (huv : Carries u v) (hvw : Carries v w) : Carries u w where
  text s h := hvw.text s (huv.text s h)
  boolean b h := hvw.boolean b (huv.boolean b h)
  emptyTable h := hvw.emptyTable (huv.emptyTable h)
  emptyList h := hvw.emptyList (huv.emptyList h)
  flags f h := hvw.flags f (huv.flags f h)
  entry m h := hvw.entry m (huv.entry m h)
  modules ms h := hvw.modules ms (huv.modules ms h)
  plan fields h := by
    obtain ⟨middle, hmiddle, huv⟩ := huv.plan fields h
    obtain ⟨fields', hfields', hvw⟩ := hvw.plan middle hmiddle
    exact ⟨fields', hfields', fun p hp => hvw p (huv p hp)⟩

/-- A value describes the paths that it takes over. -/
theorem path {v v' : Value} (h : Carries v v') {p : Path} (hp : DescribesPath v p) :
    DescribesPath v' p := by
  obtain ⟨s, hs, rfl⟩ := hp
  exact ⟨s, h.text s hs, rfl⟩

end Carries

/-- Fields describe the module that others describe, if they take over what each key gives. -/
theorem ModuleEntry.FieldsDescribe.carry {fields fields' : List (String × Value)} {m : ModuleEntry}
    (hfields : ∀ key, Option.Rel Carries (fields.lookup key) (fields'.lookup key))
    (h : FieldsDescribe fields m) : FieldsDescribe fields' m where
  source := by
    have hsource := hfields "source"
    rw [h.source] at hsource
    cases hgiven : fields'.lookup "source" with
    | none =>
      rw [hgiven] at hsource
      cases hsource
    | some v =>
      rw [hgiven] at hsource
      cases hsource with
      | some hv => rw [hv.text m.source rfl]
  enabled := h.enabled.carry (hfields "enabled") fun hv => hv.boolean m.enabled
  flags := h.flags.carry (hfields "flags") fun hv => hv.flags m.flags

/-- Fields describe the plan that others describe, if they take over what each key gives. -/
theorem Plan.Described.carry {fields fields' : List (String × Value)} {p : Plan}
    (hfields : ∀ key, Option.Rel Carries (fields.lookup key) (fields'.lookup key))
    (h : Described fields p) : Described fields' p where
  projectDir := h.projectDir.carry (hfields "project_dir") fun hv => hv.path
  buildTool := h.buildTool.carry (hfields "build_tool") fun hv => hv.text p.buildTool
  referenceCompiler := h.referenceCompiler.carry (hfields "reference_compiler") fun hv =>
    hv.text p.referenceCompiler
  modules := h.modules.carry (hfields "modules") fun hv => hv.modules p.modules

namespace Carries

/-- A table carries over if each of its look-ups does, and a table of one field at most if its field
does. -/
theorem table {fields fields' : List (String × Value)}
    (hfields : ∀ key, Option.Rel Carries (fields.lookup key) (fields'.lookup key))
    (hempty : fields = [] → fields' = [])
    (hone : ∀ key v, fields = [(key, v)] → ∃ v', fields' = [(key, v')] ∧ Carries v v') :
    Carries (.table fields) (.table fields') where
  text s h := by cases h
  boolean b h := by cases h
  emptyTable h := by
    injection h with h
    rw [hempty h]
  emptyList h := by cases h
  flags f h := by
    cases h with
    | optimize level =>
      obtain ⟨v', rfl, hv⟩ := hone _ _ rfl
      rw [hv.text level rfl]
      exact .optimize level
    | dumpIr directory =>
      obtain ⟨v', rfl, hv⟩ := hone _ _ rfl
      rw [hv.text directory rfl]
      exact .dumpIr directory
    | plainTable =>
      obtain ⟨v', rfl, hv⟩ := hone _ _ rfl
      rw [hv.emptyTable rfl]
      exact .plainTable
    | plainList =>
      obtain ⟨v', rfl, hv⟩ := hone _ _ rfl
      rw [hv.emptyList rfl]
      exact .plainList
  entry m h := by
    cases h with
    | table h => exact .table (h.carry hfields)
  modules ms h := by
    obtain ⟨items, hitems, -⟩ := h
    cases hitems
  plan known h := by
    cases h
    exact ⟨fields', rfl, fun p hp => hp.carry hfields⟩

/-- A list with an item replaced describes what it described if the item does. -/
theorem item {v v' : Value} (h : Carries v v') (before after : List Value) :
    Carries (.list (before ++ v :: after)) (.list (before ++ v' :: after)) where
  text s h := by cases h
  boolean b h := by cases h
  emptyTable h := by cases h
  emptyList h := by simp at h
  flags f h := by
    generalize hitems : before ++ v :: after = items at h
    cases h
  entry m hm := by
    cases hm with
    | list hm =>
      exact .list (hm.carry (rel_lookup_zip_replace refl h ModuleEntry.tomlKeys before after))
  modules ms hms := hms.replace h.entry
  plan fields h := by cases h

end Carries

namespace Toml.Value

/-- A table still has no key twice with the value of a field replaced. -/
theorem Keyed.replace_field {before after : List (String × Value)} {key : String} {v v' : Value}
    (h : (Value.table (before ++ (key, v) :: after)).Keyed) (hv' : v'.Keyed) :
    (Value.table (before ++ (key, v') :: after)).Keyed := by
  cases h with
  | table hkeys h =>
    refine .table (by simpa using hkeys) fun f hf => ?_
    rw [List.mem_append, List.mem_cons] at hf
    rcases hf with hf | rfl | hf
    · exact h f (by simp [hf])
    · exact hv'
    · exact h f (by simp [hf])

/-- A list still has no key twice within its items with one of them replaced. -/
theorem Keyed.replace_item {before after : List Value} {v v' : Value}
    (h : (Value.list (before ++ v :: after)).Keyed) (hv' : v'.Keyed) :
    (Value.list (before ++ v' :: after)).Keyed := by
  cases h with
  | list h =>
    refine .list fun u hu => ?_
    rw [List.mem_append, List.mem_cons] at hu
    rcases hu with hu | rfl | hu
    · exact h u (by simp [hu])
    · exact hv'
    · exact h u (by simp [hu])

/-- A keyed value describes the same in every order of its tables. -/
theorem Reorders.carries {v v' : Value} (h : v.Reorders v') (hv : v.Keyed) :
    v'.Keyed ∧ Carries v v' := by
  induction h with
  | refl v => exact ⟨hv, .refl v⟩
  | trans _ _ ihuv ihvw =>
    obtain ⟨hkeyed, huv⟩ := ihuv hv
    obtain ⟨hkeyed', hvw⟩ := ihvw hkeyed
    exact ⟨hkeyed', huv.trans hvw⟩
  | @fields fields fields' h =>
    cases hv with
    | table hkeys hall =>
      refine ⟨.table ((h.map Prod.fst).nodup_iff.1 hkeys) fun f hf => hall f (h.mem_iff.2 hf), ?_⟩
      refine .table (fun key => ?_) (fun hnil => ?_) fun key v hone => ?_
      -- No key comes twice, so a look-up finds the same in every order.
      · rw [lookup_eq_of_perm hkeys h key]
        cases fields'.lookup key with
        | none => exact .none
        | some u => exact .some (.refl u)
      · rw [hnil] at h
        exact List.nil_perm.1 h
      · rw [hone] at h
        exact ⟨v, List.singleton_perm.1 h |>.symm, .refl v⟩
  | @field before key v v' _ after ih =>
    have hkeyed : v.Keyed := by
      cases hv with
      | table _ hall => exact hall (key, v) (by simp)
    obtain ⟨hkeyed', hcarries⟩ := ih hkeyed
    refine ⟨hv.replace_field hkeyed', ?_⟩
    refine .table (rel_lookup_replace .refl hcarries before after key) (by simp)
      fun name u hone => ?_
    -- A table of one field is that field, so its value is the one that was reordered.
    have hparts : before = [] ∧ (key, v) = (name, u) ∧ after = [] := by
      cases before with
      | nil => simpa using hone
      | cons f before => simp at hone
    obtain ⟨rfl, heq, rfl⟩ := hparts
    cases heq
    exact ⟨v', rfl, hcarries⟩
  | @item before v v' _ after ih =>
    have hkeyed : v.Keyed := by
      cases hv with
      | list hall => exact hall v (by simp)
    obtain ⟨hkeyed', hcarries⟩ := ih hkeyed
    exact ⟨hv.replace_item hkeyed', hcarries.item before after⟩

end Toml.Value

/-- A document with fields put in another order describes the same plan. -/
theorem Plan.Described.reorder {fields fields' : List (String × Value)} {p : Plan}
    (h : Described fields p) (hkeyed : (Value.table fields).Keyed)
    (hreorders : (Value.table fields).Reorders (.table fields')) : Described fields' p := by
  obtain ⟨found, heq, hplan⟩ := (hreorders.carries hkeyed).2.plan fields rfl
  cases heq
  exact hplan p h

end Shakedown

import Shakedown.CommandLine.Parse

/-!
# Arguments in groups

What an argument says does not depend on the arguments before it, but for one thing: it may be the
value of an option right before it. So a command line up to `--` falls into groups, an option with
the argument that is its value or an argument by itself. `cut` finds the groups and `spell` writes
them down again.

Main statements: `spell_cut`, the groups of a command line spell it, and `cut_spell`, groups that
are complete are found again in whatever order they are written down.
-/

set_option autoImplicit false

namespace Shakedown.CommandLine

/-! ## What an argument says -/

/-- One thing that a command line says. -/
inductive Item where
  /-- The compiler's name. -/
  | name (value : Bytes)
  /-- An option with its value. -/
  | give (p : Parameter) (value : Bytes)
  /-- An option without the value that it takes. -/
  | lack (p : Parameter)
  /-- An option that takes no value. -/
  | raise (f : Flag)
  /-- An option that takes no value, with one. -/
  | unwanted (f : Flag)
  /-- No option that is known. -/
  | unknown
  deriving DecidableEq, Repr

/-- What an option says by its long name, and the option that waits for its value. -/
def saidByName (body : Bytes) : List Item × Option Parameter :=
  match Switch.ofLong (body.takeWhile (· ≠ Reading.equals)), Reading.attached body with
  | none, _ => ([.unknown], none)
  | some (.flag f), none => ([.raise f], none)
  | some (.flag f), some _ => ([.unwanted f], none)
  | some (.parameter p), none => ([], some p)
  | some (.parameter p), some value => ([.give p value], none)

/-- What options say by their letters, and the one that waits for its value. -/
def saidByLetters : Bytes → List Item × Option Parameter
  | [] => ([], none)
  | c :: more =>
    match Switch.ofLetter c with
    | none => ([.unknown], none)
    | some (.flag f) => (.raise f :: (saidByLetters more).1, (saidByLetters more).2)
    | some (.parameter p) =>
      match Reading.attachedToLetter more with
      | none => ([], some p)
      | some value => ([.give p value], none)

/-- What an argument before any `--` says by itself, and the option that waits for its value. -/
def said : Bytes → List Item × Option Parameter
  | 0x2D :: 0x2D :: body => saidByName body
  | 0x2D :: c :: body => saidByLetters (c :: body)
  | word => ([.name word], none)

/-- Whether an argument is no option, so that it can be a value. -/
def isWord : Bytes → Bool
  | 0x2D :: _ :: _ => false
  | _ => true

/-- The argument after which nothing is an option. -/
def dashes : Bytes := [0x2D, 0x2D]

/-! ## Groups -/

/-- An argument, and the next one if that is its value. -/
structure Group where
  argument : Bytes
  value : Option Bytes
  deriving DecidableEq, Repr

namespace Group

/-- The arguments of a group. -/
def spell (g : Group) : List Bytes :=
  g.argument :: g.value.toList

/-- What a group says. -/
def items (g : Group) : List Item :=
  match (said g.argument).2, g.value with
  | none, _ => (said g.argument).1
  | some p, none => (said g.argument).1 ++ [.lack p]
  | some p, some value => (said g.argument).1 ++ [.give p value]

/-- Whether a group has a value exactly if its option waits for one. -/
structure Complete (g : Group) : Prop where
  ne_dashes : g.argument ≠ dashes
  isSome_value : g.value.isSome = (said g.argument).2.isSome
  isWord_value : ∀ value, g.value = some value → isWord value = true

end Group

/-- The groups before `--`, and the rest from there on. -/
def cut : List Bytes → List Group × List Bytes
  | [] => ([], [])
  | a :: more =>
    if a = dashes then ([], a :: more)
    else if (said a).2.isSome then
      match more with
      | [] => ([⟨a, none⟩], [])
      | value :: rest =>
        if isWord value then (⟨a, some value⟩ :: (cut rest).1, (cut rest).2)
        else (⟨a, none⟩ :: (cut (value :: rest)).1, (cut (value :: rest)).2)
    else (⟨a, none⟩ :: (cut more).1, (cut more).2)

/-- The arguments of all groups. -/
def spell (groups : List Group) : List Bytes :=
  groups.flatMap Group.spell

/-- What the rest from `--` on says. -/
def saidLiterally (rest : List Bytes) : List Item :=
  rest.tail.map .name

/-- What a command line says. -/
def items (args : List Bytes) : List Item :=
  (cut args).1.flatMap Group.items ++ saidLiterally (cut args).2

/-- The arguments of groups begin with those of the first one. -/
@[simp]
theorem spell_cons (g : Group) (groups : List Group) :
    spell (g :: groups) = g.spell ++ spell groups :=
  rfl

/-- The groups of a command line spell it. -/
theorem spell_cut (args : List Bytes) : spell (cut args).1 ++ (cut args).2 = args := by
  fun_induction cut args with
  | case1 => rfl
  | case2 => rfl
  | case3 => rfl
  | case4 a _ _ value rest _ ih => simp [Group.spell, ih]
  | case5 a _ _ value rest _ ih => simp [Group.spell, ih]
  | case6 a more _ _ ih => simp [Group.spell, ih]

/-- The rest begins with `--`, if there is one. -/
theorem cut_rest (args : List Bytes) :
    (cut args).2 = [] ∨ ∃ words, (cut args).2 = dashes :: words := by
  fun_induction cut args with
  | case1 => exact .inl rfl
  | case2 more => exact .inr ⟨more, rfl⟩
  | case3 => exact .inl rfl
  | case4 _ _ _ _ _ _ ih => exact ih
  | case5 _ _ _ _ _ _ ih => exact ih
  | case6 _ _ _ _ ih => exact ih

/-- From `--` on arguments are not cut into groups. -/
theorem cut_dashes (words : List Bytes) : cut (dashes :: words) = ([], dashes :: words) := by
  rw [cut.eq_def]
  simp

/-- An argument for which no option waits, and which waits for nothing itself, is a group alone. -/
theorem cut_alone {a : Bytes} (hne : a ≠ dashes) (hwaits : (said a).2.isSome = false)
    (more : List Bytes) : cut (a :: more) = (⟨a, none⟩ :: (cut more).1, (cut more).2) := by
  rw [cut.eq_def]
  simp [hne, hwaits]

/-- An option that waits is a group with the word behind it. -/
theorem cut_value {a value : Bytes} (hne : a ≠ dashes) (hwaits : (said a).2.isSome = true)
    (hword : isWord value = true) (more : List Bytes) :
    cut (a :: value :: more) = (⟨a, some value⟩ :: (cut more).1, (cut more).2) := by
  rw [cut.eq_def]
  simp [hne, hwaits, hword]

/-- An option that waits with no word behind it is a group without a value. -/
theorem cut_lack {a : Bytes} {more : List Bytes} (hne : a ≠ dashes)
    (hwaits : (said a).2.isSome = true) (hnext : ∀ b ∈ more.head?, isWord b = false) :
    cut (a :: more) = (⟨a, none⟩ :: (cut more).1, (cut more).2) := by
  rw [cut.eq_def]
  cases more with
  | nil => simp [hne, hwaits, cut]
  | cons b more => simp [hne, hwaits, hnext b rfl]

/-- Complete groups are found again, whatever follows them from `--` on. -/
theorem cut_spell {groups : List Group} {rest : List Bytes} (h : ∀ g ∈ groups, g.Complete)
    (hrest : rest = [] ∨ ∃ words, rest = dashes :: words) :
    cut (spell groups ++ rest) = (groups, rest) := by
  induction groups with
  | nil =>
    obtain rfl | ⟨words, rfl⟩ := hrest
    · rfl
    · exact cut_dashes words
  | cons g groups ih =>
    obtain ⟨hg, hgroups⟩ := List.forall_mem_cons.1 h
    have hmore := ih hgroups
    obtain ⟨a, value⟩ := g
    have hwaits := hg.isSome_value.symm
    cases value with
    | none =>
      rw [spell_cons, Group.spell, Option.toList_none, List.append_assoc, List.singleton_append,
        cut_alone hg.ne_dashes hwaits, hmore]
    | some value =>
      rw [spell_cons, Group.spell, Option.toList_some, List.cons_append, List.singleton_append,
        List.cons_append, List.cons_append, cut_value hg.ne_dashes hwaits
          (hg.isWord_value value rfl),
        hmore]

/-- A group of a command line is complete, or lacks a value. -/
theorem complete_or_lack {args : List Bytes} {g : Group} (hg : g ∈ (cut args).1) :
    g.Complete ∨ ∃ p, .lack p ∈ g.items := by
  have hlack {a : Bytes} (ha : (said a).2.isSome) : ∃ p, .lack p ∈ Group.items ⟨a, none⟩ := by
    obtain ⟨p, hp⟩ := Option.isSome_iff_exists.1 ha
    exact ⟨p, by simp [Group.items, hp]⟩
  fun_induction cut args with
  | case1 => cases hg
  | case2 => cases hg
  | case3 a _ hwaits =>
    rw [List.mem_singleton] at hg
    subst hg
    exact .inr (hlack hwaits)
  | case4 a hne hwaits value rest hword ih =>
    rcases List.mem_cons.1 hg with rfl | hg
    · refine .inl ⟨hne, by simp [hwaits], fun v hv => ?_⟩
      cases hv
      exact hword
    · exact ih hg
  | case5 a hne hwaits value rest _ ih =>
    rcases List.mem_cons.1 hg with rfl | hg
    · exact .inr (hlack hwaits)
    · exact ih hg
  | case6 a more hne hwaits ih =>
    rcases List.mem_cons.1 hg with rfl | hg
    · refine .inl ⟨hne, by simpa using hwaits, fun v hv => ?_⟩
      cases hv
    · exact ih hg

/-- The value of `-C` makes a group with it, the last option lacks one, and the rest is no group. -/
example : (cut (["cc", "-vC", "lib", "--plan", "--", "x"].map Utf8.bytes)).1.map Group.items =
    [[.name (Utf8.bytes "cc")], [.raise .verbose, .give .projectDir (Utf8.bytes "lib")],
      [.lack .plan]] := by
  decide

/-! ## What the next group says -/

section

variable {a value : Bytes} {p : Parameter} {more : List Bytes}

/-- No arguments say nothing. -/
theorem items_nil : items [] = [] :=
  rfl

/-- Everything behind `--` is a name. -/
theorem items_dashes (words : List Bytes) : items (dashes :: words) = words.map .name := by
  rw [items, cut_dashes]
  rfl

/-- An argument that waits for nothing says what it says by itself, before the others. -/
theorem items_alone (hne : a ≠ dashes) (hwaits : (said a).2 = none) :
    items (a :: more) = (said a).1 ++ items more := by
  rw [items, cut_alone hne (by simp [hwaits])]
  simp [items, Group.items, hwaits]

/-- An option that waits says its value with the word behind it, before the others. -/
theorem items_value (hne : a ≠ dashes) (hwaits : (said a).2 = some p)
    (hword : isWord value = true) :
    items (a :: value :: more) = (said a).1 ++ .give p value :: items more := by
  rw [items, cut_value hne (by simp [hwaits]) hword]
  simp [items, Group.items, hwaits]

/-- An option that waits with no word behind it says that its value is lacking, before the
others. -/
theorem items_lack (hne : a ≠ dashes) (hwaits : (said a).2 = some p)
    (hnext : ∀ b ∈ more.head?, isWord b = false) :
    items (a :: more) = (said a).1 ++ .lack p :: items more := by
  rw [items, cut_lack hne (by simp [hwaits]) hnext]
  simp [items, Group.items, hwaits]

end

/-! ## The two ways to give a value -/

/-- The argument that is the long name of an option with a value. -/
def longOption (p : Parameter) : Bytes :=
  dashes ++ Utf8.bytes p.longName

/-- The same group, or the same option and value with the value in the next argument in one of the
two and behind an equals sign in the other. -/
inductive Group.Respelled : Group → Group → Prop
  | same (g : Group) : Respelled g g
  | attach (p : Parameter) (value : Bytes) (h : value.head? ≠ some 0x2D) :
      Respelled ⟨longOption p, some value⟩ ⟨longOption p ++ Reading.equals :: value, none⟩
  | detach (p : Parameter) (value : Bytes) (h : value.head? ≠ some 0x2D) :
      Respelled ⟨longOption p ++ Reading.equals :: value, none⟩ ⟨longOption p, some value⟩

/-- The long name of an option waits for a value. -/
theorem said_longOption (p : Parameter) : said (longOption p) = ([], some p) := by
  cases p <;> rfl

/-- The long name of an option with an equals sign gives the value behind that. -/
theorem said_longOption_equals (p : Parameter) (value : Bytes) :
    said (longOption p ++ Reading.equals :: value) = ([.give p value], none) := by
  cases p <;> rfl

/-- An argument that does not begin with a dash is no option. -/
theorem isWord_of_head? {value : Bytes} (h : value.head? ≠ some 0x2D) : isWord value = true := by
  unfold isWord
  split
  · simp at h
  · rfl

namespace Group

/-- A long name and a word behind it are complete. -/
theorem complete_longOption {p : Parameter} {value : Bytes} (h : value.head? ≠ some 0x2D) :
    Complete ⟨longOption p, some value⟩ where
  ne_dashes := by
    change longOption p ≠ dashes
    cases p <;> decide
  isSome_value := by rw [said_longOption]; rfl
  isWord_value v hv := by
    cases hv
    exact isWord_of_head? h

/-- A long name with an equals sign and a value is complete. -/
theorem complete_longOption_equals (p : Parameter) (value : Bytes) :
    Complete ⟨longOption p ++ Reading.equals :: value, none⟩ where
  ne_dashes := by cases p <;> simp [longOption, dashes, Reading.equals]
  isSome_value := by rw [said_longOption_equals]; rfl
  isWord_value v hv := by cases hv

/-- A group in another spelling says the same. -/
theorem Respelled.items_eq {g g' : Group} (h : g.Respelled g') : g'.items = g.items := by
  cases h with
  | same => rfl
  | attach p value =>
    simp only [Group.items, said_longOption, said_longOption_equals, List.nil_append]
  | detach p value =>
    simp only [Group.items, said_longOption, said_longOption_equals, List.nil_append]

/-- A group in another spelling is complete if the group was. -/
theorem Respelled.complete {g g' : Group} (h : g.Respelled g') (hg : g.Complete) : g'.Complete := by
  cases h with
  | same => exact hg
  | attach p value _ => exact complete_longOption_equals p value
  | detach p value h => exact complete_longOption h

end Group

end Shakedown.CommandLine

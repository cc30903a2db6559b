import Shakedown.Proofs.CommandLine.Reading

/-!
# Mistakes

A command line that is refused contains a mistake, unless it asks for help or the version: these are
the only arguments after which the program ends well without a session.

Main statement: `isMistake_of_parse`, by one lemma for each step of the reader.
-/

set_option autoImplicit false

namespace Shakedown.CommandLine

/-- Whether items ask for help or the version. -/
def Asks (its : List Item) : Prop :=
  .raise .help ∈ its ∨ .raise .version ∈ its

variable {e : UsageError} {a value : Bytes} {more : List Bytes} {its : List Item}

/-- Items that ask do so behind others. -/
theorem Asks.append_left (h : Asks its) (before : List Item) : Asks (before ++ its) :=
  h.imp (List.mem_append_right before) (List.mem_append_right before)

/-- Items that ask do so before others. -/
theorem Asks.append_right (h : Asks its) (after : List Item) : Asks (its ++ after) :=
  h.imp (List.mem_append_left after) (List.mem_append_left after)

/-! ## Values and drafts -/

/-- A result that is mapped has the errors that it had. -/
theorem map_eq_error {α β : Type} {x : Except UsageError α} {g : α → β} :
    x.map g = .error e ↔ x = .error e := by
  cases x <;> simp [Except.map]

/-- A value that is no path is a mistake. -/
theorem isMistake_of_pathValue (h : pathValue value = .error e) : e.isMistake = true := by
  unfold pathValue at h
  split at h
  · cases h
    rfl
  · cases h

/-- A value that is no text is a mistake. -/
theorem isMistake_of_textValue (h : textValue value = .error e) : e.isMistake = true := by
  unfold textValue at h
  split at h
  · cases h
    rfl
  · cases h

namespace Draft

variable {d : Draft} {p : Parameter} {f : Flag}

/-- A value that its option does not take is a mistake. -/
theorem isMistake_of_give (h : d.give p value = .error e) : e.isMistake = true := by
  cases p with
  | plan => exact isMistake_of_pathValue (map_eq_error.1 h)
  | projectDir => exact isMistake_of_pathValue (map_eq_error.1 h)
  | buildTool => exact isMistake_of_textValue (map_eq_error.1 h)
  | referenceCompiler => exact isMistake_of_textValue (map_eq_error.1 h)

/-- A value that its option does not take once more is a mistake. -/
theorem isMistake_of_giveOnce (h : d.giveOnce p value = .error e) : e.isMistake = true := by
  unfold giveOnce at h
  split at h
  · cases h
    rfl
  · exact isMistake_of_give h

/-- A name that no compiler can have is a mistake. -/
theorem isMistake_of_name (h : d.name value = .error e) : e.isMistake = true := by
  unfold name at h
  split at h
  · cases h
    rfl
  · exact isMistake_of_textValue (map_eq_error.1 h)

/-- An option that cannot be raised is a mistake, or help or the version. -/
theorem isMistake_of_raise (h : d.raise f = .error e) :
    e.isMistake = true ∨ f = .help ∨ f = .version := by
  cases f <;> rw [raise] at h
  case failFast | dryRun | quiet | json =>
    split at h
    · cases h
      exact .inl rfl
    · cases h
  case verbose => cases h
  case help => exact .inr (.inl rfl)
  case version => exact .inr (.inr rfl)

end Draft

/-! ## Steps of the reader -/

namespace Reading

variable {r r' : Reading} {p : Parameter} {f : Flag}

/-- What is pending and cannot be settled is a mistake. -/
theorem isMistake_of_settle (h : r.settle = .error e) : e.isMistake = true := by
  unfold settle at h
  split at h
  · cases h
  · cases h
    rfl
  · exact Draft.isMistake_of_giveOnce h
  · exact Draft.isMistake_of_name h

/-- A word that cannot be taken as the name is a mistake. -/
theorem isMistake_of_positional (h : r.positional a = .error e) : e.isMistake = true := by
  unfold positional at h
  split at h
  · cases h
    rfl
  · exact isMistake_of_settle (map_eq_error.1 h)

/-- A word that cannot be taken is a mistake. -/
theorem isMistake_of_value (h : r.value a = .error e) : e.isMistake = true := by
  unfold value at h
  split at h
  · cases h
  · exact isMistake_of_positional h

/-- An option with a value that cannot be taken is a mistake. -/
theorem isMistake_of_parameter {attached : Option Bytes} (h : r.parameter p attached = .error e) :
    e.isMistake = true := by
  unfold parameter at h
  split at h
  · next hsettle =>
    cases h
    exact isMistake_of_settle hsettle
  · cases attached with
    | none => cases h
    | some value => exact Draft.isMistake_of_giveOnce (map_eq_error.1 h)

/-- An option without a value that cannot be taken is a mistake, or asks. -/
theorem isMistake_of_flag (h : r.flag f = .error e) : e.isMistake = true ∨ Asks [.raise f] := by
  unfold flag at h
  split at h
  · next hsettle =>
    cases h
    exact .inl (isMistake_of_settle hsettle)
  · refine (Draft.isMistake_of_raise (map_eq_error.1 h)).imp_right fun hf => ?_
    obtain rfl | rfl := hf
    · exact .inl (by simp)
    · exact .inr (by simp)

/-- An option by its long name that cannot be taken is a mistake, or asks. -/
theorem isMistake_of_long {body : Bytes} (h : r.long body = .error e) :
    e.isMistake = true ∨ Asks (saidByName body).1 := by
  unfold long at h
  unfold saidByName
  cases hswitch : Switch.ofLong (body.takeWhile (· ≠ equals)) with
  | none =>
    rw [hswitch] at h
    cases h
    exact .inl rfl
  | some s =>
    rw [hswitch] at h
    cases s with
    | parameter p => exact .inl (isMistake_of_parameter h)
    | flag f =>
      cases hattached : attached body with
      | none =>
        simp only [hattached] at h
        exact isMistake_of_flag h
      | some value =>
        simp only [hattached] at h
        cases h
        exact .inl rfl

/-- Options by their letters that cannot be taken are a mistake, or ask. -/
theorem isMistake_of_letters {cs : Bytes} (h : r.letters cs = .error e) :
    e.isMistake = true ∨ Asks (saidByLetters cs).1 := by
  induction cs generalizing r with
  | nil => cases h
  | cons c more ih =>
    unfold letters at h
    unfold saidByLetters
    cases hswitch : Switch.ofLetter c with
    | none =>
      rw [hswitch] at h
      cases h
      exact .inl rfl
    | some s =>
      rw [hswitch] at h
      cases s with
      | parameter p => exact .inl (isMistake_of_parameter h)
      | flag f =>
        cases hflag : r.flag f with
        | error e' =>
          simp only [hflag] at h
          cases h
          exact (isMistake_of_flag hflag).imp_right fun hasks =>
            hasks.append_right (saidByLetters more).1
        | ok next =>
          simp only [hflag] at h
          exact (ih h).imp_right fun hasks => hasks.append_left [.raise f]

/-- An option that cannot be taken is a mistake, or asks. -/
theorem isMistake_of_option (h : r.literal = false) (hword : isWord a = false) (hne : a ≠ dashes)
    (herror : r.argument a = .error e) : e.isMistake = true ∨ Asks (said a).1 := by
  obtain ⟨body, harg, hsaid⟩ | ⟨cs, -, harg, hsaid⟩ := argument_long_or_letters h hword hne
  · rw [harg] at herror
    rw [hsaid]
    exact isMistake_of_long herror
  · rw [harg] at herror
    rw [hsaid]
    exact isMistake_of_letters herror

/-! ## All arguments -/

/-- Arguments are refused at the first one, or at one behind it. -/
theorem arguments_cons_eq_error : r.arguments (a :: more) = .error e ↔
    r.argument a = .error e ∨ ∃ r', r.argument a = .ok r' ∧ r'.arguments more = .error e := by
  rw [arguments]
  cases r.argument a <;> simp

/-- A word does not change whether options are still to come. -/
theorem literal_of_value (h : r.value a = .ok r') : r'.literal = r.literal := by
  unfold value at h
  split at h
  · cases h
    rfl
  · obtain ⟨_, -, -, rfl⟩ := positional_eq_ok.1 h
    rfl

/-- Words behind `--` that cannot be taken are a mistake. -/
theorem isMistake_of_words (h : r.literal = true) {words : List Bytes}
    (herror : r.arguments words = .error e) : e.isMistake = true := by
  induction words generalizing r with
  | nil => cases herror
  | cons a more ih =>
    obtain hone | ⟨r', hok, hmore⟩ := arguments_cons_eq_error.1 herror
    · rw [argument_literal h] at hone
      exact isMistake_of_positional hone
    · rw [argument_literal h] at hok
      obtain ⟨settled, -, -, rfl⟩ := positional_eq_ok.1 hok
      exact ih (r := ⟨settled, .named a, r.literal⟩) h hmore

section

variable {after : List Item}

/-- An option and what follows it are refused for a mistake or because they ask, if what follows
is. -/
theorem isMistake_of_option_cons (h : r.literal = false) (hword : isWord a = false)
    (hne : a ≠ dashes)
    (hmore : ∀ r' : Reading, r'.literal = false → r'.arguments more = .error e →
      e.isMistake = true ∨ Asks after)
    (herror : r.arguments (a :: more) = .error e) :
    e.isMistake = true ∨ Asks ((said a).1 ++ after) := by
  obtain hone | ⟨r', hok, hrest⟩ := arguments_cons_eq_error.1 herror
  · exact (isMistake_of_option h hword hne hone).imp_right fun hasks => hasks.append_right after
  · obtain ⟨settled, -, d, -, rfl⟩ := (argument_option h hword hne).1 hok
    have hasks := hmore ⟨d, .ofWaiting (said a).2, r.literal⟩ h hrest
    exact hasks.imp_right fun hasks => hasks.append_left (said a).1

/-- A word and what follows it are refused for a mistake or because they ask, if what follows is. -/
theorem isMistake_of_word_cons (h : r.literal = false) (hword : isWord a = true)
    (hmore : ∀ r' : Reading, r'.literal = false → r'.arguments more = .error e →
      e.isMistake = true ∨ Asks after)
    (herror : r.arguments (a :: more) = .error e) (i : Item) :
    e.isMistake = true ∨ Asks (i :: after) := by
  obtain hone | ⟨r', hok, hrest⟩ := arguments_cons_eq_error.1 herror
  · rw [argument_word h hword] at hone
    exact .inl (isMistake_of_value hone)
  · rw [argument_word h hword] at hok
    have hasks := hmore r' ((literal_of_value hok).trans h) hrest
    exact hasks.imp_right fun hasks => hasks.append_left [i]

end

/-- An error among the arguments is a mistake, unless they ask for help or the version. -/
theorem isMistake_of_arguments (h : r.literal = false) {args : List Bytes}
    (herror : r.arguments args = .error e) : e.isMistake = true ∨ Asks (items args) := by
  -- The reader may stop within a group; what the arguments behind it say is then left out.
  fun_induction cut args generalizing r with
  | case1 => cases herror
  | case2 more =>
    rw [arguments, argument_dashes h] at herror
    exact .inl (isMistake_of_words (r := { r with literal := true }) rfl herror)
  | case3 a hne hwaiting =>
    obtain ⟨p, hp⟩ := Option.isSome_iff_exists.1 hwaiting
    rw [items_lack hne hp (by simp)]
    refine isMistake_of_option_cons h (isWord_of_waits hwaiting) hne
      (fun r' h' herror' => ?_) herror
    cases herror'
  | case4 a hne hwaiting value rest hword ih =>
    obtain ⟨p, hp⟩ := Option.isSome_iff_exists.1 hwaiting
    rw [items_value hne hp hword]
    refine isMistake_of_option_cons h (isWord_of_waits hwaiting) hne
      (fun r' h' herror' => ?_) herror
    exact isMistake_of_word_cons h' hword (fun _ => ih) herror' (.give p value)
  | case5 a hne hwaiting value rest hword ih =>
    obtain ⟨p, hp⟩ := Option.isSome_iff_exists.1 hwaiting
    rw [items_lack hne hp (by simpa using hword)]
    refine isMistake_of_option_cons h (isWord_of_waits hwaiting) hne
      (fun r' h' herror' => ?_) herror
    exact (ih h' herror').imp_right fun hasks => hasks.append_left [.lack p]
  | case6 a more hne hwaiting ih =>
    rw [items_alone hne (by simpa using hwaiting)]
    cases hword : isWord a with
    | true =>
      rw [said_word hword]
      exact isMistake_of_word_cons h hword (fun _ => ih) herror (.name a)
    | false => exact isMistake_of_option_cons h hword hne (fun _ => ih) herror

end Reading

/-! ## The environment and the end -/

namespace Draft

variable {d : Draft} {env : Environment}

/-- What the environment gives and an option does not take is a mistake. -/
theorem isMistake_of_consult {p : Parameter} (h : d.consult env p = .error e) :
    e.isMistake = true := by
  unfold consult at h
  split at h
  · cases h
  · split at h
    · cases h
    · split at h
      · cases h
      · exact isMistake_of_give h

/-- What the environment gives and some option does not take is a mistake. -/
theorem isMistake_of_consultAll {ps : List Parameter} (h : d.consultAll env ps = .error e) :
    e.isMistake = true := by
  induction ps generalizing d with
  | nil => cases h
  | cons p more ih =>
    rw [consultAll] at h
    split at h
    · next hconsult =>
      cases h
      exact isMistake_of_consult hconsult
    · exact ih h

/-- A draft that cannot be finished is a mistake. -/
theorem isMistake_of_finish (h : d.finish = .error e) : e.isMistake = true := by
  unfold finish at h
  split at h
  · cases h
    rfl
  · split at h
    · cases h
      rfl
    · cases h

end Draft

/-- A command line that neither is accepted nor asks for help or the version has a mistake. -/
theorem isMistake_of_parse {env : Environment} {args : List Bytes} (h : parse env args = .error e) :
    e.isMistake = true ∨ Asks (items args) := by
  unfold parse at h
  split at h
  · next harguments =>
    cases h
    exact Reading.isMistake_of_arguments rfl harguments
  · split at h
    · next hsettle =>
      cases h
      exact .inl (Reading.isMistake_of_settle hsettle)
    · split at h
      · next hconsult =>
        cases h
        exact .inl (Draft.isMistake_of_consultAll hconsult)
      · exact .inl (Draft.isMistake_of_finish h)

end Shakedown.CommandLine

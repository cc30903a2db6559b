import Shakedown.Proofs.CommandLine.Settling

/-!
# Reading is settling

The reader of arguments keeps the last item pending, and checks on the way what it can. Where it
gets to the end it has settled the items of its arguments, in order and each of them; and if these
can be settled it gets to the end.

Main statement: `Reading.reads_iff`, by induction on the groups of the arguments.
-/

set_option autoImplicit false

namespace Shakedown.CommandLine

/-- What is pending, as items that are still to be settled. -/
def Pending.items : Pending → List Item
  | .nothing => []
  | .awaiting p => [.lack p]
  | .given p value => [.give p value]
  | .named value => [.name value]

/-- What is pending after items: the option that waits for its value, if there is one. -/
def Pending.ofWaiting : Option Parameter → Pending
  | none => .nothing
  | some p => .awaiting p

namespace Reading

/-- A name is pending only if there was none before. -/
def Sound (r : Reading) : Prop :=
  ∀ value, r.pending = .named value → r.draft.named = none

/-- Whether a reader gets through arguments to a draft. -/
def Reads (r : Reading) (args : List Bytes) (d : Draft) : Prop :=
  ∃ r', r.arguments args = .ok r' ∧ r'.settle = .ok d

variable {r r' : Reading} {d : Draft} {a : Bytes} {more : List Bytes}

/-- At the end a reader settles what is pending. -/
theorem reads_nil : r.Reads [] d ↔ r.settle = .ok d := by
  simp [Reads, arguments]

/-- A reader gets through arguments by the first one, and then through the others. -/
theorem reads_cons : r.Reads (a :: more) d ↔ ∃ r', r.argument a = .ok r' ∧ r'.Reads more d := by
  unfold Reads
  rw [arguments]
  cases r.argument a <;> simp

/-! ## What is pending -/

/-- To settle what is pending is to take it as items. -/
theorem Sound.settle_eq (h : r.Sound) :
    r.settle = .ok d ↔ r.draft.takeAll r.pending.items = .ok d := by
  unfold settle
  cases hpending : r.pending with
  | nothing => rfl
  | awaiting p => rw [Pending.items, Draft.takeAll_singleton]; rfl
  | given p value => rw [Pending.items, Draft.takeAll_singleton]; rfl
  | named value =>
    rw [Pending.items, Draft.takeAll_singleton, Draft.take, h value hpending]
    rfl

/-- What is pending and more items are taken by settling the one and taking the others. -/
theorem Sound.takeAll_append_eq_ok (h : r.Sound) {items : List Item} :
    r.draft.takeAll (r.pending.items ++ items) = .ok d ↔
      ∃ settled, r.settle = .ok settled ∧ settled.takeAll items = .ok d := by
  rw [Draft.takeAll_append_eq_ok]
  simp only [h.settle_eq]

/-- Once what is pending is settled, the draft says whether the compiler was named. -/
theorem isNamed_eq (h : r.settle = .ok d) : r.isNamed = d.named.isSome := by
  have hcompiler {d : Draft} : d.named.isSome = d.compiler.isSome := Option.isSome_map
  unfold settle at h
  unfold isNamed
  cases hpending : r.pending with
  | nothing =>
    rw [hpending] at h
    cases h
    rw [hcompiler, Bool.or_false]
  | awaiting p =>
    rw [hpending] at h
    cases h
  | given p value =>
    rw [hpending] at h
    simp only [Draft.giveOnce] at h
    split at h
    · cases h
    · rw [(Draft.places_of_give h).2.1, hcompiler, Bool.or_false]
  | named value =>
    rw [hpending] at h
    rw [(Draft.places_of_name h).2.1, Option.isSome_some, Bool.or_true]

/-! ## Single arguments -/

/-- A word becomes the pending name, once all else is settled and if there is none. -/
theorem positional_eq_ok : r.positional a = .ok r' ↔
    ∃ settled, r.settle = .ok settled ∧ settled.named = none ∧
      r' = ⟨settled, .named a, r.literal⟩ := by
  unfold positional
  cases hsettle : r.settle with
  | error e =>
    cases r.isNamed <;> simp [Except.map]
  | ok settled =>
    rw [isNamed_eq hsettle]
    cases hnamed : settled.named with
    | none => simp [Except.map, hnamed, eq_comm]
    | some value => simp [hnamed]

/-- An option without a value is raised once all else is settled. -/
theorem flag_eq_ok {f : Flag} : r.flag f = .ok r' ↔
    ∃ settled, r.settle = .ok settled ∧
      ∃ d, settled.take (.raise f) = .ok d ∧ r' = ⟨d, .nothing, r.literal⟩ := by
  unfold flag
  cases r.settle with
  | error e => simp
  | ok settled =>
    simp only [Except.ok.injEq, exists_eq_left', Draft.take]
    cases settled.raise f <;> simp [Except.map, eq_comm]

/-- An option without its value becomes pending once all else is settled. -/
theorem parameter_none_eq_ok {p : Parameter} : r.parameter p none = .ok r' ↔
    ∃ settled, r.settle = .ok settled ∧ r' = ⟨settled, .awaiting p, r.literal⟩ := by
  unfold parameter
  cases r.settle with
  | error e => simp
  | ok settled => simp [eq_comm]

/-- An option with its value is given once all else is settled. -/
theorem parameter_some_eq_ok {p : Parameter} {value : Bytes} :
    r.parameter p (some value) = .ok r' ↔
      ∃ settled, r.settle = .ok settled ∧
        ∃ d, settled.take (.give p value) = .ok d ∧ r' = ⟨d, .nothing, r.literal⟩ := by
  unfold parameter
  cases r.settle with
  | error e => simp
  | ok settled =>
    simp only [Except.ok.injEq, exists_eq_left', Draft.take]
    cases settled.giveOnce p value <;> simp [Except.map, eq_comm]

/-- Whether a reader comes by settling what is pending, and then items, to another reader, with an
option that waits for its value. -/
def Settles (r : Reading) (said : List Item × Option Parameter) (r' : Reading) : Prop :=
  ∃ settled, r.settle = .ok settled ∧
    ∃ d, settled.takeAll said.1 = .ok d ∧ r' = ⟨d, .ofWaiting said.2, r.literal⟩

/-- An option by its long name settles what it says. -/
theorem long_eq_ok {body : Bytes} : r.long body = .ok r' ↔ r.Settles (saidByName body) r' := by
  unfold long saidByName Settles
  cases Switch.ofLong (body.takeWhile (· ≠ equals)) with
  | none => simp [Draft.takeAll, Draft.take]
  | some s =>
    cases s with
    | flag f =>
      cases attached body with
      | none => simp only [flag_eq_ok, Draft.takeAll_singleton]; rfl
      | some value => simp [Draft.takeAll, Draft.take]
    | parameter p =>
      cases attached body with
      | none => simp [parameter_none_eq_ok, Draft.takeAll, Pending.ofWaiting]
      | some value => simp only [parameter_some_eq_ok, Draft.takeAll_singleton]; rfl

/-- Options by their letters settle what they say. -/
theorem letters_eq_ok {cs : Bytes} (h : cs ≠ [] ∨ r.pending = .nothing) :
    r.letters cs = .ok r' ↔ r.Settles (saidByLetters cs) r' := by
  -- The first letter settles what is pending; behind it nothing is, and the letters may end.
  induction cs generalizing r with
  | nil =>
    have hpending : r.pending = .nothing := h.resolve_left (by simp)
    obtain ⟨draft, pending, literal⟩ := r
    subst hpending
    simp [letters, saidByLetters, Settles, settle, Draft.takeAll, Pending.ofWaiting, eq_comm]
  | cons c more ih =>
    unfold letters saidByLetters Settles
    cases Switch.ofLetter c with
    | none => simp [Draft.takeAll, Draft.take]
    | some s =>
      cases s with
      | parameter p =>
        cases attachedToLetter more with
        | none => simp [parameter_none_eq_ok, Draft.takeAll, Pending.ofWaiting]
        | some value => simp only [parameter_some_eq_ok, Draft.takeAll_singleton]; rfl
      | flag f =>
        simp only [Draft.takeAll_cons_eq_ok]
        constructor
        · intro hletters
          cases hflag : r.flag f with
          | error e =>
            rw [hflag] at hletters
            cases hletters
          | ok next =>
            rw [hflag] at hletters
            obtain ⟨settled, hsettled, d, hd, rfl⟩ := flag_eq_ok.1 hflag
            obtain ⟨_, hsame, last, hlast, rfl⟩ := (ih (.inr rfl)).1 hletters
            cases hsame
            exact ⟨settled, hsettled, last, ⟨d, hd, hlast⟩, rfl⟩
        · rintro ⟨settled, hsettled, last, ⟨d, hd, hlast⟩, rfl⟩
          have hflag := flag_eq_ok.2 ⟨settled, hsettled, d, hd, rfl⟩
          rw [hflag]
          exact (ih (.inr rfl)).2 ⟨d, rfl, last, hlast, rfl⟩

/-- Behind `--` every argument is a word. -/
theorem argument_literal (h : r.literal = true) (a : Bytes) : r.argument a = r.positional a := by
  unfold argument
  rw [if_pos h]

/-- The first `--` makes all that follows words. -/
theorem argument_dashes (h : r.literal = false) :
    r.argument dashes = .ok { r with literal := true } := by
  simp [argument, h, dashes]

/-- A word is a value where one is pending, and else a name. -/
theorem argument_word (h : r.literal = false) (hword : isWord a = true) :
    r.argument a = r.value a := by
  unfold argument
  rw [if_neg (by simp [h])]
  unfold isWord at hword
  split at hword
  · cases hword
  · next hno =>
    split
    · exact absurd rfl (hno 0x2D [])
    · next body _ => exact absurd rfl (hno 0x2D body)
    · next c body _ _ => exact absurd rfl (hno c body)
    · rfl

/-- A word says a name. -/
theorem said_word (hword : isWord a = true) : said a = ([.name a], none) := by
  unfold isWord at hword
  unfold said
  split at hword
  · cases hword
  · next hno =>
    split
    · next body => exact absurd rfl (hno 0x2D body)
    · next c body _ => exact absurd rfl (hno c body)
    · rfl

/-- An argument that waits for a value is an option. -/
theorem isWord_of_waits (h : (said a).2.isSome = true) : isWord a = false := by
  cases hword : isWord a with
  | false => rfl
  | true =>
    rw [said_word hword] at h
    cases h

/-- An option is read by its long name or by its letters. -/
theorem argument_long_or_letters (h : r.literal = false) (hword : isWord a = false)
    (hne : a ≠ dashes) :
    (∃ body, r.argument a = r.long body ∧ said a = saidByName body) ∨
      ∃ cs, cs ≠ [] ∧ r.argument a = r.letters cs ∧ said a = saidByLetters cs := by
  unfold argument
  rw [if_neg (by simp [h])]
  unfold isWord at hword
  split at hword
  · next c body =>
    split
    · next heq => exact absurd heq hne
    · next body' _ heq =>
      cases heq
      exact .inl ⟨body, rfl, rfl⟩
    · next c' body' _ hdouble heq =>
      cases heq
      refine .inr ⟨c :: body, by simp, rfl, ?_⟩
      unfold said
      split
      · next heq =>
        cases heq
        exact (hdouble rfl).elim
      · next heq =>
        cases heq
        rfl
      · next hno => exact absurd rfl (hno c body)
    · next hno => exact absurd rfl (hno c body)
  · cases hword

/-- An option settles what it says. -/
theorem argument_option (h : r.literal = false) (hword : isWord a = false) (hne : a ≠ dashes) :
    r.argument a = .ok r' ↔ r.Settles (said a) r' := by
  obtain ⟨body, harg, hsaid⟩ | ⟨cs, hcs, harg, hsaid⟩ := argument_long_or_letters h hword hne
  · rw [harg, hsaid, long_eq_ok]
  · rw [harg, hsaid, letters_eq_ok (.inl hcs)]

/-! ## All arguments -/

/-- A reader gets through a word and what follows if a draft takes the name and what follows
says. -/
theorem reads_positional {its : List Item}
    (hmore : ∀ settled : Draft, settled.named = none →
      (Reads ⟨settled, .named a, r.literal⟩ more d ↔ settled.takeAll (.name a :: its) = .ok d)) :
    (∃ r', r.positional a = .ok r' ∧ r'.Reads more d) ↔
      ∃ settled, r.settle = .ok settled ∧ settled.takeAll (.name a :: its) = .ok d := by
  constructor
  · rintro ⟨r', hr', hreads⟩
    obtain ⟨settled, hsettled, hnone, rfl⟩ := positional_eq_ok.1 hr'
    exact ⟨settled, hsettled, (hmore settled hnone).1 hreads⟩
  · rintro ⟨settled, hsettled, htake⟩
    have hnone : settled.named = none := by
      cases hnamed : settled.named with
      | none => rfl
      | some value => simp [Draft.takeAll, Draft.take, hnamed] at htake
    exact ⟨_, positional_eq_ok.2 ⟨settled, hsettled, hnone, rfl⟩, (hmore settled hnone).2 htake⟩

/-- Behind `--` every argument names the compiler. -/
theorem reads_literal (h : r.literal = true) (hsound : r.Sound) (words : List Bytes) :
    r.Reads words d ↔ r.draft.takeAll (r.pending.items ++ words.map .name) = .ok d := by
  induction words generalizing r with
  | nil => rw [reads_nil, hsound.settle_eq, List.map_nil, List.append_nil]
  | cons a more ih =>
    rw [reads_cons, argument_literal h, hsound.takeAll_append_eq_ok, List.map_cons]
    refine reads_positional fun settled hnone => ?_
    exact ih (r := ⟨settled, .named a, r.literal⟩) h fun _ _ => hnone

/-- A reader gets through an option and what follows by settling what the option says. -/
theorem reads_option (h : r.literal = false) (hword : isWord a = false) (hne : a ≠ dashes) :
    r.Reads (a :: more) d ↔
      ∃ settled, r.settle = .ok settled ∧ ∃ d', settled.takeAll (said a).1 = .ok d' ∧
        Reads ⟨d', .ofWaiting (said a).2, r.literal⟩ more d := by
  rw [reads_cons]
  simp only [argument_option h hword hne]
  constructor
  · rintro ⟨r', ⟨settled, hsettled, d', hd', rfl⟩, hmore⟩
    exact ⟨settled, hsettled, d', hd', hmore⟩
  · rintro ⟨settled, hsettled, d', hd', hmore⟩
    exact ⟨_, ⟨settled, hsettled, d', hd', rfl⟩, hmore⟩

/-- If the arguments behind an option are read by settling what they say, so are all together. -/
theorem reads_option_iff (h : r.literal = false) (hsound : r.Sound) (hword : isWord a = false)
    (hne : a ≠ dashes) {its : List Item}
    (hmore : ∀ d', Reads ⟨d', .ofWaiting (said a).2, r.literal⟩ more d ↔ d'.takeAll its = .ok d) :
    r.Reads (a :: more) d ↔
      r.draft.takeAll (r.pending.items ++ ((said a).1 ++ its)) = .ok d := by
  rw [reads_option h hword hne, hsound.takeAll_append_eq_ok]
  simp only [hmore, Draft.takeAll_append_eq_ok]

/-! ## Options that wait in vain -/

section

variable {p : Parameter} {args : List Bytes}

/-- An option that waits for its value cannot be settled. -/
theorem settle_waiting (hpending : r.pending = .awaiting p) : r.settle ≠ .ok d := by
  unfold settle
  rw [hpending]
  nofun

/-- Behind `--` no option gets its value. -/
theorem not_reads_waiting_literal (hpending : r.pending = .awaiting p) (h : r.literal = true) :
    ¬r.Reads args d := by
  cases args with
  | nil =>
    rw [reads_nil]
    exact settle_waiting hpending
  | cons a more =>
    rw [reads_cons, argument_literal h]
    rintro ⟨r', hr', -⟩
    obtain ⟨settled, hsettled, -⟩ := positional_eq_ok.1 hr'
    exact settle_waiting hpending hsettled

/-- An option that waits for its value in vain is never settled. -/
theorem not_reads_waiting (hpending : r.pending = .awaiting p) (h : r.literal = false)
    (hnext : ∀ b ∈ args.head?, isWord b = false) : ¬r.Reads args d := by
  cases args with
  | nil =>
    rw [reads_nil]
    exact settle_waiting hpending
  | cons a more =>
    by_cases hne : a = dashes
    · rw [hne, reads_cons, argument_dashes h]
      rintro ⟨r', hr', hmore⟩
      obtain rfl := Except.ok.inj hr'
      exact not_reads_waiting_literal (r := { r with literal := true }) hpending rfl hmore
    · rw [reads_option h (hnext a rfl) hne]
      rintro ⟨settled, hsettled, -⟩
      exact settle_waiting hpending hsettled

/-- No draft takes an option without its value. -/
theorem not_takeAll_lack {its : List Item} {d d' : Draft} (h : .lack p ∈ its) :
    d.takeAll its ≠ .ok d' := by
  intro htake
  have hsound := (Draft.takeAll_eq_ok_iff.1 htake).isSound _ h
  cases hsound

/-- A group without the value that its option waits for is read in vain, and cannot be settled. -/
theorem reads_lack (h : r.literal = false) (hne : a ≠ dashes) (hwaits : (said a).2 = some p)
    (hnext : ∀ b ∈ more.head?, isWord b = false) :
    r.Reads (a :: more) d ↔ r.draft.takeAll (r.pending.items ++ items (a :: more)) = .ok d := by
  have hword : isWord a = false := isWord_of_waits (by simp [hwaits])
  have hlack : .lack p ∈ r.pending.items ++ items (a :: more) := by
    rw [items_lack hne hwaits hnext]
    simp
  refine iff_of_false ?_ (not_takeAll_lack hlack)
  rw [reads_option h hword hne]
  rintro ⟨settled, -, d', -, hmore⟩
  exact not_reads_waiting (r := ⟨d', .ofWaiting (said a).2, r.literal⟩) (by rw [hwaits]; rfl) h
    hnext hmore

end

/-! ## All arguments -/

/-- The reader gets through arguments exactly if what they say can be settled. -/
theorem reads_iff (h : r.literal = false) (hsound : r.Sound) (hwaits : ∀ p, r.pending ≠ .awaiting p)
    (args : List Bytes) :
    r.Reads args d ↔ r.draft.takeAll (r.pending.items ++ items args) = .ok d := by
  -- One group after the other. What the last one left pending is settled with the next one, so the
  -- induction is over readers with anything pending but an option that waits.
  fun_induction cut args generalizing r with
  | case1 => rw [reads_nil, hsound.settle_eq, items_nil, List.append_nil]
  | case2 more =>
    rw [reads_cons, argument_dashes h, items_dashes]
    simp only [Except.ok.injEq, exists_eq_left']
    exact reads_literal (r := { r with literal := true }) rfl hsound more
  | case3 a hne hwaiting =>
    obtain ⟨p, hp⟩ := Option.isSome_iff_exists.1 hwaiting
    exact reads_lack h hne hp (by simp)
  | case4 a hne hwaiting value rest hword ih =>
    obtain ⟨p, hp⟩ := Option.isSome_iff_exists.1 hwaiting
    rw [items_value hne hp hword]
    refine reads_option_iff h hsound (isWord_of_waits hwaiting) hne fun d' => ?_
    have hvalue : Reading.argument ⟨d', .awaiting p, r.literal⟩ value =
        .ok ⟨d', .given p value, r.literal⟩ := argument_word h hword
    rw [hp, Pending.ofWaiting, reads_cons, hvalue]
    simp only [Except.ok.injEq, exists_eq_left']
    exact ih (r := ⟨d', .given p value, r.literal⟩) h (fun _ hnamed => by cases hnamed)
      (fun _ hawaiting => by cases hawaiting)
  | case5 a hne hwaiting value rest hword ih =>
    obtain ⟨p, hp⟩ := Option.isSome_iff_exists.1 hwaiting
    exact reads_lack h hne hp (by simpa using hword)
  | case6 a more hne hwaiting ih =>
    have hnone : (said a).2 = none := by simpa using hwaiting
    cases hword : isWord a with
    | true =>
      rw [reads_cons, argument_word h hword, items_alone hne hnone, said_word hword,
        hsound.takeAll_append_eq_ok]
      have hvalue : r.value a = r.positional a := by
        unfold value
        split
        · next p hpending => exact absurd hpending (hwaits p)
        · rfl
      rw [hvalue]
      exact reads_positional fun settled hsettled =>
        ih (r := ⟨settled, .named a, r.literal⟩) h (fun _ _ => hsettled)
          (fun _ hawaiting => by cases hawaiting)
    | false =>
      rw [items_alone hne hnone]
      refine reads_option_iff h hsound hword hne fun d' => ?_
      rw [hnone]
      exact ih (r := ⟨d', .nothing, r.literal⟩) h (fun _ hnamed => by cases hnamed)
        (fun _ hawaiting => by cases hawaiting)

end Reading

end Shakedown.CommandLine

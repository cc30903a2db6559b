import Shakedown.Proofs.Text.Part
import Shakedown.Shell.Expansion

/-!
# What words come to

A value without quotes is split as its separators say: at blanks into what stands between them, and
at another character into the parts that it ends. In quotes it stays one argument, and all arguments
in quotes are the arguments again, whatever they hold.
-/

set_option autoImplicit false

namespace Shakedown.Shell

variable {s : Shell} {separators : Chars}

/-! ## Values without quotes -/

/-- A character of a value that is no separator goes on with the field that was begun. -/
theorem feed_soft {c : Char} (hc : c ∉ separators) (split : Splitter) :
    split.feed separators (.soft c) = split.push (Splitter.letter c) := by
  simp [Splitter.feed, hc]

/-- Where all separators are blanks, a value that goes on is split into the words of what was begun
and what follows. -/
theorem finish_foldl_blanks (hblank : ∀ c ∈ separators, c ∈ usualSeparators) (value : Chars)
    (fields : List (List Letter)) :
    (∀ behindBlank, ((value.map Mark.soft).foldl (Splitter.feed separators)
        { fields, begun := none, behindBlank }).finish =
      fields.reverse ++ (Chars.fields separators.contains value).map (·.map Splitter.letter)) ∧
    ∀ word, word ≠ [] → (∀ c ∈ word, c ∉ separators) →
      ((value.map Mark.soft).foldl (Splitter.feed separators)
          { fields, begun := some (word.map Splitter.letter).reverse }).finish =
        fields.reverse ++
          (Chars.fields separators.contains (word ++ value)).map (·.map Splitter.letter) := by
  induction value generalizing fields with
  | nil =>
    refine ⟨fun behindBlank => ?_, fun word hne hword => ?_⟩
    · simp [Splitter.finish, Chars.fields]
    · have hfields : Chars.fields separators.contains word = [word] :=
        Chars.fields_of_forall_not hne (by simpa using hword)
      simp [Splitter.finish, hfields]
  | cons c value ih =>
    by_cases hc : c ∈ separators
    · have hgap : separators.contains c := by simpa using hc
      have hfeed (split : Splitter) : split.feed separators (.soft c) = split.blank := by
        have hall : c ∈ usualSeparators := hblank c hc
        simp [Splitter.feed, hc, hall]
      refine ⟨fun behindBlank => ?_, fun word hne hword => ?_⟩
      · rw [List.map_cons, List.foldl_cons, hfeed, Chars.fields_gap_cons hgap]
        simpa [Splitter.blank] using (ih fields).1 behindBlank
      · rw [List.map_cons, List.foldl_cons, hfeed,
          Chars.fields_append_gap hne (by simpa using hword) hgap, Chars.fields_gap_cons hgap]
        have hclosed := (ih ((word.map Splitter.letter) :: fields)).1 true
        simpa [Splitter.blank, Splitter.close] using hclosed
    · refine ⟨fun behindBlank => ?_, fun word hne hword => ?_⟩
      · rw [List.map_cons, List.foldl_cons, feed_soft hc]
        simpa [Splitter.push] using (ih fields).2 [c] (by simp) (by simpa using hc)
      · rw [List.map_cons, List.foldl_cons, feed_soft hc]
        have hopen := (ih fields).2 (word ++ [c]) (by simp) (by
          intro d hd
          rcases List.mem_append.1 hd with hd | hd
          · exact hword d hd
          · obtain rfl := List.mem_singleton.1 hd
            exact hc)
        simpa [Splitter.push] using hopen

/-- Where the only separator is no blank, a value that goes on is split into the parts that it ends,
the first one of which was begun. -/
theorem finish_foldl_ends {ending : Char} (hending : ending ∉ usualSeparators) (value : Chars)
    (fields : List (List Letter)) :
    ((value.map Mark.soft).foldl (Splitter.feed [ending]) { fields, begun := none }).finish =
      fields.reverse ++ (Chars.records ending value).map (·.map Splitter.letter) ∧
    ∀ word, word ≠ [] → ending ∉ word →
      ((value.map Mark.soft).foldl (Splitter.feed [ending])
          { fields, begun := some (word.map Splitter.letter).reverse }).finish =
        fields.reverse ++ (Chars.records ending (word ++ value)).map (·.map Splitter.letter) := by
  induction value generalizing fields with
  | nil =>
    refine ⟨by simp [Splitter.finish, Chars.records], fun word hne hword => ?_⟩
    have hrecords : Chars.records ending word = [word] := by
      simpa [hne] using Chars.records_flatMap_append (List.forall_mem_nil _) hword
    simp [Splitter.finish, hrecords]
  | cons c value ih =>
    by_cases hc : c = ending
    · subst hc
      have hfeed (split : Splitter) : split.feed [c] (.soft c) = split.separate := by
        simp [Splitter.feed, hending]
      refine ⟨?_, fun word hne hword => ?_⟩
      · have hfirst := Chars.records_append_cons (List.not_mem_nil (a := c)) value
        rw [List.map_cons, List.foldl_cons, hfeed, ← List.nil_append (c :: value), hfirst]
        simpa [Splitter.separate, Splitter.close] using (ih ([] :: fields)).1
      · rw [List.map_cons, List.foldl_cons, hfeed, Chars.records_append_cons hword]
        have hclosed := (ih (word.map Splitter.letter :: fields)).1
        simpa [Splitter.separate, Splitter.close] using hclosed
    · have hsoft : c ∉ [ending] := by simpa using hc
      refine ⟨?_, fun word hne hword => ?_⟩
      · rw [List.map_cons, List.foldl_cons, feed_soft hsoft]
        simpa [Splitter.push] using (ih fields).2 [c] (by simp) (by simpa using Ne.symm hc)
      · rw [List.map_cons, List.foldl_cons, feed_soft hsoft]
        have hlonger : ending ∉ word ++ [c] := by simpa using ⟨hword, Ne.symm hc⟩
        have hopen := (ih fields).2 (word ++ [c]) (by simp) hlonger
        simpa [Splitter.push] using hopen

/-- A value is split into its words where all separators are blanks. -/
theorem fields_value_blanks (hblank : ∀ c ∈ separators, c ∈ usualSeparators) (value : Chars) :
    Mark.fields separators (valueMarks false value) =
      (Chars.fields separators.contains value).map (·.map Splitter.letter) :=
  (finish_foldl_blanks hblank value []).1 false

/-- A value is split into the parts that the separator ends where this is no blank. -/
theorem fields_value_ends {ending : Char} (hending : ending ∉ usualSeparators) (value : Chars) :
    Mark.fields [ending] (valueMarks false value) =
      (Chars.records ending value).map (·.map Splitter.letter) :=
  (finish_foldl_ends hending value []).1

/-! ## Values in quotes -/

/-- Characters in quotes go on with the field that was begun. -/
theorem foldl_solid (value : Chars) (fields : List (List Letter)) (begun : List Letter) :
    (value.map Mark.solid).foldl (Splitter.feed separators) { fields, begun := some begun } =
      { fields, begun := some ((value.map (·, true)).reverse ++ begun) } := by
  induction value generalizing begun with
  | nil => rfl
  | cons c value ih =>
    rw [List.map_cons, List.foldl_cons]
    exact (ih _).trans (by simp)

/-- Arguments in quotes with boundaries between them are the arguments. -/
theorem finish_foldl_cuts (arg : Chars) (others : List Chars) (fields : List (List Letter)) :
    (([Mark.cut].intercalate ((arg :: others).map (·.map Mark.solid))).foldl
        (Splitter.feed separators) { fields, begun := some [] }).finish =
      fields.reverse ++ (arg :: others).map (·.map (·, true)) := by
  induction others generalizing arg fields with
  | nil => simp [foldl_solid, Splitter.finish]
  | cons next others ih =>
    rw [List.map_cons, List.map_cons, List.intercalate_cons_cons, List.foldl_append,
      List.foldl_append, foldl_solid]
    have hnext := ih next (arg.map (·, true) :: fields)
    simpa [Splitter.feed, Splitter.close] using hnext

/-- Letters in quotes stand for themselves, whatever files there are. -/
theorem fileNames_quoted (value : Chars) : fileNames s (value.map (·, true)) = [value] := by
  have hactive : Pattern.isActive (value.map (·, true)) = false := by
    simp [Pattern.isActive, Pattern.isPlain]
  simp [fileNames, hactive, Function.comp_def]

/-! ## Words -/

/-- What is done after something that did not end the shell goes on from where that left it. -/
theorem bind_of_ok {α β : Type} {a : Sh α} {x : α} {s' : Shell} (f : α → Sh β)
    (h : a s = (.ok x, s')) : (a >>= f) s = f x s' := by
  change ExceptT.bindCont f (a s).1 (a s).2 = _
  rw [h]
  rfl

/-- A parameter that has a value, or is not demanded to have one, is no mistake. -/
theorem demandSet_eq {name : Chars} (h : (valueOf s name).isSome ∨ s.has unsetOption = false) :
    demandSet name s = (.ok (), s) := by
  have hfine : (s.has unsetOption && (valueOf s name).isNone) = false := by
    cases hvalue : valueOf s name <;> simp_all
  have hget : (get : Sh Shell) s = (.ok s, s) := rfl
  rw [demandSet, bind_of_ok _ hget, hfine]
  rfl

/-- A parameter that is no mistake stands for its value. -/
theorem expandParameter_value (nested : Expander) {mode : Mode} {name : Chars} {inQuotes : Bool}
    (h : (valueOf s name).isSome ∨ s.has unsetOption = false) :
    expandParameter nested mode name .value false [] inQuotes s =
      (.ok (parameterMarks s mode name inQuotes), s) := by
  have hget : (get : Sh Shell) s = (.ok s, s) := rfl
  rw [expandParameter, bind_of_ok _ hget]
  exact bind_of_ok _ (demandSet_eq h)

/-- What is done to each of several things and changes nothing leaves all results. -/
theorem mapM_of_forall₂ {α β : Type} {f : α → Sh β} {l : List α} {results : List β}
    (h : List.Forall₂ (fun x y => f x s = (.ok y, s)) l results) :
    l.mapM f s = (.ok results, s) := by
  induction h with
  | nil => rfl
  | cons hx _ ih =>
    rw [List.mapM_cons, bind_of_ok _ hx, bind_of_ok _ ih]
    rfl

/-- A word whose pieces change nothing comes to the marks of its pieces. -/
theorem expand_of_forall₂ {capture : Command → Sh Chars} {mode : Mode} {word pieces : List Piece}
    {marks : List (List Mark)}
    (hpieces : withoutArgumentMarks false (expandTildes s mode word) = pieces)
    (h : List.Forall₂ (fun piece m =>
      ∀ nested, expandPiece capture nested mode piece s = (.ok m, s)) pieces marks) :
    expand capture mode word s = (.ok marks.flatten, s) := by
  have hget : (get : Sh Shell) s = (.ok s, s) := rfl
  change expandWithin capture (199 + 1) mode word s = _
  rw [expandWithin, bind_of_ok _ hget, hpieces,
    bind_of_ok _ (mapM_of_forall₂ (h.imp fun piece m hpiece => hpiece _))]
  rfl

/-- A word that comes to marks stands for the arguments that these are. -/
theorem expandArguments_of_expand {capture : Command → Sh Chars} {word : List Piece}
    {marks : List Mark} (h : expand capture Mode.arguments word s = (.ok marks, s)) :
    expandArguments capture word s =
      (.ok ((Mark.fields (Shell.separators s) marks).flatMap (fileNames s)), s) := by
  have hget : (get : Sh Shell) s = (.ok s, s) := rfl
  rw [expandArguments, bind_of_ok _ h, bind_of_ok _ hget]
  rfl

/-- All arguments in quotes are the arguments, whatever is in them and whatever separates fields. -/
theorem expandArguments_all (capture : Command → Sh Chars) (s : Shell) :
    expandArguments capture [.mark, .parameter ['@'] .value false [] true, .mark] s =
      (.ok s.args, s) := by
  have hexpand : expand capture Mode.arguments
      [.mark, .parameter ['@'] .value false [] true, .mark] s =
        (.ok (argumentMarks s Mode.arguments ['@'] true), s) := by
    have hpiece : ∀ nested, expandPiece capture nested Mode.arguments
        (.parameter ['@'] .value false [] true) s =
          (.ok (argumentMarks s Mode.arguments ['@'] true), s) :=
      fun nested => expandParameter_value nested (.inl rfl)
    have hpieces : withoutArgumentMarks false (expandTildes s Mode.arguments
        [.mark, .parameter ['@'] .value false [] true, .mark]) =
          [.parameter ['@'] .value false [] true] := rfl
    simpa using expand_of_forall₂ hpieces (.cons hpiece .nil)
  rw [expandArguments_of_expand hexpand]
  cases hargs : s.args with
  | nil => simp [argumentMarks, Mode.arguments, hargs, Mark.fields, Splitter.finish]
  | cons arg others =>
    have hmarks : argumentMarks s Mode.arguments ['@'] true =
        .presence :: [Mark.cut].intercalate ((arg :: others).map (·.map .solid)) := by
      simp [argumentMarks, Mode.arguments, hargs]
    have hfields : Mark.fields (Shell.separators s) (argumentMarks s Mode.arguments ['@'] true) =
        (arg :: others).map (·.map (·, true)) := by
      rw [hmarks]
      exact finish_foldl_cuts arg others []
    rw [hfields, List.flatMap_map]
    simp only [fileNames_quoted, List.flatMap_singleton']

section Parameter

variable {name : Chars} (hname : isArgumentList name = false)
  (hset : (parameterValue s name).isSome ∨ s.has unsetOption = false)

include hname hset

/-- A parameter that is not all arguments comes to the marks of its value. -/
theorem expandPiece_parameter (capture : Command → Sh Chars) (nested : Expander) (mode : Mode)
    (inQuotes : Bool) :
    expandPiece capture nested mode (.parameter name .value false [] inQuotes) s =
      (.ok (valueMarks inQuotes ((parameterValue s name).getD [])), s) := by
  have hvalue : valueOf s name = parameterValue s name := by simp [valueOf, hname]
  have hmarks : parameterMarks s mode name inQuotes =
      valueMarks inQuotes ((parameterValue s name).getD []) := by simp [parameterMarks, hname]
  rw [← hmarks]
  exact expandParameter_value nested (hvalue ▸ hset)

/-- A parameter in quotes is one argument, whatever is in it, and even if it is empty. -/
theorem expandArguments_quoted (capture : Command → Sh Chars) :
    expandArguments capture [.mark, .parameter name .value false [] true, .mark] s =
      (.ok [(parameterValue s name).getD []], s) := by
  have hpieces : withoutArgumentMarks false (expandTildes s Mode.arguments
      [.mark, .parameter name .value false [] true, .mark]) =
        [.mark, .parameter name .value false [] true, .mark] := by
    have hall : name ≠ ['@'] := by
      rintro rfl
      exact absurd hname (by decide)
    change withoutArgumentMarks false [.mark, .parameter name .value false [] true, .mark] = _
    simp [withoutArgumentMarks, hall]
  have hmark : ∀ nested, expandPiece capture nested Mode.arguments .mark s =
      (.ok [.presence], s) := fun _ => rfl
  have hvalue := fun nested => expandPiece_parameter hname hset capture nested Mode.arguments true
  have hexpand := expand_of_forall₂ hpieces (.cons hmark (.cons hvalue (.cons hmark .nil)))
  have hfields : Mark.fields (Shell.separators s)
      [[.presence], valueMarks true ((parameterValue s name).getD []), [.presence]].flatten =
        [((parameterValue s name).getD []).map (·, true)] := by
    have hbegun : [Mark.presence].foldl (Splitter.feed (Shell.separators s)) {} =
        { fields := [], begun := some [] } := rfl
    rw [Mark.fields, valueMarks, if_pos rfl, List.flatten_cons, List.flatten_cons,
      List.flatten_singleton, List.foldl_append, List.foldl_append, hbegun, foldl_solid]
    simp [Splitter.feed, Splitter.finish]
  rw [expandArguments_of_expand hexpand, hfields, List.flatMap_singleton, fileNames_quoted]

/-- A parameter without quotes stands for the words in it where these are told apart by blanks and
are no patterns. -/
theorem expandArguments_unquoted (capture : Command → Sh Chars)
    (hblank : ∀ c ∈ Shell.separators s, c ∈ usualSeparators) (hplain : s.has noPatternsOption) :
    expandArguments capture [.parameter name .value false [] false] s =
      (.ok (Chars.fields (Shell.separators s).contains ((parameterValue s name).getD [])), s) := by
  have hpieces : withoutArgumentMarks false (expandTildes s Mode.arguments
      [.parameter name .value false [] false]) = [.parameter name .value false [] false] := rfl
  have hvalue := fun nested => expandPiece_parameter hname hset capture nested Mode.arguments false
  have hexpand := expand_of_forall₂ hpieces (.cons hvalue .nil)
  have hnames (word : Chars) : fileNames s (word.map Splitter.letter) = [word] := by
    simp [fileNames, hplain, Splitter.letter, Function.comp_def]
  rw [expandArguments_of_expand hexpand, List.flatten_singleton, fields_value_blanks hblank,
    List.flatMap_map]
  simp only [hnames, List.flatMap_singleton']

end Parameter

end Shakedown.Shell

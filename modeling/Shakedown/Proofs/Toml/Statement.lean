import Shakedown.Proofs.Toml.Text
import Shakedown.Toml.Statement

/-!
# Written lines are read as statements

`Spells` says which statements a text holds, with one lemma for each kind of written line: an empty
line, a key with its value, and a header. What follows a line is arbitrary, so the statements of a
document are found from its last line to its first.
-/

set_option autoImplicit false

namespace Shakedown.Toml

/-! ## Values -/

/-- Whether what is written is read as a value up to the end of its line. -/
structure WritesValue (written : List Char) (v : Value) : Prop where
  /-- It starts with no white space. -/
  start : ∀ rest, skipGaps (written ++ '\n' :: rest) = written ++ '\n' :: rest
  /-- It is read as the value. -/
  read : ∀ rest, value nestingLimit (written ++ '\n' :: rest) = some (v, '\n' :: rest)

/-- A written text starts with a quote. -/
theorem writeText_eq_cons (s : String) :
    ∃ c more, writeText s = c :: more ∧ (c = '"' ∨ c = '\'') := by
  unfold writeText Quoting.write
  cases Quoting.of s.toList with
  | basic => exact ⟨_, _, rfl, .inl rfl⟩
  | literal => exact ⟨_, _, rfl, .inr rfl⟩
  | basicLines => exact ⟨_, _, rfl, .inl rfl⟩
  | literalLines => exact ⟨_, _, rfl, .inr rfl⟩

/-- A text is written as a value that is read as the text. -/
theorem writesValue_text (s : String) : WritesValue (writeText s) (.text s) := by
  obtain ⟨c, more, hwritten, hc⟩ := writeText_eq_cons s
  have hread := quotedText_writeText s
  rw [hwritten] at hread ⊢
  refine ⟨fun rest => ?_, fun rest => ?_⟩
  · rcases hc with rfl | rfl <;> rfl
  · have hflat : flatValue (c :: more ++ '\n' :: rest) = some (.text s, '\n' :: rest) := by
      rw [flatValue, if_pos (by simpa using hc), hread]
      simp
    rcases hc with rfl | rfl <;> exact hflat

/-- A truth value is written as a value that is read as the truth value. -/
theorem writesValue_bool (b : Bool) : WritesValue (writeBool b) (.boolean b) := by
  cases b <;> exact ⟨fun _ => rfl, fun _ => rfl⟩

/-- The empty list is written as a value that is read as the empty list. -/
theorem writesValue_empty : WritesValue ['[', ']'] (.list []) :=
  ⟨fun _ => rfl, fun _ => rfl⟩

/-! ## Keys -/

/-- Whether a key is written without quotes. -/
def IsBare (key : String) : Prop :=
  key.toList ≠ [] ∧ ∀ c ∈ key.toList, isKeyChar c = true

instance (key : String) : Decidable (IsBare key) :=
  decidable_of_iff (key.toList ≠ [] ∧ key.toList.all isKeyChar = true) (by simp [IsBare])

/-- A key without quotes starts with a letter of keys. -/
theorem IsBare.eq_cons {key : String} (h : IsBare key) :
    ∃ c more, key.toList = c :: more ∧ isKeyChar c = true := by
  obtain ⟨c, more, hc⟩ := List.exists_cons_of_ne_nil h.1
  exact ⟨c, more, hc, h.2 c (by simp [hc])⟩

/-- A bare key ends where a character stands that is no part of one. -/
theorem IsBare.simpleKey_append {key : String} (h : IsBare key) {d : Char}
    (hd : isKeyChar d = false) (rest : List Char) :
    simpleKey (key.toList ++ d :: rest) = some (key, d :: rest) := by
  obtain ⟨c, more, hkey, hc⟩ := h.eq_cons
  -- A quoted key starts with its quote, which is no letter of a bare one.
  have hother (e : Char) (he : isKeyChar e = false) (r : List Char) :
      key.toList ++ d :: rest ≠ e :: r := by
    rw [hkey]
    rintro ⟨⟩
    simp [hc] at he
  have htake : (key.toList ++ d :: rest).takeWhile isKeyChar = key.toList := by
    rw [List.takeWhile_append_of_pos h.2]
    simp [hd]
  have hdrop : (key.toList ++ d :: rest).dropWhile isKeyChar = d :: rest := by
    rw [List.dropWhile_append_of_pos h.2]
    simp [hd]
  rw [simpleKey.eq_3 _ (hother '"' rfl) (hother '\'' rfl), htake, hdrop]
  have hname : String.ofList key.toList = key := String.ofList_toList
  rw [hkey] at hname ⊢
  exact congrArg (fun name => some (name, d :: rest)) hname

/-- A bare key in front of its value has one part. -/
theorem IsBare.dottedKey_append {key : String} (h : IsBare key) (rest : List Char) :
    dottedKey nestingLimit (key.toList ++ ' ' :: '=' :: rest) = some ([key], '=' :: rest) := by
  obtain ⟨c, more, hkey, hc⟩ := h.eq_cons
  have hgap : isGap c = false := by
    simp only [isGap, Bool.or_eq_false_iff, decide_eq_false_iff_not]
    refine ⟨?_, ?_⟩ <;> (rintro rfl; cases hc)
  have hskip : skipGaps (key.toList ++ ' ' :: '=' :: rest) = key.toList ++ ' ' :: '=' :: rest := by
    rw [hkey]
    simp [skipGaps, hgap]
  rw [nestingLimit, dottedKey, hskip, h.simpleKey_append rfl]
  rfl

/-! ## Lines -/

/-- Whether a text is read as statements. It is, once the fuel is more than the text is long. -/
def Spells (s : List Char) (lines : List Statement) : Prop :=
  ∀ fuel, s.length < fuel → statements fuel s = some lines

namespace Spells

variable {rest : List Char} {lines : List Statement}

/-- No text spells no statements. -/
theorem nil : Spells [] [] := by
  intro fuel hfuel
  cases fuel with
  | zero => omega
  | succ fuel => rfl

/-- An empty line holds no statement. -/
theorem emptyLine (h : Spells rest lines) : Spells ('\n' :: rest) lines := by
  intro fuel hfuel
  cases fuel with
  | zero => omega
  | succ fuel => exact h fuel (by simpa using hfuel)

/-- A line with a statement comes first. -/
theorem line (h : Spells rest lines) {c : Char} {w : List Char} {first : Statement}
    (hgap : isGap c = false) (hidle : isIdle [c] = false)
    (hfirst : statement (c :: w ++ '\n' :: rest) = some (first, '\n' :: rest)) :
    Spells (c :: w ++ '\n' :: rest) (first :: lines) := by
  intro fuel hfuel
  have hskip : skipGaps (c :: w ++ '\n' :: rest) = c :: w ++ '\n' :: rest := by
    simp [skipGaps, hgap]
  have hend : lineEnd ('\n' :: rest) = some rest := rfl
  cases fuel with
  | zero => omega
  | succ fuel =>
    have hmore : statements fuel rest = some lines := h fuel (by simp at hfuel; omega)
    rw [statements, hskip]
    change (if isIdle [c] then _ else _) = _
    simp only [hidle, hfirst, hend, hmore, Bool.false_eq_true, if_false]

/-- A key with its value. -/
theorem assign (h : Spells rest lines) {key : String} (hkey : IsBare key) {written : List Char}
    {v : Value} (hv : WritesValue written v) :
    Spells (assignLine key written ++ rest) (.assign [key] v :: lines) := by
  have hpair : pair (value nestingLimit)
      (key.toList ++ ' ' :: '=' :: ' ' :: (written ++ '\n' :: rest)) =
        some (([key], v), '\n' :: rest) := by
    have hskip : skipGaps (' ' :: (written ++ '\n' :: rest)) = written ++ '\n' :: rest :=
      hv.start rest
    simp only [pair, hkey.dottedKey_append, hskip, hv.read]
  obtain ⟨c, more, hcons, hc⟩ := hkey.eq_cons
  have hne (e : Char) (he : isKeyChar e = false) : c ≠ e := by
    rintro rfl
    simp [hc] at he
  have hstatement : statement (c :: (more ++ ' ' :: '=' :: ' ' :: written) ++ '\n' :: rest) =
      some (.assign [key] v, '\n' :: rest) := by
    rw [hcons] at hpair
    rw [List.cons_append, statement.eq_3 _ (fun r heq => hne '[' rfl (List.cons.inj heq).1)
      fun r heq => hne '[' rfl (List.cons.inj heq).1]
    simpa using hpair
  have hline := h.line (by simp [isGap, hne ' ' rfl, hne '\t' rfl])
    (by simp [isIdle, hne '#' rfl, hne '\n' rfl, hne '\r' rfl]) hstatement
  simpa [assignLine, hcons] using hline

/-- The header of a module's flags spells its statement. -/
theorem header (h : Spells rest lines) :
    Spells (headerLine "[modules.flags]" ++ rest) (.header ["modules", "flags"] :: lines) := by
  have hstatement : statement ('[' :: "modules.flags]".toList ++ '\n' :: rest) =
      some (.header ["modules", "flags"], '\n' :: rest) := rfl
  exact (h.line rfl rfl hstatement).emptyLine

/-- The header of a module spells its statement. -/
theorem element (h : Spells rest lines) :
    Spells (headerLine "[[modules]]" ++ rest) (.element ["modules"] :: lines) := by
  have hstatement : statement ('[' :: "[modules]]".toList ++ '\n' :: rest) =
      some (.element ["modules"], '\n' :: rest) := rfl
  exact (h.line rfl rfl hstatement).emptyLine

end Spells

end Shakedown.Toml

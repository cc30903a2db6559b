import Mathlib.Data.List.TakeDrop
import Mathlib.Tactic.ByContra
import Shakedown.Json.Token
import Shakedown.Json.Value

/-!
# The lexemes of a written document

Both layouts of a document have the same lexemes: they differ in white space only, and white space
between lexemes does not count. `Lexes` says what the lexemes of a text are, one constructor-like
lemma for each way in which the lexer goes on; `lexes_compact` and `lexes_pretty` follow the two
writers.

A number is the one lexeme that does not end by itself, so whatever is written behind it must not
go on with it (`EndsNumber`).
-/

set_option autoImplicit false

namespace Shakedown

namespace Json

/-- The parts of a written integer. -/
def integerParts (n : Int) : NumberParts :=
  ⟨n < 0, Nat.toDigits 10 n.natAbs, none, none⟩

/-- The number as which an integer is read. -/
def Number.ofInt (n : Int) : Number :=
  (integerParts n).value

namespace Value

mutual

/-- The lexemes of a document. -/
def lexemes : Value → List Token
  | .null => [.scalar .null]
  | .bool b => [.scalar (.bool b)]
  | .int n => [.scalar (.number (.ofInt n))]
  | .text s => [.scalar (.text (some s))]
  | .list [] => [.listStart, .listEnd]
  | .list (v :: more) => .listStart :: (lexemes v ++ itemLexemes more)
  | .object [] => [.objectStart, .objectEnd]
  | .object ((key, v) :: more) =>
    .objectStart :: .scalar (.text (some key)) :: .colon :: (lexemes v ++ fieldLexemes more)

/-- The lexemes of further items and the end of a list. -/
def itemLexemes : List Value → List Token
  | [] => [.listEnd]
  | v :: more => .comma :: (lexemes v ++ itemLexemes more)

/-- The lexemes of further fields and the end of an object. -/
def fieldLexemes : List (String × Value) → List Token
  | [] => [.objectEnd]
  | (key, v) :: more =>
    .comma :: .scalar (.text (some key)) :: .colon :: (lexemes v ++ fieldLexemes more)

end

end Value

/-! ## Texts -/

/-- Whether the inside of a written text is read as `cs`, and `rest` follows its closing quote. -/
def ReadsText (s cs rest : List Char) : Prop :=
  ∃ pieces, takePieces s = some (pieces, rest) ∧ joinPieces pieces = some cs

/-- The four hexadecimal digits of a control character are read as its number. -/
theorem hexUnit?_digitChar : ∀ n < 0x20, hexUnit? (Nat.digitChar (n / 4096 % 16))
    (Nat.digitChar (n / 256 % 16)) (Nat.digitChar (n / 16 % 16)) (Nat.digitChar (n % 16)) =
      some n := by
  decide

namespace ReadsText

variable {s cs rest : List Char}

/-- An escape by a letter is read as the character that the letter stands for. -/
theorem named (h : ReadsText s cs rest) {e c : Char} (he : escaped? e = some c) (hu : e ≠ 'u') :
    ReadsText ('\\' :: e :: s) (c :: cs) rest := by
  obtain ⟨pieces, htake, hjoin⟩ := h
  refine ⟨.char c :: pieces, ?_, by simp [joinPieces, hjoin]⟩
  rw [takePieces.eq_4 e s fun _ _ _ _ _ h _ => hu h, he]
  simp [Piece.before, htake]

/-- An escape of four digits is read as the character with that number. -/
theorem coded (h : ReadsText s cs rest) {c : Char} (hc : c.toNat < 0x20) :
    ReadsText ('\\' :: 'u' :: (hex4 c.toNat ++ s)) (c :: cs) rest := by
  obtain ⟨pieces, htake, hjoin⟩ := h
  -- A number below `0x20` is no half of a pair, so it is a character by itself.
  have hhigh : isHighSurrogate c.toNat = false := by simp [isHighSurrogate]; omega
  have hlow : isLowSurrogate c.toNat = false := by simp [isLowSurrogate]; omega
  refine ⟨.unit c.toNat :: pieces, ?_, ?_⟩
  · simp only [hex4, List.map_cons, List.map_nil, List.cons_append, List.nil_append]
    rw [takePieces.eq_3, hexUnit?_digitChar c.toNat hc]
    simp [Piece.before, htake]
  · rw [joinPieces.eq_def]
    simp [hhigh, hlow, hjoin, Char.ofNat_toNat]

/-- A character that needs no escape is read as itself. -/
theorem plain (h : ReadsText s cs rest) {c : Char} (hquote : c ≠ '"') (hslash : c ≠ '\\')
    (hc : ¬c.toNat < 0x20) : ReadsText (c :: s) (c :: cs) rest := by
  obtain ⟨pieces, htake, hjoin⟩ := h
  refine ⟨.char c :: pieces, ?_, by simp [joinPieces, hjoin]⟩
  rw [takePieces.eq_5 c s hquote (fun _ _ _ _ _ h _ => hslash h) fun _ _ h _ => hslash h,
    if_neg (not_or.2 ⟨hslash, hc⟩)]
  simp [Piece.before, htake]

/-- A written character is read as itself. -/
theorem escapeChar (h : ReadsText s cs rest) (c : Char) :
    ReadsText (escapeChar c ++ s) (c :: cs) rest := by
  by_cases hnamed : c ∈ ['"', '\\', '\x08', '\t', '\n', '\x0c', '\r']
  · simp only [List.mem_cons, List.not_mem_nil, or_false] at hnamed
    rcases hnamed with rfl | rfl | rfl | rfl | rfl | rfl | rfl <;> exact h.named rfl (by decide)
  · simp only [List.mem_cons, List.not_mem_nil, or_false, not_or] at hnamed
    obtain ⟨hquote, hslash, hback, htab, hline, hpage, hreturn⟩ := hnamed
    simp only [Json.escapeChar, hquote, hslash, hback, htab, hline, hpage, hreturn, if_false]
    by_cases hcontrol : c.toNat < 0x20
    · rw [if_pos hcontrol]
      exact h.coded hcontrol
    · rw [if_neg hcontrol]
      exact h.plain hquote hslash hcontrol

/-- The characters of a written text are read up to its closing quote. -/
theorem flatMap_escapeChar (cs rest : List Char) :
    ReadsText (cs.flatMap Json.escapeChar ++ '"' :: rest) cs rest := by
  induction cs with
  | nil => exact ⟨[], takePieces.eq_2 rest, rfl⟩
  | cons c more ih =>
    rw [List.flatMap_cons, List.append_assoc]
    exact ih.escapeChar c

end ReadsText

/-! ## Numbers -/

/-- Whether a text does not go on with a number that ends before it. -/
def EndsNumber (rest : List Char) : Prop :=
  ∀ c ∈ rest.head?, c.isDigit = false ∧ c ≠ '.' ∧ c ≠ 'e' ∧ c ≠ 'E'

/-- Digits are taken up to the end of a number. -/
theorem takeDigits_append {digits rest : List Char} (hdigits : ∀ c ∈ digits, c.isDigit = true)
    (hrest : EndsNumber rest) : takeDigits (digits ++ rest) = (digits, rest) := by
  have hstop : rest.takeWhile Char.isDigit = [] ∧ rest.dropWhile Char.isDigit = rest := by
    cases rest with
    | nil => exact ⟨rfl, rfl⟩
    | cons c more =>
      have hc : c.isDigit = false := (hrest c rfl).1
      simp [hc]
  rw [takeDigits, List.span_eq_takeWhile_dropWhile, List.takeWhile_append_of_pos hdigits,
    List.dropWhile_append_of_pos hdigits, hstop.1, hstop.2, List.append_nil]

/-- A positive number is not written with a zero in front. -/
theorem head?_toDigits_ne_zero {n : Nat} (h : 0 < n) : (Nat.toDigits 10 n).head? ≠ some '0' := by
  induction n using Nat.strongRecOn with
  | ind n ih =>
    rw [Nat.toDigits_eq_if (by omega)]
    split
    · next hlt =>
      have hdigit : ∀ d < 10, 0 < d → Nat.digitChar d ≠ '0' := by decide
      simpa using hdigit n hlt h
    · have hmore := ih (n / 10) (by omega) (by omega)
      obtain ⟨c, more, hc⟩ :=
        List.exists_cons_of_ne_nil (Nat.toDigits_ne_nil (n := n / 10) (b := 10))
      rw [hc] at hmore ⊢
      exact hmore

/-- The digits of a number are more than one only if no zero is in front of them. -/
theorem toDigits_wellFormed (n : Nat) :
    ¬(Nat.toDigits 10 n = [] ∨
      (Nat.toDigits 10 n).length > 1 ∧ (Nat.toDigits 10 n).head? = some '0') := by
  rintro (h | ⟨hlength, hhead⟩)
  · exact Nat.toDigits_ne_nil h
  · cases n with
    | zero => simp [Nat.toDigits_of_lt_base] at hlength
    | succ n => exact head?_toDigits_ne_zero (Nat.succ_pos n) hhead

/-- Where a number ends it has neither a fraction nor an exponent. -/
theorem EndsNumber.takes {rest : List Char} (h : EndsNumber rest) :
    takeFraction rest = some (none, rest) ∧ takeExponent rest = some (none, rest) := by
  cases rest with
  | nil => exact ⟨rfl, rfl⟩
  | cons c more =>
    obtain ⟨-, hdot, he, hE⟩ := h c rfl
    refine ⟨?_, ?_⟩
    · rw [takeFraction.eq_2]
      intro r hr
      exact hdot (List.cons.inj hr).1
    · simp [takeExponent, he, hE]

/-- A written integer is taken up to its end. -/
theorem takeNumber_writeInt (n : Int) {rest : List Char} (h : EndsNumber rest) :
    takeNumber (writeInt n ++ rest) = some (integerParts n, rest) := by
  have hdigits : ∀ c ∈ Nat.toDigits 10 n.natAbs, c.isDigit = true := fun c hc =>
    Nat.isDigit_of_mem_toDigits (by omega) (by omega) hc
  have htake := takeDigits_append hdigits h
  have hform := toDigits_wellFormed n.natAbs
  obtain ⟨hfraction, hexponent⟩ := h.takes
  unfold writeInt integerParts
  by_cases hn : n < 0
  · simp only [hn, if_true, List.cons_append, takeNumber.eq_1, htake, if_neg hform, hfraction,
      hexponent, decide_true]
  · have hminus : ∀ r, Nat.toDigits 10 n.natAbs ++ rest = '-' :: r → False := by
      intro r hr
      cases hcs : Nat.toDigits 10 n.natAbs with
      | nil => exact Nat.toDigits_ne_nil hcs
      | cons c more =>
        rw [hcs] at hr
        obtain rfl : c = '-' := (List.cons.inj hr).1
        exact absurd (hdigits '-' (by simp [hcs])) (by decide)
    simp only [hn, if_false, takeNumber.eq_2 _ hminus, htake, if_neg hform, hfraction, hexponent,
      decide_false]

/-- A written integer begins with a minus or a digit. -/
theorem writeInt_eq_cons (n : Int) :
    ∃ c more, writeInt n = c :: more ∧ (c = '-' ∨ c.isDigit = true) := by
  obtain ⟨c, more, hc⟩ :=
    List.exists_cons_of_ne_nil (Nat.toDigits_ne_nil (n := n.natAbs) (b := 10))
  unfold writeInt
  by_cases hn : n < 0
  · exact ⟨'-', Nat.toDigits 10 n.natAbs, by simp [hn], .inl rfl⟩
  · refine ⟨c, more, by simp [hn, hc], .inr ?_⟩
    exact Nat.isDigit_of_mem_toDigits (b := 10) (n := n.natAbs) (by omega) (by omega) (by simp [hc])

/-- A written integer is one lexeme, the number as which it is read. -/
theorem takeToken_writeInt (n : Int) {rest : List Char} (h : EndsNumber rest) :
    takeToken (writeInt n ++ rest) = some (.scalar (.number (.ofInt n)), rest) := by
  obtain ⟨c, more, hcs, hc⟩ := writeInt_eq_cons n
  -- No other lexeme starts with a digit or a minus sign.
  have hother (e : Char) (he : ¬(e = '-' ∨ e.isDigit = true)) (r : List Char)
      (hr : writeInt n ++ rest = e :: r) : False := by
    rw [hcs] at hr
    exact he ((List.cons.inj hr).1 ▸ hc)
  rw [takeToken.eq_12 _ (by simp [hcs]) (hother '[' (by decide)) (hother ']' (by decide))
    (hother '\x7b' (by decide)) (hother '\x7d' (by decide)) (hother ',' (by decide))
    (hother ':' (by decide)) (hother '"' (by decide)) (hother 'n' (by decide))
    (hother 't' (by decide)) (hother 'f' (by decide)), takeNumber_writeInt n h]
  rfl

/-- Digits behind a number do not make it smaller. -/
theorem le_ofDigitChars (digits : List Char) (s : Nat) : s ≤ Nat.ofDigitChars 10 digits s := by
  induction digits generalizing s with
  | nil => exact Nat.le_refl s
  | cons c more ih =>
    rw [Nat.ofDigitChars_cons]
    have := ih (10 * s + (c.toNat - '0'.toNat))
    omega

/-- Digits whose number is not too large are all kept. -/
theorem wholePart_eq {digits : List Char} {s : Nat}
    (h : Nat.ofDigitChars 10 digits s ≤ significandLimit) :
    wholePart digits s = (Nat.ofDigitChars 10 digits s, 0) := by
  induction digits generalizing s with
  | nil => rw [wholePart, Nat.ofDigitChars_nil]
  | cons c more ih =>
    rw [Nat.ofDigitChars_cons, Nat.mul_comm] at h ⊢
    have hfits : appendDigit s c ≤ significandLimit := Nat.le_trans (le_ofDigitChars more _) h
    rw [wholePart, if_pos hfits]
    exact ih h

/-- The digits of a number that fits the significand are read as that number, none dropped. -/
theorem wholePart_toDigits {n : Nat} (h : n ≤ significandLimit) :
    wholePart (Nat.toDigits 10 n) 0 = (n, 0) := by
  have hn : Nat.ofDigitChars 10 (Nat.toDigits 10 n) 0 = n :=
    Nat.ofDigitChars_toDigits (by omega) (by omega)
  rw [wholePart_eq (by rwa [hn]), hn]

/-- An integer that is not too large is read as itself. -/
theorem Number.ofInt_eq {n : Int} (hmin : -(twoTo 63 : Int) ≤ n) (hmax : n ≤ significandLimit) :
    Number.ofInt n = if n < 0 then .negative n.natAbs else .natural n.natAbs := by
  have hlimit : n.natAbs ≤ significandLimit := by
    have : twoTo 63 ≤ significandLimit := by decide
    omega
  have hdigits := wholePart_toDigits hlimit
  by_cases hneg : n < 0
  · have hrange : 0 < n.natAbs ∧ n.natAbs ≤ twoTo 63 := by omega
    simp [Number.ofInt, integerParts, NumberParts.value, hdigits, hneg, hrange]
  · simp [Number.ofInt, integerParts, NumberParts.value, hdigits, hneg]

/-! ## Lexemes -/

/-- Whether a text is cut into lexemes. It is, once the fuel is as much as the text is long. -/
def Lexes (s : List Char) (ts : List Token) : Prop :=
  ∀ fuel, s.length ≤ fuel → tokensWith fuel s = ts

namespace Lexes

variable {s rest : List Char} {ts : List Token}

/-- No text has no lexemes. -/
theorem nil : Lexes [] [] := by
  intro fuel _
  cases fuel <;> rfl

/-- White space has no lexeme. -/
theorem space (h : Lexes s ts) {c : Char} (hc : isSpace c = true) : Lexes (c :: s) ts := by
  intro fuel hfuel
  cases fuel with
  | zero => simp at hfuel
  | succ fuel =>
    rw [tokensWith, if_pos hc]
    exact h fuel (by simpa using hfuel)

/-- A lexeme in front comes first. -/
theorem token (h : Lexes rest ts) {t : Token} {c : Char} {w : List Char}
    (htake : takeToken (c :: w ++ rest) = some (t, rest)) (hc : isSpace c = false) :
    Lexes (c :: w ++ rest) (t :: ts) := by
  intro fuel hfuel
  cases fuel with
  | zero => simp at hfuel
  | succ fuel =>
    rw [List.cons_append] at htake ⊢
    rw [tokensWith, hc, htake]
    simp only [Bool.false_eq_true, if_false]
    -- The lexeme has a character of its own, so the fuel lasts for what follows it.
    rw [h fuel (by simp at hfuel; omega)]

/-- The break and the indentation of a line have no lexemes. -/
theorem newline (h : Lexes s ts) (level : Nat) : Lexes (Json.newline level ++ s) ts := by
  have hspaces : ∀ n, Lexes (List.replicate n ' ' ++ s) ts := by
    intro n
    induction n with
    | zero => exact h
    | succ n ih =>
      rw [List.replicate_succ]
      exact ih.space rfl
  exact (hspaces (2 * level)).space rfl

/-- A written text is the lexeme of that text. -/
theorem text (h : Lexes rest ts) (s : String) :
    Lexes (writeText s ++ rest) (.scalar (.text (some s)) :: ts) := by
  obtain ⟨pieces, htake, hjoin⟩ := ReadsText.flatMap_escapeChar s.toList rest
  have htoken : takeToken (writeText s ++ rest) = some (.scalar (.text (some s)), rest) := by
    simp [writeText, takeToken, htake, hjoin]
  exact h.token htoken rfl

/-- A written integer is the lexeme of its number if nothing behind it goes on with the number. -/
theorem integer (h : Lexes rest ts) (hrest : EndsNumber rest) (n : Int) :
    Lexes (writeInt n ++ rest) (.scalar (.number (.ofInt n)) :: ts) := by
  have htoken := takeToken_writeInt n hrest
  obtain ⟨c, more, hcs, hc⟩ := writeInt_eq_cons n
  have hspace : isSpace c = false := by
    rcases hc with rfl | hdigit
    · rfl
    · by_contra hspace
      simp only [isSpace, Bool.or_eq_true, decide_eq_true_eq, Bool.not_eq_false] at hspace
      rcases hspace with ((rfl | rfl) | rfl) | rfl <;> cases hdigit
  rw [hcs] at htoken ⊢
  exact h.token htoken hspace

/-- A mark of punctuation is its lexeme. -/
theorem mark (h : Lexes rest ts) {c : Char} {t : Token} (hc : (c, t) ∈
    [('[', Token.listStart), (']', .listEnd), ('\x7b', .objectStart), ('\x7d', .objectEnd),
      (',', .comma), (':', .colon)]) : Lexes (c :: rest) (t :: ts) := by
  have htoken : takeToken (c :: rest) = some (t, rest) ∧ isSpace c = false := by
    simp only [List.mem_cons, Prod.mk.injEq, List.not_mem_nil, or_false] at hc
    rcases hc with ⟨rfl, rfl⟩ | ⟨rfl, rfl⟩ | ⟨rfl, rfl⟩ | ⟨rfl, rfl⟩ | ⟨rfl, rfl⟩ | ⟨rfl, rfl⟩ <;>
      exact ⟨rfl, rfl⟩
  exact h.token (w := []) htoken.1 htoken.2

end Lexes

/-! ## Documents -/

/-- A number ends with the document. -/
theorem endsNumber_nil : EndsNumber [] := by
  simp [EndsNumber]

/-- What may follow a document does not go on with a number. -/
theorem endsNumber_cons {c : Char} (hc : c ∈ [',', ']', '\x7d', '\n']) (rest : List Char) :
    EndsNumber (c :: rest) := by
  intro d hd
  obtain rfl : c = d := by simpa using hd
  revert hc
  simp only [List.mem_cons, List.not_mem_nil, or_false]
  rintro (rfl | rfl | rfl | rfl) <;> decide

namespace Value

/-- No number goes on with the other items of a list. -/
theorem endsNumber_compactItems (vs : List Value) (rest : List Char) :
    EndsNumber (compactItems vs ++ rest) := by
  cases vs <;> exact endsNumber_cons (by simp) _

/-- No number goes on with the other fields of an object. -/
theorem endsNumber_compactFields (fields : List (String × Value)) (rest : List Char) :
    EndsNumber (compactFields fields ++ rest) := by
  cases fields <;> exact endsNumber_cons (by simp) _

/-- No number goes on with the other items of a list on lines of their own. -/
theorem endsNumber_prettyItems (level : Nat) (vs : List Value) (rest : List Char) :
    EndsNumber (prettyItems level vs ++ rest) := by
  cases vs <;> exact endsNumber_cons (by simp) _

/-- No number goes on with the other fields of an object on lines of their own. -/
theorem endsNumber_prettyFields (level : Nat) (fields : List (String × Value))
    (rest : List Char) : EndsNumber (prettyFields level fields ++ rest) := by
  cases fields <;> exact endsNumber_cons (by simp) _

/-- The empty value is written as its lexeme. -/
theorem lexes_null {rest : List Char} {ts : List Token} (h : Lexes rest ts) :
    Lexes (compact .null ++ rest) (lexemes .null ++ ts) :=
  h.token (w := ['u', 'l', 'l']) rfl rfl

/-- A truth value is written as its lexeme. -/
theorem lexes_bool {rest : List Char} {ts : List Token} (h : Lexes rest ts) (b : Bool) :
    Lexes (compact (.bool b) ++ rest) (lexemes (.bool b) ++ ts) := by
  cases b with
  | true => exact h.token (w := ['r', 'u', 'e']) rfl rfl
  | false => exact h.token (w := ['a', 'l', 's', 'e']) rfl rfl

mutual

/-- A document on one line is cut into its lexemes. -/
theorem lexes_compact (v : Value) {rest : List Char} {ts : List Token} (h : Lexes rest ts)
    (hrest : EndsNumber rest) : Lexes (v.compact ++ rest) (v.lexemes ++ ts) := by
  match v with
  | .null => exact lexes_null h
  | .bool b => exact lexes_bool h b
  | .int n => exact h.integer hrest n
  | .text s => exact h.text s
  | .list [] => exact (h.mark (by simp)).mark (by simp)
  | .list (w :: more) =>
    have hw := lexes_compact w (lexes_compactItems more h) (endsNumber_compactItems more rest)
    simp only [compact, lexemes, List.cons_append, List.append_assoc]
    exact hw.mark (by simp)
  | .object [] => exact (h.mark (by simp)).mark (by simp)
  | .object ((key, w) :: more) =>
    have hw := lexes_compact w (lexes_compactFields more h) (endsNumber_compactFields more rest)
    simp only [compact, lexemes, List.cons_append, List.append_assoc]
    exact ((hw.mark (by simp)).text key).mark (by simp)

/-- The other items of a list on one line have their lexemes. -/
theorem lexes_compactItems (vs : List Value) {rest : List Char} {ts : List Token}
    (h : Lexes rest ts) :
    Lexes (compactItems vs ++ rest) (itemLexemes vs ++ ts) := by
  match vs with
  | [] => exact h.mark (by simp)
  | w :: more =>
    have hw := lexes_compact w (lexes_compactItems more h) (endsNumber_compactItems more rest)
    simp only [compactItems, itemLexemes, List.cons_append, List.append_assoc]
    exact hw.mark (by simp)

/-- The other fields of an object on one line have their lexemes. -/
theorem lexes_compactFields (fields : List (String × Value)) {rest : List Char} {ts : List Token}
    (h : Lexes rest ts) :
    Lexes (compactFields fields ++ rest) (fieldLexemes fields ++ ts) := by
  match fields with
  | [] => exact h.mark (by simp)
  | (key, w) :: more =>
    have hw := lexes_compact w (lexes_compactFields more h) (endsNumber_compactFields more rest)
    simp only [compactFields, fieldLexemes, List.cons_append, List.append_assoc]
    exact ((hw.mark (by simp)).text key).mark (by simp)

end

mutual

/-- A document over several lines is cut into the same lexemes. -/
theorem lexes_pretty (v : Value) (level : Nat) {rest : List Char} {ts : List Token}
    (h : Lexes rest ts) (hrest : EndsNumber rest) :
    Lexes (v.pretty level ++ rest) (v.lexemes ++ ts) := by
  match v with
  | .null => exact lexes_null h
  | .bool true => exact lexes_bool h true
  | .bool false => exact lexes_bool h false
  | .int n => exact h.integer hrest n
  | .text s => exact h.text s
  | .list [] => exact (h.mark (by simp)).mark (by simp)
  | .list (w :: more) =>
    have hw := lexes_pretty w (level + 1) (lexes_prettyItems more level h)
      (endsNumber_prettyItems level more rest)
    simp only [pretty, lexemes, List.cons_append, List.append_assoc]
    exact (hw.newline (level + 1)).mark (by simp)
  | .object [] => exact (h.mark (by simp)).mark (by simp)
  | .object ((key, w) :: more) =>
    have hw := lexes_pretty w (level + 1) (lexes_prettyFields more level h)
      (endsNumber_prettyFields level more rest)
    simp only [pretty, lexemes, List.cons_append, List.append_assoc]
    exact ((((hw.space (c := ' ') rfl).mark (by simp)).text key).newline (level + 1)).mark (by simp)

/-- The other items of a list on lines of their own have their lexemes. -/
theorem lexes_prettyItems (vs : List Value) (level : Nat) {rest : List Char} {ts : List Token}
    (h : Lexes rest ts) :
    Lexes (prettyItems level vs ++ rest) (itemLexemes vs ++ ts) := by
  match vs with
  | [] =>
    simp only [prettyItems, itemLexemes, List.append_assoc]
    exact (h.mark (by simp)).newline level
  | w :: more =>
    have hw := lexes_pretty w (level + 1) (lexes_prettyItems more level h)
      (endsNumber_prettyItems level more rest)
    simp only [prettyItems, itemLexemes, List.cons_append, List.append_assoc]
    exact (hw.newline (level + 1)).mark (by simp)

/-- The other fields of an object on lines of their own have their lexemes. -/
theorem lexes_prettyFields (fields : List (String × Value)) (level : Nat) {rest : List Char}
    {ts : List Token} (h : Lexes rest ts) :
    Lexes (prettyFields level fields ++ rest) (fieldLexemes fields ++ ts) := by
  match fields with
  | [] =>
    simp only [prettyFields, fieldLexemes, List.append_assoc]
    exact (h.mark (by simp)).newline level
  | (key, w) :: more =>
    have hw := lexes_pretty w (level + 1) (lexes_prettyFields more level h)
      (endsNumber_prettyFields level more rest)
    simp only [prettyFields, fieldLexemes, List.cons_append, List.append_assoc]
    exact ((((hw.space (c := ' ') rfl).mark (by simp)).text key).newline (level + 1)).mark (by simp)

end

end Value

/-- The lexer finds the lexemes of a text. -/
theorem Lexes.tokens_eq {s : List Char} {ts : List Token} (h : Lexes s ts) : tokens s = ts :=
  h s.length (Nat.le_refl _)

end Json

end Shakedown

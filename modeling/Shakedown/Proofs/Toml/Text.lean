import Shakedown.Toml.Encode
import Shakedown.Toml.Text

/-!
# A written TOML text is read back

A text is quoted in one of four ways, and each has its reader. The two readers of basic texts agree
on escapes and plain characters (`ReadsBasic`), so one lemma says for both what becomes of a written
character.

Over several lines a quote is not the end: it may belong to the text, and only the quotes behind it
tell. The inductions there keep the quotes just read in front of what is still to be read, up to two
of them, and decide about them when the next character is known.
-/

set_option autoImplicit false

namespace Shakedown.Toml

/-! ## Characters -/

/-- What a reader of basic texts does with escapes and with characters that stand for themselves. -/
structure ReadsBasic (read : List Char → Reading (List Char)) (multiline : Bool) : Prop where
  /-- An escape of one letter. -/
  named : ∀ e c rest, escaped? e = some c → read ('\\' :: e :: rest) = (read rest).push c
  /-- An escape of four digits. -/
  coded : ∀ n c rest, codePoint? (capitalHex4 n) = some c →
    read ('\\' :: 'u' :: (capitalHex4 n ++ rest)) = (read rest).push c
  /-- A character that stands for itself. -/
  plain : ∀ c rest, isPlain c = true → c ≠ '\\' → c ≠ '"' → read (c :: rest) = (read rest).push c
  /-- A newline, where there may be one. -/
  newline : multiline = true → ∀ rest, read ('\n' :: rest) = (read rest).push '\n'

/-- A text on one line. -/
theorem readsBasic_basicText : ReadsBasic basicText false where
  named e c rest he := by
    -- The two escapes with digits come first in the reader.
    have hu : e ≠ 'u' := by rintro rfl; cases he
    have hU : e ≠ 'U' := by rintro rfl; cases he
    rw [basicText.eq_5 _ _ (fun _ _ _ _ _ h _ => hu h) fun _ _ _ _ _ _ _ _ _ h _ => hU h, he]
    rfl
  coded n c rest hc := by
    simp only [capitalHex4, List.map_cons, List.map_nil] at hc ⊢
    rw [List.cons_append, List.cons_append, List.cons_append, List.cons_append, List.nil_append,
      basicText.eq_3, hc]
    rfl
  plain c rest hc hslash hquote := by
    rw [basicText.eq_6 _ _ hquote (fun _ _ _ _ _ h _ => hslash h)
      (fun _ _ _ _ _ _ _ _ _ h _ => hslash h) fun _ _ h _ => hslash h]
    simp [hc, hslash]
  newline h := by cases h

/-- A text over several lines. -/
theorem readsBasic_basicLines : ReadsBasic (basicLines .inText) true where
  named e c rest he := by
    have hu : e ≠ 'u' := by rintro rfl; cases he
    have hU : e ≠ 'U' := by rintro rfl; cases he
    have hr : e ≠ '\r' := by rintro rfl; cases he
    have hspace : (isGap e || decide (e = '\n')) = false := by
      simp only [isGap, Bool.or_eq_false_iff, decide_eq_false_iff_not]
      refine ⟨⟨?_, ?_⟩, ?_⟩ <;> (rintro rfl; cases he)
    rw [basicLines.eq_10 _ _ _ (fun _ _ _ _ _ h _ => hu h) (fun _ _ _ _ _ _ _ _ _ h _ => hU h)
      fun _ h _ => hr h, he, hspace]
    rfl
  coded n c rest hc := by
    simp only [capitalHex4, List.map_cons, List.map_nil] at hc ⊢
    rw [List.cons_append, List.cons_append, List.cons_append, List.cons_append, List.nil_append,
      basicLines.eq_7, hc]
    rfl
  plain c rest hc hslash hquote := by
    by_cases hgap : c = ' '
    · subst hgap
      rfl
    by_cases htab : c = '\t'
    · subst htab
      rfl
    have hnewline : c ≠ '\n' := by rintro rfl; cases hc
    have hr : c ≠ '\r' := by rintro rfl; cases hc
    rw [basicLines.eq_11 _ _ _ hgap htab hnewline (fun _ h _ => hr h) (fun _ h _ => hquote h)
      (fun _ _ _ _ _ h _ => hslash h) (fun _ _ _ _ _ _ _ _ _ h _ => hslash h)
      (fun _ h _ => hslash h) fun _ _ h _ => hslash h]
    simp [hc, hslash]
  newline _ _ := rfl

/-- A character that needs no escape and ends no line is a plain one. -/
theorem isPlain_of_needsEscape {c : Char} (h : needsEscape c = false) (hc : c ≠ '\n') :
    isPlain c = true := by
  simp only [needsEscape, isPlain, Bool.and_eq_false_iff, Bool.or_eq_false_iff, Bool.or_eq_true,
    Bool.and_eq_true, decide_eq_true_eq, decide_eq_false_iff_not, Decidable.not_not] at h ⊢
  obtain (htab | hnewline) | ⟨hlow, hdelete⟩ := h
  · exact .inl htab
  · exact absurd hnewline hc
  · exact .inr ⟨by omega, hdelete⟩

/-- The four digits of a character that needs an escape are read as that character. -/
theorem codePoint?_capitalHex4 {c : Char} (h : needsEscape c = true) :
    codePoint? (capitalHex4 c.toNat) = some c := by
  have hall : ∀ n < 0x80, hexNumber? 0 (capitalHex4 n) = some n := by decide
  have hlt : c.toNat < 0x80 := by
    simp only [needsEscape, Bool.and_eq_true, Bool.or_eq_true, decide_eq_true_eq] at h
    omega
  have hvalid : c.toNat.isValidChar := c.valid
  rw [codePoint?, hall _ hlt]
  simp only [hvalid, if_true, Char.ofNat_toNat]

/-- A written character other than a quote is read as itself. -/
theorem ReadsBasic.escapeChar {read : List Char → Reading (List Char)} {multiline : Bool}
    (h : ReadsBasic read multiline) {c : Char} (hc : c ≠ '"') (rest : List Char) :
    read (escapeChar multiline c ++ rest) = (read rest).push c := by
  by_cases hline : c = '\n'
  · subst hline
    cases multiline with
    | true => exact h.newline rfl _
    | false => exact h.named 'n' _ _ rfl
  by_cases hnamed : c ∈ ['\x08', '\t', '\x0c', '\r', '\\']
  · simp only [List.mem_cons, List.not_mem_nil, or_false] at hnamed
    rcases hnamed with rfl | rfl | rfl | rfl | rfl <;> exact h.named _ _ _ rfl
  · simp only [List.mem_cons, List.not_mem_nil, or_false, not_or] at hnamed
    obtain ⟨hback, htab, hpage, hreturn, hslash⟩ := hnamed
    simp only [Toml.escapeChar, hback, htab, hline, hpage, hreturn, hslash, if_false]
    cases hescape : needsEscape c with
    | true => exact h.coded _ _ _ (codePoint?_capitalHex4 hescape)
    | false => exact h.plain _ _ (isPlain_of_needsEscape hescape hline) hslash hc

/-- A written character starts with a backslash, or it is the character, which needs no escape. -/
theorem escapeChar_eq_cons (multiline : Bool) (c : Char) :
    ∃ d more, escapeChar multiline c = d :: more ∧
      (d = '\\' ∨ d = c ∧ needsEscape c = false) := by
  unfold escapeChar
  by_cases h3 : c = '\n'
  · subst h3
    cases multiline with
    | true => exact ⟨_, _, rfl, .inr ⟨rfl, rfl⟩⟩
    | false => exact ⟨_, _, rfl, .inl rfl⟩
  simp only [h3, if_false]
  repeat' split
  all_goals first
    | exact ⟨_, _, rfl, .inl rfl⟩
    | exact ⟨_, _, rfl, .inr ⟨rfl, Bool.eq_false_iff.2 ‹_›⟩⟩

/-! ## Texts on one line -/

/-- A basic text with its escapes is read as that text. -/
theorem basicText_escapeText (s rest : List Char) (run : Nat) :
    basicText (escapeText 0 run s ++ '"' :: rest) = some (s, rest) := by
  induction s generalizing run with
  | nil => rfl
  | cons c more ih =>
    rw [escapeText]
    by_cases hc : c = '"'
    · subst hc
      rw [if_pos rfl, if_pos (Nat.zero_le run), List.cons_append, List.cons_append,
        readsBasic_basicText.named '"' '"' _ rfl, ih]
      rfl
    · rw [if_neg hc, List.append_assoc]
      have hchar := readsBasic_basicText.escapeChar hc (escapeText 0 0 more ++ '"' :: rest)
      rw [ih] at hchar
      exact hchar

/-- A literal text of plain characters without a quote is read as it is. -/
theorem literalText_append {s : List Char} (rest : List Char)
    (hs : ∀ c ∈ s, isPlain c = true ∧ c ≠ '\'') :
    literalText (s ++ '\'' :: rest) = some (s, rest) := by
  induction s with
  | nil => rfl
  | cons c more ih =>
    obtain ⟨hplain, hquote⟩ := hs c List.mem_cons_self
    rw [List.cons_append, literalText, if_neg hquote, if_pos hplain,
      ih fun d hd => hs d (List.mem_cons_of_mem c hd)]
    rfl

/-! ## Texts over several lines -/

/-- What a reader of texts over several lines does with its quotes: three of them are the end, and
one that is not followed by two more belongs to the text. -/
structure ReadsLines (read : List Char → Reading (List Char)) (quote : Char) : Prop where
  /-- Three quotes. -/
  close : ∀ rest, read (quote :: quote :: quote :: rest) = some (trailingQuotes quote rest)
  /-- A quote. -/
  single : ∀ rest, (∀ more, rest ≠ quote :: quote :: more) →
    read (quote :: rest) = (read rest).push quote

/-- The reader of basic texts over several lines takes quotes as it should. -/
theorem readsLines_basicLines : ReadsLines (basicLines .inText) '"' where
  close _ := rfl
  single rest h := by
    rw [basicLines.eq_11 _ _ _ (by decide) (by decide) (by decide) (fun _ h => by cases h)
      (fun more _ => h more) (fun _ _ _ _ _ h => by cases h) (fun _ _ _ _ _ _ _ _ _ h => by cases h)
      (fun _ h => by cases h) fun _ _ h => by cases h]
    rfl

/-- The reader of literal texts over several lines takes quotes as it should. -/
theorem readsLines_literalLines : ReadsLines literalLines '\'' where
  close _ := rfl
  single rest h := by
    rw [literalLines.eq_5 _ _ (by decide) (fun _ h => by cases h) fun more _ => h more]
    rfl

namespace ReadsLines

variable {read : List Char → Reading (List Char)} {quote : Char}

/-- Up to two quotes in front of another character belong to the text. -/
theorem pending (h : ReadsLines read quote) {run : Nat} (hrun : run ≤ 2)
    {w t rest : List Char} (hw : w.head? ≠ some quote) (hread : read w = some (t, rest)) :
    read (List.replicate run quote ++ w) = some (List.replicate run quote ++ t, rest) := by
  have hone : read (quote :: w) = some (quote :: t, rest) := by
    rw [h.single w (by rintro more rfl; exact hw rfl), hread]
    rfl
  match run, hrun with
  | 0, _ => exact hread
  | 1, _ => exact hone
  | 2, _ =>
    have hnext : ∀ more, quote :: w ≠ quote :: quote :: more := by
      intro more heq
      exact hw (by rw [(List.cons.inj heq).2]; rfl)
    change read (quote :: quote :: w) = some (quote :: quote :: t, rest)
    rw [h.single _ hnext, hone]
    rfl

/-- Up to two quotes in front of the closing ones belong to the text. -/
theorem closing (h : ReadsLines read quote) {run : Nat} (hrun : run ≤ 2) {rest : List Char}
    (hrest : rest.head? ≠ some quote) :
    read (List.replicate run quote ++ quote :: quote :: quote :: rest) =
      some (List.replicate run quote, rest) := by
  match run, hrun with
  | 0, _ =>
    rw [List.replicate_zero, List.nil_append, h.close]
    match rest with
    | [] => rfl
    | [a] => simp_all [trailingQuotes]
    | a :: b :: more => simp_all [trailingQuotes]
  | 1, _ =>
    rw [List.replicate_one, List.singleton_append, h.close]
    match rest with
    | [] => simp [trailingQuotes]
    | a :: more => simp_all [trailingQuotes]
  | 2, _ =>
    change read (quote :: quote :: quote :: quote :: quote :: rest) = _
    rw [h.close]
    simp [trailingQuotes]

end ReadsLines

/-- Quotes in front of one more are that many and one. -/
theorem replicate_append_cons (run : Nat) (quote : Char) (s : List Char) :
    List.replicate run quote ++ quote :: s = List.replicate (run + 1) quote ++ s := by
  rw [List.replicate_succ', List.append_assoc, List.singleton_append]

/-- A basic text over several lines is read up to its closing quotes. -/
theorem basicLines_escapeText (s : List Char) {run : Nat} (hrun : run ≤ 2) {rest : List Char}
    (hrest : rest.head? ≠ some '"') :
    basicLines .inText
        (List.replicate run '"' ++ (escapeText 2 run s ++ '"' :: '"' :: '"' :: rest)) =
      some (List.replicate run '"' ++ s, rest) := by
  induction s generalizing run with
  | nil =>
    rw [List.append_nil]
    exact readsLines_basicLines.closing hrun hrest
  | cons c more ih =>
    rw [escapeText]
    by_cases hc : c = '"'
    · subst hc
      rw [if_pos rfl]
      split
      · -- The third quote in a row is escaped, so the two before it belong to the text.
        have hread : basicLines .inText
            ('\\' :: '"' :: (escapeText 2 0 more ++ '"' :: '"' :: '"' :: rest)) =
              some ('"' :: more, rest) := by
          rw [readsBasic_basicLines.named '"' '"' _ rfl]
          exact congrArg (Reading.push '"') (ih (Nat.zero_le 2))
        exact readsLines_basicLines.pending hrun (by simp) hread
      · have hmore := @ih (run + 1) (by omega)
        rwa [← replicate_append_cons, ← replicate_append_cons] at hmore
    · have hread : basicLines .inText
          (escapeChar true c ++ (escapeText 2 0 more ++ '"' :: '"' :: '"' :: rest)) =
            some (c :: more, rest) := by
        rw [readsBasic_basicLines.escapeChar hc]
        exact congrArg (Reading.push c) (ih (Nat.zero_le 2))
      obtain ⟨d, ds, hchar, hd⟩ := escapeChar_eq_cons true c
      have hhead : d ≠ '"' := by
        rcases hd with rfl | ⟨rfl, -⟩
        · decide
        · exact hc
      rw [if_neg hc, List.append_assoc]
      exact readsLines_basicLines.pending hrun (by simpa [hchar] using hhead) hread

/-- A literal text over several lines is read up to its closing quotes. -/
theorem literalLines_append {s : List Char} (hs : ∀ c ∈ s, needsEscape c = false) {run : Nat}
    (hrun : longestRun '\'' run s ≤ 2) {rest : List Char} (hrest : rest.head? ≠ some '\'') :
    literalLines (List.replicate run '\'' ++ (s ++ '\'' :: '\'' :: '\'' :: rest)) =
      some (List.replicate run '\'' ++ s, rest) := by
  induction s generalizing run with
  | nil =>
    rw [List.append_nil]
    exact readsLines_literalLines.closing hrun hrest
  | cons c more ih =>
    have hmore : ∀ d ∈ more, needsEscape d = false := fun d hd => hs d (List.mem_cons_of_mem c hd)
    rw [longestRun] at hrun
    by_cases hc : c = '\''
    · subst hc
      rw [if_pos rfl] at hrun
      have hread := ih hmore hrun
      rwa [← replicate_append_cons, ← replicate_append_cons] at hread
    · rw [if_neg hc] at hrun
      have hplain : ∀ w, literalLines (c :: w) = (literalLines w).push c := by
        intro w
        by_cases hnewline : c = '\n'
        · subst hnewline
          rfl
        · have hr : c ≠ '\r' := by rintro rfl; exact absurd (hs _ List.mem_cons_self) (by decide)
          rw [literalLines.eq_5 _ _ hnewline (fun _ h _ => hr h) fun _ h _ => hc h,
            if_pos (isPlain_of_needsEscape (hs c List.mem_cons_self) hnewline)]
      have hrest : longestRun '\'' 0 more ≤ 2 := by omega
      have hread : literalLines (c :: (more ++ '\'' :: '\'' :: '\'' :: rest)) =
          some (c :: more, rest) := by
        rw [hplain]
        exact congrArg (Reading.push c) (ih hmore hrest)
      exact readsLines_literalLines.pending (by omega) (by simpa using hc) hread

/-! ## Ways to quote -/

/-- Whether a way to quote a text shows it: literal texts have no escapes. -/
def Quoting.Shows : Quoting → List Char → Prop
  | .basic, _ => True
  | .literal, s => ∀ c ∈ s, isPlain c = true ∧ c ≠ '\''
  | .basicLines, _ => True
  | .literalLines, s => (∀ c ∈ s, needsEscape c = false) ∧ longestRun '\'' 0 s ≤ 2

/-- A text without runs of a character is one without the character. -/
theorem not_mem_of_longestRun {c : Char} {s : List Char} {run : Nat}
    (h : longestRun c run s = 0) : run = 0 ∧ c ∉ s := by
  induction s generalizing run with
  | nil => exact ⟨h, by simp⟩
  | cons x more ih =>
    rw [longestRun] at h
    split at h
    · have := (ih h).1
      omega
    · next hx =>
      have hmore := (ih (by omega : longestRun c 0 more = 0)).2
      exact ⟨by omega, by simp [Ne.symm hx, hmore]⟩

/-- The chosen way to quote shows the text. -/
theorem Quoting.shows_of (s : List Char) : (Quoting.of s).Shows s := by
  have hcontrol (h : (!s.any needsEscape) = true) : ∀ c ∈ s, needsEscape c = false := by
    simpa using h
  simp only [Quoting.of]
  split
  · trivial
  split
  · next h =>
    simp only [Bool.and_eq_true, decide_eq_true_eq, Bool.not_eq_true'] at h
    obtain ⟨⟨hescape, hquotes⟩, hnewline⟩ := h
    have hnone : '\'' ∉ s := (not_mem_of_longestRun hquotes).2
    intro c hc
    have hnl : c ≠ '\n' := by
      rintro rfl
      simp [hc] at hnewline
    refine ⟨isPlain_of_needsEscape (hcontrol (by simp [hescape]) c hc) hnl, ?_⟩
    rintro rfl
    exact hnone hc
  split
  · trivial
  split
  · next h =>
    simp only [Bool.and_eq_true, decide_eq_true_eq] at h
    exact ⟨hcontrol h.1, h.2⟩
  split <;> trivial

/-- A text that does not begin with the end of a line keeps its beginning. -/
theorem dropNewline_eq_self {w : List Char} (hnewline : w.head? ≠ some '\n')
    (hr : w.head? ≠ some '\r') : dropNewline w = w := by
  rw [dropNewline.eq_3]
  · rintro rest rfl
    exact hnewline rfl
  · rintro rest rfl
    exact hr rfl

/-- A written text starts with a backslash or with the first character of the text, which then needs
no escape. -/
theorem escapeText_cons_eq (allowed run : Nat) (c : Char) (more : List Char) :
    ∃ d ds, escapeText allowed run (c :: more) = d :: ds ∧
      (d = '\\' ∨ d = c ∧ needsEscape c = false ∧ (c = '"' → run < allowed)) := by
  rw [escapeText]
  by_cases hc : c = '"'
  · subst hc
    rw [if_pos rfl]
    split
    · exact ⟨_, _, rfl, .inl rfl⟩
    · exact ⟨_, _, rfl, .inr ⟨rfl, rfl, fun _ => by omega⟩⟩
  · rw [if_neg hc]
    obtain ⟨d, ds, hchar, hd⟩ := escapeChar_eq_cons (allowed ≠ 0) c
    refine ⟨d, ds ++ escapeText allowed 0 more, by rw [hchar, List.cons_append], ?_⟩
    rcases hd with hd | ⟨hd, hescape⟩
    · exact .inl hd
    · exact .inr ⟨hd, hescape, fun h => absurd h hc⟩

/-- Nothing but the two quotes around an empty text on one line makes two quotes in a row. -/
theorem ne_quotes_of_basic (s rest more : List Char) :
    escapeText 0 0 s ++ '"' :: '\n' :: rest ≠ '"' :: '"' :: more := by
  cases s with
  | nil => simp [escapeText]
  | cons c s =>
    obtain ⟨d, ds, heq, hd⟩ := escapeText_cons_eq 0 0 c s
    rw [heq, List.cons_append]
    intro h
    obtain rfl : d = '"' := (List.cons.inj h).1
    rcases hd with hd | ⟨rfl, -, hrun⟩
    · cases hd
    · exact absurd (hrun rfl) (by omega)

/-- A written text without newlines starts with none. -/
theorem dropNewline_escapeText {s : List Char} (h : '\n' ∉ s) (rest : List Char) :
    dropNewline (escapeText 2 0 s ++ '"' :: '"' :: '"' :: rest) =
      escapeText 2 0 s ++ '"' :: '"' :: '"' :: rest := by
  cases s with
  | nil => rfl
  | cons c s =>
    obtain ⟨d, ds, heq, hd⟩ := escapeText_cons_eq 2 0 c s
    rw [heq, List.cons_append]
    have hne : d ≠ '\n' ∧ d ≠ '\r' := by
      rcases hd with rfl | ⟨rfl, hescape, -⟩
      · decide
      · refine ⟨?_, ?_⟩
        · rintro rfl
          exact h List.mem_cons_self
        · rintro rfl
          cases hescape
    exact dropNewline_eq_self (by simpa using hne.1) (by simpa using hne.2)

/-- A literal text without the end of a line keeps its beginning. -/
theorem dropNewline_literal {s : List Char} (h : '\n' ∉ s) (hs : ∀ c ∈ s, needsEscape c = false)
    (rest : List Char) :
    dropNewline (s ++ '\'' :: '\'' :: '\'' :: rest) = s ++ '\'' :: '\'' :: '\'' :: rest := by
  cases s with
  | nil => rfl
  | cons c s =>
    refine dropNewline_eq_self ?_ ?_
    · rintro ⟨⟩
      exact h List.mem_cons_self
    · rintro ⟨⟩
      exact absurd (hs '\r' List.mem_cons_self) (by decide)

/-- A text quoted in a way that shows it is read up to the end of its line. -/
theorem Quoting.quotedText_write {q : Quoting} {s : List Char} (h : q.Shows s)
    (rest : List Char) : quotedText (q.write s ++ '\n' :: rest) = some (s, '\n' :: rest) := by
  cases q with
  | basic =>
    have hwrite : Quoting.basic.write s ++ '\n' :: rest =
        '"' :: (escapeText 0 0 s ++ '"' :: '\n' :: rest) := by
      simp [Quoting.write, Quoting.quotes, Quoting.body]
    rw [hwrite, quotedText.eq_2 _ fun more => ne_quotes_of_basic s rest more,
      basicText_escapeText]
  | literal =>
    have hwrite : Quoting.literal.write s ++ '\n' :: rest =
        '\'' :: (s ++ '\'' :: '\n' :: rest) := by
      simp [Quoting.write, Quoting.quotes, Quoting.body]
    have hne (more : List Char) : s ++ '\'' :: '\n' :: rest ≠ '\'' :: '\'' :: more := by
      cases s with
      | nil => simp
      | cons c s =>
        intro heq
        obtain rfl : c = '\'' := (List.cons.inj heq).1
        exact (h '\'' List.mem_cons_self).2 rfl
    rw [hwrite, quotedText.eq_4 _ hne, literalText_append _ h]
  | basicLines =>
    have hread := basicLines_escapeText s (Nat.zero_le 2)
      (show ('\n' :: rest).head? ≠ some '"' by simp)
    have hwrite : Quoting.basicLines.write s ++ '\n' :: rest = '"' :: '"' :: '"' ::
        ((if s.contains '\n' then ['\n'] else []) ++
          (escapeText 2 0 s ++ '"' :: '"' :: '"' :: '\n' :: rest)) := by
      simp [Quoting.write, Quoting.quotes, Quoting.body]
    rw [hwrite, quotedText.eq_1]
    split
    · exact hread
    · next hnewline =>
      rw [List.nil_append, dropNewline_escapeText (by simpa using hnewline)]
      exact hread
  | literalLines =>
    have hread := literalLines_append h.1 h.2 (show ('\n' :: rest).head? ≠ some '\'' by simp)
    have hwrite : Quoting.literalLines.write s ++ '\n' :: rest = '\'' :: '\'' :: '\'' ::
        ((if s.contains '\n' then ['\n'] else []) ++
          (s ++ '\'' :: '\'' :: '\'' :: '\n' :: rest)) := by
      simp [Quoting.write, Quoting.quotes, Quoting.body]
    rw [hwrite, quotedText.eq_3]
    split
    · exact hread
    · next hnewline =>
      rw [List.nil_append, dropNewline_literal (by simpa using hnewline) h.1]
      exact hread

/-- A written text is read up to the end of its line. -/
theorem quotedText_writeText (s : String) (rest : List Char) :
    quotedText (writeText s ++ '\n' :: rest) = some (s.toList, '\n' :: rest) :=
  Quoting.quotedText_write (Quoting.shows_of s.toList) rest

end Shakedown.Toml

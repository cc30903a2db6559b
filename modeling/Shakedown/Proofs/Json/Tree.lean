import Mathlib.Data.List.Basic
import Shakedown.Json.Doc
import Shakedown.Proofs.Json.Lexeme

/-!
# Texts and their trees

A document that does not break off is spelled by its lexemes. The automaton reads them as that very
document, and it reads nothing else so: no entry of an object and no item of a list is left out, put
in or replaced, whatever the keys are. From the lexemes to the document this is an induction over
the document. In the other direction the invariant of the automaton is that what it has consumed are
the lexemes of the open lists and objects, and of the document behind them.

Main statement: `parse_eq_iff`. Both layouts of a written document have the lexemes of its tree, so
both are read as that tree.
-/

set_option autoImplicit false

namespace Shakedown.Json

namespace Doc

/-- Whether a document is closed everywhere. -/
inductive Whole : Doc → Prop
  | scalar (s : Scalar) : Whole (.scalar s)
  | list {items : List Doc} (h : ∀ d ∈ items, Whole d) : Whole (.list items true)
  | object {entries : List (Option String × Doc)} (h : ∀ e ∈ entries, Whole e.2) :
      Whole (.object entries true)

mutual

/-- The lexemes of a document. -/
def lexemes : Doc → List Token
  | .scalar s => [.scalar s]
  | .list [] _ => [.listStart, .listEnd]
  | .list (d :: more) _ => .listStart :: (lexemes d ++ itemLexemes more)
  | .object [] _ => [.objectStart, .objectEnd]
  | .object ((key, d) :: more) _ =>
    .objectStart :: .scalar (.text key) :: .colon :: (lexemes d ++ entryLexemes more)
  | .broken => [.broken]

/-- The lexemes of further items and the end of a list. -/
def itemLexemes : List Doc → List Token
  | [] => [.listEnd]
  | d :: more => .comma :: (lexemes d ++ itemLexemes more)

/-- The lexemes of further entries and the end of an object. -/
def entryLexemes : List (Option String × Doc) → List Token
  | [] => [.objectEnd]
  | (key, d) :: more =>
    .comma :: .scalar (.text key) :: .colon :: (lexemes d ++ entryLexemes more)

end

/-- Whether a text spells a document. -/
def SpelledBy (d : Doc) (text : String) : Prop :=
  d.Whole ∧ tokens text.toList = d.lexemes

/-! ## From lexemes to documents -/

/-- The first lexeme of a document may stand in front of a list as anywhere else. -/
theorem foldl_lexemes_firstItem {d : Doc} (h : d.Whole) (fs : List Frame) :
    d.lexemes.foldl Reading.step ⟨fs, .firstItem⟩ = d.lexemes.foldl Reading.step ⟨fs, .value⟩ := by
  cases h with
  | scalar s => rfl
  | @list items _ => cases items <;> rfl
  | @object entries _ =>
    match entries with
    | [] => rfl
    | (key, d) :: more => rfl

/-- The lexemes of a document are read as the document, whatever is open around it. -/
theorem foldl_lexemes {d : Doc} (h : d.Whole) (fs : List Frame) :
    d.lexemes.foldl Reading.step ⟨fs, .value⟩ = ⟨fs, .after d⟩ := by
  induction h generalizing fs with
  | scalar s => rfl
  | @list items hitems ih =>
    have hmore (more done : List Doc) (d : Doc) (h : ∀ u ∈ more, u ∈ items) :
        (itemLexemes more).foldl Reading.step ⟨.list done :: fs, .after d⟩ =
          ⟨fs, .after (.list (done.reverse ++ d :: more) true)⟩ := by
      induction more generalizing done d with
      | nil => rfl
      | cons u more ihmore =>
        obtain ⟨hu, hmore⟩ := List.forall_mem_cons.1 h
        have hcomma : Reading.step ⟨.list done :: fs, .after d⟩ .comma =
            ⟨.list (d :: done) :: fs, .value⟩ := rfl
        rw [itemLexemes, List.foldl_cons, List.foldl_append, hcomma, ih u hu, ihmore _ _ hmore]
        simp
    cases items with
    | nil => rfl
    | cons first more =>
      obtain ⟨hfirst, -⟩ := List.forall_mem_cons.1 hitems
      have hstart : Reading.step ⟨fs, .value⟩ .listStart = ⟨.list [] :: fs, .firstItem⟩ := rfl
      rw [lexemes, List.foldl_cons, List.foldl_append, hstart, foldl_lexemes_firstItem hfirst,
        ih first List.mem_cons_self, hmore _ _ _ fun u hu => List.mem_cons_of_mem _ hu]
      rfl
  | @object entries hentries ih =>
    have hmore (more done : List (Option String × Doc)) (key : Option String) (d : Doc)
        (h : ∀ e ∈ more, e ∈ entries) :
        (entryLexemes more).foldl Reading.step ⟨.entry done key :: fs, .after d⟩ =
          ⟨fs, .after (.object (done.reverse ++ (key, d) :: more) true)⟩ := by
      induction more generalizing done key d with
      | nil => rfl
      | cons e more ihmore =>
        obtain ⟨he, hmore⟩ := List.forall_mem_cons.1 h
        obtain ⟨next, u⟩ := e
        rw [entryLexemes, List.foldl_cons, List.foldl_cons, List.foldl_cons, List.foldl_append]
        change (entryLexemes more).foldl Reading.step
          (u.lexemes.foldl Reading.step ⟨.entry ((key, d) :: done) next :: fs, .value⟩) = _
        rw [ih (next, u) he, ihmore _ _ _ hmore]
        simp
    cases entries with
    | nil => rfl
    | cons first more =>
      obtain ⟨key, d⟩ := first
      rw [lexemes, List.foldl_cons, List.foldl_cons, List.foldl_cons, List.foldl_append]
      change (entryLexemes more).foldl Reading.step
        (d.lexemes.foldl Reading.step ⟨.entry [] key :: fs, .value⟩) = _
      rw [ih (key, d) List.mem_cons_self, hmore _ _ _ _ fun e he => List.mem_cons_of_mem _ he]
      rfl

end Doc

/-! ## From documents to lexemes -/

namespace Doc

/-- The lexemes of items that others follow. -/
def itemsBefore (items : List Doc) : List Token :=
  items.flatMap fun d => d.lexemes ++ [.comma]

/-- The lexemes of entries that others follow. -/
def entriesBefore (entries : List (Option String × Doc)) : List Token :=
  entries.flatMap fun e => .scalar (.text e.1) :: .colon :: (e.2.lexemes ++ [.comma])

/-- The lexemes of further items, with one more item at the end. -/
theorem itemLexemes_concat (items : List Doc) (d : Doc) :
    itemLexemes (items ++ [d]) = .comma :: (itemsBefore items ++ d.lexemes ++ [.listEnd]) := by
  induction items with
  | nil => rfl
  | cons first more ih =>
    rw [List.cons_append, itemLexemes, ih]
    simp [itemsBefore]

/-- The lexemes of a list, with one more item at the end. -/
theorem lexemes_list_concat (items : List Doc) (d : Doc) (closed : Bool) :
    (Doc.list (items ++ [d]) closed).lexemes =
      .listStart :: (itemsBefore items ++ d.lexemes ++ [.listEnd]) := by
  cases items with
  | nil => rfl
  | cons first more =>
    rw [List.cons_append, lexemes, itemLexemes_concat]
    simp [itemsBefore]

/-- The lexemes of further entries, with one more entry at the end. -/
theorem entryLexemes_concat (entries : List (Option String × Doc)) (key : Option String) (d : Doc) :
    entryLexemes (entries ++ [(key, d)]) =
      .comma :: (entriesBefore entries ++ .scalar (.text key) :: .colon ::
        (d.lexemes ++ [.objectEnd])) := by
  induction entries with
  | nil => rfl
  | cons first more ih =>
    obtain ⟨next, u⟩ := first
    rw [List.cons_append, entryLexemes, ih]
    simp [entriesBefore]

/-- The lexemes of an object, with one more entry at the end. -/
theorem lexemes_object_concat (entries : List (Option String × Doc)) (key : Option String) (d : Doc)
    (closed : Bool) :
    (Doc.object (entries ++ [(key, d)]) closed).lexemes =
      .objectStart :: (entriesBefore entries ++ .scalar (.text key) :: .colon ::
        (d.lexemes ++ [.objectEnd])) := by
  cases entries with
  | nil => rfl
  | cons first more =>
    obtain ⟨next, u⟩ := first
    rw [List.cons_append, lexemes, entryLexemes_concat]
    simp [entriesBefore]

end Doc

namespace Frame

/-- The lexemes of an open list or object, up to where the next part goes. -/
def lexemes : Frame → List Token
  | .list items => .listStart :: Doc.itemsBefore items.reverse
  | .object entries => .objectStart :: Doc.entriesBefore entries.reverse
  | .entry entries key =>
    .objectStart :: (Doc.entriesBefore entries.reverse ++ [.scalar (.text key), .colon])

/-- Whether all documents in an open list or object are closed. -/
def Whole : Frame → Prop
  | .list items => ∀ d ∈ items, d.Whole
  | .object entries => ∀ e ∈ entries, e.2.Whole
  | .entry entries _ => ∀ e ∈ entries, e.2.Whole

/-- The lexemes of all that is open, the outermost first. -/
def openLexemes : List Frame → List Token
  | [] => []
  | f :: fs => openLexemes fs ++ f.lexemes

/-- A frame that has taken an item and a comma has its lexemes before and those of both. -/
theorem lexemes_list_cons (items : List Doc) (d : Doc) :
    (Frame.list (d :: items)).lexemes = (Frame.list items).lexemes ++ d.lexemes ++ [.comma] := by
  simp [lexemes, Doc.itemsBefore]

/-- A frame that has taken an entry and a comma has its lexemes before and those of both. -/
theorem lexemes_object_cons (entries : List (Option String × Doc)) (key : Option String) (d : Doc) :
    (Frame.object ((key, d) :: entries)).lexemes =
      (Frame.entry entries key).lexemes ++ d.lexemes ++ [.comma] := by
  simp [lexemes, Doc.entriesBefore]

/-- A frame that is closed behind an item has become a list with all its lexemes. -/
theorem lexemes_list_end (items : List Doc) (d : Doc) :
    (Doc.list (items.reverse ++ [d]) true).lexemes =
      (Frame.list items).lexemes ++ d.lexemes ++ [.listEnd] := by
  rw [Doc.lexemes_list_concat, lexemes]
  simp

/-- A frame that is closed behind an entry has become an object with all its lexemes. -/
theorem lexemes_object_end (entries : List (Option String × Doc)) (key : Option String) (d : Doc) :
    (Doc.object (entries.reverse ++ [(key, d)]) true).lexemes =
      (Frame.entry entries key).lexemes ++ d.lexemes ++ [.objectEnd] := by
  rw [Doc.lexemes_object_concat, lexemes]
  simp

end Frame

namespace Reading

open Shakedown.Json.Frame (openLexemes)

/-- Whether lexemes have been consumed so far: those of what is open, and of what is finished
behind. In front of a colon the open entry is a colon short. -/
def Consumed (ts : List Token) (r : Reading) : Prop :=
  match r.expect with
  | .value => (∀ f ∈ r.frames, f.Whole) ∧ ts = openLexemes r.frames
  | .firstItem => ∃ fs, r.frames = .list [] :: fs ∧ (∀ f ∈ fs, f.Whole) ∧ ts = openLexemes r.frames
  | .firstKey =>
    ∃ fs, r.frames = .object [] :: fs ∧ (∀ f ∈ fs, f.Whole) ∧ ts = openLexemes r.frames
  | .key => (∀ f ∈ r.frames, f.Whole) ∧ ts = openLexemes r.frames
  | .colon => (∀ f ∈ r.frames, f.Whole) ∧ ts ++ [.colon] = openLexemes r.frames
  | .after d => (∀ f ∈ r.frames, f.Whole) ∧ d.Whole ∧ ts = openLexemes r.frames ++ d.lexemes
  | .nothing _ => True

variable {fs : List Frame} {ts : List Token}

/-- Where a value may begin, a step accounts for the lexeme that it consumes. -/
theorem consumed_stepValue (hfs : ∀ f ∈ fs, f.Whole) (hts : ts = openLexemes fs) (t : Token) :
    Consumed (ts ++ [t]) (stepValue fs t) := by
  subst hts
  cases t with
  | scalar s => exact ⟨hfs, .scalar s, rfl⟩
  | listStart => exact ⟨fs, rfl, hfs, rfl⟩
  | objectStart => exact ⟨fs, rfl, hfs, rfl⟩
  | listEnd => trivial
  | objectEnd => trivial
  | comma => trivial
  | colon => trivial
  | broken => trivial

/-- Where a key may begin, a step accounts for the lexeme that it consumes. -/
theorem consumed_stepKey (hfs : ∀ f ∈ fs, f.Whole) (hts : ts = openLexemes fs) (t : Token) :
    Consumed (ts ++ [t]) (stepKey fs t) := by
  subst hts
  unfold stepKey
  split
  · split
    · next key entries fs' =>
      obtain ⟨hentries, hfs'⟩ := List.forall_mem_cons.1 hfs
      refine ⟨List.forall_mem_cons.2 ⟨hentries, hfs'⟩, ?_⟩
      simp [openLexemes, Frame.lexemes]
    · trivial
  · trivial

/-- Behind a value, a step accounts for the lexeme that it consumes. -/
theorem consumed_stepAfter (hfs : ∀ f ∈ fs, f.Whole) {d : Doc} (hd : d.Whole)
    (hts : ts = openLexemes fs ++ d.lexemes) (t : Token) :
    Consumed (ts ++ [t]) (stepAfter fs d t) := by
  subst hts
  unfold stepAfter
  split
  · split
    · next items fs' =>
      obtain ⟨hitems, hfs'⟩ := List.forall_mem_cons.1 hfs
      refine ⟨List.forall_mem_cons.2 ⟨List.forall_mem_cons.2 ⟨hd, hitems⟩, hfs'⟩, ?_⟩
      simp [openLexemes, Frame.lexemes_list_cons]
    · next entries key fs' =>
      obtain ⟨hentries, hfs'⟩ := List.forall_mem_cons.1 hfs
      refine ⟨List.forall_mem_cons.2 ⟨List.forall_mem_cons.2 ⟨hd, hentries⟩, hfs'⟩, ?_⟩
      simp [openLexemes, Frame.lexemes_object_cons]
    · trivial
  · split
    · next items fs' =>
      obtain ⟨hitems, hfs'⟩ := List.forall_mem_cons.1 hfs
      refine ⟨hfs', .list fun u hu => ?_, ?_⟩
      · rcases List.mem_append.1 hu with hu | hu
        · exact hitems u (List.mem_reverse.1 hu)
        · obtain rfl : u = d := by simpa using hu
          exact hd
      · simp [openLexemes, Frame.lexemes_list_end]
    · trivial
  · split
    · next entries key fs' =>
      obtain ⟨hentries, hfs'⟩ := List.forall_mem_cons.1 hfs
      refine ⟨hfs', .object fun e he => ?_, ?_⟩
      · rcases List.mem_append.1 he with he | he
        · exact hentries e (List.mem_reverse.1 he)
        · obtain rfl : e = (key, d) := by simpa using he
          exact hd
      · simp [openLexemes, Frame.lexemes_object_end]
    · trivial
  · trivial

/-- Every step accounts for the lexeme that it consumes. -/
theorem consumed_step {r : Reading} (h : Consumed ts r) (t : Token) :
    Consumed (ts ++ [t]) (r.step t) := by
  obtain ⟨fs, expect⟩ := r
  cases expect with
  | value => exact consumed_stepValue h.1 h.2 t
  | firstItem =>
    obtain ⟨fs', rfl, hfs', hts⟩ := h
    have hfs : ∀ f ∈ Frame.list [] :: fs', f.Whole :=
      List.forall_mem_cons.2 ⟨fun _ hd => absurd hd (by simp), hfs'⟩
    cases t with
    | listEnd =>
      refine ⟨hfs', .list (by simp), ?_⟩
      rw [hts]
      simp [step, openLexemes, Frame.lexemes, Doc.lexemes, Doc.itemsBefore]
    | scalar s => exact consumed_stepValue hfs hts (.scalar s)
    | listStart => exact consumed_stepValue hfs hts .listStart
    | objectStart => exact consumed_stepValue hfs hts .objectStart
    | objectEnd => trivial
    | comma => trivial
    | colon => trivial
    | broken => trivial
  | firstKey =>
    obtain ⟨fs', rfl, hfs', hts⟩ := h
    have hfs : ∀ f ∈ Frame.object [] :: fs', f.Whole :=
      List.forall_mem_cons.2 ⟨fun _ he => absurd he (by simp), hfs'⟩
    have hkey (t : Token) := consumed_stepKey hfs hts t
    cases t with
    | objectEnd =>
      refine ⟨hfs', .object (by simp), ?_⟩
      rw [hts]
      simp [step, openLexemes, Frame.lexemes, Doc.lexemes, Doc.entriesBefore]
    | scalar s => exact hkey (.scalar s)
    | listStart => trivial
    | objectStart => trivial
    | listEnd => trivial
    | comma => trivial
    | colon => trivial
    | broken => trivial
  | key => exact consumed_stepKey h.1 h.2 t
  | colon =>
    obtain ⟨hfs, hts⟩ := h
    cases t with
    | colon => exact ⟨hfs, hts⟩
    | _ => trivial
  | after d => exact consumed_stepAfter h.1 h.2.1 h.2.2 t
  | nothing d => trivial

/-- Every run accounts for all the lexemes that it consumes. -/
theorem consumed_foldl {r : Reading} (h : Consumed ts r) (us : List Token) :
    Consumed (ts ++ us) (us.foldl step r) := by
  induction us generalizing ts r with
  | nil => simpa using h
  | cons t us ih =>
    have hmore := ih (consumed_step h t)
    rwa [List.append_assoc, List.singleton_append] at hmore

end Reading

/-- A text is read as one document exactly if it spells the document. -/
theorem parse_eq_iff {text : String} {d : Doc} : parse text = (d, true) ↔ d.SpelledBy text := by
  unfold parse
  constructor
  · intro h
    have hstart : Reading.Consumed [] ⟨[], .value⟩ := ⟨by simp, rfl⟩
    have hend := Reading.consumed_foldl hstart (tokens text.toList)
    rw [List.nil_append] at hend
    generalize (tokens text.toList).foldl Reading.step ⟨[], .value⟩ = r at h hend
    obtain ⟨fs, expect⟩ := r
    cases expect with
    | after u =>
      obtain ⟨-, hwhole, htokens⟩ := hend
      obtain rfl : fs = [] := List.isEmpty_iff.1 (congrArg Prod.snd h)
      obtain rfl : u = d := congrArg Prod.fst h
      exact ⟨hwhole, htokens⟩
    | value => cases congrArg Prod.snd h
    | firstItem => cases congrArg Prod.snd h
    | firstKey => cases congrArg Prod.snd h
    | key => cases congrArg Prod.snd h
    | colon => cases congrArg Prod.snd h
    | nothing u => cases congrArg Prod.snd h
  · rintro ⟨hwhole, htokens⟩
    rw [htokens, Doc.foldl_lexemes hwhole]
    rfl

/-! ## Written documents -/

namespace Value

mutual

/-- The tree of a document. -/
def doc : Value → Doc
  | .null => .scalar .null
  | .bool b => .scalar (.bool b)
  | .int n => .scalar (.number (.ofInt n))
  | .text s => .scalar (.text (some s))
  | .list items => .list (itemDocs items) true
  | .object fields => .object (fieldDocs fields) true

/-- The trees of items. -/
def itemDocs : List Value → List Doc
  | [] => []
  | v :: more => doc v :: itemDocs more

/-- The keys and trees of fields. -/
def fieldDocs : List (String × Value) → List (Option String × Doc)
  | [] => []
  | (key, v) :: more => (some key, doc v) :: fieldDocs more

end

mutual

/-- The document of a value has the lexemes of the value. -/
theorem lexemes_doc (v : Value) : v.doc.lexemes = v.lexemes := by
  match v with
  | .null => rfl
  | .bool _ => rfl
  | .int _ => rfl
  | .text _ => rfl
  | .list [] => rfl
  | .list (w :: more) =>
    rw [doc, itemDocs, Doc.lexemes, lexemes_doc w, itemLexemes_itemDocs more, lexemes]
  | .object [] => rfl
  | .object ((key, w) :: more) =>
    rw [doc, fieldDocs, Doc.lexemes, lexemes_doc w, entryLexemes_fieldDocs more, lexemes]

/-- The documents of further items have the lexemes of the items. -/
theorem itemLexemes_itemDocs (vs : List Value) :
    Doc.itemLexemes (itemDocs vs) = itemLexemes vs := by
  match vs with
  | [] => rfl
  | w :: more =>
    rw [itemDocs, Doc.itemLexemes, lexemes_doc w, itemLexemes_itemDocs more, itemLexemes]

/-- The documents of further fields have the lexemes of the fields. -/
theorem entryLexemes_fieldDocs (fields : List (String × Value)) :
    Doc.entryLexemes (fieldDocs fields) = fieldLexemes fields := by
  match fields with
  | [] => rfl
  | (key, w) :: more =>
    rw [fieldDocs, Doc.entryLexemes, lexemes_doc w, entryLexemes_fieldDocs more, fieldLexemes]

end

mutual

/-- The document of a value is whole. -/
theorem whole_doc (v : Value) : v.doc.Whole := by
  match v with
  | .null => exact .scalar _
  | .bool _ => exact .scalar _
  | .int _ => exact .scalar _
  | .text _ => exact .scalar _
  | .list items =>
    rw [doc]
    exact .list (whole_itemDocs items)
  | .object fields =>
    rw [doc]
    exact .object (whole_fieldDocs fields)

/-- The documents of items are whole. -/
theorem whole_itemDocs (vs : List Value) : ∀ d ∈ itemDocs vs, d.Whole := by
  match vs with
  | [] => simp [itemDocs]
  | w :: more =>
    rw [itemDocs]
    exact List.forall_mem_cons.2 ⟨whole_doc w, whole_itemDocs more⟩

/-- The documents of fields are whole. -/
theorem whole_fieldDocs (fields : List (String × Value)) : ∀ e ∈ fieldDocs fields, e.2.Whole := by
  match fields with
  | [] => simp [fieldDocs]
  | (key, w) :: more =>
    rw [fieldDocs]
    exact List.forall_mem_cons.2 ⟨whole_doc w, whole_fieldDocs more⟩

end

end Value

/-- A text with the lexemes of a value is parsed as the document of the value, to its end. -/
theorem Lexes.parse_eq {v : Value} {s : List Char} (h : Lexes s v.lexemes) :
    parse (String.ofList s) = (v.doc, true) := by
  refine parse_eq_iff.2 ⟨v.whole_doc, ?_⟩
  rw [String.toList_ofList, h.tokens_eq, v.lexemes_doc]

namespace Value

/-- A value on a single line is parsed as its document. -/
theorem parse_toCompact (v : Value) : parse v.toCompact = (v.doc, true) := by
  have h := v.lexes_compact .nil endsNumber_nil
  rw [List.append_nil, List.append_nil] at h
  exact h.parse_eq

/-- A value on several lines is parsed as its document. -/
theorem parse_toPretty (v : Value) : parse v.toPretty = (v.doc, true) := by
  have h := v.lexes_pretty 0 .nil endsNumber_nil
  rw [List.append_nil, List.append_nil] at h
  exact h.parse_eq

/-- A value on several lines, the last one ended, is parsed as its document. -/
theorem parse_toPretty_newline (v : Value) : parse (v.toPretty ++ "\n") = (v.doc, true) := by
  have hend : Lexes ['\n'] [] := Lexes.nil.space rfl
  have h := v.lexes_pretty 0 hend (endsNumber_cons (by simp) [])
  rw [List.append_nil] at h
  have heq : v.toPretty ++ "\n" = String.ofList (v.pretty 0 ++ ['\n']) := by
    rw [String.ofList_append]
    rfl
  rw [heq]
  exact h.parse_eq

end Value

end Shakedown.Json

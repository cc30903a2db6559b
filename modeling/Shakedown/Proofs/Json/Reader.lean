import Mathlib.Data.List.Basic
import Shakedown.Json.Read
import Shakedown.Proofs.Json.Tree

/-!
# Readers undo writers

A reader undoes a writer if it gets every value back from the tree of its document. Here are the
ways in which readers are put together, each with the writer that it undoes: of documents without
parts, of lists, of the fields of a structure, and of alternatives, by name or by tag.

In the other direction, a reader that succeeds has read everything that a document gives it.
`Doc.Gives` says what a document gives for a key of a structure, be the structure written as an
object or as the list of its fields, and the lemmas on it take the readers apart from behind: from a
result to the reading of each part.
-/

set_option autoImplicit false

namespace Shakedown.Json

/-- Whether a reader gets every value back from the tree of the document written for it. -/
def Undoes {α : Type} (read : Reader α) (write : α → Value) : Prop :=
  ∀ a, read (write a).doc = .ok a

/-! ## Documents without parts -/

/-- The reader of texts undoes their writer. -/
theorem undoes_text : Undoes readText .text :=
  fun _ => rfl

/-- The reader of truth values undoes their writer. -/
theorem undoes_bool : Undoes readBool .bool :=
  fun _ => rfl

/-- An integer between the bounds of a reader, and of what can be read at all, is read back. -/
theorem readInteger_int {low high n : Int} (wanted : String) (hlow : low ≤ n) (hhigh : n ≤ high)
    (hmin : -(twoTo 63 : Int) ≤ n) (hmax : n ≤ significandLimit) :
    readInteger low high wanted (Value.int n).doc = .ok n := by
  have hrange : inRange low high wanted n = .ok n := if_pos ⟨hlow, hhigh⟩
  rw [Value.doc, Number.ofInt_eq hmin hmax]
  split
  · rw [readInteger, show -(n.natAbs : Int) = n by omega, hrange]
  · rw [readInteger, show (n.natAbs : Int) = n by omega, hrange]

/-- A written integer that fits 64 bits has a value at any depth. -/
theorem hasValue_int {n : Int} (hmin : -(twoTo 63 : Int) ≤ n) (hmax : n ≤ significandLimit)
    (depth : Nat) : (Value.int n).doc.hasValue depth = true := by
  rw [Value.doc, Number.ofInt_eq hmin hmax]
  split <;> simp [Doc.hasValue]

/-- A value that is there is read back, if it is not written as the empty value. -/
theorem readOptional_scalar {α : Type} {read : Reader α} {s : Scalar} {a : α} (hs : s ≠ .null)
    (hread : read (.scalar s) = .ok a) : readOptional read (.scalar s) = .ok (some a) := by
  rw [readOptional.eq_2 read _ fun h => hs (Doc.scalar.inj h), hread]
  rfl

/-! ## Lists -/

/-- The documents of a list are those of its items. -/
theorem itemDocs_map {α : Type} (write : α → Value) (as : List α) :
    Value.itemDocs (as.map write) = as.map fun a => (write a).doc := by
  induction as with
  | nil => rfl
  | cons a more ih => rw [List.map_cons, Value.itemDocs, ih, List.map_cons]

/-- A list is read back if its items are. -/
theorem Undoes.list {α : Type} {read : Reader α} {write : α → Value} (h : Undoes read write) :
    Undoes (readList read) fun as => .list (as.map write) := by
  intro as
  rw [Value.doc, itemDocs_map, readList]
  induction as with
  | nil => rfl
  | cons a more ih => rw [List.map_cons, readItems, h a, ih]

/-! ## Structures -/

/-- A field that was not known becomes known. -/
theorem readEntries_once {γ α : Type} (field : String → Option (FieldUpdate γ)) (key : String)
    {known : γ} {v : Value} {more : List (String × Value)} {read : Reader α}
    {get : γ → Option α} {put : γ → α → γ} {a : α}
    (hfield : field key = some (once key read get put)) (hget : get known = none)
    (hread : read v.doc = .ok a) :
    readEntries field known (Value.fieldDocs ((key, v) :: more)) true =
      readEntries field (put known a) (Value.fieldDocs more) true := by
  simp only [Value.fieldDocs, readEntries, hfield, once, hget, hread]

/-! ## Tagged alternatives -/

/-- What stands beside a tag is kept if it has values. -/
theorem splitTag_others {tag name : String} {known : List String} {depth : Nat}
    {others : List (String × Value)} (hkey : ∀ f ∈ others, f.1 ≠ tag)
    (hvalue : ∀ f ∈ others, f.2.doc.hasValue depth = true) :
    splitTag tag known depth true (some name) (Value.fieldDocs others) =
      .ok (name, Value.fieldDocs others) := by
  induction others with
  | nil => rfl
  | cons f more ih =>
    obtain ⟨key, v⟩ := f
    have hmore := ih (fun f hf => hkey f (List.mem_cons_of_mem _ hf))
      fun f hf => hvalue f (List.mem_cons_of_mem _ hf)
    have hkey := hkey _ List.mem_cons_self
    have hvalue := hvalue _ List.mem_cons_self
    simp only [Value.fieldDocs, splitTag, if_neg hkey, hvalue, if_true, hmore]

/-- A tagged alternative is read as its tag and what stands beside it. -/
theorem readTagged_object {typeName tag name : String} {known : List String} {enclosing : Nat}
    {others : List (String × Value)} (hname : name ∈ known) (hkey : ∀ f ∈ others, f.1 ≠ tag)
    (hvalue : ∀ f ∈ others, f.2.doc.hasValue (nestingLimit - enclosing - 1) = true) :
    readTagged typeName tag known enclosing (Value.object ((tag, .text name) :: others)).doc =
      .ok (name, .entries (Value.fieldDocs others)) := by
  have htag : readTag known (Value.text name).doc = .ok name := by
    simp only [Value.doc, readTag, knownVariant, if_pos hname]
  rw [Value.doc, Value.fieldDocs, readTagged, splitTag]
  simp only [if_true, htag, splitTag_others hkey hvalue]
  rfl

/-- The one field beside a tag is read. -/
theorem Beside.field_entries {α : Type} {variant name : String} {read : Reader α}
    {default : Option α} {v : Value} {a : α} (hread : read v.doc = .ok a) :
    (Beside.entries (Value.fieldDocs [(name, v)])).field variant name read default = .ok a := by
  have hentries := @readEntries_once (Option α) α
    (fun key => if key = name then some (once name read id fun _ a => some a) else none)
    name none v [] read id (fun _ a => some a) a (if_pos rfl) rfl hread
  rw [Beside.field, hentries]
  rfl

/-! ## What was read -/

/-- Whether a document of a structure with these keys gives a value for one of them: by an entry, or
by the item that stands in its place. -/
inductive Doc.Gives (keys : List String) (key : String) : Doc → Doc → Prop
  | entry {entries : List (Option String × Doc)} {closed : Bool} {d : Doc}
      (h : (some key, d) ∈ entries) : Gives keys key (.object entries closed) d
  | item {items : List Doc} {closed : Bool} {d : Doc} (h : items[keys.idxOf key]? = some d) :
      Gives keys key (.list items closed) d

section

variable {α β γ : Type}

/-- Two readers in a row succeed if the first one does and the second one does with what it read. -/
theorem bind_eq_ok {x : Except ReadError α} {f : α → Except ReadError β} {b : β} :
    x >>= f = .ok b ↔ ∃ a, x = .ok a ∧ f a = .ok b := by
  cases x with
  | error e => simp [bind, Except.bind]
  | ok a => simp [bind, Except.bind]

/-- In a list that is read every item is read. -/
theorem exists_of_readItems {read : Reader α} {items : List Doc} {closed : Bool} {as : List α}
    (h : readItems read items closed = .ok as) {d : Doc} (hd : d ∈ items) :
    ∃ a, read d = .ok a := by
  induction items generalizing as with
  | nil => cases hd
  | cons first more ih =>
    rw [readItems] at h
    cases hfirst : read first with
    | error e => simp [hfirst] at h
    | ok a =>
      rcases List.mem_cons.1 hd with rfl | hd
      · exact ⟨a, hfirst⟩
      · cases hmore : readItems read more closed with
        | error e => simp [hfirst, hmore] at h
        | ok rest => exact ih hmore hd

/-- A field is set only if its value is read. -/
theorem exists_of_once {name : String} {read : Reader α} {get : γ → Option α} {put : γ → α → γ}
    {known known' : γ} {d : Doc} (h : once name read get put known d = .ok known') :
    ∃ a, read d = .ok a := by
  unfold once at h
  cases hget : get known with
  | some a => simp [hget] at h
  | none =>
    cases hread : read d with
    | error e => simp [hget, hread] at h
    | ok a => exact ⟨a, rfl⟩

/-- In an object that is read every entry of a known field updates what is known. -/
theorem exists_of_readEntries {field : String → Option (FieldUpdate γ)} {known known' : γ}
    {entries : List (Option String × Doc)} {closed : Bool}
    (h : readEntries field known entries closed = .ok known') {key : String} {d : Doc}
    (hd : (some key, d) ∈ entries) {update : FieldUpdate γ} (hfield : field key = some update) :
    ∃ before after, update before d = .ok after := by
  induction entries generalizing known with
  | nil => cases hd
  | cons first more ih =>
    obtain ⟨firstKey, firstDoc⟩ := first
    cases firstKey with
    | none => simp [readEntries] at h
    | some name =>
      rw [readEntries] at h
      rcases List.mem_cons.1 hd with heq | hd
      · cases heq
        rw [hfield] at h
        cases hupdate : update known d with
        | error e => simp [hupdate] at h
        | ok after => exact ⟨known, after, hupdate⟩
      · cases hname : field name with
        | none =>
          simp only [hname] at h
          split at h
          · exact ih h hd
          · cases h
        | some other =>
          simp only [hname] at h
          cases hother : other known firstDoc with
          | error e => simp [hother] at h
          | ok after =>
            rw [hother] at h
            exact ih h hd

/-- The next item of a list, if there is one, was read, and the items behind it remain. -/
theorem requiredItem_eq_ok {read : Reader α} {index : Nat} {wanted : String} {items rest : Items}
    {a : α} (h : requiredItem read index wanted items = .ok (a, rest)) :
    rest.1 = items.1.tail ∧ ∀ d ∈ items.1.head?, read d = .ok a := by
  obtain ⟨ds, closed⟩ := items
  unfold requiredItem at h
  cases ds with
  | nil => cases closed <;> simp [nextItem, bind, Except.bind] at h
  | cons d more =>
    simp only [nextItem, bind, Except.bind, pure, Except.pure] at h
    cases hread : read d with
    | error e => simp [hread] at h
    | ok b =>
      simp only [hread, Except.ok.injEq, Prod.mk.injEq] at h
      obtain ⟨rfl, rfl⟩ := h
      exact ⟨rfl, by simpa using hread⟩

/-- An item with a default is read where there is one, and the items behind it are left. -/
theorem defaultedItem_eq_ok {read : Reader α} {default a : α} {items rest : Items}
    (h : defaultedItem read default items = .ok (a, rest)) :
    rest.1 = items.1.tail ∧ ∀ d ∈ items.1.head?, read d = .ok a := by
  obtain ⟨ds, closed⟩ := items
  unfold defaultedItem at h
  cases ds with
  | nil =>
    cases closed with
    | false => simp [nextItem, bind, Except.bind] at h
    | true =>
      simp only [nextItem, bind, Except.bind, pure, Except.pure, Except.ok.injEq,
        Prod.mk.injEq] at h
      obtain ⟨rfl, rfl⟩ := h
      exact ⟨rfl, by simp⟩
  | cons d more =>
    simp only [nextItem, bind, Except.bind, pure, Except.pure] at h
    cases hread : read d with
    | error e => simp [hread] at h
    | ok b =>
      simp only [hread, Except.ok.injEq, Prod.mk.injEq] at h
      obtain ⟨rfl, rfl⟩ := h
      exact ⟨rfl, by simpa using hread⟩

/-- An alternative that is read from an object is named by the only entry of it. -/
theorem readAlternative_object {known : List String}
    {read : String → Option Doc → Except ReadError α}
    {entries : List (Option String × Doc)} {closed : Bool} {a : α}
    (h : readAlternative known read (.object entries closed) = .ok a) :
    ∃ name ∈ known, ∃ d, entries = [(some name, d)] := by
  match entries with
  | [] => cases h
  | (none, d) :: [] => cases h
  | (none, d) :: next :: more => cases h
  | (some name, d) :: next :: more =>
    obtain ⟨name', -, h⟩ := bind_eq_ok.1 h
    obtain ⟨b, -, h⟩ := bind_eq_ok.1 h
    cases h
  | [(some name, d)] =>
    obtain ⟨name', hname, -⟩ := bind_eq_ok.1 h
    unfold knownVariant at hname
    split at hname
    · next hmem => exact ⟨name, hmem, d, rfl⟩
    · cases hname

/-- A text is read if it is one document, and that is read. -/
theorem readWhole_eq_ok {read : Reader α} {text : String} {a : α} :
    readWhole read text = .ok a ↔ (parse text).2 = true ∧ read (parse text).1 = .ok a := by
  unfold readWhole
  generalize parse text = parsed
  obtain ⟨d, whole⟩ := parsed
  constructor
  · intro h
    obtain ⟨b, hread, h⟩ := bind_eq_ok.1 h
    split at h
    · next hwhole =>
      cases h
      exact ⟨hwhole, hread⟩
    · cases h
  · rintro ⟨hwhole, hread⟩
    exact bind_eq_ok.2 ⟨a, hread, if_pos hwhole⟩

end

end Shakedown.Json

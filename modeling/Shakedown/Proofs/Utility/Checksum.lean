import Mathlib.Data.List.Basic
import Shakedown.Utility.Checksum

/-!
# What checksums and encodings give back

What is written in the small alphabet is read as the bytes that were written, in lines of whatever
width. A line that was written for a file tells of that file and of its digest when it is read.
-/

set_option autoImplicit false

namespace Shakedown.Utility.Checksum

/-! ## Texts of the small alphabet -/

/-- Each character of the alphabet is found where it stands. -/
theorem idxOf_sixBits (n : Nat) : alphabet.toList.idxOf? (sixBits n) = some (n % 64) := by
  have hall : ∀ v < 64, alphabet.toList.idxOf? ((alphabet[v]?).getD 'A') = some v := by decide
  exact hall (n % 64) (Nat.mod_lt n (by decide))

/-- The alphabet has neither the sign that fills texts up nor the end of lines. -/
theorem sixBits_ne (n : Nat) : sixBits n ≠ '=' ∧ sixBits n ≠ '\n' := by
  have hall : ∀ v < 64, (alphabet[v]?).getD 'A' ≠ '=' ∧ (alphabet[v]?).getD 'A' ≠ '\n' := by
    decide +kernel
  exact hall (n % 64) (Nat.mod_lt n (by decide))

/-- Four characters of the alphabet are read as the three bytes whose bits they are. -/
theorem decoded_four (fuel a b c d : Nat) (more : Chars) :
    decoded (fuel + 1) (sixBits a :: sixBits b :: sixBits c :: sixBits d :: more) =
      (joinedBits [a % 64, b % 64, c % 64, d % 64] ++ (decoded fuel more).1,
        (decoded fuel more).2) := by
  simp [decoded, sixBits_ne, idxOf_sixBits]

/-- Three bytes are put together from their bits. -/
theorem joinedBits_three {a b c : Char} (ha : a.toNat < 256) (hb : b.toNat < 256)
    (hc : c.toNat < 256) :
    let n := 65536 * a.toNat + 256 * b.toNat + c.toNat
    joinedBits [n / 262144 % 64, n / 4096 % 64, n / 64 % 64, n % 64] = [a, b, c] := by
  intro n
  have hfold : [n / 262144 % 64, n / 4096 % 64, n / 64 % 64, n % 64].foldl
      (fun n v => 64 * n + v) 0 = n := by
    simp only [List.foldl_cons, List.foldl_nil]
    omega
  simp only [joinedBits, hfold]
  have ha' : n / twoTo 16 % 256 = a.toNat := by simp only [twoTo, Nat.pow_eq]; omega
  have hb' : n / twoTo 8 % 256 = b.toNat := by simp only [twoTo, Nat.pow_eq]; omega
  have hc' : n / twoTo 0 % 256 = c.toNat := by simp only [twoTo, Nat.pow_eq]; omega
  simp [List.range_succ, ha', hb', hc']

/-- Two bytes are put together from their bits. -/
theorem joinedBits_two {a b : Char} (ha : a.toNat < 256) (hb : b.toNat < 256) :
    let n := 1024 * a.toNat + 4 * b.toNat
    joinedBits [n / 4096 % 64, n / 64 % 64, n % 64] = [a, b] := by
  intro n
  have hfold : [n / 4096 % 64, n / 64 % 64, n % 64].foldl (fun n v => 64 * n + v) 0 = n := by
    simp only [List.foldl_cons, List.foldl_nil]
    omega
  simp only [joinedBits, hfold]
  have ha' : n / twoTo 10 % 256 = a.toNat := by simp only [twoTo, Nat.pow_eq]; omega
  have hb' : n / twoTo 2 % 256 = b.toNat := by simp only [twoTo, Nat.pow_eq]; omega
  simp [List.range_succ, ha', hb']

/-- One byte is put together from its bits. -/
theorem joinedBits_one {a : Char} (ha : a.toNat < 256) :
    let n := 16 * a.toNat
    joinedBits [n / 64 % 64, n % 64] = [a] := by
  intro n
  have hfold : [n / 64 % 64, n % 64].foldl (fun n v => 64 * n + v) 0 = n := by
    simp only [List.foldl_cons, List.foldl_nil]
    omega
  simp only [joinedBits, hfold]
  have ha' : n / twoTo 4 % 256 = a.toNat := by simp only [twoTo, Nat.pow_eq]; omega
  simp [ha']

/-- What was written in the alphabet is read as what it was, and all of it is right. -/
theorem decoded_encoded {s : Chars} (hs : ∀ c ∈ s, c.toNat < 256) {fuel : Nat}
    (hfuel : s.length < fuel) : decoded fuel (encoded s) = (s, true) := by
  fun_induction encoded s generalizing fuel with
  | case1 a b c more n ih =>
    obtain ⟨fuel, rfl⟩ : ∃ k, fuel = k + 1 := ⟨fuel - 1, by omega⟩
    rw [List.forall_mem_cons, List.forall_mem_cons, List.forall_mem_cons] at hs
    rw [List.length_cons] at hfuel
    obtain ⟨ha, hb, hc, hmore⟩ := hs
    rw [decoded_four, joinedBits_three ha hb hc, ih hmore (by simp at hfuel; omega)]
    rfl
  | case2 a b n =>
    obtain ⟨fuel, rfl⟩ : ∃ k, fuel = k + 1 := ⟨fuel - 1, by omega⟩
    rw [List.forall_mem_cons, List.forall_mem_singleton] at hs
    have hbytes := joinedBits_two hs.1 hs.2
    have hempty : decoded fuel [] = ([], true) := by cases fuel <;> rfl
    simp [decoded, sixBits_ne, idxOf_sixBits, hempty, hbytes, n]
  | case3 a n =>
    obtain ⟨fuel, rfl⟩ : ∃ k, fuel = k + 1 := ⟨fuel - 1, by omega⟩
    rw [List.forall_mem_singleton] at hs
    have hbyte := joinedBits_one hs
    have hempty : decoded fuel [] = ([], true) := by cases fuel <;> rfl
    simp [decoded, sixBits_ne, idxOf_sixBits, hempty, hbyte, n]
  | case4 =>
    cases fuel <;> rfl

/-- Nothing that is written in the alphabet ends a line. -/
theorem newline_not_mem_encoded (s : Chars) : '\n' ∉ encoded s := by
  fun_induction encoded s with
  | case1 a b c more n ih => simp [ih, (sixBits_ne _).2.symm]
  | case2 a b n => simp [(sixBits_ne _).2.symm]
  | case3 a n => simp [(sixBits_ne _).2.symm]
  | case4 => simp

/-- A text gets no shorter when it is written in the alphabet. -/
theorem length_le_encoded (s : Chars) : s.length ≤ (encoded s).length := by
  fun_induction encoded s <;> simp
  omega

/-- The parts of a list are the list. -/
theorem flatten_parts {α : Type} {size : Nat} (hsize : 0 < size) {fuel : Nat} {l : List α}
    (hfuel : l.length ≤ fuel) : (Digest.parts size fuel l).flatten = l := by
  induction fuel generalizing l with
  | zero => simpa [Digest.parts] using (List.length_eq_zero_iff.1 (Nat.le_zero.1 hfuel)).symm
  | succ fuel ih =>
    cases l with
    | nil => rfl
    | cons x l =>
      have hrest : ((x :: l).drop size).length ≤ fuel := by
        rw [List.length_drop, List.length_cons] at *
        omega
      rw [Digest.parts, List.flatten_cons, ih hrest, List.take_append_drop]
      simp

/-- Nothing but the ends of lines is added when a text is wrapped. -/
theorem filter_wrapped (width : Nat) {s : Chars} (hs : '\n' ∉ s) :
    (wrapped width s).filter (· ≠ '\n') = s := by
  have hlines (l : List Chars) :
      (Chars.ofLines l).filter (· ≠ '\n') = l.flatten.filter (· ≠ '\n') := by
    induction l with
    | nil => rfl
    | cons line more ih =>
      rw [List.flatten_cons, List.filter_append, ← ih]
      simp [Chars.ofLines, Chars.newline]
  have hself : s.filter (· ≠ '\n') = s :=
    List.filter_eq_self.2 fun c hc => by simpa using fun h : c = '\n' => hs (h ▸ hc)
  rw [wrapped]
  split
  · exact hself
  · rename_i hwidth
    rw [hlines, flatten_parts (Nat.pos_of_ne_zero hwidth) (Nat.le_refl _), hself]

/-- Bytes that are written in the small alphabet, in lines of any width, are read as they were. -/
theorem decoded_wrapped_encoded (width : Nat) (bytes : Bytes) :
    let wanted := (wrapped width (encoded (Chars.ofBytes bytes))).filter (· ≠ '\n')
    Chars.toBytes (decoded (wanted.length + 1) wanted).1 = bytes ∧
      (decoded (wanted.length + 1) wanted).2 = true := by
  have hsmall : ∀ c ∈ Chars.ofBytes bytes, c.toNat < 256 := by
    intro c hc
    obtain ⟨x, -, rfl⟩ := List.mem_map.1 hc
    rw [Chars.toNat_charOfByte]
    exact x.toNat_lt
  rw [filter_wrapped width (newline_not_mem_encoded _)]
  have hfuel := Nat.lt_succ_of_le (length_le_encoded (Chars.ofBytes bytes))
  intro wanted
  rw [decoded_encoded hsmall hfuel]
  exact ⟨Chars.toBytes_ofBytes bytes, rfl⟩

/-! ## Digests -/

/-- Words are shown in eight small hexadecimal digits each. -/
theorem shown_spec (bigFirst : Bool) (words : List UInt32) :
    (Digest.shown bigFirst words).length = 8 * words.length ∧
      ∀ c ∈ Digest.shown bigFirst words, Numeral.isDigitOf 16 c ∧ c.toLower = c := by
  have hdigit : ∀ d < 16, Numeral.isDigitOf 16 (Nat.digitChar d) ∧
      (Nat.digitChar d).toLower = Nat.digitChar d := by
    decide
  have hbytes (n : Nat) : (Digest.bytesOf bigFirst 4 n).length = 4 ∧
      ∀ b ∈ Digest.bytesOf bigFirst 4 n, b < 256 := by
    rw [Digest.bytesOf]
    cases bigFirst <;> simp <;> omega
  constructor
  · induction words with
    | nil => rfl
    | cons w more ih =>
      rw [Digest.shown] at ih ⊢
      rw [List.flatMap_cons, List.length_append, ih, List.length_cons, List.length_flatMap]
      simp [(hbytes w.toNat).1]
      omega
  · intro c hc
    obtain ⟨w, -, hc⟩ := List.mem_flatMap.1 hc
    obtain ⟨b, hb, hc⟩ := List.mem_flatMap.1 hc
    have hsmall := (hbytes w.toNat).2 b hb
    rcases List.mem_cons.1 hc with rfl | hc
    · exact hdigit _ (by omega)
    · obtain rfl := List.mem_singleton.1 hc
      exact hdigit _ (by omega)

/-- What leaves the number of words as it is does so however often it is done. -/
theorem length_foldl {α β : Type} {f : List α → β → List α}
    (hf : ∀ s b, (f s b).length = s.length) (l : List β) (s : List α) :
    (l.foldl f s).length = s.length := by
  induction l generalizing s with
  | nil => rfl
  | cons b l ih => rw [List.foldl_cons, ih, hf]

/-- A block that leaves the number of words as it is does so when the words are added. -/
theorem length_added {f : List UInt32 → Array UInt32 → List UInt32}
    (hf : ∀ s block, (f s block).length = s.length) (blocks : List (Array UInt32))
    (s : List UInt32) :
    (blocks.foldl (fun s block => Digest.added s (f s block)) s).length = s.length :=
  length_foldl (fun s block => by rw [Digest.added, List.length_zipWith, hf, Nat.min_self]) blocks s

/-- The methods give as many small hexadecimal digits as they are said to. -/
theorem digest_spec {m : Method} (hm : m ∈ [md5, sha1, sha256]) (text : Chars) :
    (m.of text).length = m.length ∧
      ∀ c ∈ m.of text, Numeral.isDigitOf 16 c ∧ c.toLower = c := by
  have hshort (block : Array UInt32) (s : List UInt32) :
      ((List.range 64).foldl (Digest.step4 block) s).length = s.length := by
    refine length_foldl (fun s i => ?_) _ s
    unfold Digest.step4
    split <;> rfl
  have hmedium (block : Array UInt32) (s : List UInt32) :
      ((List.range 80).foldl (Digest.step5 block) s).length = s.length := by
    refine length_foldl (fun s i => ?_) _ s
    unfold Digest.step5
    split <;> rfl
  have hlong (block : Array UInt32) (s : List UInt32) :
      ((List.range 64).foldl (Digest.step8 block) s).length = s.length := by
    refine length_foldl (fun s i => ?_) _ s
    unfold Digest.step8
    split <;> rfl
  rcases List.mem_cons.1 hm with rfl | hm
  · refine ⟨?_, (shown_spec false _).2⟩
    exact (shown_spec false _).1.trans (congrArg (8 * ·) (length_added (fun s b => hshort b s) _ _))
  rcases List.mem_cons.1 hm with rfl | hm
  · refine ⟨?_, (shown_spec true _).2⟩
    exact (shown_spec true _).1.trans (congrArg (8 * ·) (length_added (fun s b => hmedium _ s) _ _))
  · obtain rfl := List.mem_singleton.1 hm
    refine ⟨?_, (shown_spec true _).2⟩
    exact (shown_spec true _).1.trans (congrArg (8 * ·) (length_added (fun s b => hlong _ s) _ _))

/-! ## Lines of digests -/

/-- Escapes are undone. -/
theorem unescaped_escaped (name : Chars) : unescaped (escaped name) = name := by
  induction name with
  | nil => rfl
  | cons c more ih =>
    rw [escaped] at ih ⊢
    rw [List.flatMap_cons]
    by_cases hslash : c = '\\'
    · rw [if_pos hslash, hslash, List.cons_append, List.cons_append, List.nil_append, unescaped, ih]
    · by_cases hend : c = '\n'
      · rw [if_neg hslash, if_pos hend, hend, List.cons_append, List.cons_append, List.nil_append,
          unescaped, ih]
      · simp [hslash, hend, unescaped, ih]

/-- A name that needs no escapes has none. -/
theorem escaped_of_not_needsEscapes {name : Chars} (h : needsEscapes name = false) :
    escaped name = name := by
  have hplain : ∀ c ∈ name, c ≠ '\\' ∧ c ≠ '\n' := by simpa [needsEscapes] using h
  induction name with
  | nil => rfl
  | cons c more ih =>
    obtain ⟨⟨hslash, hend⟩, hmore⟩ := List.forall_mem_cons.1 hplain
    have hrest := ih (by simpa [needsEscapes] using hmore) hmore
    rw [escaped] at hrest ⊢
    rw [List.flatMap_cons, hrest, if_neg hslash, if_neg hend, List.singleton_append]

/-- A line is what it says, with a sign in front of it if there are escapes. -/
theorem lineOf_eq (m : Method) (tagged binary : Bool) (name text : Chars) :
    lineOf m tagged binary false name text =
      (if needsEscapes name then ['\\'] else []) ++
        lineBody m tagged binary (escaped name) text ++ ['\n'] := by
  cases h : needsEscapes name <;> simp [lineOf, h, escaped_of_not_needsEscapes]

/-- What a line says does not begin with the sign of escapes, and without a tag it does not look as
if it had one. -/
theorem lineBody_not_prefixed {m : Method} (hm : m ∈ [md5, sha1, sha256]) (binary : Bool)
    (shown text : Chars) :
    (∀ tagged, (lineBody m tagged binary shown text).head? ≠ some '\\') ∧
      (m.name.toList ++ " (".toList).isPrefixOf (lineBody m false binary shown text) = false := by
  obtain ⟨hlength, hdigits⟩ := digest_spec hm text
  have hpos : 0 < m.length := by
    rcases List.mem_cons.1 hm with rfl | hm
    · decide
    rcases List.mem_cons.1 hm with rfl | hm
    · decide
    · obtain rfl := List.mem_singleton.1 hm
      decide
  obtain ⟨c, digits, hof⟩ := List.exists_cons_of_length_pos (hlength.symm ▸ hpos)
  obtain ⟨hc, hlower⟩ := hdigits c (by simp [hof])
  have htag : ∃ d tag, m.name.toList ++ " (".toList = d :: tag ∧ d ≠ '\\' ∧ d.toLower ≠ d := by
    rcases List.mem_cons.1 hm with rfl | hm
    · exact ⟨'M', _, rfl, by decide, by decide⟩
    rcases List.mem_cons.1 hm with rfl | hm
    · exact ⟨'S', _, rfl, by decide, by decide⟩
    · obtain rfl := List.mem_singleton.1 hm
      exact ⟨'S', _, rfl, by decide, by decide⟩
  obtain ⟨d, tag, hd, hslash, hupper⟩ := htag
  refine ⟨fun tagged => ?_, ?_⟩
  · cases tagged with
    | true =>
      rw [lineBody, if_pos rfl, hd]
      simpa using hslash
    | false =>
      have hne : c ≠ '\\' := by
        rintro rfl
        revert hc
        decide
      simpa [lineBody, hof] using hne
  · have hne : d ≠ c := by
      rintro rfl
      exact hupper hlower
    rw [lineBody, if_neg Bool.false_ne_true, hd, hof, List.cons_append, List.isPrefixOf,
      beq_false_of_ne hne, Bool.false_and]

/-- What a line says tells of its digest and of what is shown of its name. -/
theorem lineParts_lineBody {m : Method} (hm : m ∈ [md5, sha1, sha256]) (tagged binary : Bool)
    (shown text : Chars) :
    lineParts? m (lineBody m tagged binary shown text) = some (m.of text, shown) := by
  obtain ⟨hlength, -⟩ := digest_spec hm text
  cases tagged with
  | true =>
    have hbody : lineBody m true binary shown text =
        (m.name.toList ++ " (".toList ++ shown ++ ") = ".toList) ++ m.of text := rfl
    rw [lineParts?, hbody]
    generalize m.name.toList ++ " (".toList = tag
    have htag : tag.isPrefixOf (tag ++ shown ++ ") = ".toList ++ m.of text) :=
      List.isPrefixOf_iff_prefix.2 ⟨shown ++ ") = ".toList ++ m.of text, by simp⟩
    have hplace (front : Chars) : (front ++ m.of text).length - m.length = front.length := by
      rw [List.length_append, hlength, Nat.add_sub_cancel]
    have hback : ") = ".toList.isSuffixOf (tag ++ shown ++ ") = ".toList) :=
      List.isSuffixOf_iff_suffix.2 ⟨tag ++ shown, rfl⟩
    have hname : (tag ++ shown ++ ") = ".toList).length - tag.length - 4 =
        shown.length := by
      simp only [List.length_append, String.reduceToList, List.length_cons, List.length_nil]
      omega
    have hlong : tag.length + 4 ≤ (tag ++ shown ++ ") = ".toList).length := by
      simp only [List.length_append, String.reduceToList, List.length_cons, List.length_nil]
      omega
    rw [if_pos htag, hplace, List.drop_left, List.take_left]
    simp only [hback, hlong, hname, decide_true, Bool.and_true, if_true]
    rw [List.append_assoc tag, List.drop_left, List.take_left]
  | false =>
    have hbody : lineBody m false binary shown text =
        m.of text ++ ' ' :: (if binary then '*' else ' ') :: shown := rfl
    have hnone := (lineBody_not_prefixed hm binary shown text).2
    rw [lineParts?, hnone, hbody, ← hlength, List.drop_left, List.take_left]
    cases binary <;> rfl

/-- A line that is written for a file tells of its name and its digest when it is read. -/
theorem readLine_lineOf {m : Method} (hm : m ∈ [md5, sha1, sha256]) (tagged binary : Bool)
    {name : Chars} (hname : name ≠ []) (text : Chars) :
    readLine? m (lineOf m tagged binary false name text).dropLast = some (m.of text, name) := by
  obtain ⟨hlength, hdigits⟩ := digest_spec hm text
  have hhead := (lineBody_not_prefixed hm binary (escaped name) text).1 tagged
  have hfound := lineParts_lineBody hm tagged binary (escaped name) text
  have hall : ∀ c ∈ m.of text, Numeral.isDigitOf 16 c := fun c hc => (hdigits c hc).1
  have hlower : (m.of text).map Char.toLower = m.of text :=
    (List.map_congr_left fun c hc => (hdigits c hc).2).trans (List.map_id _)
  have hshown : escaped name ≠ [] := fun hempty =>
    hname (by rw [← unescaped_escaped name, hempty, unescaped])
  rw [lineOf_eq, List.dropLast_concat, readLine?]
  cases hneeds : needsEscapes name with
  | true => simpa [hfound, hlength, hlower, hshown, unescaped_escaped] using hall
  | false =>
    rw [escaped_of_not_needsEscapes hneeds] at hhead hfound ⊢
    simpa [hhead, hfound, hlength, hlower, hname] using hall

end Shakedown.Utility.Checksum

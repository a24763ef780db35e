import Cardwright.Proofs.Markup.Annotation
import Cardwright.Proofs.Text.Utf8

/-!
# Searching the bytes of a text for keywords

A keyword can be looked for by its bytes, up to those of ASCII letters, and the words around it told
by single bytes.  Searching does not cut: it reads any range of bytes.  In the bytes of a text it
finds what is found in the text (`Bytes.hitAt?_utf8`), so a keyword takes up whole characters,
whatever characters it has (`Bytes.exists_spelling_iff`), and it is looked for where a word begins
(`Bytes.startsWord_utf8_iff`).
-/

namespace Cardwright

open Text

namespace Bytes

/-! ### Searching at a place -/

/-- A keyword found in bytes. -/
structure Hit where
  /-- How many bytes it takes up. -/
  size : Nat
  /-- The word that it is a plural of, if it is one. -/
  singular : Option Bytes
deriving DecidableEq, Repr

/-- The bytes from one place to another one, be it between characters or not. -/
def range? (b : Bytes) (i j : Nat) : Option Bytes :=
  if i ≤ j ∧ j ≤ b.length then some (b.extract i j) else none

/-- Whether a byte of a word stands at a place. -/
def wordAt (b : Bytes) (i : Nat) : Bool := b[i]?.any isWord

/-- Whether a word begins at a place. -/
def startsWord (b : Bytes) (i : Nat) : Bool := wordAt b i && (i == 0 || !wordAt b (i - 1))

/-- Whether a single "s", which is the byte 115 or 83, stands at a place and ends its word. -/
def pluralAt (b : Bytes) (i : Nat) : Bool :=
  b[i]?.any (fun x => x == 115 || x == 83) && !wordAt b (i + 1)

/-- Find an entry at a place, with a plural ending or as it is. -/
def entryAt? (e : KeywordEntry) (b : Bytes) (i : Nat) : Option Hit :=
  let word := utf8 e.word
  let stop := i + word.length
  match range? b i stop with
  | none => none
  | some candidate =>
    if candidate.map lower = word.map lower then
      if pluralAt b stop then some ⟨word.length + 1, some word⟩
      else if !wordAt b stop then some ⟨word.length, e.singular.map utf8⟩
      else none
    else none

/-- The first entry found at a place. -/
def hitAt? (m : Matcher) (b : Bytes) (i : Nat) : Option Hit := m.entries.findSome? (entryAt? · b i)

/-- The keyword found at a place, if a word begins there. -/
def keywordAt? (m : Matcher) (b : Bytes) (i : Nat) : Option Hit :=
  if startsWord b i then hitAt? m b i else none

/-- Where a word begins, what is found takes up a byte at least. -/
theorem size_pos_of_keywordAt? {m : Matcher} {b : Bytes} {i : Nat} {hit : Hit}
    (h : keywordAt? m b i = some hit) : 0 < hit.size := by
  unfold keywordAt? at h
  split_ifs at h with hstart
  obtain ⟨e, -, hentry⟩ := List.exists_of_findSome?_eq_some h
  have hword : wordAt b i = true := ((Bool.and_eq_true _ _).mp hstart).1
  unfold entryAt? at hentry
  dsimp only at hentry
  split at hentry
  · cases hentry
  · split_ifs at hentry with hsame hplural hends
    · rw [← Option.some.inj hentry]
      exact Nat.succ_pos _
    · rw [← Option.some.inj hentry]
      -- An empty entry would end its word at the byte that begins it.
      refine Nat.pos_of_ne_zero fun hzero => ?_
      have hzero : (utf8 e.word).length = 0 := hzero
      rw [hzero, Nat.add_zero, hword] at hends
      cases hends

/-! ### Words around a place -/

theorem wordAt_append (x y : Bytes) (i : Nat) : wordAt (x ++ y) (x.length + i) = wordAt y i := by
  rw [wordAt, List.getElem?_append_right (Nat.le_add_right _ _), Nat.add_sub_cancel_left]
  rfl

theorem pluralAt_append (x y : Bytes) (i : Nat) :
    pluralAt (x ++ y) (x.length + i) = pluralAt y i := by
  rw [pluralAt, Nat.add_assoc, wordAt_append, List.getElem?_append_right (Nat.le_add_right _ _),
    Nat.add_sub_cancel_left]
  rfl

theorem range?_append (x y : Bytes) (i j : Nat) :
    range? (x ++ y) (x.length + i) (x.length + j) = range? y i j := by
  have hcut : (x ++ y).extract (x.length + i) (x.length + j) = y.extract i j := by
    rw [List.extract_eq_take_drop, List.extract_eq_take_drop, ← List.drop_drop, List.drop_left]
    congr 1
    omega
  unfold range?
  rw [hcut, List.length_append]
  exact if_congr (by omega) rfl rfl

/-- Searching for an entry does not look back. -/
theorem entryAt?_append (e : KeywordEntry) (x y : Bytes) :
    entryAt? e (x ++ y) x.length = entryAt? e y 0 := by
  have hrange := range?_append x y 0 (utf8 e.word).length
  rw [Nat.add_zero] at hrange
  unfold entryAt?
  simp only [hrange, pluralAt_append, wordAt_append, Nat.zero_add]

/-- Each byte of a character belongs to words exactly if the character does. -/
theorem wordAt_utf8EncodeChar {c : Char} {j : Nat} (hj : j < (String.utf8EncodeChar c).length)
    (y : Bytes) : wordAt (String.utf8EncodeChar c ++ y) j = isWordChar c := by
  rw [wordAt, List.getElem?_append_left hj, List.getElem?_eq_getElem hj]
  exact isWord_of_mem (List.getElem_mem hj)

/-- Behind a part of a text a word goes on exactly if it does not end there. -/
theorem wordAt_utf8_length (s t : Text) :
    wordAt (utf8 (s ++ t)) (utf8 s).length = !atWordEnd t := by
  have hplace := wordAt_append (utf8 s) (utf8 t) 0
  rw [Nat.add_zero] at hplace
  rw [utf8_append, hplace]
  cases t with
  | nil => rfl
  | cons c t =>
    rw [utf8_cons, wordAt_utf8EncodeChar (length_utf8EncodeChar_pos c), atWordEnd, Bool.not_not]

theorem isLetterS_of_mem {c : Char} {b : UInt8} (hb : b ∈ String.utf8EncodeChar c) :
    (b == 115 || b == 83) = (c.toLower == 's') := by
  refine forall_mem_utf8EncodeChar (P := fun c b => (b == 115 || b == 83) = (c.toLower == 's'))
    (by decide +kernel) ?_ c b hb
  intro c b hc hb
  have hletter : c ≠ 's' := by
    rintro rfl
    exact absurd hc (by decide)
  have hlower : b ≠ 115 := by
    rintro rfl
    exact absurd hb (by decide)
  have hupper : b ≠ 83 := by
    rintro rfl
    exact absurd hb (by decide)
  rw [toLower_of_le hc, beq_false_of_ne hletter, beq_false_of_ne hlower, beq_false_of_ne hupper,
    Bool.or_false]

theorem pluralAt_utf8_length (s t : Text) :
    pluralAt (utf8 (s ++ t)) (utf8 s).length = pluralEnding t := by
  have hplace := pluralAt_append (utf8 s) (utf8 t) 0
  rw [Nat.add_zero] at hplace
  rw [utf8_append, hplace]
  cases t with
  | nil => rfl
  | cons c t =>
    have hpos := length_utf8EncodeChar_pos c
    have hletter : (utf8 (c :: t))[0]?.any (fun x => x == 115 || x == 83) =
        (c.toLower == 's') := by
      rw [utf8_cons, List.getElem?_append_left hpos, List.getElem?_eq_getElem hpos]
      exact isLetterS_of_mem (List.getElem_mem hpos)
    rw [pluralAt, hletter, pluralEnding]
    cases hs : c.toLower == 's' with
    | false => rfl
    | true =>
      -- Such a letter is one byte, so its word ends where the rest of the text begins.
      have hone := utf8EncodeChar_of_isWordChar (isWordChar_of_toLower_eq_s (eq_of_beq hs))
      have hlength : (utf8 [c]).length = 0 + 1 := by
        rw [utf8_singleton, hone, List.length_singleton]
      rw [← List.singleton_append, ← hlength, wordAt_utf8_length, Bool.not_not]

/-! ### Entries -/

/-- Bytes equal to those of a word up to ASCII letters are a spelling of the word. -/
theorem exists_spelling_iff {w t : Text} {x : Bytes} :
    range? (utf8 t) 0 (utf8 w).length = some x ∧ x.map lower = (utf8 w).map lower ↔
      ∃ spelling rest, t = spelling ++ rest ∧ EqIgnoringCase w spelling ∧ x = utf8 spelling := by
  constructor
  · rintro ⟨hrange, hsame⟩
    unfold range? at hrange
    split_ifs at hrange with hcut
    have hx : (utf8 t).take (utf8 w).length = x := by
      simpa [List.extract_eq_take_drop] using hrange
    -- The lowered word begins the lowered text, so a part of the text is lowered to it.
    have hprefix : utf8 (lowerAscii w) <+: utf8 (lowerAscii t) := by
      rw [← map_lower_utf8, ← map_lower_utf8, ← hsame, ← hx]
      exact (List.take_prefix _ _).map lower
    obtain ⟨r, hr⟩ := utf8_prefix_iff.1 hprefix
    obtain ⟨spelling, rest, rfl, hspelling, -⟩ := List.map_eq_append_iff.1 hr.symm
    have hspelled : EqIgnoringCase w spelling := hspelling.symm
    refine ⟨spelling, rest, rfl, hspelled, ?_⟩
    rw [← hx, length_utf8_eq hspelled, utf8_append, List.take_left]
  · rintro ⟨spelling, rest, rfl, hspelled, rfl⟩
    refine ⟨?_, ?_⟩
    · rw [range?, length_utf8_eq hspelled, if_pos ⟨Nat.zero_le _, by simp⟩]
      simp [List.extract_eq_take_drop]
    · rw [map_lower_utf8, map_lower_utf8, hspelled]

/-- A hit in a text, as one in its bytes. -/
def hitIn (t : Text) (hit : Cardwright.Hit) : Hit :=
  ⟨(utf8 (t.take hit.length)).length, hit.singular.map utf8⟩

theorem entryAt?_utf8 (e : KeywordEntry) (t : Text) :
    entryAt? e (utf8 t) 0 = (e.hit? t).map (hitIn t) := by
  unfold entryAt? KeywordEntry.hit?
  dsimp only
  rw [Nat.zero_add]
  cases hafter : afterStartIgnoringCase? e.word t with
  | none =>
    split
    · rfl
    · next candidate hrange =>
      refine if_neg fun hsame => ?_
      obtain ⟨spelling, rest, rfl, hspelled, -⟩ := exists_spelling_iff.1 ⟨hrange, hsame⟩
      rw [afterStartIgnoringCase?_eq_some_iff.2 ⟨spelling, hspelled, rfl⟩] at hafter
      cases hafter
  | some rest =>
    obtain ⟨spelling, hspelled, rfl⟩ := afterStartIgnoringCase?_eq_some_iff.1 hafter
    obtain ⟨hrange, hsame⟩ := exists_spelling_iff.2 ⟨spelling, rest, rfl, hspelled, rfl⟩
    have hlength := hspelled.length_eq
    rw [hrange]
    dsimp only
    rw [if_pos hsame, length_utf8_eq hspelled, pluralAt_utf8_length, wordAt_utf8_length,
      Bool.not_not]
    split_ifs with hp he
    · obtain ⟨c, behind, rfl, hc, -⟩ := pluralEnding_iff.1 hp
      have htake : (spelling ++ c :: behind).take (e.word.length + 1) = spelling ++ [c] := by
        rw [List.append_cons]
        exact List.take_left' (by simp [hlength])
      have hone := utf8EncodeChar_of_isWordChar (isWordChar_of_toLower_eq_s hc)
      have hsize : (utf8 (spelling ++ [c])).length = (utf8 spelling).length + 1 := by
        rw [utf8_append, utf8_cons, hone]
        simp
      rw [Option.map_some, hitIn, htake, hsize]
      rfl
    · have htake : (spelling ++ rest).take e.word.length = spelling := by
        rw [hlength, List.take_left]
      rw [Option.map_some, hitIn, htake]
    · rfl

/-- **Searching the bytes of a text gives what searching the text gives.** -/
theorem hitAt?_utf8 (m : Matcher) (s t : Text) :
    hitAt? m (utf8 (s ++ t)) (utf8 s).length = (m.hit? t).map (hitIn t) := by
  rw [hitAt?, Matcher.hit?, List.map_findSome?]
  congr 1
  funext e
  rw [utf8_append, entryAt?_append, entryAt?_utf8, Function.comp_apply]

/-! ### Where words begin -/

theorem startsWord_utf8_iff {s t : Text} :
    startsWord (utf8 (s ++ t)) (utf8 s).length = true ↔ WordStart s t := by
  have hbehind : (!atWordEnd t) = true ↔ ∃ c ∈ t.head?, isWordChar c = true := by
    cases t with
    | nil => simp [atWordEnd]
    | cons c t => simp [atWordEnd]
  have hbefore : ((utf8 s).length == 0 || !wordAt (utf8 (s ++ t)) ((utf8 s).length - 1)) = true ↔
      ∀ c ∈ s.getLast?, isWordChar c = false := by
    rcases List.eq_nil_or_concat s with rfl | ⟨s, d, rfl⟩
    · simp
    · -- The byte before is one of the last character.
      have hpos := length_utf8EncodeChar_pos d
      have hlength := length_utf8_concat s d
      have hword : wordAt (utf8 (s ++ [d] ++ t)) ((utf8 (s ++ [d])).length - 1) =
          isWordChar d := by
        rw [hlength, Nat.add_sub_assoc hpos, List.append_assoc, List.singleton_append, utf8_append,
          wordAt_append, utf8_cons]
        exact wordAt_utf8EncodeChar (by omega) _
      rw [List.concat_eq_append, hword, beq_false_of_ne (by omega)]
      simp
  rw [startsWord, wordAt_utf8_length, Bool.and_eq_true, hbehind, hbefore, WordStart, and_comm]

theorem keywordAt?_utf8_of_wordStart {m : Matcher} {s t : Text} (h : WordStart s t) :
    keywordAt? m (utf8 (s ++ t)) (utf8 s).length = (m.hit? t).map (hitIn t) := by
  rw [keywordAt?, if_pos (startsWord_utf8_iff.2 h), hitAt?_utf8]

theorem keywordAt?_utf8_of_not_wordStart {m : Matcher} {s t : Text} (h : ¬ WordStart s t) :
    keywordAt? m (utf8 (s ++ t)) (utf8 s).length = none := by
  rw [keywordAt?, if_neg (mt startsWord_utf8_iff.1 h)]

end Bytes

end Cardwright

import Cardwright.Proofs.Markup.Bytes.Search
import Cardwright.Proofs.Markup.Bytes.Split

/-!
# Highlighting the bytes of a text

Highlighting can be done on bytes alone: a loop goes from byte to byte, with a second place up to
which everything has been written, and cuts out the bytes between the two places and those of each
keyword.  A cut that is not between two characters makes it fail.

In the bytes of a text none does.  Where a keyword is found the loop passes all its characters, and
elsewhere no word begins before the next character does, so from each place between two characters
it comes to another such place (`Bytes.writes_keyword`, `Bytes.Writes.plain`).  It writes the bytes
of the pieces of the scan (`Bytes.writes_scan`), and highlighting the bytes gives those of the
highlighted text (`Bytes.highlight?_utf8`).
-/

namespace Cardwright

open Text

namespace Bytes

/-! ### Classes and tags -/

/-- The class of a word: only its first letter is raised. -/
def keywordClass? (word : Bytes) : Option Bytes := do
  let lowered := word.map lower
  let first ← slice? lowered 0 (firstWidth lowered)
  let rest ← slice? lowered (firstWidth lowered) lowered.length
  return utf8 "keyword-" ++ first.map upper ++ rest

/-- The class of the singular behind the one of the word, if there is a singular. -/
def singularClass? : Option Bytes → Option Bytes
  | none => some []
  | some word => (keywordClass? word).map (utf8 " " ++ ·)

/-- Write a keyword between its tags. -/
def span? (surface : Bytes) (singular : Option Bytes) : Option Bytes := do
  let first ← keywordClass? surface
  let second ← singularClass? singular
  return utf8 "<span class=\"" ++ first ++ second ++ utf8 "\">" ++ surface ++ utf8 "</span>"

theorem keywordClass?_utf8 (w : Text) :
    keywordClass? (utf8 w) = some (utf8 (keywordClass w)) := by
  unfold keywordClass? keywordClass
  rw [map_lower_utf8]
  dsimp only
  cases lowerAscii w with
  | nil => rfl
  | cons c t =>
    have hwidth : firstWidth (utf8 (c :: t)) = (utf8 [c]).length := by
      rw [firstWidth_utf8, utf8_singleton]
    have hfirst : slice? (utf8 (c :: t)) 0 (utf8 [c]).length = some (utf8 [c]) :=
      slice?_utf8 [] [c] t
    have hrest : slice? (utf8 (c :: t)) (utf8 [c]).length (utf8 (c :: t)).length =
        some (utf8 t) := slice?_utf8_tail [c] t
    have hupper : (utf8 [c]).map upper = utf8 [c.toUpper] := by
      rw [utf8_singleton, utf8_singleton, map_upper_utf8EncodeChar]
    rw [hwidth, hfirst, hrest]
    simp only [Option.bind_eq_bind, Option.bind_some, hupper]
    rw [List.append_assoc, ← utf8_append, ← utf8_append]
    rfl

/-- The class of the singular as it stands in an opening tag. -/
theorem singularClass?_utf8 (singular : Option Text) :
    singularClass? (singular.map utf8) =
      some (utf8 (match singular with
        | some word => ' ' :: keywordClass word
        | none => [])) := by
  cases singular with
  | none => rfl
  | some word =>
    rw [Option.map_some, singularClass?, keywordClass?_utf8, Option.map_some, ← utf8_append]
    rfl

theorem span?_utf8 (surface : Text) (singular : Option Text) :
    span? (utf8 surface) (singular.map utf8) =
      some (utf8 (Piece.keyword surface singular).render) := by
  unfold span? Piece.render openingTag closingTag
  rw [keywordClass?_utf8, singularClass?_utf8]
  simp only [Option.bind_eq_bind, Option.bind_some, utf8_append]
  rfl

/-! ### The loop -/

/-- Mark the keywords of plain bytes from the place `i` on.  What stands before the place `copied`
has been written. -/
def mark? (m : Matcher) (b : Bytes) (copied i : Nat) (out : Bytes) : Option Bytes :=
  if i < b.length then
    match _h : keywordAt? m b i with
    | none => mark? m b copied (i + 1) out
    | some hit =>
      match slice? b copied i, slice? b i (i + hit.size) with
      | some passed, some surface =>
        match span? surface hit.singular with
        | some span => mark? m b (i + hit.size) (i + hit.size) (out ++ passed ++ span)
        | none => none
      | _, _ => none
  else (slice? b copied b.length).map (out ++ ·)
termination_by b.length - i
decreasing_by
  · omega
  · have hpos := size_pos_of_keywordAt? _h
    omega

theorem mark?_of_end {m : Matcher} {b : Bytes} {copied i : Nat} (out : Bytes)
    (hi : b.length ≤ i) : mark? m b copied i out = (slice? b copied b.length).map (out ++ ·) := by
  rw [mark?, if_neg (Nat.not_lt.2 hi)]

theorem mark?_of_none {m : Matcher} {b : Bytes} {copied i : Nat} (out : Bytes)
    (hi : i < b.length) (h : keywordAt? m b i = none) :
    mark? m b copied i out = mark? m b copied (i + 1) out := by
  rw [mark?, if_pos hi]
  split <;> simp_all

theorem mark?_of_some {m : Matcher} {b passed surface span : Bytes} {copied i : Nat} {hit : Hit}
    (out : Bytes) (hi : i < b.length) (h : keywordAt? m b i = some hit)
    (hpassed : slice? b copied i = some passed)
    (hsurface : slice? b i (i + hit.size) = some surface)
    (hspan : span? surface hit.singular = some span) :
    mark? m b copied i out =
      mark? m b (i + hit.size) (i + hit.size) (out ++ passed ++ span) := by
  rw [mark?, if_pos hi]
  split <;> simp_all

/-- Bytes at which no keyword begins are passed one after another. -/
theorem mark?_skip {m : Matcher} {b : Bytes} {copied i : Nat} (out : Bytes) {k : Nat}
    (hk : i + k ≤ b.length) (h : ∀ j < k, keywordAt? m b (i + j) = none) :
    mark? m b copied i out = mark? m b copied (i + k) out := by
  induction k with
  | zero => rfl
  | succ k ih =>
    rw [ih (by omega) fun j hj => h j (by omega), mark?_of_none out (by omega) (h k (by omega)),
      Nat.add_assoc]

/-- A character at which no keyword begins is passed as a whole: no word begins within it. -/
theorem mark?_utf8_plain {m : Matcher} {s t : Text} {c : Char} {copied : Nat} (out : Bytes)
    (h : keywordAt? m (utf8 (s ++ c :: t)) (utf8 s).length = none) :
    mark? m (utf8 (s ++ c :: t)) copied (utf8 s).length out =
      mark? m (utf8 (s ++ [c] ++ t)) copied (utf8 (s ++ [c])).length out := by
  have hbytes : utf8 (s ++ c :: t) = utf8 s ++ (String.utf8EncodeChar c ++ utf8 t) := by
    rw [utf8_append, utf8_cons]
  rw [← List.append_cons, length_utf8_concat]
  refine mark?_skip out ?_ fun j hj => ?_
  · rw [hbytes, List.length_append, List.length_append]
    omega
  · rcases Nat.eq_zero_or_pos j with rfl | hpos
    · exact h
    · -- A character of several bytes does not belong to words.
      have hword : isWordChar c = false := by
        by_contra hne
        have hone := utf8EncodeChar_of_isWordChar (Bool.not_eq_false _ ▸ hne)
        rw [hone, List.length_singleton] at hj
        omega
      have hat : wordAt (utf8 (s ++ c :: t)) ((utf8 s).length + j) = false := by
        rw [hbytes, wordAt_append, wordAt_utf8EncodeChar hj, hword]
      rw [keywordAt?, startsWord, hat, Bool.false_and]
      exact if_neg Bool.false_ne_true

/-! ### The loop along the scan -/

/-- From the front of a text the loop writes what is pending before it and some pieces, whatever has
been written. -/
def Writes (m : Matcher) (inWord : Bool) (t : Text) (pieces : List Piece) : Prop :=
  ∀ (written pending : Text) (out : Bytes), Matcher.FlagFor (written ++ pending) t inWord →
    mark? m (utf8 (written ++ pending ++ t)) (utf8 written).length
        (utf8 (written ++ pending)).length out =
      some (out ++ utf8 (pending ++ pieces.flatMap Piece.render))

section Loop

variable {m : Matcher} {inWord : Bool} {t : Text} {pieces : List Piece}

theorem writes_nil : Writes m inWord [] [] := by
  intro written pending out _
  have hslice := slice?_utf8_tail written pending
  rw [List.append_nil, mark?_of_end out le_rfl, hslice, List.flatMap_nil, List.append_nil]
  rfl

/-- A character at which no keyword is found is left pending. -/
theorem Writes.plain {c : Char} (h : Writes m (isWordChar c) t pieces)
    (hmiss : ∀ s, Matcher.FlagFor s (c :: t) inWord → WordStart s (c :: t) →
      m.hit? (c :: t) = none) :
    Writes m inWord (c :: t) (.plain c :: pieces) := by
  intro written pending out hflag
  have hnone : keywordAt? m (utf8 (written ++ pending ++ c :: t))
      (utf8 (written ++ pending)).length = none := by
    by_cases hstart : WordStart (written ++ pending) (c :: t)
    · rw [keywordAt?_utf8_of_wordStart hstart, hmiss _ hflag hstart, Option.map_none]
    · exact keywordAt?_utf8_of_not_wordStart hstart
  have hbehind := Matcher.flagFor_append_singleton (written ++ pending) t c
  rw [List.append_assoc] at hbehind
  have hrest := h written (pending ++ [c]) out hbehind
  rw [← List.append_assoc] at hrest
  rw [mark?_utf8_plain out hnone, hrest, List.flatMap_cons, Piece.render, List.append_assoc]

/-- A keyword is written as a whole, behind what is pending before it. -/
theorem writes_keyword {surface rest : Text} {hit : Cardwright.Hit} {c : Char}
    (hc : c ∈ surface.head?) (hword : isWordChar c = true)
    (hhit : m.hit? (surface ++ rest) = some hit) (hlength : hit.length = surface.length)
    (hends : atWordEnd rest = true) (h : Writes m true rest pieces) :
    Writes m false (surface ++ rest) (.keyword surface hit.singular :: pieces) := by
  intro written pending out hflag
  have hhead : c ∈ (surface ++ rest).head? := by
    rw [List.head?_append, hc]
    rfl
  have hstart : WordStart (written ++ pending) (surface ++ rest) :=
    ⟨(hflag c hhead hword).2 rfl, c, hhead, hword⟩
  have hfound := keywordAt?_utf8_of_wordStart (m := m) hstart
  rw [hhit, Option.map_some] at hfound
  have hsize : (utf8 (written ++ pending)).length + (hitIn (surface ++ rest) hit).size =
      (utf8 (written ++ pending ++ surface)).length := by
    rw [hitIn, hlength, List.take_left, utf8_append (written ++ pending), List.length_append]
  have hinside : (utf8 (written ++ pending)).length <
      (utf8 (written ++ pending ++ (surface ++ rest))).length := by
    rw [utf8_append (written ++ pending), List.length_append]
    refine Nat.lt_add_of_pos_right (Nat.pos_of_ne_zero fun hzero => ?_)
    rw [length_utf8_eq_zero hzero] at hhead
    cases hhead
  have hpassed := slice?_utf8 written pending (surface ++ rest)
  have hsurface : slice? (utf8 (written ++ pending ++ (surface ++ rest)))
      (utf8 (written ++ pending)).length
      ((utf8 (written ++ pending)).length + (hitIn (surface ++ rest) hit).size) =
        some (utf8 surface) := by
    rw [hsize, ← List.append_assoc]
    exact slice?_utf8 (written ++ pending) surface rest
  have hrest := h (written ++ pending ++ surface) []
    (out ++ utf8 pending ++ utf8 (Piece.keyword surface hit.singular).render)
    (Matcher.flagFor_of_atWordEnd _ hends true)
  rw [List.append_nil, List.append_assoc _ surface rest] at hrest
  rw [mark?_of_some out hinside hfound hpassed hsurface (span?_utf8 surface hit.singular), hsize,
    hrest, List.flatMap_cons]
  simp only [utf8_append, List.nil_append, List.append_assoc]

/-- **The loop writes the pieces of the scan**, and cuts only between two characters. -/
theorem writes_scan (m : Matcher) (inWord : Bool) (t : Text) :
    Writes m inWord t (m.scan inWord t) := by
  refine Matcher.scan_induction (m := m) (P := Writes m) ?nil ?hit ?miss ?pass inWord t
  case nil => exact fun _ => writes_nil
  case hit =>
    intro surface rest hit ⟨c, hc, hword⟩ hhit hlength hends ih
    exact writes_keyword hc hword hhit hlength hends ih
  case miss =>
    intro c t hc hhit ih
    rw [← hc] at ih ⊢
    exact ih.plain fun _ _ _ => hhit
  case pass =>
    intro inWord c t hstart ih
    refine ih.plain fun s hflag hword => ?_
    -- The flag would be set, and the scan looks for keywords only where it is not.
    obtain ⟨hbefore, d, hd, hword⟩ := hword
    obtain rfl : c = d := by simpa using hd
    rw [hword, (hflag c rfl hword).1 hbefore] at hstart
    cases hstart

end Loop

theorem mark?_utf8 (m : Matcher) (t : Text) (out : Bytes) :
    mark? m (utf8 t) 0 0 out = some (out ++ utf8 (m.highlightPlain t)) := by
  have hflag : Matcher.FlagFor ([] ++ []) t false := fun c _ _ => by simp
  exact writes_scan m false t [] [] out hflag

/-! ### Highlighting -/

/-- Write a segment, plain bytes with their keywords marked. -/
def markSegment? (m : Matcher) (out : Bytes) : BytesSegment → Option Bytes
  | .plain text => mark? m text 0 0 out
  | .tag text => some (out ++ text)

/-- Mark the keywords of the bytes of a text, leaving the tags in it as they are. -/
def highlight? (m : Matcher) (b : Bytes) : Option Bytes := do
  let segments ← split? b
  segments.foldlM (markSegment? m) []

/-- The text of a segment with its keywords marked. -/
def highlightSegment (m : Matcher) : MarkupSegment → Text
  | .plain text => m.highlightPlain text
  | .tag text => text

theorem foldlM_markSegment? (m : Matcher) (segments : List MarkupSegment) (out : Bytes) :
    (segments.map MarkupSegment.utf8).foldlM (markSegment? m) out =
      some (out ++ utf8 (segments.flatMap (highlightSegment m))) := by
  induction segments generalizing out with
  | nil => simp
  | cons s segments ih =>
    have hsegment : markSegment? m out s.utf8 = some (out ++ utf8 (highlightSegment m s)) := by
      cases s with
      | plain text => exact mark?_utf8 m text out
      | tag text => rfl
    rw [List.map_cons, List.foldlM_cons, hsegment, Option.bind_eq_bind, Option.bind_some, ih,
      List.flatMap_cons, utf8_append, List.append_assoc]

/-- **Highlighting the bytes of a text gives the bytes of the highlighted text.** -/
theorem highlight?_utf8 (m : Matcher) (t : Text) :
    highlight? m (utf8 t) = some (utf8 (m.highlight t)) := by
  have hsame : (Markup.split t).flatMap (highlightSegment m) = m.highlight t :=
    List.flatMap_congr fun s _ => by cases s <;> rfl
  rw [highlight?, split?_utf8, Option.bind_eq_bind, Option.bind_some, foldlM_markSegment?, hsame,
    List.nil_append]

/-- **Highlighting never cuts a character.**  Whatever the keywords are, in valid UTF-8 each cut is
between two characters, so none fails, and the result is valid UTF-8 as well: the bytes of the
highlighted text. -/
theorem highlight?_of_isValidUTF8 (keywords : List Text) (irregularPlurals : List (Text × Text))
    {b : Bytes} (h : b.toByteArray.IsValidUTF8) :
    ∃ out, highlight? (Matcher.ofKeywords keywords irregularPlurals) b = some out ∧
      out.toByteArray.IsValidUTF8 ∧
      ∀ t, b = utf8 t →
        out = utf8 ((Matcher.ofKeywords keywords irregularPlurals).highlight t) := by
  obtain ⟨t, rfl⟩ := isValidUTF8_iff.1 h
  refine ⟨_, highlight?_utf8 _ t, isValidUTF8_iff.2 ⟨_, rfl⟩, fun u hu => ?_⟩
  have hout := highlight?_utf8 (Matcher.ofKeywords keywords irregularPlurals) t
  rw [hu, highlight?_utf8] at hout
  exact (Option.some.inj hout).symm

/-- Keywords that begin or end with characters of two and three bytes, beside such characters. -/
theorem highlight?_of_isValidUTF8_accented :
    let keywords : List Text := ["café", "écu", "l’été"]
    let irregularPlurals : List (Text × Text) := [("L’éTé", "ÉTÉ")]
    let b := utf8 "é café <é>cafés l’été"
    b.toByteArray.IsValidUTF8 ∧
    ∃ out, highlight? (Matcher.ofKeywords keywords irregularPlurals) b = some out ∧
      out.toByteArray.IsValidUTF8 ∧
      ∀ t, b = utf8 t →
        out = utf8 ((Matcher.ofKeywords keywords irregularPlurals).highlight t) := by
  intro keywords irregularPlurals b
  have h : b.toByteArray.IsValidUTF8 := isValidUTF8_iff.2 ⟨_, rfl⟩
  exact ⟨h, highlight?_of_isValidUTF8 keywords irregularPlurals h⟩

end Bytes

end Cardwright

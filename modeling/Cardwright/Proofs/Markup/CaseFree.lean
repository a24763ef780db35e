import Cardwright.Proofs.Markup.Annotation

/-!
# What highlighting does not depend on

A matcher is made from a list of keywords, but what it marks is settled by the set of their raised
spellings; and of the text that it marks only the case-free letters count.

A hit is the longest form of a keyword at its place (`hit?_ofKeywords_eq_some_iff`), which is a
notion of the set of keywords and goes over to another spelling of the text (`LongestForm.congr`).
So two matchers for the same keywords, going over two spellings of one text, find the same pieces
step by step (`alike_scan`), tags being tags in both spellings (`alike_split`).

To say that the same is marked, highlighting is described by the ranges of bytes that it puts
between tags (`Matcher.spans`, `highlight_eq_wrap`); these and the tags are the same
(`highlight_congr`).
-/

namespace Cardwright

open Text

/-- Classes are named alike in every case. -/
theorem Text.EqIgnoringCase.keywordClass_eq {s t : Text} (h : EqIgnoringCase s t) :
    keywordClass s = keywordClass t := by
  have hlower : lowerAscii s = lowerAscii t := h
  unfold keywordClass
  rw [hlower]

/-! ### Keywords up to order, repetition and case -/

/-- Two lists have the same words, once the letters are raised. -/
def SameWords (keywords keywords' : List Text) : Prop :=
  ∀ w, w ∈ keywords.map upperAscii ↔ w ∈ keywords'.map upperAscii

theorem SameWords.symm {keywords keywords' : List Text} (h : SameWords keywords keywords') :
    SameWords keywords' keywords := fun w => (h w).symm

theorem SameWords.exists_mem {keywords keywords' : List Text} (h : SameWords keywords keywords')
    {k : Text} (hk : k ∈ keywords) :
    ∃ k' ∈ keywords', upperAscii k' = upperAscii k ∧ EqIgnoringCase k' k := by
  obtain ⟨k', hk', hupper⟩ := List.mem_map.1 ((h _).1 (List.mem_map_of_mem hk))
  refine ⟨k', hk', hupper, ?_⟩
  have hraised := (eqIgnoringCase_upperAscii k').symm
  rw [hupper] at hraised
  exact hraised.trans (eqIgnoringCase_upperAscii k)

section Forms

variable {keywords keywords' : List Text} {irregularPlurals : List (Text × Text)}
  {surface surface' rest rest' t t' : Text}

theorem IsForm.congr (h : SameWords keywords keywords') (hsurface : EqIgnoringCase surface surface')
    (hform : IsForm keywords surface) : IsForm keywords' surface' := by
  obtain ⟨k, hk, hform⟩ := hform
  obtain ⟨k', hk', -, heq⟩ := h.exists_mem hk
  refine ⟨k', hk', ?_⟩
  rcases hform with hexact | hplural
  · exact Or.inl ((heq.trans hexact).trans hsurface)
  · exact Or.inr (((heq.append (.refl _)).trans hplural).trans hsurface)

/-- Where a form begins a text, the same letters begin every other spelling of it. -/
theorem FormAt.congr (h : SameWords keywords keywords') (ht : EqIgnoringCase t t')
    (hform : FormAt keywords surface t) :
    ∃ surface', EqIgnoringCase surface surface' ∧ FormAt keywords' surface' t' := by
  obtain ⟨hform, rest, rfl, hends⟩ := hform
  obtain ⟨surface', rest', rfl, hsurface, hrest⟩ := ht.exists_append
  exact ⟨surface', hsurface, hform.congr h hsurface, rest', rfl, hrest.atWordEnd_eq ▸ hends⟩

/-- **The longest form is a notion of the set of keywords and of the letters**, and so is its
singular. -/
theorem LongestForm.congr (h : SameWords keywords keywords')
    (hsurface : EqIgnoringCase surface surface') (hrest : EqIgnoringCase rest rest')
    {singular : Option Text}
    (hlongest : LongestForm keywords irregularPlurals surface singular rest) :
    LongestForm keywords' irregularPlurals surface' singular rest' where
  form := hlongest.form.congr h hsurface
  ends := hrest.atWordEnd_eq ▸ hlongest.ends
  longest other hother := by
    obtain ⟨other', heq, hother'⟩ := hother.congr h.symm (hsurface.append hrest).symm
    have hle := hlongest.longest other' hother'
    rwa [← heq.length_eq, hsurface.length_eq] at hle
  exact k hk hexact := by
    obtain ⟨k', hk', hupper, heq⟩ := h.symm.exists_mem hk
    rw [← hupper]
    exact hlongest.exact k' hk' ((heq.trans hexact).trans hsurface.symm)
  plural hnone := by
    have hnone' : ∀ k ∈ keywords, ¬ EqIgnoringCase k surface := by
      intro k hk hexact
      obtain ⟨k', hk', -, heq⟩ := h.exists_mem hk
      exact hnone k' hk' ((heq.trans hexact).trans hsurface)
    obtain ⟨k, hk, hplural, hsingular⟩ := hlongest.plural hnone'
    obtain ⟨k', hk', hupper, heq⟩ := h.exists_mem hk
    refine ⟨k', hk', ((heq.append (.refl _)).trans hplural).trans hsurface, ?_⟩
    rw [hsingular, hupper]

end Forms

namespace Matcher

variable {keywords keywords' : List Text} {irregularPlurals : List (Text × Text)}

/-! ### Hits -/

/-- A matcher finds exactly the longest form of a keyword. -/
theorem hit?_ofKeywords_eq_some_iff {t : Text} {hit : Hit} :
    (ofKeywords keywords irregularPlurals).hit? t = some hit ↔
      ∃ surface rest, t = surface ++ rest ∧ hit.length = surface.length ∧
        LongestForm (sought keywords) irregularPlurals surface hit.singular rest := by
  refine ⟨longestForm_of_hit?, ?_⟩
  rintro ⟨surface, rest, rfl, hlength, hlongest⟩
  cases hfound : (ofKeywords keywords irregularPlurals).hit? (surface ++ rest) with
  | none =>
    exact absurd ⟨hlongest.form, rest, rfl, hlongest.ends⟩
      (hit?_ofKeywords_eq_none_iff.1 hfound surface)
  | some found =>
    -- What is found is the longest form as well, so it is as long and has the same singular.
    obtain ⟨other, behind, heq, hlength', hother⟩ := longestForm_of_hit? hfound
    have hle := hlongest.longest other ⟨hother.form, behind, heq, hother.ends⟩
    have hge := hother.longest surface ⟨hlongest.form, rest, heq.symm, hlongest.ends⟩
    obtain ⟨rfl, rfl⟩ := List.append_inj heq (Nat.le_antisymm hge hle)
    have hsingular := hother.singular_unique hlongest
    cases hit
    cases found
    simp_all

/-- **The same is found** by matchers for the same keywords in every spelling of a text. -/
theorem hit?_congr (h : SameWords (sought keywords) (sought keywords')) {t t' : Text}
    (ht : EqIgnoringCase t t') :
    (ofKeywords keywords irregularPlurals).hit? t =
      (ofKeywords keywords' irregularPlurals).hit? t' := by
  have hfound : ∀ {ks ks' : List Text}, SameWords (sought ks) (sought ks') → ∀ {u u' : Text},
      EqIgnoringCase u u' → ∀ hit, (ofKeywords ks irregularPlurals).hit? u = some hit →
        (ofKeywords ks' irregularPlurals).hit? u' = some hit := by
    intro ks ks' hwords u u' hu hit hhit
    obtain ⟨surface, rest, rfl, hlength, hlongest⟩ := hit?_ofKeywords_eq_some_iff.1 hhit
    obtain ⟨surface', rest', rfl, hsurface, hrest⟩ := hu.exists_append
    exact hit?_ofKeywords_eq_some_iff.2 ⟨surface', rest', rfl, by rw [hlength, hsurface.length_eq],
      hlongest.congr hwords hsurface hrest⟩
  refine Option.ext fun hit => ⟨hfound h ht hit, hfound h.symm ht.symm hit⟩

theorem isKeyword_congr (h : SameWords (sought keywords) (sought keywords')) {t t' : Text}
    (ht : EqIgnoringCase t t') :
    (ofKeywords keywords irregularPlurals).isKeyword t =
      (ofKeywords keywords' irregularPlurals).isKeyword t' := by
  rw [isKeyword, isKeyword, hit?_congr h ht, ht.length_eq]

end Matcher

/-! ### Tags -/

/-- Segments of the same kind with the same letters. -/
inductive MarkupSegment.Alike : MarkupSegment → MarkupSegment → Prop
  | plain {s t : Text} (h : EqIgnoringCase s t) : Alike (.plain s) (.plain t)
  | tag {s t : Text} (h : EqIgnoringCase s t) : Alike (.tag s) (.tag t)

namespace Markup

theorem isTag_congr {x y : Text} (h : EqIgnoringCase x y) (hx : IsTag x) : IsTag y := by
  obtain ⟨inner, rfl, hinner⟩ := hx
  obtain ⟨d, u, rfl, hd, hu⟩ := h.exists_cons
  obtain ⟨v, w, rfl, hv, hw⟩ := hu.exists_append
  obtain ⟨e, w, rfl, he, hw⟩ := hw.exists_cons
  obtain rfl := hw.eq_nil
  -- A bracket is no letter.
  obtain rfl : d = '<' := eq_of_toLower_eq (by decide) hd.symm
  obtain rfl : e = '>' := eq_of_toLower_eq (by decide) he.symm
  exact ⟨v, rfl, hv.not_mem (by decide) hinner⟩

theorem alike_consPlain {c d : Char} (hcd : c.toLower = d.toLower)
    {segments segments' : List MarkupSegment}
    (h : List.Forall₂ MarkupSegment.Alike segments segments') :
    List.Forall₂ MarkupSegment.Alike (consPlain c segments) (consPlain d segments') := by
  have hchar : EqIgnoringCase [c] [d] := EqIgnoringCase.cons_iff.2 ⟨hcd, .refl _⟩
  cases h with
  | nil => exact .cons (.plain hchar) .nil
  | cons hfirst hrest =>
    cases hfirst with
    | plain htext => exact .cons (.plain (EqIgnoringCase.cons_iff.2 ⟨hcd, htext⟩)) hrest
    | tag htag => exact .cons (.plain hchar) (.cons (.tag htag) hrest)

/-- **Every spelling of a text has its tags in the same places.** -/
theorem alike_split {t t' : Text} (h : EqIgnoringCase t t') :
    List.Forall₂ MarkupSegment.Alike (split t) (split t') := by
  fun_induction split t generalizing t' with
  | case1 =>
    obtain rfl := h.eq_nil
    rw [split]
    exact .nil
  | case2 c t x rest htag ih =>
    obtain ⟨inner, hx, hinner, heq⟩ := tag?_eq_some_iff.1 htag
    rw [heq] at h
    obtain ⟨y, rest', rfl, hxy, hrest⟩ := h.exists_append
    rw [split_tag_append (isTag_congr hxy ⟨inner, hx, hinner⟩)]
    exact .cons (.tag hxy) (ih hrest)
  | case3 c t htag ih =>
    obtain ⟨d, u, rfl, hcd, hu⟩ := h.exists_cons
    have hnone : tag? (d :: u) = none := by
      rw [tag?_cons_eq_none_iff]
      rintro rfl
      have hc : c = '<' := eq_of_toLower_eq (by decide) hcd
      exact hu.not_mem (by decide) (tag?_cons_eq_none_iff.1 htag hc)
    rw [split_cons_of_tag?_eq_none hnone]
    exact alike_consPlain hcd (ih hu)

end Markup

/-! ### Pieces -/

/-- Pieces of the same kind with the same letters; keywords with the same singular. -/
inductive Piece.Alike : Piece → Piece → Prop
  | plain {c d : Char} (h : c.toLower = d.toLower) : Alike (.plain c) (.plain d)
  | keyword {s t : Text} {singular : Option Text} (h : EqIgnoringCase s t) :
      Alike (.keyword s singular) (.keyword t singular)

namespace Matcher

variable {keywords keywords' : List Text} {irregularPlurals : List (Text × Text)}

theorem scan_nil (m : Matcher) (inWord : Bool) : m.scan inWord [] = [] := by rw [scan]

theorem scan_hit {m : Matcher} {surface rest : Text} {hit : Hit}
    (hword : ∃ c ∈ surface.head?, isWordChar c = true)
    (hhit : m.hit? (surface ++ rest) = some hit) (hlength : hit.length = surface.length) :
    m.scan false (surface ++ rest) = .keyword surface hit.singular :: m.scan true rest := by
  obtain ⟨c, hc, hword⟩ := hword
  obtain ⟨u, rfl⟩ := List.head?_eq_some_iff.1 hc
  rw [List.cons_append] at hhit ⊢
  rw [scan, hword, hhit]
  simp [hlength]

theorem scan_miss {m : Matcher} {c : Char} {t : Text} (hword : isWordChar c = true)
    (hhit : m.hit? (c :: t) = none) : m.scan false (c :: t) = .plain c :: m.scan true t := by
  rw [scan, hword, hhit]
  rfl

theorem scan_pass {m : Matcher} {inWord : Bool} {c : Char} {t : Text}
    (h : (isWordChar c && !inWord) = false) :
    m.scan inWord (c :: t) = .plain c :: m.scan (isWordChar c) t := by
  rw [scan, h]
  rfl

/-- **Two spellings are scanned in step.** -/
theorem alike_scan (h : SameWords (sought keywords) (sought keywords')) (inWord : Bool) (t : Text) :
    ∀ t', EqIgnoringCase t t' →
      List.Forall₂ Piece.Alike ((ofKeywords keywords irregularPlurals).scan inWord t)
        ((ofKeywords keywords' irregularPlurals).scan inWord t') := by
  refine scan_induction (P := fun inWord t pieces => ∀ t', EqIgnoringCase t t' →
    List.Forall₂ Piece.Alike pieces
      ((ofKeywords keywords' irregularPlurals).scan inWord t')) ?_ ?_ ?_ ?_ inWord t
  · intro inWord t' ht
    obtain rfl := ht.eq_nil
    rw [scan_nil]
    exact .nil
  · intro surface rest hit ⟨c, hc, hword⟩ hhit hlength _ ih t' ht
    obtain ⟨surface', rest', rfl, hsurface, hrest⟩ := ht.exists_append
    obtain ⟨u, rfl⟩ := List.head?_eq_some_iff.1 hc
    obtain ⟨d, u', rfl, hcd, -⟩ := hsurface.exists_cons
    rw [isWordChar_congr hcd] at hword
    rw [hit?_congr h ht] at hhit
    rw [scan_hit ⟨d, rfl, hword⟩ hhit (hlength.trans hsurface.length_eq)]
    exact .cons (.keyword hsurface) (ih rest' hrest)
  · intro c t hword hhit ih t' ht
    obtain ⟨d, u, rfl, hcd, hu⟩ := ht.exists_cons
    rw [hit?_congr h ht] at hhit
    rw [isWordChar_congr hcd] at hword
    rw [scan_miss hword hhit]
    exact .cons (.plain hcd) (ih u hu)
  · intro inWord c t hstart ih t' ht
    obtain ⟨d, u, rfl, hcd, hu⟩ := ht.exists_cons
    have hword := isWordChar_congr hcd
    rw [hword] at hstart
    rw [scan_pass hstart, ← hword]
    exact .cons (.plain hcd) (ih u hu)

/-- The pieces of a text with tags; the characters of tags are plain. -/
def pieces (m : Matcher) (t : Text) : List Piece :=
  (Markup.split t).flatMap fun
    | .plain text => m.scan false text
    | .tag text => text.map .plain

/-- The keywords among the pieces come from a scan, as the characters of tags are plain. -/
theorem exists_scan_of_mem_pieces {m : Matcher} {t surface : Text} {singular : Option Text}
    (h : .keyword surface singular ∈ m.pieces t) :
    ∃ text, .keyword surface singular ∈ m.scan false text := by
  obtain ⟨s, -, hin⟩ := List.mem_flatMap.1 h
  cases s with
  | plain text => exact ⟨text, hin⟩
  | tag x =>
    obtain ⟨c, -, hc⟩ := List.mem_map.1 hin
    cases hc

theorem covered_plain (t : Text) : covered (t.map .plain) = t := by
  induction t with
  | nil => rfl
  | cons c t ih => rw [List.map_cons, covered_cons, ih, Piece.surface, List.singleton_append]

theorem render_plain (t : Text) : (t.map .plain).flatMap Piece.render = t := by
  induction t with
  | nil => rfl
  | cons c t ih =>
    rw [List.map_cons, List.flatMap_cons, ih, Piece.render, List.singleton_append]

theorem covered_pieces (m : Matcher) (t : Text) : covered (m.pieces t) = t := by
  calc covered (m.pieces t)
      = (Markup.split t).flatMap MarkupSegment.render := by
        rw [covered, pieces, List.flatMap_assoc]
        refine List.flatMap_congr fun s _ => ?_
        cases s with
        | plain text => exact covered_scan m false text
        | tag text => exact covered_plain text
    _ = t := Markup.render_split t

/-- Highlighting writes the pieces. -/
theorem highlight_eq_pieces (m : Matcher) (t : Text) :
    m.highlight t = (m.pieces t).flatMap Piece.render := by
  rw [highlight, pieces, List.flatMap_assoc]
  refine List.flatMap_congr fun s _ => ?_
  cases s with
  | plain text => rfl
  | tag text => exact (render_plain text).symm

theorem alike_plain {t t' : Text} (h : EqIgnoringCase t t') :
    List.Forall₂ Piece.Alike (t.map .plain) (t'.map .plain) := by
  induction t generalizing t' with
  | nil =>
    obtain rfl := h.eq_nil
    exact .nil
  | cons c t ih =>
    obtain ⟨d, u, rfl, hcd, hu⟩ := h.exists_cons
    exact .cons (.plain hcd) (ih hu)

/-- **Two spellings come to the same pieces**, but for the case of their letters. -/
theorem alike_pieces (h : SameWords (sought keywords) (sought keywords')) {t t' : Text}
    (ht : EqIgnoringCase t t') :
    List.Forall₂ Piece.Alike ((ofKeywords keywords irregularPlurals).pieces t)
      ((ofKeywords keywords' irregularPlurals).pieces t') := by
  refine List.rel_flatMap (Markup.alike_split ht) fun s s' hs => ?_
  cases hs with
  | plain htext => exact alike_scan h false _ _ htext
  | tag htext => exact alike_plain htext

end Matcher

/-! ### Ranges of bytes -/

/-- A range of the bytes of a text that is put between tags, and the tag that opens it. -/
structure Span where
  start : Nat
  stop : Nat
  tag : Text
deriving DecidableEq, Repr

/-- Part a text behind its first bytes, and not within a character. -/
def splitBytes (n : Nat) : Text → Text × Text
  | [] => ([], [])
  | c :: t =>
    if c.utf8Size ≤ n then
      let (front, back) := splitBytes (n - c.utf8Size) t
      (c :: front, back)
    else ([], c :: t)

/-- Put ranges of bytes between tags, from left to right.  The text that is left begins with the
byte `offset`. -/
def wrap : List Span → (offset : Nat) → Text → Text
  | [], _, t => t
  | s :: spans, offset, t =>
    let (before, rest) := splitBytes (s.start - offset) t
    let (inside, behind) := splitBytes (s.stop - s.start) rest
    before ++ s.tag ++ inside ++ closingTag ++ wrap spans s.stop behind

/-- The ranges of the keywords among pieces of which the first one begins with the byte `offset`. -/
def Piece.spans : (offset : Nat) → List Piece → List Span
  | _, [] => []
  | offset, .plain c :: pieces => spans (offset + c.utf8Size) pieces
  | offset, .keyword surface singular :: pieces =>
    ⟨offset, offset + byteLength surface, openingTag surface singular⟩ ::
      spans (offset + byteLength surface) pieces

theorem splitBytes_append (s t : Text) : splitBytes (byteLength s) (s ++ t) = (s, t) := by
  induction s with
  | nil =>
    cases t with
    | nil => rfl
    | cons c t =>
      have hpos : 0 < c.utf8Size := Char.utf8Size_pos c
      exact if_neg (Nat.not_le_of_lt hpos)
  | cons c s ih =>
    have hle : c.utf8Size ≤ byteLength (c :: s) := Nat.le_add_right _ _
    have hrest : byteLength (c :: s) - c.utf8Size = byteLength s := Nat.add_sub_cancel_left _ _
    rw [List.cons_append, splitBytes, if_pos hle, hrest, ih]

/-- Writing pieces is putting the ranges of keywords between tags. -/
theorem wrap_spans (before : Text) (offset : Nat) (pieces : List Piece) :
    wrap (Piece.spans (offset + byteLength before) pieces) offset (before ++ covered pieces) =
      before ++ pieces.flatMap Piece.render := by
  -- Plain characters are gathered in front until the next keyword comes.
  induction pieces generalizing before offset with
  | nil => rfl
  | cons p pieces ih =>
    cases p with
    | plain c =>
      have hrest := ih (before ++ [c]) offset
      rw [byteLength_append, ← Nat.add_assoc] at hrest
      simpa [Piece.spans, Piece.surface, Piece.render, byteLength] using hrest
    | keyword surface singular =>
      have hrest := ih [] (offset + byteLength before + byteLength surface)
      have hfront := splitBytes_append before (surface ++ covered pieces)
      have hinside := splitBytes_append surface (covered pieces)
      rw [Piece.spans, wrap, covered_cons, Piece.surface, Nat.add_sub_cancel_left, hfront]
      simp only [Nat.add_sub_cancel_left, hinside]
      simpa [Piece.render, byteLength] using hrest

/-- Pieces that are alike put the same ranges between the same tags. -/
theorem spans_congr {pieces pieces' : List Piece} (h : List.Forall₂ Piece.Alike pieces pieces')
    (offset : Nat) : Piece.spans offset pieces = Piece.spans offset pieces' := by
  induction h generalizing offset with
  | nil => rfl
  | @cons p p' pieces pieces' hp _ ih =>
    cases hp with
    | @plain c d hcd =>
      have hsize : c.utf8Size = d.utf8Size := by
        rw [← utf8Size_toLower c, hcd, utf8Size_toLower]
      rw [Piece.spans, Piece.spans, hsize, ih]
    | @keyword surface surface' singular hsurface =>
      have htag : openingTag surface singular = openingTag surface' singular := by
        unfold openingTag
        rw [hsurface.keywordClass_eq]
      rw [Piece.spans, Piece.spans, hsurface.byteLength_eq, htag, ih]

namespace Matcher

/-- The ranges of bytes that a matcher marks in a text. -/
def spans (m : Matcher) (t : Text) : List Span := Piece.spans 0 (m.pieces t)

/-- **Highlighting puts ranges of bytes between tags**, and leaves the text as it is otherwise. -/
theorem highlight_eq_wrap (m : Matcher) (t : Text) : m.highlight t = wrap (m.spans t) 0 t := by
  have hwrap := wrap_spans [] 0 (m.pieces t)
  rw [covered_pieces] at hwrap
  rw [highlight_eq_pieces]
  exact hwrap.symm

/-- **What highlighting depends on.**  Let two lists of keywords have the same nonempty words up to
the case of letters, in whatever order and however often, and let two texts have the same letters.
Then the two matchers put the same ranges of bytes between the same tags, each in its own text, and
they agree on whether the texts are keywords. -/
theorem highlight_congr (irregularPlurals : List (Text × Text)) {keywords keywords' : List Text}
    (h : SameWords (sought keywords) (sought keywords')) {t t' : Text} (ht : EqIgnoringCase t t') :
    let m := ofKeywords keywords irregularPlurals
    let m' := ofKeywords keywords' irregularPlurals
    m.spans t = m'.spans t' ∧
      m.highlight t = wrap (m.spans t) 0 t ∧ m'.highlight t' = wrap (m'.spans t') 0 t' ∧
      m.isKeyword t = m'.isKeyword t' :=
  ⟨spans_congr (alike_pieces h ht) 0, highlight_eq_wrap _ t, highlight_eq_wrap _ t',
    isKeyword_congr h ht⟩

/-- Keywords of one length in another order, repeated and in other cases, found next to each other
and as plurals. -/
theorem highlight_congr_heal :
    let keywords : List Text := ["HEAL", "mice", "", "Haste", "HASTE", "health"]
    let keywords' : List Text := ["Health", "MICE", "haste", "heal"]
    let t : Text := "Heals, <b>mice</b> or haste: HEALTH"
    let t' : Text := "heaLS, <B>Mice</B> OR Haste: health"
    (SameWords (sought keywords) (sought keywords') ∧ EqIgnoringCase t t') ∧
    (let m := ofKeywords keywords [("MICE", "MOUSE")]
      let m' := ofKeywords keywords' [("MICE", "MOUSE")]
      m.spans t = m'.spans t' ∧
        m.highlight t = wrap (m.spans t) 0 t ∧ m'.highlight t' = wrap (m'.spans t') 0 t' ∧
        m.isKeyword t = m'.isKeyword t') := by
  intro keywords keywords' t t'
  have hsub : ∀ w ∈ (sought keywords).map upperAscii, w ∈ (sought keywords').map upperAscii := by
    decide
  have hsub' : ∀ w ∈ (sought keywords').map upperAscii, w ∈ (sought keywords).map upperAscii := by
    decide
  have hwords : SameWords (sought keywords) (sought keywords') := fun w => ⟨hsub w, hsub' w⟩
  have ht : EqIgnoringCase t t' := by decide
  exact ⟨⟨hwords, ht⟩, highlight_congr _ hwords ht⟩

end Matcher

end Cardwright

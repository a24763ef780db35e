import Cardwright.Proofs.Template.Forest
import Cardwright.Proofs.Text.Ascii
import Cardwright.Proofs.Text.Words

/-!
# What dropping a word does

Resolving a text is compared with resolving it by the same fill, no word being dropped.  The second
run writes its forest: each slot of the text is replaced by what it comes to (`fillIn`,
`Forest.texts`).  In what is written, a mark stands behind the text of each value whose fill asks
for a word to be dropped.  The first run makes the same calls and comes to the same words, but for
the word "as" behind each mark (`Loses`, `exists_dropsWords`).

A word may be put together from several texts, so this needs that the literals behind values begin
with a blank when the values are filled.  Both runs agree up to the pass of the values.  That pass
is followed along the template: behind the text of a value, the word and the blanks around it are
met in one literal, and words are not read across blanks (`Forest.Grafts.loses`).  From there on
both runs fill the same slots with the same texts (`InStep`).
-/

namespace Cardwright

namespace Template

/-! ### Marked texts -/

/-- A text with marks in it, each of them put by a filling. -/
abbrev MarkedText := List (Char ⊕ Filling)

/-- A text without marks. -/
def unmarked (t : Text) : MarkedText := t.map .inl

namespace MarkedText

/-- The text between the marks. -/
def text (w : MarkedText) : Text := w.filterMap Sum.getLeft?

/-- The fillings that put the marks. -/
def marks (w : MarkedText) : List Filling := w.filterMap Sum.getRight?

@[simp] theorem text_append (w w' : MarkedText) : text (w ++ w') = text w ++ text w' :=
  List.filterMap_append

@[simp] theorem marks_append (w w' : MarkedText) : marks (w ++ w') = marks w ++ marks w' :=
  List.filterMap_append

@[simp] theorem text_unmarked (t : Text) : text (unmarked t) = t := by
  induction t with
  | nil => rfl
  | cons c t ih => exact congrArg (c :: ·) ih

@[simp] theorem marks_unmarked (t : Text) : marks (unmarked t) = [] := by
  induction t with
  | nil => rfl
  | cons c t ih => exact ih

@[simp] theorem text_inr_cons (c : Filling) (w : MarkedText) : text (.inr c :: w) = text w := rfl

end MarkedText

@[simp] theorem unmarked_nil : unmarked [] = [] := rfl

@[simp] theorem unmarked_append (s t : Text) : unmarked (s ++ t) = unmarked s ++ unmarked t :=
  List.map_append

/-! ### What a forest writes -/

/-- Put texts in the places of all slots, from left to right. -/
def fillIn : Template → List MarkedText → MarkedText
  | [], _ => []
  | .literal l :: t, xs => unmarked l ++ fillIn t xs
  | .slot _ :: _, [] => []
  | .slot _ :: t, x :: xs => x ++ fillIn t xs

@[simp] theorem fillIn_consLiteral (l : Text) (t : Template) (xs : List MarkedText) :
    fillIn (consLiteral l t) xs = unmarked l ++ fillIn t xs := by
  rcases literal_cons_or_opensWithSlot t with ⟨next, u, rfl⟩ | hopen
  · simp [consLiteral, fillIn]
  · by_cases hnil : l = []
    · rw [hnil, consLiteral_nil, unmarked_nil, List.nil_append]
    · rw [consLiteral_of_opensWithSlot hnil hopen, fillIn]

/-- Two templates in a row are filled one after the other. -/
theorem fillIn_splice {front back : Template} {xs ys : List MarkedText}
    (hlength : xs.length = (placeholders front).length) :
    fillIn (splice front back) (xs ++ ys) = fillIn front xs ++ fillIn back ys := by
  induction front generalizing xs with
  | nil =>
    obtain rfl : xs = [] := List.length_eq_zero_iff.1 hlength
    rfl
  | cons s front ih =>
    have hcons : splice (s :: front) back = cons s (splice front back) := rfl
    rw [hcons]
    cases s with
    | literal l => rw [cons, fillIn_consLiteral, ih hlength, fillIn, List.append_assoc]
    | slot p =>
      cases xs with
      | nil => simp at hlength
      | cons x xs =>
        have hrest : xs.length = (placeholders front).length := by simpa using hlength
        rw [cons, List.cons_append, fillIn, ih hrest, fillIn, List.append_assoc]

/-- Open slots are rendered as their tokens. -/
theorem fillIn_tokens (t : Template) :
    fillIn t ((placeholders t).map fun p => unmarked p.token) = unmarked (render t) := by
  induction t with
  | nil => rfl
  | cons s t ih =>
    have hrender : render (s :: t) = s.render ++ render t := rfl
    rw [hrender, unmarked_append]
    cases s with
    | literal l => exact congrArg (unmarked l ++ ·) ih
    | slot p => exact congrArg (unmarked p.token ++ ·) ih

/-- All marks of the texts are left. -/
theorem marks_fillIn {t : Template} {xs : List MarkedText}
    (hlength : xs.length = (placeholders t).length) :
    (fillIn t xs).marks = xs.flatMap MarkedText.marks := by
  induction t generalizing xs with
  | nil =>
    obtain rfl : xs = [] := List.length_eq_zero_iff.1 hlength
    rfl
  | cons s t ih =>
    cases s with
    | literal l =>
      rw [fillIn, MarkedText.marks_append, MarkedText.marks_unmarked, List.nil_append]
      exact ih hlength
    | slot p =>
      cases xs with
      | nil => simp at hlength
      | cons x xs =>
        have hrest : xs.length = (placeholders t).length := by simpa using hlength
        rw [fillIn, MarkedText.marks_append, ih hrest, List.flatMap_cons]

/-- No marks come from the template. -/
theorem exists_fillIn_eq {xs : List MarkedText} (h : ∀ x ∈ xs, ∃ s, x = unmarked s)
    (t : Template) : ∃ s, fillIn t xs = unmarked s := by
  induction t generalizing xs with
  | nil => exact ⟨[], rfl⟩
  | cons s t ih =>
    cases s with
    | literal l =>
      obtain ⟨rest, hrest⟩ := ih h
      exact ⟨l ++ rest, by rw [fillIn, hrest, unmarked_append]⟩
    | slot p =>
      cases xs with
      | nil => exact ⟨[], rfl⟩
      | cons x xs =>
        obtain ⟨⟨s, rfl⟩, hxs⟩ := List.forall_mem_cons.1 h
        obtain ⟨rest, hrest⟩ := ih hxs
        exact ⟨s ++ rest, by rw [fillIn, hrest, unmarked_append]⟩

/-- The mark of a filling that asks for a word to be dropped. -/
def Filling.mark (c : Filling) : MarkedText := if c.drops then [.inr c] else []

theorem Filling.mark_of_kind {c : Filling} (h : c.kind ≠ .value) : c.mark = [] := by
  rw [mark, drops_eq_false h]
  rfl

namespace Forest

/-- What the roots come to: an open slot stays its token, and a filled one comes to the text of its
filling with what the slots below come to put in, and its mark behind it. -/
def texts : Forest → List MarkedText
  | nil => []
  | stays p behind => unmarked p.token :: behind.texts
  | filled c inside behind => (fillIn (parse c.fill.text) inside.texts ++ c.mark) :: behind.texts

theorem length_texts (F : Forest) : F.texts.length = F.slots.length := by
  induction F with
  | nil => rfl
  | stays p behind ih => simp [texts, slots, ih]
  | filled c inside behind _ ih => simp [texts, slots, ih]

@[simp] theorem texts_append (F G : Forest) : (F.append G).texts = F.texts ++ G.texts := by
  induction F with
  | nil => rfl
  | stays p behind ih => simp [append, texts, ih]
  | filled c inside behind _ ih => simp [append, texts, ih]

@[simp] theorem texts_bare (ps : List Placeholder) :
    (bare ps).texts = ps.map fun p => unmarked p.token := by
  induction ps with
  | nil => rfl
  | cons p ps ih => rw [bare, texts, ih, List.map_cons]

/-- Once the values are filled there are no marks to come. -/
theorem Follows.unmarked_texts {F : Forest} {n : Nat} (h : F.Follows n)
    (hn : Placeholder.value.rank < n) : ∀ x ∈ F.texts, ∃ s, x = unmarked s := by
  induction F generalizing n with
  | nil => exact fun x hx => by cases hx
  | stays p behind ih => exact List.forall_mem_cons.2 ⟨⟨p.token, rfl⟩, ih h.2 hn⟩
  | filled c inside behind ihinside ihbehind =>
    obtain ⟨hrank, -, hinside, hbehind⟩ := h
    refine List.forall_mem_cons.2 ⟨?_, ihbehind hbehind hn⟩
    have hkind : c.kind ≠ .value := fun heq => by
      rw [heq] at hrank
      omega
    rw [Filling.mark_of_kind hkind, List.append_nil]
    exact exists_fillIn_eq (ihinside hinside (by omega)) _

/-- The marks that a forest writes are those of the fillings that drop words, in their order. -/
theorem marks_texts {F : Forest} {n : Nat} (h : F.Follows n) :
    F.texts.flatMap MarkedText.marks = F.calls.filter Filling.drops := by
  induction F generalizing n with
  | nil => rfl
  | stays p behind ih =>
    rw [texts, List.flatMap_cons, MarkedText.marks_unmarked, List.nil_append, ih h.2, calls]
  | filled c inside behind ihinside ihbehind =>
    obtain ⟨hrank, hslots, hinside, hbehind⟩ := h
    have hlength : inside.texts.length = (placeholders (parse c.fill.text)).length := by
      rw [length_texts, hslots]
      rfl
    rw [texts, List.flatMap_cons, MarkedText.marks_append, marks_fillIn hlength,
      ihinside hinside, ihbehind hbehind, calls, List.filter_cons, List.filter_append]
    cases hdrops : c.drops with
    | false => simp [Filling.mark, hdrops, MarkedText.marks]
    | true =>
      -- Below a value there is none, so its own mark is the first as well as the last.
      have hnone : inside.calls.filter Filling.drops = [] := by
        rw [List.filter_eq_nil_iff]
        intro d hd hdrops'
        have hle := hinside.le_rank d hd
        rw [Filling.kind_of_drops hdrops, Filling.kind_of_drops hdrops'] at hle
        exact absurd hle (by decide)
      simp [Filling.mark, hdrops, hnone, MarkedText.marks]

end Forest

/-- What a filling comes to stands in front of what follows its slot. -/
theorem fillIn_splice_parse {c : Filling} {inside : Forest} (hslots : inside.slots = c.slots)
    (t : Template) (xs : List MarkedText) :
    fillIn (splice (parse c.fill.text) t) (inside.texts ++ xs) =
      fillIn (parse c.fill.text) inside.texts ++ fillIn t xs := by
  have hlength : inside.texts.length = (placeholders (parse c.fill.text)).length := by
    rw [Forest.length_texts, hslots]
    rfl
  exact fillIn_splice hlength

/-- **A pass that drops nothing writes what it grafts.** -/
theorem Forest.Grafts.fillIn_weave {k : Placeholder} (hk : k ≠ .value) {new : List Filling}
    {F G : Forest} (h : Grafts k new F G) {t : Template} (hslots : G.slots = placeholders t) :
    fillIn (weave k false t new) F.texts = fillIn t G.texts := by
  induction t generalizing new F G with
  | nil => rfl
  | cons s t ih =>
    cases s with
    | literal l => simpa [weave, fillIn] using ih h hslots
    | slot p =>
      rw [placeholders_slot_cons] at hslots
      cases h with
      | nil => cases hslots
      | stays hp h =>
        obtain ⟨rfl, hbehind⟩ := List.cons.inj hslots
        simpa [weave, hp, texts, fillIn] using ih h hbehind
      | through hc h =>
        obtain ⟨rfl, hbehind⟩ := List.cons.inj hslots
        simpa [weave, hc, texts, fillIn] using ih h hbehind
      | @filled new F G c inside hc hinside h =>
        obtain ⟨rfl, hbehind⟩ := List.cons.inj hslots
        rw [← hc] at hk
        have hdrops := Filling.drops_eq_false hk
        have hrest := ih h hbehind
        simpa [weave, hc, texts, fillIn, fillIn_splice_parse hinside, hdrops,
          Filling.mark_of_kind hk] using hrest

/-- Where no filling asks for it, nothing is dropped anyway. -/
theorem weave_keep {k : Placeholder} {new : List Filling}
    (hdrops : ∀ c ∈ new, c.drops = false) (t : Template) :
    weave k false t (new.map Filling.keep) = weave k false t new := by
  induction t generalizing new with
  | nil => rfl
  | cons s t ih =>
    cases s with
    | literal l => rw [weave, weave, ih hdrops]
    | slot p =>
      by_cases hp : p = k
      · cases new with
        | nil => rfl
        | cons c new =>
          obtain ⟨hc, hnew⟩ := List.forall_mem_cons.1 hdrops
          simp [weave, hp, hc, ih hnew]
      · simp [weave, hp, ih hdrops]

/-! ### Losing words -/

/-- From the words of a marked text one word is lost behind each mark: the word "as", in any case,
with blanks around it.  The second list is left of the first. -/
inductive Loses : MarkedText → List Text → List Text → Prop
  | rest (t : Text) : Loses (unmarked t) (Text.words t) (Text.words t)
  | word {t blanks word : Text} {b : Char} {c : Filling} {w : MarkedText} {ws ws' : List Text}
      (hne : blanks ≠ []) (hblanks : ∀ d ∈ blanks, Text.isBlank d = true)
      (hword : Text.EqIgnoringCase "as" word) (hb : Text.isBlank b = true) (h : Loses w ws ws') :
      Loses (unmarked t ++ .inr c :: unmarked (blanks ++ word ++ [b]) ++ w)
        (Text.words t ++ word :: ws) (Text.words t ++ ws')

theorem isWord_of_eqIgnoringCase_as {word : Text} (h : Text.EqIgnoringCase "as" word) :
    Text.IsWord word := by
  obtain ⟨a, u, rfl, ha, hu⟩ := Text.EqIgnoringCase.exists_cons h
  obtain ⟨s, v, rfl, hs, hv⟩ := hu.exists_cons
  obtain rfl := hv.eq_nil
  have hblank_a : Text.isBlank a = false := isBlank_a ha.symm
  have hblank_s : Text.isBlank s = false := isBlank_eq_false_of_toLower hs.symm (by decide)
  exact ⟨by simp, by simp [hblank_a, hblank_s]⟩

/-- The word "as" with blanks around it is read as a word of its own. -/
theorem words_around_as {blanks word : Text} {b : Char} (hne : blanks ≠ [])
    (hblanks : ∀ d ∈ blanks, Text.isBlank d = true) (hword : Text.EqIgnoringCase "as" word)
    (hb : Text.isBlank b = true) (x y : Text) :
    Text.words (x ++ (blanks ++ word ++ [b] ++ y)) = Text.words x ++ word :: Text.words y := by
  have hends : Text.EndsWord (b :: y) := fun d hd => by
    obtain rfl := Option.some.inj hd
    exact hb
  calc Text.words (x ++ (blanks ++ word ++ [b] ++ y))
      = Text.words (x ++ (blanks ++ (word ++ b :: y))) := by simp
    _ = Text.words x ++ Text.words (word ++ b :: y) :=
        Text.words_append_blanks hne hblanks x _
    _ = Text.words x ++ word :: Text.words (b :: y) := by
        rw [Text.words_append (isWord_of_eqIgnoringCase_as hword) hends]
    _ = Text.words x ++ word :: Text.words y := by rw [Text.words, if_pos hb]

/-- What the words are lost from are the words of the text. -/
theorem Loses.words_text {w : MarkedText} {ws ws' : List Text} (h : Loses w ws ws') :
    Text.words w.text = ws := by
  induction h with
  | rest t => rw [MarkedText.text_unmarked]
  | @word t blanks word b c w ws ws' hne hblanks hword hb _ ih =>
    have htext : MarkedText.text (unmarked t ++ .inr c :: unmarked (blanks ++ word ++ [b]) ++ w) =
        t ++ (blanks ++ word ++ [b] ++ w.text) := by
      rw [List.append_assoc, List.cons_append, MarkedText.text_append, MarkedText.text_inr_cons,
        MarkedText.text_append, MarkedText.text_unmarked, MarkedText.text_unmarked]
    rw [htext, words_around_as hne hblanks hword hb, ih]

/-- A literal that begins with a blank and goes on with the word "as" loses just that word. -/
theorem exists_word {l : Text} (has : (behindAs? l).isSome = true) (hl : Text.EndsWord l) :
    ∃ (blanks word : Text) (b : Char) (more : Text), l = blanks ++ word ++ [b] ++ more ∧
      blanks ≠ [] ∧ (∀ d ∈ blanks, Text.isBlank d = true) ∧ Text.EqIgnoringCase "as" word ∧
      Text.isBlank b = true ∧ dropAs l = blanks ++ Text.trimStart more := by
  obtain ⟨behind, hbehind⟩ := Option.isSome_iff_exists.1 has
  obtain ⟨blanks, a, s, b, more, rfl, hblanks, ha, hs, hb, -⟩ := behindAs?_eq_some_iff.1 hbehind
  refine ⟨blanks, [a, s], b, more, by simp, ?_, hblanks, ?_, hb,
    dropAs_append_word hblanks ha hs hb⟩
  · rintro rfl
    have hblank_a := hl a rfl
    rw [isBlank_a ha] at hblank_a
    cases hblank_a
  · have hlower : Text.lowerAscii [a, s] = Text.lowerAscii "as" := by
      simp only [Text.lowerAscii, List.map_cons, List.map_nil, ha, hs]
      rfl
    exact hlower.symm

/-- What is known where a literal comes next: if a word is to be dropped from it, then a filling
has put its mark, the word is there, and a blank stands before it. -/
inductive Pending (t : Template) : Bool → MarkedText → Prop
  | none : Pending t false []
  | word (c : Filling) (has : asAhead t = true)
      (hblank : ∀ l, t.head? = some (.literal l) → Text.EndsWord l) : Pending t true [.inr c]

/-- Behind a value the word is pending if its filling asks for that. -/
theorem pending_behind {c : Filling} {t : Template} (hflag : c.asAhead = asAhead t)
    (hends : ∀ l, t.head? = some (.literal l) → Text.EndsWord l) : Pending t c.drops c.mark := by
  rw [Filling.mark]
  cases hdrops : c.drops with
  | false => exact .none
  | true =>
    rw [Filling.drops, hflag, Bool.and_eq_true, Bool.and_eq_true] at hdrops
    exact .word c hdrops.1.2 hends

theorem asAhead_slot_cons (p : Placeholder) (t : Template) : asAhead (.slot p :: t) = false := rfl

namespace Forest

/-- **The pass of the values.**  What it grafts has a mark for each word that is dropped, and what
it weaves, with and without dropping them, differs in just these words. -/
theorem Grafts.loses {new : List Filling} {F G : Forest} (h : Grafts .value new F G)
    (hF : F.Follows (Placeholder.value.rank + 1)) {t : Template}
    (hslots : G.slots = placeholders t) (hflags : new.map (·.asAhead) = flags .value t)
    (hblank : ∀ l, [.slot .value, .literal l] <:+: t → Text.EndsWord l) (x : Text) {drops : Bool}
    {pending : MarkedText} (hpending : Pending t drops pending) :
    Loses (unmarked x ++ pending ++ fillIn t G.texts)
      (Text.words (x ++ (fillIn (weave .value false t (new.map Filling.keep)) F.texts).text))
      (Text.words (x ++ (fillIn (weave .value drops t new) F.texts).text)) := by
  -- What is written before the template counts, since a word may begin there.
  induction t generalizing new F G x drops pending with
  | nil =>
    cases hpending with
    | none =>
      have hrest : Loses (unmarked x) (Text.words x) (Text.words x) := .rest x
      simpa [weave, fillIn, MarkedText.text] using hrest
    | word c has _ => cases has
  | cons s t ih =>
    have hblank_tail : ∀ l, [.slot .value, .literal l] <:+: t → Text.EndsWord l := fun l hl =>
      hblank l (hl.trans (List.suffix_cons s t).isInfix)
    cases s with
    | literal l =>
      simp only [weave, Bool.false_eq_true, if_false, fillIn_consLiteral, MarkedText.text_append,
        MarkedText.text_unmarked]
      cases hpending with
      | none =>
        have hrest := ih h hF hslots hflags hblank_tail (x ++ l) .none
        simpa [fillIn] using hrest
      | word c has hends =>
        -- Here the word is lost; both go on behind it.
        obtain ⟨blanks, word, b, more, rfl, hne, hblanks, hword, hb, hdropped⟩ :=
          exists_word has (hends l rfl)
        have hrest := ih h hF hslots hflags hblank_tail more .none
        have hkept : ∀ y, Text.words (x ++ (blanks ++ word ++ [b] ++ more ++ y)) =
            Text.words x ++ word :: Text.words (more ++ y) := fun y => by
          rw [List.append_assoc _ more y, words_around_as hne hblanks hword hb]
        have hcut : ∀ y, Text.words (x ++ (blanks ++ Text.trimStart more ++ y)) =
            Text.words x ++ Text.words (more ++ y) := fun y => by
          rw [List.append_assoc blanks, Text.words_append_blanks hne hblanks,
            Text.words_trimStart_append]
        have hlost : Loses (unmarked x ++ .inr c :: unmarked (blanks ++ word ++ [b]) ++ _) _ _ :=
          .word hne hblanks hword hb hrest
        rw [if_pos rfl, hdropped, hkept, hcut, fillIn, unmarked_append (blanks ++ word ++ [b])]
        simpa only [List.append_assoc, List.cons_append, List.nil_append, List.append_nil]
          using hlost
    | slot p =>
      cases hpending with
      | word c has _ => rw [asAhead_slot_cons] at has; cases has
      | none =>
        rw [placeholders_slot_cons] at hslots
        cases h with
        | nil => cases hslots
        | @stays new F G q hq h =>
          obtain ⟨rfl, hbehind⟩ := List.cons.inj hslots
          rw [flags, if_neg hq] at hflags
          have hrest := ih h hF.2 hbehind hflags hblank_tail (x ++ q.token) .none
          simpa [weave, hq, texts, fillIn] using hrest
        | @through new F G c inside hc h =>
          obtain ⟨rfl, hbehind⟩ := List.cons.inj hslots
          obtain ⟨hrank, -, hinside, hF⟩ := hF
          rw [flags, if_neg hc] at hflags
          obtain ⟨s, hs⟩ := exists_fillIn_eq
            (hinside.unmarked_texts (Nat.lt_succ_of_lt hrank)) (parse c.fill.text)
          have hrest := ih h hF hbehind hflags hblank_tail (x ++ s) .none
          simpa [weave, hc, texts, fillIn, hs, Filling.mark_of_kind hc] using hrest
        | @filled new F G c inside hc hinside h =>
          obtain ⟨rfl, hbehind⟩ := List.cons.inj hslots
          obtain ⟨hbelow, hF⟩ := follows_append.1 hF
          rw [flags, if_pos hc, List.map_cons] at hflags
          obtain ⟨hflag, hflags⟩ := List.cons.inj hflags
          obtain ⟨s, hs⟩ := exists_fillIn_eq
            (hbelow.unmarked_texts (Nat.lt_succ_self _)) (parse c.fill.text)
          have hends : ∀ l, t.head? = some (.literal l) → Text.EndsWord l := by
            intro l hl
            obtain ⟨u, rfl⟩ := List.head?_eq_some_iff.1 hl
            exact hblank l ⟨[], u, by rw [hc]; rfl⟩
          have hrest := ih h hF hbehind hflags hblank_tail (x ++ s) (pending_behind hflag hends)
          simpa [weave, hc, texts, fillIn, hs, fillIn_splice_parse hinside] using hrest

end Forest

/-! ### Two runs -/

section Runs

variable {σ : Type} {fill : Placeholder → Bool → StateM σ Fill}

/-- Templates with the same slots are asked for the same fills, if only values are the same. -/
theorem flags_congr {k : Placeholder} {t u : Template} (hslots : placeholders u = placeholders t)
    (hvalue : k = .value → u = t) : flags k u = flags k t := by
  by_cases hk : k = .value
  · rw [hvalue hk]
  · rw [flags_eq_replicate hk, flags_eq_replicate hk, hslots]

theorem refill_keep (k : Placeholder) (ps : List Placeholder) (new : List Filling) :
    refill k ps (new.map Filling.keep) = refill k ps new := by
  induction ps generalizing new with
  | nil => rfl
  | cons p ps ih =>
    by_cases hp : p = k
    · cases new with
      | nil => rfl
      | cons c new => simp [refill, hp, ih]
    · simp [refill, hp, ih]

/-- A fill and the same fill dropping nothing, after the first `n` passes over a template.  The two
make the same calls, and leave the same slots.  Until the values are filled, the templates are the
same, and write what the forest does; from then on, whatever becomes of the slots that are left,
they differ by the words behind the marks. -/
structure InStep (fill : Placeholder → Bool → StateM σ Fill) (t : Template) (s : σ) (n : Nat)
    (u v : Template) (log : List Filling) (s' : σ) : Prop where
  run : fillAll fill (Placeholder.all.take n) t s = (u, s')
  keeping : fillAll (keeping fill) (Placeholder.all.take n) t s = (v, s')
  logged : fillAll (logged fill) (Placeholder.all.take n) t ([], s) = (u, log, s')
  logged_keeping : fillAll (Template.logged (Template.keeping fill)) (Placeholder.all.take n) t
    ([], s) = (v, log.map Filling.keep, s')
  slots : placeholders v = placeholders u
  same : n ≤ Placeholder.value.rank → v = u
  regrown : ∀ F : Forest, F.slots = placeholders u → F.Follows n →
    ∃ G : Forest, G.slots = placeholders t ∧ Forest.Regrown n log F G ∧
      (n ≤ Placeholder.value.rank → fillIn u F.texts = fillIn t G.texts) ∧
      (Placeholder.value.rank < n → Loses (fillIn t G.texts)
        (Text.words (fillIn v F.texts).text) (Text.words (fillIn u F.texts).text))

theorem InStep.zero (t : Template) (s : σ) : InStep fill t s 0 t t [] s where
  run := rfl
  keeping := rfl
  logged := rfl
  logged_keeping := rfl
  slots := rfl
  same _ := rfl
  regrown F hslots hF :=
    ⟨F, hslots, .zero hF, fun _ => rfl, fun hlt => absurd hlt (Nat.not_lt_zero _)⟩

/-- **One pass keeps the two runs in step.** -/
theorem InStep.succ {t u v : Template} {s s₁ s₂ : σ} {k : Placeholder} {log new : List Filling}
    (h : InStep fill t s k.rank u v log s₁)
    (hblank : k = .value → ∀ l, [.slot .value, .literal l] <:+: u → Text.EndsWord l)
    (hnew : Answered fill k (flags k u) s₁ new s₂) :
    InStep fill t s (k.rank + 1) (weave k false u new) (weave k false v (new.map Filling.keep))
      (log ++ new) s₂ := by
  have hvalue : k = .value → v = u := fun hk => h.same (Nat.le_of_eq (by rw [hk]))
  have hkept : Answered (Template.keeping fill) k (flags k v) s₁ (new.map Filling.keep) s₂ := by
    rw [flags_congr h.slots hvalue]
    exact hnew.keep
  -- Away from the values the second run weaves as the first one does.
  have hweave : k ≠ .value → weave k false v (new.map Filling.keep) = weave k false v new :=
    fun hk => weave_keep
      (fun c hc => Filling.drops_eq_false (by rw [hnew.kinds c hc]; exact hk)) v
  constructor
  · rw [fillAll_take_rank_succ]
    exact (bind_apply h.run _).trans hnew.fillPass_eq
  · rw [fillAll_take_rank_succ]
    exact (bind_apply h.keeping _).trans hkept.fillPass_eq
  · rw [fillAll_take_rank_succ]
    exact (bind_apply h.logged _).trans (hnew.fillPass_logged log)
  · rw [fillAll_take_rank_succ, List.map_append]
    exact (bind_apply h.logged_keeping _).trans (hkept.fillPass_logged _)
  · rw [placeholders_weave, placeholders_weave, refill_keep, h.slots]
  · intro hlt
    have hk : k ≠ .value := by
      rintro rfl
      omega
    rw [hweave hk, h.same (Nat.le_of_succ_le hlt)]
  · intro F hslots hF
    rw [placeholders_weave] at hslots
    obtain ⟨G, hgraft, hG⟩ := Forest.exists_graft hnew.length_eq hnew.kinds hslots
    obtain ⟨H, hH, hregrown, hwritten, hloses⟩ := h.regrown G hG (hgraft.follows hF)
    refine ⟨H, hH, hregrown.succ hgraft hF, fun hlt => ?_, fun hlt => ?_⟩
    · have hk : k ≠ .value := by
        rintro rfl
        omega
      rw [hgraft.fillIn_weave hk hG, hwritten (Nat.le_of_succ_le hlt)]
    · by_cases hk : k = .value
      · subst hk
        rw [hvalue rfl, ← hwritten (Nat.le_refl _)]
        exact hgraft.loses hF hG hnew.asAhead_eq (hblank rfl) [] .none
      · -- What both have written stays as it was.
        have hne : Placeholder.value.rank ≠ k.rank := fun heq =>
          hk (Placeholder.rank_injective heq).symm
        rw [hweave hk, hgraft.fillIn_weave hk hG, hgraft.fillIn_weave hk (hG.trans h.slots.symm)]
        exact hloses (by omega)

theorem exists_inStep {t : Template} {s : σ}
    (hblank : ∀ l, [.slot .value, .literal l] <:+: (fillAll fill [.tag, .times] t s).1 →
      Text.EndsWord l) {n : Nat} (hn : n ≤ Placeholder.all.length) :
    ∃ u v log s', InStep fill t s n u v log s' := by
  induction n with
  | zero => exact ⟨t, t, [], s, .zero t s⟩
  | succ n ih =>
    obtain ⟨k, rfl⟩ := Placeholder.exists_rank_eq hn
    obtain ⟨u, v, log, s₁, h⟩ := ih (Nat.le_of_succ_le hn)
    obtain ⟨new, s₂, hnew⟩ := exists_answered fill k (flags k u) s₁
    refine ⟨_, _, _, _, h.succ ?_ hnew⟩
    -- What the values are filled in is what the passes of tags and counts leave.
    rintro rfl l hl
    refine hblank l ?_
    have hrun : fillAll fill [.tag, .times] t s = (u, s₁) := h.run
    rwa [hrun]

/-- The calls that drop a word are made in the order in which their slots stand. -/
theorem Forest.filter_drops_order (F : Forest) :
    (F.order Placeholder.all).filter Filling.drops = F.calls.filter Filling.drops := by
  have hkind : ∀ k, (F.calls.filter (·.kind = k)).filter Filling.drops =
      if k = .value then F.calls.filter Filling.drops else [] := by
    intro k
    rw [List.filter_filter]
    split
    · next hk =>
      refine List.filter_congr fun c _ => ?_
      by_cases hdrops : c.drops = true
      · simp [hdrops, Filling.kind_of_drops hdrops, hk]
      · simp [hdrops]
    · next hk =>
      rw [List.filter_eq_nil_iff]
      intro c _ hboth
      obtain ⟨hdrops, hck⟩ := Bool.and_eq_true_iff.1 hboth
      exact hk ((of_decide_eq_true hck).symm.trans (Filling.kind_of_drops hdrops))
  simp [order, Placeholder.all, List.filter_append, hkind]

/-- A fill that drops words, compared with the same fill dropping none, on a text.  `A` and `B` are
what the two come to, `log` are the calls of the first, and `F` is what becomes of the slots. -/
structure DropsWords (fill : Placeholder → Bool → StateM σ Fill) (text : Text) (s : σ) (A B : Text)
    (log : List Filling) (s' : σ) (F : Forest) : Prop where
  run : resolveWith fill text s = (A, s')
  keeping : resolveWith (keeping fill) text s = (B, s')
  /-- Both make the same calls, with the same flags and texts. -/
  logged : resolveWith (logged fill) text ([], s) = (A, log, s')
  logged_keeping : resolveWith (Template.logged (Template.keeping fill)) text ([], s) =
    (B, log.map Filling.keep, s')
  /-- The calls are those of the slots of the text, and of the slots that fillings bring. -/
  slots : F.slots = placeholders (parse text)
  follows : F.Follows 0
  order : log = F.order Placeholder.all
  /-- Where no word is dropped, every slot of the text is replaced by what it comes to. -/
  written : B = Text.normalize (fillIn (parse text) F.texts).text
  /-- Marks are put by the calls for values that are told of the word and ask for it. -/
  marks : (fillIn (parse text) F.texts).marks = log.filter Filling.drops
  /-- One word is lost behind each mark, and nothing else is. -/
  loses : Loses (fillIn (parse text) F.texts) (Text.words B) (Text.words A)

/-- **Dropping words drops nothing else.**  Suppose that where values are filled, the literals
behind them begin with a blank.  Then a fill and the same fill dropping no word make the same calls
and come to the same words, but for one word "as" right behind the text of each value that was told
of the word and asked for it to be dropped. -/
theorem exists_dropsWords {text : Text} {s : σ}
    (hblank : ∀ l, [.slot .value, .literal l] <:+: (fillAll fill [.tag, .times] (parse text) s).1 →
      Text.EndsWord l) :
    ∃ A B log s' F, DropsWords fill text s A B log s' F := by
  obtain ⟨u, v, log, s', h⟩ := exists_inStep hblank (Nat.le_refl Placeholder.all.length)
  obtain ⟨F, hslots, hregrown, -, hloses⟩ :=
    h.regrown (.bare (placeholders u)) (Forest.slots_bare _) (Forest.follows_bare _)
  have hu : fillIn u (Forest.bare (placeholders u)).texts = unmarked (render u) := by
    rw [Forest.texts_bare, fillIn_tokens]
  have hv : fillIn v (Forest.bare (placeholders u)).texts = unmarked (render v) := by
    rw [← h.slots, Forest.texts_bare, fillIn_tokens]
  have hloses := hloses (by decide)
  rw [hu, hv, MarkedText.text_unmarked, MarkedText.text_unmarked] at hloses
  have hlog : log = F.order Placeholder.all := hregrown.log_eq
  have hlength : F.texts.length = (placeholders (parse text)).length := by
    rw [Forest.length_texts, hslots]
  refine ⟨Text.normalize (render u), Text.normalize (render v), log, s', F, ?_, ?_, ?_, ?_, hslots,
    hregrown.follows, hlog, ?_, ?_, ?_⟩
  · rw [resolveWith_eq_map]
    exact map_apply h.run _
  · rw [resolveWith_eq_map]
    exact map_apply h.keeping _
  · rw [resolveWith_eq_map]
    exact map_apply h.logged _
  · rw [resolveWith_eq_map]
    exact map_apply h.logged_keeping _
  · rw [Text.normalize, Text.normalize, hloses.words_text]
  · rw [marks_fillIn hlength, Forest.marks_texts hregrown.follows, hlog, F.filter_drops_order]
  · rw [Text.words_normalize, Text.words_normalize]
    exact hloses

end Runs

/-- A fill that numbers its calls.  A tag brings a value with a word of its own behind it; values
take the place of a word, and bring a number that has the word "as" in it. -/
def wordy (kind : Placeholder) (_asAhead : Bool) : StateM Nat Fill := fun n =>
  match kind with
  | .tag => (.plain "\x7bValue\x7d AS long as you", n + 1)
  | .value => (⟨"\x7bPercent\x7d%", true⟩, n + 1)
  | _ => (.plain ("as ".toList ++ Text.decimal n), n + 1)

/-- Behind each value the next word is lost.  The words within the texts of values stay, and so does
the one that stands farther behind. -/
theorem exists_dropsWords_wordy :
    let text : Text := "\x7bTag\x7d deal  \x7bValue\x7d as damage"
    (∀ l, [.slot .value, .literal l] <:+: (fillAll wordy [.tag, .times] (parse text) 0).1 →
      Text.EndsWord l) ∧
    (∃ A B log s' F, DropsWords wordy text 0 A B log s' F) ∧
    (resolveWith wordy text 0).1 = "as 3% long as you deal as 4% damage".toList ∧
    (resolveWith (keeping wordy) text 0).1 =
      "as 3% AS long as you deal as 4% as damage".toList := by
  intro text
  have htemplate : (fillAll wordy [.tag, .times] (parse text) 0).1 =
      [.slot .value, .literal " AS long as you deal  ", .slot .value, .literal " as damage"] := by
    decide +kernel
  have hblank : ∀ l, [.slot .value, .literal l] <:+:
      (fillAll wordy [.tag, .times] (parse text) 0).1 → Text.EndsWord l := by
    intro l hl
    have hmem : Segment.literal l ∈ (fillAll wordy [.tag, .times] (parse text) 0).1 :=
      hl.subset (by simp)
    rw [htemplate] at hmem
    have hcases : l = " AS long as you deal  ".toList ∨ l = " as damage".toList := by
      simpa using hmem
    rcases hcases with rfl | rfl <;> exact fun c hc => by cases hc; decide
  exact ⟨hblank, exists_dropsWords hblank, by decide +kernel, by decide +kernel⟩

end Template

end Cardwright

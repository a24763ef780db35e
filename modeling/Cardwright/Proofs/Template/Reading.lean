import Cardwright.Template.Basic
import Mathlib.Data.List.Basic

/-!
# Reading templates is exact

`Template.parse` finds the one list of segments that a text stands for: its literals are nonempty,
no two of them are adjacent, and none of them hides a token (`eq_parse_iff`).

The proof cuts texts into parts.  A token begins with its only `{` and ends with its only `}`
(`open_not_mem_of_token_eq`, `close_not_mem_of_token_eq`), so it can cross a seam between two texts
only in a few ways; where none crosses (`Apart`), reading the joined text is splicing the two
readings (`parse_append`).  Everything else about `parse` follows from that equation: what it does
to a text without tokens, which slots it opens (`mem_placeholders_parse`), and that it undoes
`render`.
-/

namespace Cardwright

namespace Placeholder

/-! ### The shape of a token -/

theorem token_eq_cons (p : Placeholder) : p.token = '{' :: (p.name ++ ['}']) := rfl

theorem brace_not_mem_name (p : Placeholder) : '{' ∉ p.name ∧ '}' ∉ p.name := by
  cases p <;> decide

/-- What is left of a token behind its first character holds no `{`. -/
theorem open_not_mem_of_token_eq {p : Placeholder} {x y : Text} (h : p.token = x ++ y)
    (hx : x ≠ []) : '{' ∉ y := by
  obtain ⟨c, x, rfl⟩ := List.exists_cons_of_ne_nil hx
  rw [token_eq_cons, List.cons_append, List.cons.injEq] at h
  intro hy
  have hmem : '{' ∈ p.name ++ ['}'] := by rw [h.2]; exact List.mem_append_right _ hy
  rcases List.mem_append.1 hmem with hname | hclose
  · exact (brace_not_mem_name p).1 hname
  · simp at hclose

theorem open_not_mem_name_append (p : Placeholder) : '{' ∉ p.name ++ ['}'] :=
  have hsplit : p.token = ['{'] ++ (p.name ++ ['}']) := rfl
  open_not_mem_of_token_eq hsplit (by simp)

/-- What is left of a token before its last character holds no `}`. -/
theorem close_not_mem_of_token_eq {p : Placeholder} {x y : Text} (h : p.token = x ++ y)
    (hy : y ≠ []) : '}' ∉ x := by
  obtain ⟨y, c, rfl⟩ := (List.eq_nil_or_concat' y).resolve_left hy
  rw [token, ← List.append_assoc] at h
  have hx : '{' :: p.name = x ++ y := (List.append_inj' h rfl).1
  intro hmem
  have hin : '}' ∈ '{' :: p.name := by rw [hx]; exact List.mem_append_left _ hmem
  rcases List.mem_cons.1 hin with heq | hname
  · exact absurd heq (by decide)
  · exact (brace_not_mem_name p).2 hname

theorem token?_eq_none_iff {t : Text} : token? t = none ↔ ∀ p : Placeholder, ¬ p.token <+: t := by
  rw [Option.eq_none_iff_forall_ne_some]
  constructor
  · rintro h p ⟨rest, rfl⟩
    exact h (p, rest) (token?_eq_some_iff.2 rfl)
  · rintro h ⟨p, rest⟩ hp
    exact h p ⟨rest, (eq_of_token? hp).symm⟩

end Placeholder

namespace Template

/-! ### Segments of the expected form -/

/-- A template as it is kept everywhere: no literal is empty, and no two literals are adjacent. -/
structure Merged (t : Template) : Prop where
  ne_nil : ∀ l : Text, .literal l ∈ t → l ≠ []
  separated : ∀ l l' : Text, ¬ [.literal l, .literal l'] <:+: t

/-- A template that says exactly what its text says: merged, and no literal hides a token. -/
structure Exact (t : Template) : Prop extends Merged t where
  tokenFree : ∀ l : Text, .literal l ∈ t → ∀ p : Placeholder, ¬ p.token <:+: l

/-- A template that does not begin with a literal. -/
def OpensWithSlot (t : Template) : Prop := ∀ l : Text, t.head? ≠ some (.literal l)

theorem opensWithSlot_nil : OpensWithSlot [] := by simp [OpensWithSlot]

theorem opensWithSlot_slot_cons (p : Placeholder) (t : Template) :
    OpensWithSlot (.slot p :: t) := by
  simp [OpensWithSlot]

theorem literal_cons_or_opensWithSlot (t : Template) :
    (∃ (l : Text) (u : Template), t = .literal l :: u) ∨ OpensWithSlot t := by
  match t with
  | [] => exact .inr opensWithSlot_nil
  | .slot p :: u => exact .inr (opensWithSlot_slot_cons p u)
  | .literal l :: u => exact .inl ⟨l, u, rfl⟩

theorem merged_nil : Merged [] := ⟨by simp, by simp⟩

theorem merged_slot_cons {p : Placeholder} {t : Template} : Merged (.slot p :: t) ↔ Merged t := by
  constructor
  · intro h
    exact ⟨fun l hl => h.ne_nil l (List.mem_cons_of_mem _ hl),
      fun l l' hin => h.separated l l' (hin.trans (List.infix_cons (List.infix_refl t)))⟩
  · intro h
    refine ⟨fun l hl => h.ne_nil l (by simpa using hl), fun l l' hin => ?_⟩
    rcases List.infix_cons_iff.1 hin with hpre | hin
    · simp at hpre
    · exact h.separated l l' hin

theorem merged_literal_cons {l : Text} {t : Template} :
    Merged (.literal l :: t) ↔ l ≠ [] ∧ OpensWithSlot t ∧ Merged t := by
  constructor
  · intro h
    refine ⟨h.ne_nil l List.mem_cons_self, ?_, ?_⟩
    · intro l' hl'
      obtain ⟨u, rfl⟩ := List.head?_eq_some_iff.1 hl'
      exact h.separated l l' (List.IsPrefix.isInfix ⟨u, rfl⟩)
    · exact ⟨fun l' hl' => h.ne_nil l' (List.mem_cons_of_mem _ hl'),
        fun l₁ l₂ hin => h.separated l₁ l₂ (hin.trans (List.infix_cons (List.infix_refl t)))⟩
  · rintro ⟨hl, hopen, h⟩
    refine ⟨?_, fun l₁ l₂ hin => ?_⟩
    · intro l' hl'
      rcases List.mem_cons.1 hl' with heq | hmem
      · cases heq; exact hl
      · exact h.ne_nil l' hmem
    · rcases List.infix_cons_iff.1 hin with ⟨u, hu⟩ | hin
      · simp only [List.cons_append, List.nil_append, List.cons.injEq] at hu
        exact hopen l₂ (by rw [← hu.2]; rfl)
      · exact h.separated l₁ l₂ hin

/-! ### Putting segments in front -/

theorem consLiteral_nil (t : Template) : consLiteral [] t = t := by
  unfold consLiteral
  split <;> simp

theorem consLiteral_of_opensWithSlot {l : Text} {t : Template} (hl : l ≠ [])
    (ht : OpensWithSlot t) : consLiteral l t = .literal l :: t := by
  unfold consLiteral
  split
  · exact absurd rfl (ht _)
  · simp [hl]

/-- Text that is put in front in two portions becomes one literal. -/
theorem consLiteral_consLiteral (l l' : Text) (t : Template) :
    consLiteral l (consLiteral l' t) = consLiteral (l ++ l') t := by
  by_cases hl' : l' = []
  · rw [hl', consLiteral_nil, List.append_nil]
  · rcases literal_cons_or_opensWithSlot t with ⟨next, u, rfl⟩ | ht
    · simp [consLiteral]
    · rw [consLiteral_of_opensWithSlot hl' ht, consLiteral_of_opensWithSlot (by simp [hl']) ht]
      rfl

theorem splice_consLiteral (l : Text) (front back : Template) :
    splice (consLiteral l front) back = consLiteral l (splice front back) := by
  by_cases hl : l = []
  · rw [hl, consLiteral_nil, consLiteral_nil]
  · rcases literal_cons_or_opensWithSlot front with ⟨next, u, rfl⟩ | hfront
    · exact (consLiteral_consLiteral l next _).symm
    · rw [consLiteral_of_opensWithSlot hl hfront]
      rfl

theorem merged_consLiteral {l : Text} {t : Template} (ht : Merged t) :
    Merged (consLiteral l t) := by
  by_cases hl : l = []
  · rwa [hl, consLiteral_nil]
  · rcases literal_cons_or_opensWithSlot t with ⟨next, u, rfl⟩ | hopen
    · obtain ⟨-, hopen, hu⟩ := merged_literal_cons.1 ht
      exact merged_literal_cons.2 ⟨by simp [hl], hopen, hu⟩
    · rw [consLiteral_of_opensWithSlot hl hopen]
      exact merged_literal_cons.2 ⟨hl, hopen, ht⟩

/-- What is spliced into a merged template leaves it merged, whatever it is. -/
theorem merged_splice {front back : Template} (h : Merged back) : Merged (splice front back) := by
  induction front with
  | nil => exact h
  | cons s front ih =>
    cases s with
    | literal l => exact merged_consLiteral ih
    | slot p => exact merged_slot_cons.2 ih

/-! ### Seams -/

/-- No token crosses the seam between two texts. -/
def Apart (a b : Text) : Prop :=
  ∀ (p : Placeholder) (x y : Text), p.token = x ++ y → x ≠ [] → y ≠ [] → x <:+ a → ¬ y <+: b

/-- A token that crossed the seam would have its `{` in the text in front. -/
theorem apart_of_open_not_mem {a : Text} (h : '{' ∉ a) (b : Text) : Apart a b := by
  intro p x y hxy hx _ hsuf _
  obtain ⟨c, x, rfl⟩ := List.exists_cons_of_ne_nil hx
  rw [Placeholder.token_eq_cons, List.cons_append, List.cons.injEq] at hxy
  exact h (hsuf.subset (hxy.1 ▸ List.mem_cons_self))

/-- No token goes on where another brace opens. -/
theorem apart_of_opens (a b : Text) : Apart a ('{' :: b) := by
  rintro p x y hxy hx hy - ⟨r, hr⟩
  obtain ⟨c, y, rfl⟩ := List.exists_cons_of_ne_nil hy
  rw [List.cons_append, List.cons.injEq] at hr
  exact Placeholder.open_not_mem_of_token_eq hxy hx (hr.1 ▸ List.mem_cons_self)

/-- No token goes on where a brace has closed. -/
theorem apart_of_closes (a b : Text) : Apart (a ++ ['}']) b := by
  rintro p x y hxy hx hy ⟨r, hr⟩ -
  obtain ⟨x, c, rfl⟩ := (List.eq_nil_or_concat' x).resolve_left hx
  rw [← List.append_assoc] at hr
  have hc : [c] = ['}'] := (List.append_inj' hr rfl).2
  exact Placeholder.close_not_mem_of_token_eq hxy hy (by simp [hc])

theorem apart_nil (a : Text) : Apart a [] := fun _ _ _ _ _ hy _ hpre =>
  hy (List.prefix_nil.1 hpre)

theorem Apart.of_suffix {a a' b : Text} (h : Apart a b) (ha : a' <:+ a) : Apart a' b :=
  fun p x y hxy hx hy hsuf => h p x y hxy hx hy (hsuf.trans ha)

/-- A token at the front of two joined texts lies in the first of them, unless it crosses the seam
or the first text is empty. -/
theorem Apart.token_prefix {a b rest : Text} (h : Apart a b) (ha : a ≠ []) {p : Placeholder}
    (hp : a ++ b = p.token ++ rest) : ∃ r, a = p.token ++ r ∧ rest = r ++ b := by
  rcases List.append_eq_append_iff.1 hp with ⟨y, hy, hb⟩ | ⟨r, hr, hrest⟩
  · rcases eq_or_ne y [] with rfl | hne
    · exact ⟨[], by simp [hy], by simpa using hb.symm⟩
    · exact absurd ⟨rest, hb.symm⟩ (h p a y hy ha hne (List.suffix_refl a))
  · exact ⟨r, hr, hrest⟩

/-! ### Reading from the left -/

@[simp] theorem parse_nil : parse [] = [] := by rw [parse]

theorem parse_token_append (p : Placeholder) (t : Text) :
    parse (p.token ++ t) = .slot p :: parse t := by
  have h : Placeholder.token? (p.token ++ t) = some (p, t) := Placeholder.token?_eq_some_iff.2 rfl
  rw [Placeholder.token_eq_cons, List.cons_append] at h ⊢
  rw [parse]
  split
  · next q rest hq => rw [h] at hq; cases hq; rfl
  · next hnone => rw [h] at hnone; cases hnone

/-- A character that begins no token joins the literal behind it. -/
theorem parse_cons {c : Char} {t : Text} (h : ∀ p : Placeholder, ¬ p.token <+: c :: t) :
    parse (c :: t) = consLiteral [c] (parse t) := by
  have hnone := Placeholder.token?_eq_none_iff.2 h
  rw [parse]
  split
  · next q rest hq => rw [hnone] at hq; cases hq
  · rfl

/-- Induction along the reading of a text: a token comes off whole, any other character alone. -/
theorem parse_induction {motive : Text → Prop} (nil : motive [])
    (token : ∀ (p : Placeholder) (t : Text), motive t → motive (p.token ++ t))
    (char : ∀ (c : Char) (t : Text), (∀ p : Placeholder, ¬ p.token <+: c :: t) → motive t →
      motive (c :: t)) (t : Text) : motive t := by
  fun_induction parse t with
  | case1 => exact nil
  | case2 c t p rest h ih =>
    rw [Placeholder.eq_of_token? h]
    exact token p rest ih
  | case3 c t h ih => exact char c t (Placeholder.token?_eq_none_iff.1 h) ih

/-- Where no token crosses the seam, reading two joined texts splices the two readings. -/
theorem parse_append {a b : Text} (h : Apart a b) :
    parse (a ++ b) = splice (parse a) (parse b) := by
  induction a using parse_induction with
  | nil => rw [parse_nil]; rfl
  | token p t ih =>
    rw [List.append_assoc, parse_token_append, parse_token_append,
      ih (h.of_suffix (List.suffix_append _ _))]
    rfl
  | char c t hc ih =>
    -- A token at the front of the joined text would lie in the first part, where there is none, or
    -- cross the seam.
    have hjoined : ∀ p : Placeholder, ¬ p.token <+: c :: (t ++ b) := by
      rintro p ⟨rest, hrest⟩
      have hfront : c :: t ++ b = p.token ++ rest := hrest.symm
      obtain ⟨r, hr, -⟩ := h.token_prefix (by simp) hfront
      exact hc p ⟨r, hr.symm⟩
    rw [List.cons_append, parse_cons hjoined, parse_cons hc, splice_consLiteral,
      ih (h.of_suffix (List.suffix_cons _ _))]

theorem parse_of_tokenFree {l : Text} (h : ∀ p : Placeholder, ¬ p.token <:+: l) :
    parse l = consLiteral l [] := by
  induction l with
  | nil => rw [consLiteral_nil, parse_nil]
  | cons c l ih =>
    rw [parse_cons fun p hp => h p hp.isInfix,
      ih fun p hp => h p (hp.trans (List.infix_cons (List.infix_refl l))), consLiteral_consLiteral]
    rfl

/-- Text without an opening brace is read as itself, in front of anything. -/
theorem parse_append_of_open_not_mem {a : Text} (h : '{' ∉ a) (b : Text) :
    parse (a ++ b) = consLiteral a (parse b) := by
  have hfree : ∀ p : Placeholder, ¬ p.token <:+: a := by
    intro p hp
    have hopen : '{' ∈ p.token := List.mem_cons_self
    exact h (hp.subset hopen)
  calc parse (a ++ b) = splice (parse a) (parse b) := parse_append (apart_of_open_not_mem h b)
    _ = splice (consLiteral a []) (parse b) := by rw [parse_of_tokenFree hfree]
    _ = consLiteral a (parse b) := splice_consLiteral a [] (parse b)

/-! ### The one exact reading -/

/-- A character that begins no token may stand in front of an exact template. -/
theorem exact_consLiteral {c : Char} {t : Template} (ht : Exact t)
    (hc : ∀ p : Placeholder, ¬ p.token <+: c :: render t) : Exact (consLiteral [c] t) := by
  refine ⟨merged_consLiteral ht.toMerged, fun l hl p hp => ?_⟩
  -- A token in the literal that grows stands at its front, so in the text, or behind the character,
  -- so in the literal that was there.
  rcases literal_cons_or_opensWithSlot t with ⟨next, u, rfl⟩ | hopen
  · rcases List.mem_cons.1 hl with heq | hmem
    · cases heq
      rcases List.infix_cons_iff.1 hp with hpre | hin
      · exact hc p (hpre.trans ⟨render u, by simp [render, Segment.render]⟩)
      · exact ht.tokenFree next List.mem_cons_self p hin
    · exact ht.tokenFree l (List.mem_cons_of_mem _ hmem) p hp
  · rw [consLiteral_of_opensWithSlot (by simp) hopen] at hl
    rcases List.mem_cons.1 hl with heq | hmem
    · cases heq
      rcases List.infix_cons_iff.1 hp with hpre | hin
      · exact hc p (hpre.trans ⟨render t, rfl⟩)
      · exact Placeholder.token_ne_nil p (List.infix_nil.1 hin)
    · exact ht.tokenFree l hmem p hp

theorem exact_parse (s : Text) : Exact (parse s) := by
  induction s using parse_induction with
  | nil => exact ⟨by simpa using merged_nil, by simp⟩
  | token p t ih =>
    rw [parse_token_append]
    exact ⟨merged_slot_cons.2 ih.toMerged, fun l hl => ih.tokenFree l (by simpa using hl)⟩
  | char c t hc ih =>
    rw [parse_cons hc]
    exact exact_consLiteral ih (by rwa [render_parse])

theorem render_of_opensWithSlot {t : Template} (h : OpensWithSlot t) :
    render t = [] ∨ ∃ r, render t = '{' :: r := by
  match t, h with
  | [], _ => exact .inl rfl
  | .slot p :: u, _ => exact .inr ⟨p.name ++ ['}'] ++ render u, by simp [render, Segment.render,
      Placeholder.token]⟩
  | .literal l :: u, h => exact absurd rfl (h l)

theorem apart_render {a : Text} {t : Template} (h : OpensWithSlot t) : Apart a (render t) := by
  rcases render_of_opensWithSlot h with hnil | ⟨r, hr⟩
  · rw [hnil]
    exact apart_nil a
  · rw [hr]
    exact apart_of_opens a r

/-- Reading what an exact template renders to gives the template back. -/
theorem parse_render {t : Template} (h : Exact t) : parse (render t) = t := by
  induction t with
  | nil => exact parse_nil
  | cons s t ih =>
    have htail : Merged t → Exact t := fun hm =>
      ⟨hm, fun l hl => h.tokenFree l (List.mem_cons_of_mem _ hl)⟩
    cases s with
    | slot p =>
      have hread := ih (htail (merged_slot_cons.1 h.toMerged))
      calc parse (render (.slot p :: t)) = parse (p.token ++ render t) := rfl
        _ = .slot p :: t := by rw [parse_token_append, hread]
    | literal l =>
      obtain ⟨hl, hopen, hmerged⟩ := merged_literal_cons.1 h.toMerged
      have hread := ih (htail hmerged)
      have hfree := parse_of_tokenFree (h.tokenFree l List.mem_cons_self)
      calc parse (render (.literal l :: t)) = parse (l ++ render t) := rfl
        _ = splice (consLiteral l []) t := by rw [parse_append (apart_render hopen), hfree, hread]
        _ = consLiteral l t := splice_consLiteral l [] t
        _ = .literal l :: t := consLiteral_of_opensWithSlot hl hopen

/-- **Reading is exact.**  For every text, the segments that are read are the one list that renders
to the text, has neither empty nor adjacent literals, and hides no token in a literal. -/
theorem eq_parse_iff (s : Text) (t : Template) : t = parse s ↔ render t = s ∧ Exact t := by
  constructor
  · rintro rfl
    exact ⟨render_parse s, exact_parse s⟩
  · rintro ⟨rfl, h⟩
    exact (parse_render h).symm

example : parse "\x7bTa\x7bTag\x7d\x7d\x7btag\x7d\x7b\x7bTimes\x7d" =
    [.literal "\x7bTa", .slot .tag, .literal "\x7d\x7btag\x7d\x7b", .slot .times] := by
  decide +kernel

/-! ### The slots of a text -/

theorem placeholders_nil : placeholders [] = [] := rfl

@[simp] theorem placeholders_literal_cons (l : Text) (t : Template) :
    placeholders (.literal l :: t) = placeholders t := rfl

@[simp] theorem placeholders_slot_cons (p : Placeholder) (t : Template) :
    placeholders (.slot p :: t) = p :: placeholders t := rfl

theorem mem_placeholders {p : Placeholder} {t : Template} :
    p ∈ placeholders t ↔ .slot p ∈ t := by
  induction t with
  | nil => simp [placeholders_nil]
  | cons s t ih => cases s <;> simp [ih]

@[simp] theorem placeholders_consLiteral (l : Text) (t : Template) :
    placeholders (consLiteral l t) = placeholders t := by
  unfold consLiteral
  split
  · rfl
  · split <;> rfl

@[simp] theorem placeholders_splice (front back : Template) :
    placeholders (splice front back) = placeholders front ++ placeholders back := by
  induction front with
  | nil => rfl
  | cons s front ih =>
    cases s with
    | literal l => exact (placeholders_consLiteral l _).trans ih
    | slot p => exact congrArg (p :: ·) ih

/-- A text has exactly the slots whose tokens occur in it. -/
theorem mem_placeholders_parse {p : Placeholder} {s : Text} :
    p ∈ placeholders (parse s) ↔ p.token <:+: s := by
  constructor
  · intro h
    have hin : Segment.render (.slot p) <:+: render (parse s) :=
      List.infix_of_mem_flatten (List.mem_map_of_mem (mem_placeholders.1 h))
    rwa [render_parse] at hin
  · rintro ⟨a, b, rfl⟩
    -- Reading the token does not depend on what stands in front, for a brace opens it.
    have hapart : Apart a (p.token ++ b) := by
      rw [Placeholder.token_eq_cons]
      exact apart_of_opens a _
    rw [List.append_assoc, parse_append hapart, parse_token_append]
    simp

end Template

end Cardwright

import Cardwright.Proofs.Template.Braces

/-!
# Filling is substitution

What filling a template does can be said without templates.  For one kind after another, scan the
text for the token of that kind; ask for its fill, saying whether the rest of the text goes on with
the word "as"; put the text of the fill in the token's place, drop the word if the fill wants it
dropped, and go on scanning behind what was put in (`substitute`, `substituteAll`).

For texts whose braces all stand in tokens the two agree, fill by fill, in every monad
(`resolveWith_eq_substituteWith`), and so with a record of the calls kept beside any state
(`resolveWith_recorded`).

The invariant is that the template is merged and has no brace in a literal.  Then what follows a
literal is the end or an opening brace, so the word "as" with the blank behind it never reaches past
the literal, and looking at the next segment is looking at the rest of the text (`Closed`,
`behindAs?_append`, `dropAs_append`).
-/

namespace Cardwright

namespace Template

/-! ### Substitution in a text -/

section Definitions

variable {m : Type → Type} [Monad m]

/-- Put fills in the places of the tokens of one kind, from left to right. -/
def substitute (fill : Placeholder → Bool → m Fill) (kind : Placeholder) : Text → m Text
  | [] => pure []
  | c :: t =>
    match _h : Text.afterStart? kind.token (c :: t) with
    | none => do
      let rest ← substitute fill kind t
      pure (c :: rest)
    | some behind => do
      let flag := kind == .value && (behindAs? behind).isSome
      let filled ← fill kind flag
      let rest ← substitute fill kind (if flag && filled.dropsAs then dropAs behind else behind)
      pure (filled.text ++ rest)
termination_by t => t.length
decreasing_by
  · simp
  · have hlen := congrArg List.length (Text.afterStart?_eq_some_iff.1 _h)
    have hdrop := length_dropAs_le behind
    simp only [List.length_append, List.length_cons, Placeholder.token] at hlen ⊢
    split <;> omega

/-- Put fills in the places of the tokens of the given kinds, one kind after another. -/
def substituteAll (fill : Placeholder → Bool → m Fill) (kinds : List Placeholder) (t : Text) :
    m Text :=
  kinds.foldlM (fun t kind => substitute fill kind t) t

/-- Substitute for every token of a text and collapse its blanks. -/
def substituteWith (fill : Placeholder → Bool → m Fill) (t : Text) : m Text := do
  let u ← substituteAll fill Placeholder.all t
  pure (Text.normalize u)

end Definitions

/-! ### The word behind a literal -/

/-- The text is over, or a brace opens: here no literal goes on. -/
def Closed (v : Text) : Prop := ∀ c ∈ v.head?, c = '{'

theorem closed_render {t : Template} (h : OpensWithSlot t) : Closed (render t) := by
  rcases render_of_opensWithSlot h with hnil | ⟨r, hr⟩
  · simp [Closed, hnil]
  · simp [Closed, hr]

theorem isBlank_open : Text.isBlank '{' = false := by decide

theorem Closed.cases {v : Text} (h : Closed v) : v = [] ∨ ∃ r, v = '{' :: r := by
  cases v with
  | nil => exact .inl rfl
  | cons c r => exact .inr ⟨r, by rw [h c rfl]⟩

theorem trimStart_closed {v : Text} (h : Closed v) : Text.trimStart v = v := by
  rcases h.cases with rfl | ⟨r, rfl⟩
  · rfl
  · simp [Text.trimStart, isBlank_open]

theorem trimStart_append {v : Text} (h : Closed v) (l : Text) :
    Text.trimStart (l ++ v) = Text.trimStart l ++ v := by
  induction l with
  | nil => exact trimStart_closed h
  | cons c l ih =>
    by_cases hc : Text.isBlank c = true
    · simpa [Text.trimStart, hc] using ih
    · simp [Text.trimStart, hc]

theorem takeWhile_isBlank_append {v : Text} (h : Closed v) (l : Text) :
    (l ++ v).takeWhile Text.isBlank = l.takeWhile Text.isBlank := by
  induction l with
  | nil =>
    rcases h.cases with rfl | ⟨r, rfl⟩
    · rfl
    · simp [isBlank_open]
  | cons c l ih =>
    by_cases hc : Text.isBlank c = true
    · simpa [hc] using ih
    · simp [hc]

theorem behindAs?_append {v : Text} (h : Closed v) (l : Text) :
    behindAs? (l ++ v) = (behindAs? l).map (· ++ v) := by
  unfold behindAs?
  rw [trimStart_append h]
  generalize Text.trimStart l = w
  -- A brace is none of the three characters asked for, so three of them must come from `w`.
  match w with
  | [] => rcases h.cases with rfl | ⟨_ | ⟨x, _ | ⟨y, r⟩⟩, rfl⟩ <;> simp
  | [a] => rcases h.cases with rfl | ⟨_ | ⟨x, r⟩, rfl⟩ <;> simp
  | [a, s] => rcases h.cases with rfl | ⟨r, rfl⟩ <;> simp [isBlank_open]
  | a :: s :: c :: r =>
    simp only [List.cons_append, trimStart_append h]
    split <;> rfl

/-- Dropping the word in a joined text is dropping it in the text in front. -/
theorem dropAs_append {v : Text} (h : Closed v) (l : Text) : dropAs (l ++ v) = dropAs l ++ v := by
  unfold dropAs
  rw [behindAs?_append h, takeWhile_isBlank_append h]
  cases behindAs? l <;> simp

theorem behindAs?_closed {v : Text} (h : Closed v) : behindAs? v = none := by
  have hnil : behindAs? [] = none := rfl
  simpa [hnil] using behindAs?_append h []

theorem dropAs_closed {v : Text} (h : Closed v) : dropAs v = v := by
  rw [dropAs, behindAs?_closed h]

theorem asAhead_of_opensWithSlot {t : Template} (h : OpensWithSlot t) : asAhead t = false := by
  match t, h with
  | [], _ => rfl
  | .slot p :: u, _ => rfl
  | .literal l :: u, h => exact absurd rfl (h l)

/-- Looking at the next segment is looking at the rest of the text. -/
theorem asAhead_eq {t : Template} (ht : Merged t) :
    asAhead t = (behindAs? (render t)).isSome := by
  rcases literal_cons_or_opensWithSlot t with ⟨l, u, rfl⟩ | hopen
  · obtain ⟨-, hu, -⟩ := merged_literal_cons.1 ht
    have hrender : render (.literal l :: u) = l ++ render u := rfl
    rw [hrender, behindAs?_append (closed_render hu), Option.isSome_map]
    rfl
  · rw [behindAs?_closed (closed_render hopen), asAhead_of_opensWithSlot hopen]
    rfl

/-- Where a literal is followed by a slot, the word is dropped within the literal. -/
theorem dropAs_render_literal {l : Text} {t : Template} (ht : OpensWithSlot t) (drops : Bool) :
    (if drops then dropAs (render (.literal l :: t)) else render (.literal l :: t)) =
      (if drops then dropAs l else l) ++ render t := by
  have hrender : render (.literal l :: t) = l ++ render t := rfl
  rw [hrender, dropAs_append (closed_render ht)]
  cases drops <;> rfl

theorem open_not_mem_dropped {l : Text} (hl : '{' ∉ l) (drops : Bool) :
    '{' ∉ if drops then dropAs l else l := by
  cases drops with
  | false => exact hl
  | true => exact fun h => hl (mem_of_mem_dropAs h)

/-! ### Scanning -/

section Scanning

variable {m : Type → Type} [Monad m] {fill : Placeholder → Bool → m Fill} {kind : Placeholder}

theorem substitute_nil : substitute fill kind [] = pure [] := by rw [substitute]

theorem substitute_cons {c : Char} {t : Text} (h : Text.afterStart? kind.token (c :: t) = none) :
    substitute fill kind (c :: t) = (do
      let rest ← substitute fill kind t
      pure (c :: rest)) := by
  rw [substitute]
  split
  · rfl
  · next behind hb => rw [h] at hb; cases hb

theorem substitute_token (kind : Placeholder) (t : Text) :
    substitute fill kind (kind.token ++ t) = (do
      let flag := kind == .value && (behindAs? t).isSome
      let filled ← fill kind flag
      let rest ← substitute fill kind (if flag && filled.dropsAs then dropAs t else t)
      pure (filled.text ++ rest)) := by
  have h : Text.afterStart? kind.token (kind.token ++ t) = some t :=
    Text.afterStart?_eq_some_iff.2 rfl
  obtain ⟨c, u, hcu⟩ : ∃ c u, kind.token ++ t = c :: u := ⟨_, _, rfl⟩
  rw [hcu] at h ⊢
  rw [substitute]
  split
  · next hnone => rw [h] at hnone; cases hnone
  · next behind hb => rw [h] at hb; cases hb; rfl

variable [LawfulMonad m]

theorem substitute_append_of_open_not_mem {l : Text} (hl : '{' ∉ l) (t : Text) :
    substitute fill kind (l ++ t) = (l ++ ·) <$> substitute fill kind t := by
  induction l with
  | nil => simp
  | cons c l ih =>
    simp only [List.mem_cons, not_or] at hl
    have hc : Text.afterStart? kind.token (c :: (l ++ t)) = none := by
      rw [Placeholder.token_eq_cons, Text.afterStart?, if_neg hl.1]
    rw [List.cons_append, substitute_cons hc, ih hl.2]
    simp

theorem substitute_token_of_ne {p : Placeholder} (h : p ≠ kind) (t : Text) :
    substitute fill kind (p.token ++ t) = (p.token ++ ·) <$> substitute fill kind t := by
  have hnone : Text.afterStart? kind.token (p.token ++ t) = none := by
    rw [Placeholder.afterStart?_token, if_neg (Ne.symm h)]
  have hsplit : p.token ++ t = '{' :: (p.name ++ ['}'] ++ t) := rfl
  rw [hsplit] at hnone ⊢
  rw [substitute_cons hnone, substitute_append_of_open_not_mem p.open_not_mem_name_append]
  simp [Placeholder.token_eq_cons]

/-! ### One pass -/

/-- **One pass is one substitution.**  Rendering what a pass over a merged template returns is
substituting in what the template renders to, the word "as" in front being dropped if the pass was
told so. -/
theorem render_fillPass {t : Template} (ht : Merged t) (hbraces : ∀ s ∈ t, s.BraceFree)
    (drops : Bool) :
    render <$> fillPass fill kind drops t =
      substitute fill kind (if drops then dropAs (render t) else render t) := by
  induction t generalizing drops with
  | nil =>
    have hdrop : (if drops then dropAs (render []) else render []) = [] := by cases drops <;> rfl
    rw [hdrop, substitute_nil, fillPass, map_pure]
    rfl
  | cons s t ih =>
    obtain ⟨hs, htail⟩ := List.forall_mem_cons.1 hbraces
    cases s with
    | literal l =>
      -- What is left of the literal when the word is dropped is copied.
      obtain ⟨-, hopen, ht⟩ := merged_literal_cons.1 ht
      have hfree := open_not_mem_dropped (braceFree_literal.1 hs).1 drops
      have hrest : render <$> fillPass fill kind false t = substitute fill kind (render t) :=
        ih ht htail false
      rw [dropAs_render_literal hopen, substitute_append_of_open_not_mem hfree, fillPass, ← hrest]
      simp [render_consLiteral]
    | slot p =>
      -- No word stands before a slot, so there is nothing to drop yet; the flag for what follows is
      -- read off the next segment here, and off the rest of the text there.
      have ht := merged_slot_cons.1 ht
      have hclosed : Closed (render (.slot p :: t)) := closed_render (opensWithSlot_slot_cons p t)
      have hrender : render (.slot p :: t) = p.token ++ render t := rfl
      rw [dropAs_closed hclosed, ite_self, hrender, fillPass]
      by_cases hp : p = kind
      · subst hp
        rw [if_pos rfl, substitute_token, asAhead_eq ht]
        simp only [map_bind, map_pure, render_splice, render_parse]
        refine bind_congr fun f => ?_
        rw [← ih ht htail]
        simp
      · have hrest : render <$> fillPass fill kind false t = substitute fill kind (render t) :=
          ih ht htail false
        rw [if_neg hp, substitute_token_of_ne hp, ← hrest]
        simp [render, Segment.render]

/-! ### The run -/

omit [LawfulMonad m] in
theorem substituteAll_cons (k : Placeholder) (kinds : List Placeholder) (t : Text) :
    substituteAll fill (k :: kinds) t = substitute fill k t >>= substituteAll fill kinds := by
  rw [substituteAll, List.foldlM_cons]
  rfl

/-- **All passes are all substitutions**, if the fills bring braces in tokens only. -/
theorem render_fillAll (hfill : ∀ k flag,
      Returns (fun f => Text.BracedBy Placeholder.tokens f.text) (fill k flag))
    (kinds : List Placeholder) {t : Template} (ht : Merged t) (hbraces : ∀ s ∈ t, s.BraceFree) :
    render <$> fillAll fill kinds t = substituteAll fill kinds (render t) := by
  induction kinds generalizing t with
  | nil => simp [fillAll, substituteAll]
  | cons k kinds ih =>
    have hpass : Returns (fun u => Merged u ∧ ∀ s ∈ u, s.BraceFree) (fillPass fill k false t) :=
      returns_fillPass hereditary_braceFree
        (fun flag => (hfill k flag).mono fun f hf => bracedBy_iff_parse.1 hf) false
        fun s hs _ => hbraces s hs
    have hone : render <$> fillPass fill k false t = substitute fill k (render t) :=
      render_fillPass ht hbraces false
    calc render <$> fillAll fill (k :: kinds) t
        = fillPass fill k false t >>= fun u => render <$> fillAll fill kinds u := by
          simp [fillAll]
      _ = fillPass fill k false t >>= fun u => substituteAll fill kinds (render u) :=
          hpass.bind_congr fun u hu => ih hu.1 hu.2
      _ = render <$> fillPass fill k false t >>= substituteAll fill kinds := by
          rw [bind_map_left]
      _ = substituteAll fill (k :: kinds) (render t) := by
          rw [hone, substituteAll_cons]

/-- **Filling is substitution**, in any monad: the same fills are asked for, one after another. -/
theorem resolveWith_eq_substituteWith {text : Text} (htext : Text.BracedBy Placeholder.tokens text)
    (hfill : ∀ k flag, Returns (fun f => Text.BracedBy Placeholder.tokens f.text) (fill k flag)) :
    resolveWith fill text = substituteWith fill text := by
  have hrun := render_fillAll hfill Placeholder.all (exact_parse text).toMerged
    (bracedBy_iff_parse.1 htext)
  rw [render_parse] at hrun
  rw [substituteWith, ← hrun, resolveWith_eq_map]
  simp

end Scanning

/-! ### Recorded calls -/

/-- A call of a fill: the kind of the slot, and whether the word "as" stands behind it. -/
abbrev Call := Placeholder × Bool

/-- A stateful fill that keeps a record of its calls beside its state. -/
def recorded {σ : Type} (fill : Placeholder → Bool → StateM σ Fill) (kind : Placeholder)
    (flag : Bool) : StateM (List Call × σ) Fill := fun (calls, s) =>
  let (filled, s') := fill kind flag s
  (filled, calls ++ [(kind, flag)], s')

/-- **Resolving refines substitution.**  If a text and all fills have braces in tokens only, then
resolving the text and substituting in it make the same calls in the same order with the same
flags, pass through the same states and return the same text. -/
theorem resolveWith_recorded {σ : Type} {fill : Placeholder → Bool → StateM σ Fill} {text : Text}
    (htext : Text.BracedBy Placeholder.tokens text)
    (hfill : ∀ kind flag s, Text.BracedBy Placeholder.tokens (fill kind flag s).1.text) :
    resolveWith (recorded fill) text = substituteWith (recorded fill) text :=
  resolveWith_eq_substituteWith htext fun kind flag =>
    returns_of_state fun s => hfill kind flag s.2

/-- A fill that numbers its calls.  A tag brings a value that is still to be filled; everything else
is filled with the number of calls so far, which takes the place of a word "as". -/
def numbered (kind : Placeholder) (_asAhead : Bool) : StateM Nat Fill := fun n =>
  match kind with
  | .tag => (.plain "\x7bValue\x7d AS long as you", n + 1)
  | _ => (⟨Text.decimal n, true⟩, n + 1)

/-- One word "as" is dropped behind each number, the one that a fill brought along and the one of
the sentence. -/
theorem resolveWith_recorded_numbered :
    let text : Text := "\x7bTag\x7d deal  \x7bValue\x7d as damage"
    Text.BracedBy Placeholder.tokens text ∧
    (∀ kind flag n, Text.BracedBy Placeholder.tokens (numbered kind flag n).1.text) ∧
    resolveWith (recorded numbered) text = substituteWith (recorded numbered) text ∧
    Id.run (resolveWith (recorded numbered) text ([], 0)) =
      ("1 long as you deal 2 damage".toList,
        [(.tag, false), (.value, true), (.value, true)], 3) := by
  intro text
  have htext : Text.BracedBy Placeholder.tokens text := by decide +kernel
  have hfill : ∀ kind flag n,
      Text.BracedBy Placeholder.tokens (numbered kind flag n).1.text := by
    intro kind flag n
    have htag : Text.BracedBy Placeholder.tokens "\x7bValue\x7d AS long as you".toList := by
      decide +kernel
    cases kind with
    | tag => exact htag
    | times => exact (Text.braceFree_decimal n).bracedBy
    | value => exact (Text.braceFree_decimal n).bracedBy
    | duration => exact (Text.braceFree_decimal n).bracedBy
    | percent => exact (Text.braceFree_decimal n).bracedBy
  exact ⟨htext, hfill, resolveWith_recorded htext hfill, by decide +kernel⟩

end Template

end Cardwright

import Cardwright.Engine.Generator
import Cardwright.Proofs.Lint
import Cardwright.Proofs.Phrase.Slots
import Cardwright.Proofs.Text.Case
import Cardwright.Proofs.Text.Words

/-!
# Finished sentences

A text is settled if it has no brace in it, its blanks are normal, no slot is read in it, and
resolving it again gives it back and asks for no fill (`Settled`).

If the tables are accepted, the phrases that come into slots have braces in tokens only
(`Tables.Braced`) and the linter warns of no text that will not be filled, then every resolved
effect, trigger and passive statement is settled (`Generator.always_settled`).

Two invariants carry this through the passes at once: no slot that was filled is left
(`Tables.always_fillAll`), and no literal has a brace in it (`hereditary_braceFree`).  After the
last pass they leave no brace at all; collapsing blanks brings in spaces only, and changing the case
of the first letter brings in letters only.
-/

namespace Cardwright

open Template Text

/-! ### Settled texts -/

/-- A text that there is nothing left to do about. -/
structure Settled (x : Text) : Prop where
  braceFree : BraceFree x
  normal : normalize x = x
  resolved : isResolved (parse x) = true
  unchanged : ∀ (m : Type → Type) [Monad m] [LawfulMonad m] (fill : Placeholder → Bool → m Fill),
    resolveWith fill x = pure x

section Filling

variable {m : Type → Type} [Monad m] [LawfulMonad m] (fill : Placeholder → Bool → m Fill)

/-- A pass over a single literal asks for nothing and leaves it as it is. -/
theorem fillPass_consLiteral (kind : Placeholder) (l : Text) :
    fillPass fill kind false (consLiteral l []) = pure (consLiteral l []) := by
  by_cases hl : l = []
  · rw [hl, consLiteral_nil, fillPass]
  · rw [consLiteral_of_opensWithSlot hl opensWithSlot_nil, fillPass, fillPass]
    simp [consLiteral_of_opensWithSlot hl opensWithSlot_nil]

theorem fillAll_consLiteral (kinds : List Placeholder) (l : Text) :
    fillAll fill kinds (consLiteral l []) = pure (consLiteral l []) := by
  induction kinds with
  | nil => rfl
  | cons k kinds ih =>
    rw [fillAll, List.foldlM_cons, fillPass_consLiteral, pure_bind]
    exact ih

end Filling

theorem Text.BraceFree.parse_eq {x : Text} (h : BraceFree x) : parse x = consLiteral x [] := by
  simpa using parse_append_of_open_not_mem h.1 []

/-- **A text without braces whose blanks are normal is settled.** -/
theorem settled_of_braceFree {x : Text} (h : BraceFree x) (hnormal : normalize x = x) :
    Settled x where
  braceFree := h
  normal := hnormal
  resolved := by
    rw [h.parse_eq, isResolved, placeholders_consLiteral]
    rfl
  unchanged m _ _ fill := by
    have hrender : render (consLiteral x []) = x := by rw [← h.parse_eq, render_parse]
    rw [resolveWith_eq_map, h.parse_eq, fillAll_consLiteral, map_pure, hrender, hnormal]

/-- A text is without braces if what it has beyond another one without braces are none. -/
theorem Text.BraceFree.of_mem {x y : Text} (h : BraceFree x)
    (hy : ∀ d ∈ y, d ∈ x ∨ d ≠ '{' ∧ d ≠ '}') : BraceFree y := by
  constructor
  · intro hmem
    rcases hy '{' hmem with hin | ⟨hopen, -⟩
    · exact h.1 hin
    · exact hopen rfl
  · intro hmem
    rcases hy '}' hmem with hin | ⟨-, hclose⟩
    · exact h.2 hin
    · exact hclose rfl

theorem braceFree_normalize {x : Text} (h : BraceFree x) : BraceFree (normalize x) := by
  refine h.of_mem fun d hd => ?_
  rcases mem_of_mem_normalize hd with rfl | hin
  · exact .inr (by decide)
  · exact .inl hin

theorem Text.IsLetterLike.ne_braces {d : Char} (h : IsLetterLike d) : d ≠ '{' ∧ d ≠ '}' :=
  ⟨h.ne (by decide) (by decide), h.ne (by decide) (by decide)⟩

theorem Settled.capitalize {x : Text} (h : Settled x) : Settled (capitalize x) := by
  refine settled_of_braceFree (h.braceFree.of_mem fun d hd => ?_) (normalize_capitalize h.normal)
  exact (mem_capitalize hd).imp_right IsLetterLike.ne_braces

theorem Settled.uncapitalize {x : Text} (h : Settled x) : Settled (uncapitalize x) := by
  refine settled_of_braceFree (h.braceFree.of_mem fun d hd => ?_) (normalize_uncapitalize h.normal)
  exact (mem_uncapitalize hd).imp_right IsLetterLike.ne_braces

/-! ### Tables with braces in tokens only -/

/-- Forms of a tag with braces in tokens only, that of the number being one in an amount. -/
structure TagForms.Braced (f : TagForms) : Prop where
  single : BracedBy Placeholder.tokens f.single
  plural : BracedBy Placeholder.tokens f.plural
  amount : BracedBy (numberToken :: Placeholder.tokens) f.amount

/-- Tables whose phrases for slots have braces in tokens only. -/
structure Tables.Braced (t : Tables) : Prop where
  tags : ∀ tag ∈ t.tags, tag.own.Braced ∧ tag.opponent.Braced
  values : ∀ v ∈ t.values, ∀ p, v.kind = .phrase p →
    BracedBy Placeholder.tokens p.own ∧ BracedBy Placeholder.tokens p.opponent

section Phrases

variable {t : Tables}

theorem Tables.Braced.render (h : t.Braced) {tag : Tag} (htag : tag ∈ t.tags) (side : Side)
    (form : TagForm) (count : Nat) :
    BracedBy Placeholder.tokens (tag.render side form count) := by
  have hforms := Tag.forall_forms (h.tags tag htag) side
  cases form with
  | amount => exact bracedBy_fillNumber count hforms.amount
  | plural => exact hforms.plural
  | single => exact hforms.single

theorem Tables.Braced.forSide (h : t.Braced) {v : Value} (hv : v ∈ t.values) {p : ValuePhrases}
    (hp : v.kind = .phrase p) (side : Side) : BracedBy Placeholder.tokens (p.forSide side) :=
  ValuePhrases.forall_forSide (h.values v hv p hp) side

theorem Tables.CanFill.bracedBy (h : t.Braced) {kind : Placeholder} {text : Text}
    (hfill : t.CanFill kind text) : BracedBy Placeholder.tokens text := by
  rcases hfill.origin with hfree | ⟨-, tag, htag, side, form, count, rfl⟩ |
    ⟨-, v, hv, p, hp, m, side, rfl⟩
  · exact hfree.bracedBy
  · exact h.render htag side form count
  · exact (h.forSide hv hp side).append_left (braceFree_lead m)

/-! ### Resolving -/

variable {σ : Type} [WordSource σ]

/-- **Resolving settles a text** with braces in tokens only. -/
theorem Tables.always_resolve (h : t.Sound) (hbraced : t.Braced) {text : Text}
    (htext : BracedBy Placeholder.tokens text) :
    Draw.Always Settled (t.resolve text : Draw σ Text) := by
  have hbrings : ∀ k flag, Returns (fun f => ∀ s ∈ parse f.text, s.BraceFree)
      (t.fill k flag : Draw σ Fill) := by
    intro k flag
    refine (always_fill h k flag).returns.mono fun f hf => ?_
    exact bracedBy_iff_parse.1 (hf.bracedBy hbraced)
  -- Both invariants hold of the template after the last pass: no slot is left, no literal has a
  -- brace.
  have hfree := returns_fillAll (fun _ => hereditary_braceFree) (fun _ _ hs _ => hs) hbrings
    (exact_parse text).toMerged (bracedBy_iff_parse.1 htext) (Nat.le_refl Placeholder.all.length)
  have hrun := (always_fillAll h text (Nat.le_refl Placeholder.all.length)).and_returns hfree
  rw [List.take_length] at hrun
  rw [resolve, resolveWith_eq_map]
  refine hrun.map fun u hu => ?_
  obtain ⟨⟨-, hlater⟩, -, hbraces⟩ := hu
  have hslots : placeholders u = [] := List.isEmpty_iff.1 (isResolved_of_filledFrom hlater)
  have hfree := braceFree_render hbraces hslots
  exact settled_of_braceFree (braceFree_normalize hfree) (normalize_normalize (render u))

/-! ### Passive statements -/

theorem braceFree_signedAmount (n : Int) : BraceFree (signedAmount n) := by
  have hdecimal : BraceFree (signedDecimal n) := by
    cases n with
    | ofNat n => exact braceFree_decimal n
    | negSucc n => exact braceFree_cons.2 ⟨by decide, braceFree_decimal (n + 1)⟩
  unfold signedAmount
  split
  · exact braceFree_cons.2 ⟨by decide, hdecimal⟩
  · exact hdecimal

theorem braceFree_signedTenths (n : Int) : BraceFree (signedTenths n) := by
  have hmagnitude : BraceFree (decimal (n.natAbs / 10) ++ '.' :: decimal (n.natAbs % 10)) :=
    braceFree_append.2
      ⟨braceFree_decimal _, braceFree_cons.2 ⟨by decide, braceFree_decimal _⟩⟩
  unfold signedTenths
  dsimp only
  split
  · exact braceFree_cons.2 ⟨by decide, hmagnitude⟩
  · split
    · exact braceFree_cons.2 ⟨by decide, hmagnitude⟩
    · exact hmagnitude

theorem ItemAttribute.always_drawAmount (a : ItemAttribute) :
    Draw.Always BraceFree (a.drawAmount : Draw σ Text) := by
  have hamount : ∀ low high : Int, low ≤ high →
      Draw.Always BraceFree (signedAmount <$> Draw.between low high : Draw σ Text) :=
    fun low high h => (Draw.always_between h).map fun n _ => braceFree_signedAmount n
  cases a with
  | cooldown =>
    exact (Draw.always_between (by decide)).bind fun n _ =>
      Draw.always_pure (braceFree_append.2 ⟨braceFree_signedAmount n, by decide⟩)
  | cooldownPercent =>
    exact (Draw.always_between (by decide)).bind fun n _ =>
      Draw.always_pure (braceFree_append.2 ⟨braceFree_signedTenths n, by decide⟩)
  | heal => exact hamount (-100) 100 (by decide)
  | shield => exact hamount (-100) 100 (by decide)
  | damage => exact hamount (-100) 100 (by decide)
  | regen => exact hamount (-10) 10 (by decide)
  | poison => exact hamount (-10) 10 (by decide)
  | burn => exact hamount (-10) 10 (by decide)

/-- A modifier with braces in tokens only. -/
def Modifier.Braced : Modifier → Prop
  | .flat amount => BraceFree amount
  | .scaling phrase => BracedBy Placeholder.tokens phrase

/-- A modifier is a flat amount, or a multiplier with the phrase that a value has for your side. -/
theorem Modifier.always_draw_of {P : Modifier → Prop} (h : t.Sound) {a : ItemAttribute}
    (hamount : Draw.Always (fun amount => P (.flat amount)) (a.drawAmount : Draw σ Text))
    (hscaling : ∀ v ∈ t.values, ∀ p, v.kind = .phrase p → ∀ m : Multiplier,
      P (.scaling (m.lead ++ p.own))) :
    Draw.Always P (Modifier.draw t a : Draw σ Modifier) := by
  have hflat : Draw.Always P (Modifier.flat <$> a.drawAmount : Draw σ Modifier) :=
    hamount.map fun _ hP => hP
  rw [Modifier.draw]
  refine (Draw.succeeds_chance _).bind fun scales => ?_
  split
  · refine (Tables.always_drawScaling h).bind fun phrase hphrase => ?_
    cases phrase with
    | none => exact hflat
    | some text =>
      obtain ⟨m, own, ⟨v, hv, p, hp, rfl⟩, rfl⟩ := hphrase text rfl
      exact Draw.always_pure (hscaling v hv p hp m)
  · exact hflat

theorem Modifier.always_draw (h : t.Sound) (hbraced : t.Braced) (a : ItemAttribute) :
    Draw.Always Modifier.Braced (Modifier.draw t a : Draw σ Modifier) :=
  Modifier.always_draw_of h a.always_drawAmount fun _ hv _ hp m =>
    (hbraced.forSide hv hp .own).append_left (braceFree_lead m)

theorem Modifier.Braced.statement {tag : Text} {m : Modifier} (hm : m.Braced)
    (htag : BracedBy Placeholder.tokens tag) (a : ItemAttribute) :
    BracedBy Placeholder.tokens (m.statement tag a) := by
  have hlabel : BraceFree a.label := by cases a <;> decide
  have hword : ∀ word : String, BraceFree word → BracedBy Placeholder.tokens word :=
    fun _ hword => hword.bracedBy
  cases m with
  | flat amount =>
    exact (((htag.append (hword " has " (by decide))).append hm.bracedBy).append
      (hword " " (by decide))).append hlabel.bracedBy
  | scaling phrase =>
    exact (((htag.append (hword " has " (by decide))).append hm).append
      (hword " as " (by decide))).append hlabel.bracedBy

end Phrases

/-! ### The bundled tables -/

/-- An amount form that begins with its number and has no other brace. -/
theorem bracedBy_of_afterStart? {amount rest : Text}
    (h : afterStart? numberToken amount = some rest) (hrest : BraceFree rest) :
    BracedBy (numberToken :: Placeholder.tokens) amount := by
  rw [afterStart?_eq_some_iff.1 h]
  exact .token List.mem_cons_self hrest.bracedBy

theorem Tables.braced_bundled : Tables.bundled.Braced := by
  have hforms : ∀ tag ∈ Tables.bundled.tags, ∀ f ∈ [tag.own, tag.opponent],
      BraceFree f.single ∧ BraceFree f.plural ∧
        ∃ rest ∈ afterStart? numberToken f.amount, BraceFree rest := by
    decide +kernel
  have hvalues : ∀ v ∈ Tables.bundled.values, ∀ p, v.kind = .phrase p →
      BracedBy Placeholder.tokens p.own ∧ BracedBy Placeholder.tokens p.opponent := by
    decide +kernel
  have hbraced : ∀ tag ∈ Tables.bundled.tags, ∀ f ∈ [tag.own, tag.opponent], f.Braced := by
    intro tag htag f hf
    obtain ⟨hsingle, hplural, rest, hrest, hfree⟩ := hforms tag htag f hf
    exact ⟨hsingle.bracedBy, hplural.bracedBy, bracedBy_of_afterStart? hrest hfree⟩
  refine ⟨fun tag htag => ?_, hvalues⟩
  exact ⟨hbraced tag htag tag.own (by simp), hbraced tag htag tag.opponent (by simp)⟩

theorem Lint.no_unfilled_bundled (m : Matcher) :
    ∀ w ∈ (Tables.bundled.lint m).warnings, ¬ Lint.Unfilled w := by
  have htriggers : ∀ g ∈ Tables.bundled.triggers,
      ∀ text ∈ [g.own, g.opponent, g.ownFirstN, g.opponentFirstN],
        BracedBy Placeholder.tokens text := by
    decide +kernel
  refine Lint.no_unfilled_iff.2 ⟨by decide +kernel, fun g hg => ?_⟩
  exact Lint.forall_phrase_iff.1 (htriggers g hg)

/-! ### Generated texts -/

namespace Generator

variable {σ : Type} [WordSource σ] {g : Generator}

/-- **Generated texts are settled.**  If the tables are accepted, their phrases for slots have
braces in tokens only, and the linter warns of no text that will not be filled, then every resolved
effect, also with its first letter raised or lowered, every trigger and every passive statement is
settled. -/
theorem always_settled (m : Matcher) (h : g.tables.check = .ok ()) (hbraced : g.tables.Braced)
    (hlint : ∀ w ∈ (g.tables.lint m).warnings, ¬ Lint.Unfilled w) :
    (∀ e ∈ g.tables.effects, Draw.Always
      (fun x => Settled x ∧ Settled (capitalize x) ∧ Settled (uncapitalize x))
      (g.tables.resolve e.text : Draw σ Text)) ∧
    Draw.Always Settled (g.drawTrigger : Draw σ Text) ∧
    Draw.Always Settled (g.drawPassive : Draw σ Text) := by
  have hsound := Tables.check_eq_ok_iff.1 h
  obtain ⟨heffects, htriggers⟩ := Lint.no_unfilled_iff.1 hlint
  refine ⟨fun e he => ?_, ?_, ?_⟩
  · refine (Tables.always_resolve hsound hbraced (heffects e he)).mono fun x hx => ?_
    exact ⟨hx, hx.capitalize, hx.uncapitalize⟩
  · -- Which variant is drawn does not matter, since the linter reads all four.
    rw [drawTrigger]
    refine (Tables.always_drawTriggerVariant hsound).bind fun ⟨trigger, variant⟩ htrigger => ?_
    exact Tables.always_resolve hsound hbraced (htriggers trigger htrigger variant)
  · rw [drawPassive]
    refine (Tables.always_drawTag hsound).bind fun tag htag => ?_
    refine (Draw.always_pick (by decide)).bind fun a _ => ?_
    refine (Modifier.always_draw hsound hbraced a).bind fun modifier hmodifier => ?_
    -- The tag keeps the slots that its form may bring; they are filled with the statement's own.
    obtain ⟨count, -, htext⟩ := htag.rendered
    have htokens : BracedBy Placeholder.tokens tag.text := by
      rw [htext]
      exact hbraced.render htag.mem tag.side tag.form count
    rw [drawStatement]
    have hstatement := hmodifier.statement htokens a
    exact (Tables.always_resolve hsound hbraced hstatement).bind fun x hx =>
      Draw.always_pure hx.capitalize

/-- The bundled tables meet the conditions, whatever the seed of the stream that is drawn from. -/
theorem always_settled_bundled :
    let g : Generator := .ofTables .bundled
    (g.tables.check = .ok () ∧ g.tables.Braced ∧
      ∀ w ∈ (g.tables.lint g.matcher).warnings, ¬ Lint.Unfilled w) ∧
    (∀ e ∈ g.tables.effects, Draw.Always
      (fun x => Settled x ∧ Settled (capitalize x) ∧ Settled (uncapitalize x))
      (g.tables.resolve e.text : Draw SeededStream Text)) ∧
    Draw.Always Settled (g.drawTrigger : Draw SeededStream Text) ∧
    Draw.Always Settled (g.drawPassive : Draw SeededStream Text) :=
  have hlint := Lint.no_unfilled_bundled (.ofTables .bundled)
  ⟨⟨Tables.check_bundled, Tables.braced_bundled, hlint⟩,
    always_settled (.ofTables .bundled) Tables.check_bundled Tables.braced_bundled hlint⟩

end Generator

end Cardwright

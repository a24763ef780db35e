import Cardwright.Engine.Setup
import Cardwright.Proofs.Name
import Cardwright.Proofs.Phrase.Braces

/-!
# Generation never fails

A pick fails exactly on an empty list (`Draw.pick_eq_none_iff`), and with it the whole draw that it
is a step of.  From tables that are accepted no draw of a generator fails, wherever its source
stands and whatever was drawn before (`Generator.infallible`): every list that an entry or a word is
picked from has a member, and so every shape leads to a finished card.

What a finished card is made of is kept with it: `Generator.Finished` has one case for each of the
four shapes, with the plain texts and the numbers behind the card, and the run lemma
`Generator.always_generateShape` carries whatever is known of the plain texts over to the card.
-/

namespace Cardwright

open Draw

variable {σ : Type} [WordSource σ]

/-! ### Setting up -/

namespace Setup

variable {files : Text → FileState}

/-- An engine starts the sequence of its seed, and the seed has no part in the choice of tables. -/
theorem build_eq_ok_iff {s : Setup} {e : Engine} :
    s.build files = .ok e ↔
      ∃ t, s.chooseTables files = .ok t ∧ e = .start (.ofTables t) s.seed := by
  rw [build]
  cases s.chooseTables files with
  | error fault => simp [Except.map]
  | ok t => simp [Except.map, eq_comm]

/-- An engine is set up from the bundled tables if nothing else is given. -/
theorem build_bundled (seed : UInt64) :
    build files { seed := seed } = .ok (.start (.ofTables .bundled) seed) := by
  refine build_eq_ok_iff.2 ⟨.bundled, ?_, rfl⟩
  rw [chooseTables, Tables.checked, Tables.check_bundled]
  rfl

/-- An engine is set up from any tables that are accepted. -/
theorem build_of_check {t : Tables} (h : t.check = .ok ()) (seed : UInt64) :
    build files { seed := seed, tables := some t } = .ok (.start (.ofTables t) seed) := by
  have hchecked : t.checked = .ok t := by rw [Tables.checked, h]
  refine build_eq_ok_iff.2 ⟨t, ?_, rfl⟩
  show t.checked.mapError SetupFault.tables = .ok t
  rw [hchecked]
  rfl

end Setup

/-! ### Plain texts -/

section Texts

variable {t : Tables}

/-- A sentence is always resolved, to a text that normalizing leaves alone. -/
theorem Tables.always_resolve_normal (h : t.Sound) (sentence : Text) :
    Always (fun x => Text.normalize x = x) (t.resolve sentence : Draw σ Text) := by
  have hpasses := always_fillAll (σ := σ) h sentence (Nat.le_refl Placeholder.all.length)
  rw [List.take_length] at hpasses
  rw [resolve, Template.resolveWith_eq_map]
  exact hpasses.map fun _ _ => Text.normalize_normalize _

theorem Tables.succeeds_resolve (h : t.Sound) (sentence : Text) :
    Succeeds (t.resolve sentence : Draw σ Text) :=
  (always_resolve_normal h sentence).succeeds

theorem Modifier.succeeds_draw (h : t.Sound) (a : ItemAttribute) :
    Succeeds (Modifier.draw t a : Draw σ Modifier) :=
  Modifier.always_draw_of h a.always_drawAmount.succeeds fun _ _ _ _ _ => trivial

end Texts

namespace Generator

variable {g : Generator}

/-- What is known of every resolved sentence is known of triggers. -/
theorem always_drawTrigger_of (h : g.tables.Sound) {P : Text → Prop}
    (hP : ∀ sentence, Always P (g.tables.resolve sentence : Draw σ Text)) :
    Always P (g.drawTrigger : Draw σ Text) := by
  rw [drawTrigger]
  refine (Tables.always_drawTriggerVariant h).bind fun drawn _ => ?_
  obtain ⟨trigger, variant⟩ := drawn
  exact hP (trigger.phrase variant)

/-- What is known of every resolved sentence is known of statements before their first letter is
raised. -/
theorem always_drawPassive_of (h : g.tables.Sound) {P : Text → Prop}
    (hP : ∀ sentence, Always P (g.tables.resolve sentence : Draw σ Text)) :
    Always (fun plain => ∃ resolved, P resolved ∧ plain = Text.capitalize resolved)
      (g.drawPassive : Draw σ Text) := by
  rw [drawPassive]
  refine (Tables.always_drawTag h).bind fun tag _ => ?_
  refine (always_pick (by decide)).bind fun a _ => ?_
  refine (Modifier.succeeds_draw h a).bind fun modifier => ?_
  rw [drawStatement]
  refine (hP (modifier.statement tag.text a)).bind fun resolved hresolved => ?_
  exact always_pure ⟨resolved, hresolved, rfl⟩

theorem succeeds_drawTrigger (h : g.tables.Sound) : Succeeds (g.drawTrigger : Draw σ Text) :=
  always_drawTrigger_of h (Tables.succeeds_resolve h)

theorem succeeds_drawPassive (h : g.tables.Sound) : Succeeds (g.drawPassive : Draw σ Text) :=
  (always_drawPassive_of h (Tables.succeeds_resolve h)).succeeds

/-! ### Finished cards -/

/-- What is known of the plain texts of cards: of the statement of a passive card, of the resolved
effect of an active one, and of a resolved trigger. -/
structure Known where
  statement : Text → Prop
  effect : Text → Prop
  trigger : Text → Prop

/-- A finished card of a shape, with what it is made of: its plain texts, and for an item its
statistics.  The name is chosen by the text that the description shows, the one of an item by its
statistics as well. -/
inductive Finished (g : Generator) (known : Known) : Shape → Card → Prop
  | passiveItem {plain name : Text} {size : Size} {rarity : Rarity}
      (hplain : known.statement plain)
      (hname : g.tables.naming.ItemName plain (.ofHalves 0) size rarity name) :
      Finished g known ⟨.item, .passive⟩
        ⟨.item, .passive, name, g.matcher.sentence plain, some ⟨.ofHalves 0, size, rarity, 0⟩⟩
  | passiveSkill {plain name : Text} (hplain : known.statement plain)
      (hname : g.tables.naming.SkillName plain name) :
      Finished g known ⟨.skill, .passive⟩
        ⟨.skill, .passive, name, g.matcher.sentence plain, none⟩
  | activeItem {plain name : Text} {halves : Nat} {size : Size} {rarity : Rarity}
      {multicast : UInt8} (hplain : known.effect plain) (hhalves : 1 ≤ halves ∧ halves ≤ 30)
      (hmulticast : multicast ∈ multicastChoices)
      (hname : g.tables.naming.ItemName (Text.capitalize plain) (.ofHalves halves) size rarity
        name) :
      Finished g known ⟨.item, .active⟩
        ⟨.item, .active, name, g.matcher.sentence (Text.capitalize plain),
          some ⟨.ofHalves halves, size, rarity, multicast⟩⟩
  | activeSkill {plain trigger name : Text} (hplain : known.effect plain)
      (htrigger : known.trigger trigger) (hname : g.tables.naming.SkillName plain name) :
      Finished g known ⟨.skill, .active⟩
        ⟨.skill, .active, name, g.skillDescription trigger plain, none⟩

section Cards

variable {known : Known}

theorem always_passiveCard (h : g.tables.Sound)
    (hstatement : Always known.statement (g.drawPassive : Draw σ Text)) (kind : Kind) :
    Always (g.Finished known ⟨kind, .passive⟩) (g.passiveCard kind : Draw σ Card) := by
  rw [passiveCard]
  refine hstatement.bind fun plain hplain => ?_
  cases kind with
  | item =>
    refine (always_pick (by decide)).bind fun size _ => ?_
    refine (always_pick (by decide)).bind fun rarity _ => ?_
    refine (NamePools.always_drawItemName h.naming).bind fun name hname => ?_
    exact always_pure (.passiveItem hplain hname)
  | skill =>
    refine (NamePools.always_drawSkillName h.naming).bind fun name hname => ?_
    exact always_pure (.passiveSkill hplain hname)

theorem always_activeCard (h : g.tables.Sound)
    (heffect : ∀ e ∈ g.tables.effects, Always known.effect (g.tables.resolve e.text : Draw σ Text))
    (htrigger : Always known.trigger (g.drawTrigger : Draw σ Text)) (kind : Kind) :
    Always (g.Finished known ⟨kind, .active⟩) (g.activeCard kind : Draw σ Card) := by
  rw [activeCard]
  refine (always_pick h.effects).bind fun effect hmem => ?_
  refine (heffect effect hmem).bind fun plain hplain => ?_
  cases kind with
  | item =>
    refine (always_natBetween (by decide)).bind fun halves hhalves => ?_
    refine (always_pick (by decide)).bind fun size _ => ?_
    refine (always_pick (by decide)).bind fun rarity _ => ?_
    refine (always_pick (by decide)).bind fun multicast hmulticast => ?_
    refine (NamePools.always_drawItemName h.naming).bind fun name hname => ?_
    exact always_pure (.activeItem hplain hhalves hmulticast hname)
  | skill =>
    refine (NamePools.always_drawSkillName h.naming).bind fun name hname => ?_
    refine htrigger.bind fun trigger htext => ?_
    exact always_pure (.activeSkill hplain htext hname)

/-- **Every shape leads to a finished card**, and what is known of the plain texts is known of the
texts behind it. -/
theorem always_generateShape (h : g.tables.Sound)
    (hstatement : Always known.statement (g.drawPassive : Draw σ Text))
    (heffect : ∀ e ∈ g.tables.effects, Always known.effect (g.tables.resolve e.text : Draw σ Text))
    (htrigger : Always known.trigger (g.drawTrigger : Draw σ Text)) (shape : Shape) :
    Always (g.Finished known shape) (g.generateShape shape : Draw σ Card) := by
  obtain ⟨kind, activity⟩ := shape
  cases activity with
  | active => exact always_activeCard h heffect htrigger kind
  | passive => exact always_passiveCard h hstatement kind

end Cards

/-! ### Generators that never fail -/

/-- Nothing is known of the plain texts. -/
def Known.nothing : Known := ⟨fun _ => True, fun _ => True, fun _ => True⟩

/-- No draw of a generator fails, wherever its source stands, and no list that an entry or a word is
picked from is empty, whatever text, cooldown, size and rarity lead to it. -/
structure Infallible (σ : Type) [WordSource σ] (g : Generator) : Prop where
  tags : g.tables.tags ≠ []
  values : g.tables.values ≠ []
  effects : g.tables.effects ≠ []
  triggers : g.tables.triggers ≠ []
  itemPools : ∀ text cooldown size rarity,
    ∀ pool ∈ g.tables.naming.itemPools text cooldown size rarity, pool ≠ []
  skillPools : ∀ text pool, g.tables.naming.SkillPool text pool → pool ≠ []
  skillActions : g.tables.naming.skill.actions ≠ []
  resolve : ∀ sentence, Succeeds (g.tables.resolve sentence : Draw σ Text)
  trigger : Succeeds (g.drawTrigger : Draw σ Text)
  passive : Succeeds (g.drawPassive : Draw σ Text)
  itemName : ∀ text cooldown size rarity,
    Always (g.tables.naming.ItemName text cooldown size rarity)
      (g.tables.naming.drawItemName text cooldown size rarity : Draw σ Text)
  skillName : ∀ text, Always (g.tables.naming.SkillName text)
    (g.tables.naming.drawSkillName text : Draw σ Text)
  card : ∀ shape, Always (g.Finished .nothing shape) (g.generateShape shape : Draw σ Card)
  drawnCard : Always (fun card => ∃ shape, g.Finished .nothing shape card)
    (g.generate : Draw σ Card)

theorem always_generateShape_of_sound (h : g.tables.Sound) (shape : Shape) :
    Always (g.Finished .nothing shape) (g.generateShape shape : Draw σ Card) := by
  refine always_generateShape h ?_ (fun e _ => ?_) ?_ shape
  · exact succeeds_drawPassive h
  · exact Tables.succeeds_resolve h e.text
  · exact succeeds_drawTrigger h

theorem succeeds_shape : Succeeds (Shape.draw : Draw σ Shape) := by
  rw [Shape.draw]
  refine (succeeds_chance _).bind fun isItem => ?_
  exact (succeeds_chance _).bind fun isPassive => succeeds_pure (Shape.ofFlags isItem isPassive)

/-- What is known of the cards of every shape is known of cards for which a shape is drawn. -/
theorem always_generate_of {P : Card → Prop}
    (h : ∀ shape, Always P (g.generateShape shape : Draw σ Card)) :
    Always P (g.generate : Draw σ Card) := by
  rw [generate]
  exact succeeds_shape.bind h

theorem always_generate (h : g.tables.Sound) :
    Always (fun card => ∃ shape, g.Finished .nothing shape card) (g.generate : Draw σ Card) :=
  always_generate_of fun shape =>
    (always_generateShape_of_sound h shape).mono fun _ hcard => ⟨shape, hcard⟩

theorem infallible_of_sound (h : g.tables.Sound) : g.Infallible σ where
  tags := h.tags
  values := h.values
  effects := h.effects
  triggers := h.triggers
  itemPools _ _ _ _ := h.naming.pools_ne_nil
  skillPools _ _ hpool := hpool.ne_nil h.naming
  skillActions := h.naming.skillActions
  resolve := Tables.succeeds_resolve h
  trigger := succeeds_drawTrigger h
  passive := succeeds_drawPassive h
  itemName _ _ _ _ := NamePools.always_drawItemName h.naming
  skillName _ := NamePools.always_drawSkillName h.naming
  card := always_generateShape_of_sound h
  drawnCard := always_generate h

/-- **Generation never fails**: not from tables that are accepted, whatever keywords are marked, and
so not in any engine that can be set up, wherever its tables come from. -/
theorem infallible (σ : Type) [WordSource σ] :
    (∀ g : Generator, g.tables.check = .ok () → g.Infallible σ) ∧
    ∀ files s e, Setup.build files s = .ok e → e.generator.Infallible σ := by
  have haccepted : ∀ g : Generator, g.tables.check = .ok () → g.Infallible σ := fun g h =>
    infallible_of_sound (Tables.check_eq_ok_iff.1 h)
  refine ⟨haccepted, fun files s e he => ?_⟩
  exact haccepted e.generator (Setup.checked_of_build he)

/-- The bundled tables are accepted, and so is what is set up from them. -/
theorem infallible_bundled :
    (Tables.bundled.check = .ok () ∧ (Generator.ofTables .bundled).Infallible SeededStream) ∧
    Setup.build (fun _ => .missing) { seed := 7 } = .ok (.start (.ofTables .bundled) 7) ∧
      (Engine.start (.ofTables .bundled) 7).generator.Infallible SeededStream := by
  have hbuild : Setup.build (fun _ => .missing) { seed := 7 } = _ := Setup.build_bundled 7
  refine ⟨⟨Tables.check_bundled, (infallible SeededStream).1 _ Tables.check_bundled⟩, hbuild, ?_⟩
  exact (infallible SeededStream).2 _ _ _ hbuild

end Generator

end Cardwright

import Cardwright.Proofs.Engine.Generation
import Cardwright.Proofs.Random.Coupling

/-!
# Sections of tables that do not interfere

All draws of a card read one stream, and how many words a draw reads depends on what it draws from.
So a section of the tables has no influence on a part of a card only where that part is drawn before
anything is drawn from the section:

* the words that names are drawn from come last, but for the trigger of an active skill, and so they
  decide nothing of any other card than its name (`Tables.SameButNaming`, `Card.AgreesButName`);
* nothing is drawn from the keywords at all, and so they decide how the plain texts of a card are
  marked and nothing else (`Tables.SameButKeywords`, `Generator.AgreesButMarks`).

Two runs that differ in such a section are coupled by the agreement that is left, for each shape
(`Generator.coupled_generateShape_naming`, `Generator.coupled_generateShape_keywords`) and so for
each card of two engines (`Engine.sections_independent`).
-/

namespace Cardwright

open Draw

/-! ### Tables that differ in one section -/

/-- Two sets of tables that differ at most in the words that names are drawn from. -/
def Tables.SameButNaming (t u : Tables) : Prop := u = { t with naming := u.naming }

/-- Two sets of tables that differ at most in the words that are marked. -/
def Tables.SameButKeywords (t u : Tables) : Prop :=
  u = { t with keywords := u.keywords, irregularPlurals := u.irregularPlurals }

/-! ### Cards that agree in the rest -/

/-- The shape of a card. -/
def Card.shape (c : Card) : Shape := ⟨c.kind, c.activity⟩

/-- Two cards that agree in all but their names; two active skills may differ in their descriptions
as well. -/
structure Card.AgreesButName (c d : Card) : Prop where
  kind : c.kind = d.kind
  activity : c.activity = d.activity
  item : c.item = d.item
  description : c.shape ≠ ⟨.skill, .active⟩ → c.description = d.description

/-- A description of a card of some shape, with the plain texts that it is made from: a trigger and
an effect for an active skill, a single sentence for any other card. -/
inductive Generator.Describes (g : Generator) : Shape → List Text → Text → Prop
  | sentence {shape : Shape} (plain : Text) (h : shape ≠ ⟨.skill, .active⟩) :
      Describes g shape [plain] (g.matcher.sentence plain)
  | skill (trigger effect : Text) :
      Describes g ⟨.skill, .active⟩ [trigger, effect] (g.skillDescription trigger effect)

/-- Two cards of two generators that agree in all but the marks in their descriptions: each
generator marks the same plain texts with its own keywords. -/
structure Generator.AgreesButMarks (g g' : Generator) (c d : Card) : Prop where
  kind : c.kind = d.kind
  activity : c.activity = d.activity
  name : c.name = d.name
  item : c.item = d.item
  description : ∃ plains, g.Describes c.shape plains c.description ∧
    g'.Describes d.shape plains d.description

namespace Generator

variable {σ : Type} [WordSource σ] {t : Tables} {m m' : Matcher}

/-! ### Other words for names -/

section Naming

variable {n : NamePools}

omit [WordSource σ] in
/-- Where the name is all that is still open, the cards agree in all but it. -/
theorem coupled_named {d d' : Draw σ Text} (hd : Succeeds d) (hd' : Succeeds d')
    (card : Text → Card) (h : ∀ name name', (card name).AgreesButName (card name')) :
    Coupled (fun x y => x.1.AgreesButName y.1) (d >>= fun name => pure (card name))
      (d' >>= fun name => pure (card name)) := by
  have hcard : ∀ {e : Draw σ Text}, Succeeds e →
      Always (fun c => ∃ name, c = card name) (e >>= fun name => pure (card name)) :=
    fun he => he.bind fun name => always_pure ⟨name, rfl⟩
  refine Always.coupled (hcard hd) (hcard hd') ?_
  rintro _ _ s s' ⟨name, rfl⟩ ⟨name', rfl⟩
  exact h name name'

theorem coupled_passiveCard_naming (h : t.Sound) (hn : n.Sound) (kind : Kind) :
    Coupled (fun x y => x.1.AgreesButName y.1) (passiveCard ⟨t, m⟩ kind : Draw σ Card)
      (passiveCard ⟨{ t with naming := n }, m⟩ kind) := by
  have hpassive : (drawPassive ⟨{ t with naming := n }, m⟩ : Draw σ Text) = drawPassive ⟨t, m⟩ :=
    rfl
  rw [passiveCard, passiveCard, hpassive]
  refine Always.coupled_bind (succeeds_drawPassive h) fun plain _ => ?_
  cases kind with
  | item =>
    refine Always.coupled_bind (always_pick (by decide)) fun size _ => ?_
    refine Always.coupled_bind (always_pick (by decide)) fun rarity _ => ?_
    refine coupled_named (NamePools.always_drawItemName h.naming).succeeds
      (NamePools.always_drawItemName hn).succeeds
      (fun name => ⟨.item, .passive, name, m.sentence plain,
        some ⟨.ofHalves 0, size, rarity, 0⟩⟩) fun name name' => ?_
    exact ⟨rfl, rfl, rfl, fun _ => rfl⟩
  | skill =>
    refine coupled_named (NamePools.always_drawSkillName h.naming).succeeds
      (NamePools.always_drawSkillName hn).succeeds
      (fun name => ⟨.skill, .passive, name, m.sentence plain, none⟩) fun name name' => ?_
    exact ⟨rfl, rfl, rfl, fun _ => rfl⟩

theorem coupled_activeCard_naming (h : t.Sound) (hn : n.Sound) (kind : Kind) :
    Coupled (fun x y => x.1.AgreesButName y.1) (activeCard ⟨t, m⟩ kind : Draw σ Card)
      (activeCard ⟨{ t with naming := n }, m⟩ kind) := by
  have hresolve : ∀ text, (Tables.resolve { t with naming := n } text : Draw σ Text) =
      t.resolve text := fun _ => rfl
  rw [activeCard, activeCard]
  simp only [hresolve]
  refine Always.coupled_bind (always_pick h.effects) fun effect _ => ?_
  refine Always.coupled_bind (Tables.succeeds_resolve h effect.text) fun plain _ => ?_
  cases kind with
  | item =>
    refine Always.coupled_bind (always_natBetween (by decide)) fun halves _ => ?_
    refine Always.coupled_bind (always_pick (by decide)) fun size _ => ?_
    refine Always.coupled_bind (always_pick (by decide)) fun rarity _ => ?_
    refine Always.coupled_bind (always_pick (by decide)) fun multicast _ => ?_
    refine coupled_named (NamePools.always_drawItemName h.naming).succeeds
      (NamePools.always_drawItemName hn).succeeds
      (fun name => ⟨.item, .active, name, m.sentence (Text.capitalize plain),
        some ⟨.ofHalves halves, size, rarity, multicast⟩⟩) fun name name' => ?_
    exact ⟨rfl, rfl, rfl, fun _ => rfl⟩
  | skill =>
    -- The trigger is drawn behind the name, from words that the two draws need not share.
    have hcard : ∀ {p : NamePools}, p.Sound →
        Always (fun c => ∃ name description, c = ⟨.skill, .active, name, description, none⟩)
        (p.drawSkillName plain >>= fun name => drawTrigger ⟨t, m⟩ >>= fun trigger =>
          pure (⟨.skill, .active, name, skillDescription ⟨t, m⟩ trigger plain, none⟩ : Card) :
          Draw σ Card) := by
      intro p hp
      refine (NamePools.always_drawSkillName hp).bind fun name _ => ?_
      refine (succeeds_drawTrigger h).bind fun trigger => ?_
      exact always_pure ⟨name, _, rfl⟩
    refine Always.coupled (hcard h.naming) (hcard hn) ?_
    rintro _ _ s s' ⟨name, description, rfl⟩ ⟨name', description', rfl⟩
    exact ⟨rfl, rfl, rfl, fun hshape => absurd rfl hshape⟩

theorem coupled_generateShape_naming (h : t.Sound) (hn : n.Sound) (shape : Shape) :
    Coupled (fun x y => x.1.AgreesButName y.1) (generateShape ⟨t, m⟩ shape : Draw σ Card)
      (generateShape ⟨{ t with naming := n }, m⟩ shape) := by
  obtain ⟨kind, activity⟩ := shape
  cases activity with
  | active => exact coupled_activeCard_naming h hn kind
  | passive => exact coupled_passiveCard_naming h hn kind

theorem coupled_generate_naming (h : t.Sound) (hn : n.Sound) :
    Coupled (fun x y => x.1.AgreesButName y.1) (generate ⟨t, m⟩ : Draw σ Card)
      (generate ⟨{ t with naming := n }, m⟩) :=
  succeeds_shape.coupled_bind fun shape _ => coupled_generateShape_naming h hn shape

end Naming

/-! ### Other keywords -/

section Keywords

variable {keywords : List Text} {irregularPlurals : List (Text × Text)}

/-- Two cards that show one sentence, each marked by its own generator, and agree in the rest. -/
theorem agreesButMarks_sentence (g g' : Generator) {kind : Kind} {activity : Activity}
    (hshape : (⟨kind, activity⟩ : Shape) ≠ ⟨.skill, .active⟩) (name plain : Text)
    (item : Option ItemStats) :
    g.AgreesButMarks g' ⟨kind, activity, name, g.matcher.sentence plain, item⟩
      ⟨kind, activity, name, g'.matcher.sentence plain, item⟩ :=
  ⟨rfl, rfl, rfl, rfl, [plain], .sentence plain hshape, .sentence plain hshape⟩

theorem coupled_passiveCard_keywords (h : t.Sound) (kind : Kind) :
    let u : Tables := { t with keywords := keywords, irregularPlurals := irregularPlurals }
    Coupled (fun x y => AgreesButMarks ⟨t, m⟩ ⟨u, m'⟩ x.1 y.1 ∧ x.2 = y.2)
      (passiveCard ⟨t, m⟩ kind : Draw σ Card) (passiveCard ⟨u, m'⟩ kind) := by
  intro u
  have hpassive : (drawPassive ⟨u, m'⟩ : Draw σ Text) = drawPassive ⟨t, m⟩ := rfl
  rw [passiveCard, passiveCard, hpassive]
  refine Always.coupled_bind (succeeds_drawPassive h) fun plain _ => ?_
  cases kind with
  | item =>
    refine Always.coupled_bind (always_pick (by decide)) fun size _ => ?_
    refine Always.coupled_bind (always_pick (by decide)) fun rarity _ => ?_
    refine Always.coupled_bind (NamePools.always_drawItemName h.naming) fun name _ => ?_
    refine coupled_pure fun s => ⟨?_, rfl⟩
    exact agreesButMarks_sentence _ _ (by decide) name plain _
  | skill =>
    refine Always.coupled_bind (NamePools.always_drawSkillName h.naming) fun name _ => ?_
    refine coupled_pure fun s => ⟨?_, rfl⟩
    exact agreesButMarks_sentence _ _ (by decide) name plain _

theorem coupled_activeCard_keywords (h : t.Sound) (kind : Kind) :
    let u : Tables := { t with keywords := keywords, irregularPlurals := irregularPlurals }
    Coupled (fun x y => AgreesButMarks ⟨t, m⟩ ⟨u, m'⟩ x.1 y.1 ∧ x.2 = y.2)
      (activeCard ⟨t, m⟩ kind : Draw σ Card) (activeCard ⟨u, m'⟩ kind) := by
  intro u
  have hresolve : ∀ text, (u.resolve text : Draw σ Text) = t.resolve text := fun _ => rfl
  have htrigger : (drawTrigger ⟨u, m'⟩ : Draw σ Text) = drawTrigger ⟨t, m⟩ := rfl
  rw [activeCard, activeCard, htrigger]
  simp only [hresolve]
  refine Always.coupled_bind (always_pick h.effects) fun effect _ => ?_
  refine Always.coupled_bind (Tables.succeeds_resolve h effect.text) fun plain _ => ?_
  cases kind with
  | item =>
    refine Always.coupled_bind (always_natBetween (by decide)) fun halves _ => ?_
    refine Always.coupled_bind (always_pick (by decide)) fun size _ => ?_
    refine Always.coupled_bind (always_pick (by decide)) fun rarity _ => ?_
    refine Always.coupled_bind (always_pick (by decide)) fun multicast _ => ?_
    refine Always.coupled_bind (NamePools.always_drawItemName h.naming) fun name _ => ?_
    refine coupled_pure fun s => ⟨?_, rfl⟩
    exact agreesButMarks_sentence _ _ (by decide) name (Text.capitalize plain) _
  | skill =>
    refine Always.coupled_bind (NamePools.always_drawSkillName h.naming) fun name _ => ?_
    refine Always.coupled_bind (succeeds_drawTrigger h) fun trigger _ => ?_
    refine coupled_pure fun s => ⟨⟨rfl, rfl, rfl, rfl, [trigger, plain], ?_, ?_⟩, rfl⟩
    · exact .skill trigger plain
    · exact .skill trigger plain

theorem coupled_generateShape_keywords (h : t.Sound) (shape : Shape) :
    let u : Tables := { t with keywords := keywords, irregularPlurals := irregularPlurals }
    Coupled (fun x y => AgreesButMarks ⟨t, m⟩ ⟨u, m'⟩ x.1 y.1 ∧ x.2 = y.2)
      (generateShape ⟨t, m⟩ shape : Draw σ Card) (generateShape ⟨u, m'⟩ shape) := by
  obtain ⟨kind, activity⟩ := shape
  cases activity with
  | active => exact coupled_activeCard_keywords h kind
  | passive => exact coupled_passiveCard_keywords h kind

theorem coupled_generate_keywords (h : t.Sound) :
    let u : Tables := { t with keywords := keywords, irregularPlurals := irregularPlurals }
    Coupled (fun x y => AgreesButMarks ⟨t, m⟩ ⟨u, m'⟩ x.1 y.1 ∧ x.2 = y.2)
      (generate ⟨t, m⟩ : Draw σ Card) (generate ⟨u, m'⟩) :=
  succeeds_shape.coupled_bind fun shape _ => coupled_generateShape_keywords h shape

end Keywords

end Generator

/-! ### Engines -/

namespace Engine

/-- Coupled generators make coupled cards: each card of the two engines is generated from the same
stream. -/
theorem cardAt_of_coupled {g g' : Generator} {R : Card × SeededStream → Card × SeededStream → Prop}
    (h : Coupled R g.generate g'.generate) (seed : UInt64) (i : Nat) :
    ∃ c d s s', (start g seed).cardAt i = some c ∧ (start g' seed).cardAt i = some d ∧
      R (c, s) (d, s') := by
  obtain ⟨⟨c, s⟩, ⟨d, s'⟩, hc, hd, hR⟩ := h (SeededStream.ofSeed (seed + UInt64.ofNat i))
  refine ⟨c, d, s, s', ?_, ?_, hR⟩
  · rw [cardAt, start, hc]
    rfl
  · rw [cardAt, start, hd]
    rfl

/-- **Sections of the tables do not interfere.**  Take two engines that are set up with the same
seed, from whatever tables.  If the tables differ only in the words for names, the cards with the
same number have the same kind, the same activity and the same statistics, and the same description
unless they are active skills.  If the tables differ only in the words to mark, the cards with the
same number agree in all but their descriptions, and these are made from the same plain texts, which
each engine marks with its own keywords. -/
theorem sections_independent {files files' : Text → FileState} {s s' : Setup} {e e' : Engine}
    (h : s.build files = .ok e) (h' : s'.build files' = .ok e') (hseed : s.seed = s'.seed) :
    (e.generator.tables.SameButNaming e'.generator.tables → ∀ i, ∃ c d,
      e.cardAt i = some c ∧ e'.cardAt i = some d ∧ c.AgreesButName d) ∧
    (e.generator.tables.SameButKeywords e'.generator.tables → ∀ i, ∃ c d,
      e.cardAt i = some c ∧ e'.cardAt i = some d ∧
        e.generator.AgreesButMarks e'.generator c d) := by
  have hsound := Tables.check_eq_ok_iff.1 (Setup.checked_of_build h)
  have hsound' := Tables.check_eq_ok_iff.1 (Setup.checked_of_build h')
  obtain ⟨t, -, rfl⟩ := Setup.build_eq_ok_iff.1 h
  obtain ⟨u, -, rfl⟩ := Setup.build_eq_ok_iff.1 h'
  change t.Sound at hsound
  change u.Sound at hsound'
  rw [← hseed]
  constructor
  · intro hsame i
    obtain ⟨n, rfl⟩ : ∃ n, u = { t with naming := n } := ⟨_, hsame⟩
    obtain ⟨c, d, s₁, s₂, hc, hd, hagree⟩ := cardAt_of_coupled
      (Generator.coupled_generate_naming (m := .ofTables t) hsound hsound'.naming) s.seed i
    exact ⟨c, d, hc, hd, hagree⟩
  · intro hsame i
    obtain ⟨ks, ps, rfl⟩ : ∃ ks ps, u = { t with keywords := ks, irregularPlurals := ps } :=
      ⟨_, _, hsame⟩
    let u : Tables := { t with keywords := ks, irregularPlurals := ps }
    have hcoupled : Coupled
        (fun x y => Generator.AgreesButMarks (.ofTables t) (.ofTables u) x.1 y.1 ∧ x.2 = y.2)
        (Generator.generate (.ofTables t) : Draw SeededStream Card)
        (Generator.generate (.ofTables u)) := Generator.coupled_generate_keywords hsound
    obtain ⟨c, d, s₁, s₂, hc, hd, hagree, -⟩ := cardAt_of_coupled hcoupled s.seed i
    exact ⟨c, d, hc, hd, hagree⟩

/-- Card 5 of seed 7 from the bundled tables, from the same with another closing word for names, and
from the same with a single keyword. -/
theorem sections_independent_bundled :
    let t := Tables.bundled
    let u : Tables := { t with naming := { t.naming with flavorWords := ["Ashes"] } }
    let v : Tables := { t with keywords := ["items"], irregularPlurals := [] }
    let e := start (.ofTables t) 7
    let eu := start (.ofTables u) 7
    let ev := start (.ofTables v) 7
    (Setup.build (fun _ => .missing) { seed := 7 } = .ok e ∧
      Setup.build (fun _ => .missing) { seed := 7, tables := some u } = .ok eu ∧
      Setup.build (fun _ => .missing) { seed := 7, tables := some v } = .ok ev) ∧
    (t.SameButNaming u ∧ ∃ c d, e.cardAt 5 = some c ∧ eu.cardAt 5 = some d ∧ c.AgreesButName d) ∧
    (t.SameButKeywords v ∧ ∃ c d, e.cardAt 5 = some c ∧ ev.cardAt 5 = some d ∧
      e.generator.AgreesButMarks ev.generator c d) := by
  intro t u v e eu ev
  have hnaming : u.naming.Sound := { Bundled.sound_naming with flavorWords := by decide }
  have hu : u.Sound := { Tables.sound_bundled with naming := hnaming }
  have hv : v.Sound := { Tables.sound_bundled with keywords := by decide }
  have hbuild : Setup.build (fun _ => .missing) { seed := 7 } = .ok e := Setup.build_bundled 7
  have hbuild_u : Setup.build (fun _ => .missing) { seed := 7, tables := some u } = .ok eu :=
    Setup.build_of_check (Tables.check_eq_ok_iff.2 hu) 7
  have hbuild_v : Setup.build (fun _ => .missing) { seed := 7, tables := some v } = .ok ev :=
    Setup.build_of_check (Tables.check_eq_ok_iff.2 hv) 7
  refine ⟨⟨hbuild, hbuild_u, hbuild_v⟩, ⟨rfl, ?_⟩, rfl, ?_⟩
  · exact (sections_independent hbuild hbuild_u rfl).1 rfl 5
  · exact (sections_independent hbuild hbuild_v rfl).2 rfl 5

end Engine

end Cardwright

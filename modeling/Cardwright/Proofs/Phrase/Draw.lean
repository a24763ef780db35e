import Cardwright.Phrase.Draw
import Cardwright.Proofs.Phrase.Number
import Cardwright.Proofs.Random.Outcome
import Cardwright.Proofs.Tables.Check

/-!
# What is drawn from the tables

Each draw from sound tables succeeds, and what it gives is made from an entry of the tables by the
choices it reports, within their ranges: `DrawnTag.From`, `DrawnValue.From`, `Duration.From` and
`Times.InRange` say so for the four kinds of drawn things, and `Tables.CanFill` collects the texts
that can come into a slot.

Main statements: `Tables.CanFill.origin` (what comes into a slot is a number in words, a form of a
tag or a phrase of a value) and `Tables.always_fill` (filling a slot succeeds, with such a text).
-/

namespace Cardwright

/-! ### Sides -/

theorem Tag.forall_forms {P : TagForms → Prop} {tag : Tag} (h : P tag.own ∧ P tag.opponent)
    (side : Side) : P (tag.forms side) := by
  cases side with
  | own => exact h.1
  | opponent => exact h.2

theorem ValuePhrases.forall_forSide {P : Text → Prop} {p : ValuePhrases}
    (h : P p.own ∧ P p.opponent) (side : Side) : P (p.forSide side) := by
  cases side with
  | own => exact h.1
  | opponent => exact h.2

/-! ### Drawn things -/

/-- A tag that is drawn from the tables: an amount is of two to five. -/
structure DrawnTag.From (t : Tables) (d : DrawnTag) : Prop where
  mem : d.tag ∈ t.tags
  rendered : ∃ count, (d.form = .amount → 2 ≤ count ∧ count ≤ 5) ∧
    d.text = d.tag.render d.side d.form count

/-- The wording of a value: a number up to a hundred, or a phrase with its multiplier. -/
def DrawnValue.Worded (d : DrawnValue) : ValueKind → Prop
  | .plainNumber => ∃ n ≤ 100, d.text = Text.decimal n
  | .phrase p => d.text = d.multiplier.lead ++ p.forSide d.side ∧ d.dropsAs = false

/-- A value that is drawn from the tables. -/
structure DrawnValue.From (t : Tables) (d : DrawnValue) : Prop where
  mem : d.value ∈ t.values
  worded : d.Worded d.value.kind

/-- The own phrase of a value. -/
def Tables.OwnPhrase (t : Tables) (text : Text) : Prop :=
  ∃ v ∈ t.values, ∃ p, v.kind = .phrase p ∧ text = p.own

/-- A duration that is drawn from the tables: from one to eight half seconds, a number up to a
hundred, or the own phrase of a value. -/
def Duration.From (t : Tables) : Duration → Prop
  | .seconds x => ∃ halves, (1 ≤ halves ∧ halves ≤ 8) ∧ x = .ofHalves halves
  | .number n => n ≤ 100
  | .phrase text => t.OwnPhrase text

/-- A single occurrence, or from two to nine of them. -/
def Times.InRange : Times → Prop
  | .once => True
  | .count n => 2 ≤ n ∧ n ≤ 9

/-- The texts that can come into the slots of each kind. -/
inductive Tables.CanFill (t : Tables) : Placeholder → Text → Prop
  | tag {d : DrawnTag} : d.From t → CanFill t .tag d.text
  | times {d : Times} : d.InRange → CanFill t .times d.render
  | value {d : DrawnValue} : d.From t → CanFill t .value d.text
  | duration {d : Duration} : d.From t → CanFill t .duration d.render
  | percent {n : Nat} : n ≤ 100 → CanFill t .percent (Text.decimal n ++ ['%'])

/-- **Where the text of a slot comes from.**  It has no braces, or it is a form of a tag, or a
phrase of a value behind a multiplier, the last in place of a value or of a duration. -/
theorem Tables.CanFill.origin {t : Tables} {kind : Placeholder} {text : Text}
    (h : t.CanFill kind text) :
    Text.BraceFree text ∨
    (kind = .tag ∧ ∃ tag ∈ t.tags, ∃ side form count, text = tag.render side form count) ∨
    ((kind = .value ∨ kind = .duration) ∧ ∃ v ∈ t.values, ∃ p, v.kind = .phrase p ∧
      ∃ (m : Multiplier) (side : Side), text = m.lead ++ p.forSide side) := by
  cases h with
  | @tag d hd =>
    obtain ⟨count, -, htext⟩ := hd.rendered
    exact .inr (.inl ⟨rfl, d.tag, hd.mem, d.side, d.form, count, htext⟩)
  | @times d hd => exact .inl (braceFree_times d)
  | @value d hd =>
    have hworded := hd.worded
    cases hkind : d.value.kind with
    | plainNumber =>
      rw [hkind] at hworded
      obtain ⟨n, -, htext⟩ := hworded
      rw [htext]
      exact .inl (Text.braceFree_decimal n)
    | phrase p =>
      rw [hkind] at hworded
      exact .inr (.inr ⟨.inl rfl, d.value, hd.mem, p, hkind, d.multiplier, d.side, hworded.1⟩)
  | @duration d hd =>
    match d, hd with
    | .seconds x, _ => exact .inl (braceFree_seconds x)
    | .number n, _ => exact .inl (Text.braceFree_decimal n)
    | .phrase _, ⟨v, hv, p, hp, rfl⟩ =>
      -- A duration takes the own phrase as it is, which is a phrase counted once.
      exact .inr (.inr ⟨.inr rfl, v, hv, p, hp, .once, .own, rfl⟩)
  | @percent n hn => exact .inl (braceFree_percent n)

/-! ### Draws -/

section Draws

open Draw

variable {σ : Type} [WordSource σ] {t : Tables}

theorem succeeds_multiplier (multipliable : Bool) :
    Succeeds (Multiplier.draw multipliable : Draw σ Multiplier) := by
  rw [Multiplier.draw]
  split
  · refine (succeeds_chance _).bind fun twice => ?_
    split
    · exact (always_pick (by decide)).succeeds
    · exact succeeds_pure _
  · exact succeeds_pure _

namespace Tables

theorem always_drawTag (h : t.Sound) : Always (DrawnTag.From t) (t.drawTag : Draw σ DrawnTag) := by
  rw [drawTag]
  refine (always_pick h.tags).bind fun tag htag => ?_
  refine (succeeds_chance _).bind fun opponent => ?_
  refine succeeds_roll.bind fun roll => ?_
  -- A number is drawn for an amount only; the other forms do not mention it.
  dsimp only
  split
  · exact (always_natBetween (by decide)).bind fun count hn =>
      always_pure ⟨htag, count, fun _ => hn, rfl⟩
  · next hform =>
    exact (succeeds_pure 0).bind fun count =>
      always_pure ⟨htag, count, fun hamount => absurd hamount hform, rfl⟩

theorem always_drawValue (h : t.Sound) (asAhead : Bool) :
    Always (DrawnValue.From t) (t.drawValue asAhead : Draw σ DrawnValue) := by
  rw [drawValue]
  refine (always_pick h.values).bind fun v hv => ?_
  refine (succeeds_chance _).bind fun opponent => ?_
  cases hkind : v.kind with
  | plainNumber =>
    refine (always_natBetween (by decide)).bind fun n hn => always_pure ⟨hv, ?_⟩
    rw [hkind]
    exact ⟨n, hn.2, rfl⟩
  | phrase p =>
    refine (succeeds_multiplier _).bind fun m => always_pure ⟨hv, ?_⟩
    rw [hkind]
    exact ⟨rfl, rfl⟩

/-- A phrase to scale with is the own phrase of a value behind its multiplier. -/
theorem always_drawScaling (h : t.Sound) :
    Always (fun o => ∀ text, o = some text →
        ∃ (m : Multiplier) (own : Text), t.OwnPhrase own ∧ text = m.lead ++ own)
      (t.drawScaling : Draw σ (Option Text)) := by
  rw [drawScaling]
  refine (always_pick h.values).bind fun v hv => ?_
  cases hkind : v.kind with
  | plainNumber => exact always_pure nofun
  | phrase p =>
    refine (succeeds_multiplier _).bind fun m => always_pure fun text htext => ?_
    cases htext
    exact ⟨m, p.own, ⟨v, hv, p, hkind, rfl⟩, rfl⟩

theorem always_drawDuration (h : t.Sound) :
    Always (Duration.From t) (t.drawDuration : Draw σ Duration) := by
  rw [drawDuration]
  refine (succeeds_chance _).bind fun timed => ?_
  split
  · exact (always_natBetween (by decide)).bind fun halves hn => always_pure ⟨halves, hn, rfl⟩
  · refine (always_pick h.values).bind fun v hv => ?_
    cases hkind : v.kind with
    | plainNumber => exact (always_natBetween (by decide)).map fun n hn => hn.2
    | phrase p => exact always_pure ⟨v, hv, p, hkind, rfl⟩

theorem always_drawPercent : Always (· ≤ 100) (drawPercent : Draw σ Nat) :=
  (always_natBetween (by decide)).mono fun _ hn => hn.2

theorem always_drawTimes : Always Times.InRange (drawTimes : Draw σ Times) := by
  rw [drawTimes]
  refine succeeds_roll.bind fun roll => ?_
  simp only [Times.ofRoll]
  split
  · exact always_pure trivial
  · exact (always_natBetween (by decide)).bind fun n hn => always_pure hn

theorem always_drawTriggerVariant (h : t.Sound) :
    Always (fun g => g.1 ∈ t.triggers)
      (t.drawTriggerVariant : Draw σ (Trigger × TriggerVariant)) := by
  rw [drawTriggerVariant]
  refine (always_pick h.triggers).bind fun g hg => ?_
  exact succeeds_roll.bind fun roll => always_pure hg

/-! ### Fills -/

/-- **Filling a slot succeeds**, with a text that can come into a slot of its kind. -/
theorem always_fill (h : t.Sound) (kind : Placeholder) (asAhead : Bool) :
    Always (fun f => t.CanFill kind f.text) (t.fill kind asAhead : Draw σ Fill) := by
  cases kind with
  | tag => exact (always_drawTag h).bind fun d hd => always_pure (.tag hd)
  | times => exact always_drawTimes.bind fun d hd => always_pure (.times hd)
  | value => exact (always_drawValue h asAhead).bind fun d hd => always_pure (.value hd)
  | duration => exact (always_drawDuration h).bind fun d hd => always_pure (.duration hd)
  | percent => exact always_drawPercent.bind fun n hn => always_pure (.percent hn)

end Tables

end Draws

end Cardwright

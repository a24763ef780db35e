import Cardwright.Proofs.Tables.Check
import Cardwright.Proofs.Template.Reading
import Cardwright.Tables.Bundled

/-!
# The bundled tables are sound

The slots of a phrase are found by looking for their tokens, so soundness can be evaluated; the
tables that come with the library are accepted (`Tables.check_bundled`).
-/

namespace Cardwright

/-! ### Evaluating soundness -/

/-- The slots of a phrase come later if no token of an earlier slot occurs in it. -/
theorem slotsAfter_iff_occurs {kind : Placeholder} {text : Text} :
    SlotsAfter kind text ↔
      ∀ p ∈ Placeholder.all, p.rank ≤ kind.rank → Text.occurs p.token text = false := by
  have hslot : ∀ p : Placeholder, p ∈ (Template.parse text).placeholders ↔
      Text.occurs p.token text = true := by
    intro p
    rw [Template.mem_placeholders_parse, Text.occurs_iff]
  constructor
  · intro h p _ hrank
    by_contra hoccurs
    rw [Bool.not_eq_false] at hoccurs
    exact Nat.not_lt_of_le hrank (h p ((hslot p).2 hoccurs))
  · intro h p hp
    by_contra hrank
    rw [Nat.not_lt] at hrank
    have hno := h p (Placeholder.mem_all p) hrank
    rw [(hslot p).1 hp] at hno
    cases hno

instance (kind : Placeholder) (text : Text) : Decidable (SlotsAfter kind text) :=
  decidable_of_iff' _ slotsAfter_iff_occurs

theorem TagForms.sound_iff {f : TagForms} :
    f.Sound ↔ Text.occurs numberToken f.amount = true ∧
      SlotsAfter .tag f.single ∧ SlotsAfter .tag f.plural ∧ SlotsAfter .tag f.amount := by
  rw [Text.occurs_iff]
  constructor
  · intro h
    exact ⟨h.numbered, h.single, h.plural, h.amount⟩
  · rintro ⟨hnumbered, hsingle, hplural, hamount⟩
    exact ⟨hnumbered, hsingle, hplural, hamount⟩

instance (f : TagForms) : Decidable f.Sound := decidable_of_iff' _ TagForms.sound_iff

instance (v : Value) (P : ValuePhrases → Prop) [DecidablePred P] :
    Decidable (∀ p, v.kind = .phrase p → P p) :=
  match h : v.kind with
  | .plainNumber => isTrue nofun
  | .phrase q => decidable_of_iff (P q) ⟨fun hq p hp => by cases hp; exact hq, fun hv => hv q rfl⟩

instance (v : Value) : Decidable v.Sound :=
  inferInstanceAs (Decidable (∀ p, v.kind = .phrase p →
    SlotsAfter .duration p.own ∧ SlotsAfter .duration p.opponent))

/-! ### The bundled tables -/

theorem Bundled.sound_naming : Bundled.naming.Sound where
  themes := by decide
  themeWords := by decide
  defaultTheme := by decide
  rarity r := by cases r <;> decide
  size s := by cases s <;> decide
  fast := by decide
  balanced := by decide
  heavy := by decide
  flavorWords := by decide
  frameNouns := by decide
  skillSpeed := by decide
  skillPower := by decide
  skillQuirky := by decide
  skillElemental := by decide
  skillActions := by decide

theorem Tables.sound_bundled : Tables.bundled.Sound where
  keywords := by decide
  tags := by decide
  effects := by decide
  values := by decide
  triggers := by decide
  tagForms := by decide +kernel
  valuePhrases := by decide +kernel
  naming := Bundled.sound_naming

/-- **The bundled tables are accepted.** -/
theorem Tables.check_bundled : Tables.bundled.check = .ok () :=
  Tables.check_eq_ok_iff.2 Tables.sound_bundled

end Cardwright

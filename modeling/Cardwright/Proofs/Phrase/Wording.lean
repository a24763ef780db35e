import Cardwright.Proofs.Phrase.Draw
import Cardwright.Proofs.Tables.Bundled
import Cardwright.Random.SeededStream

/-!
# The wording of a drawn tag

A form of a tag is put into a sentence as the tables have it, but for an amount, which has its
number put in.  So the place that is kept for a number is gone from every amount, and stands in
another form exactly if the tables have it there (`Tag.numberToken_infix_render_iff`).

The check of tables looks for that place in amount forms, and in them only.  A tag that is drawn
from accepted tables has therefore no place for a number left, unless it is a plural or a single
form that came with one (`Tables.always_drawTag_wording`).
-/

namespace Cardwright

/-- The words of a form as they stand in the tables. -/
def TagForms.words (f : TagForms) : TagForm → Text
  | .amount => f.amount
  | .plural => f.plural
  | .single => f.single

/-- A place for a number is left in a form that is no amount and has one in the tables. -/
theorem Tag.numberToken_infix_render_iff {tag : Tag} {side : Side} {form : TagForm} {count : Nat} :
    numberToken <:+: tag.render side form count ↔
      form ≠ .amount ∧ numberToken <:+: (tag.forms side).words form := by
  cases form with
  | amount =>
    have hgone := not_numberToken_infix_fillNumber count (tag.forms side).amount
    exact ⟨fun h => absurd h hgone, fun h => absurd rfl h.1⟩
  | plural => exact ⟨fun h => ⟨nofun, h⟩, fun h => h.2⟩
  | single => exact ⟨fun h => ⟨nofun, h⟩, fun h => h.2⟩

namespace Tables

/-- **A drawn tag keeps a place for a number only where the tables have one in another form than an
amount.**  From accepted tables a tag is always drawn, by choices within their ranges. -/
theorem always_drawTag_wording (σ : Type) [WordSource σ] {t : Tables} (h : t.check = .ok ()) :
    Draw.Always (fun d : DrawnTag => d.From t ∧
        (numberToken <:+: d.text ↔
          d.form ≠ .amount ∧ numberToken <:+: (d.tag.forms d.side).words d.form))
      (t.drawTag : Draw σ DrawnTag) := by
  refine (always_drawTag (check_eq_ok_iff.1 h)).mono fun d hd => ⟨hd, ?_⟩
  obtain ⟨count, -, htext⟩ := hd.rendered
  rw [htext]
  exact Tag.numberToken_infix_render_iff

/-- The bundled tables have a place for a number in their amount forms only, so it is left in no
tag that is drawn from them. -/
theorem always_drawTag_wording_bundled :
    Tables.bundled.check = .ok () ∧
    Draw.Always (fun d : DrawnTag => d.From .bundled ∧
        (numberToken <:+: d.text ↔
          d.form ≠ .amount ∧ numberToken <:+: (d.tag.forms d.side).words d.form) ∧
        ¬ numberToken <:+: d.text)
      (Tables.bundled.drawTag : Draw SeededStream DrawnTag) := by
  have hforms : ∀ tag ∈ Tables.bundled.tags, ∀ f ∈ [tag.own, tag.opponent],
      Text.occurs numberToken f.plural = false ∧ Text.occurs numberToken f.single = false := by
    decide +kernel
  have hfree : ∀ tag ∈ Tables.bundled.tags, ∀ side form, form ≠ .amount →
      ¬ numberToken <:+: (tag.forms side).words form := by
    intro tag htag side form hform
    have hside : tag.forms side ∈ [tag.own, tag.opponent] := by cases side <;> simp [Tag.forms]
    obtain ⟨hplural, hsingle⟩ := hforms tag htag _ hside
    rw [← Text.occurs_iff, Bool.not_eq_true]
    cases form with
    | amount => exact absurd rfl hform
    | plural => exact hplural
    | single => exact hsingle
  refine ⟨check_bundled, (always_drawTag_wording SeededStream check_bundled).mono ?_⟩
  rintro d ⟨hd, hiff⟩
  exact ⟨hd, hiff, fun h => hfree d.tag hd.mem d.side d.form (hiff.1 h).1 (hiff.1 h).2⟩

/-- Tables are accepted also with a place for a number in a single form, where none is put in. -/
theorem not_always_free_of_numbered_single :
    let ore : Tag :=
      ⟨"ORE", ⟨"\x7bNumber\x7d ore", "your ores", "\x7bNumber\x7d ores"⟩,
        ⟨"an ore", "your opponent's ores", "\x7bNumber\x7d ores"⟩⟩
    let t : Tables := { Tables.bundled with tags := [ore] }
    t.check = .ok () ∧
    ¬ Draw.Always (fun d : DrawnTag => ¬ numberToken <:+: d.text)
      (t.drawTag : Draw SeededStream DrawnTag) := by
  intro ore t
  have hforms : ∀ tag ∈ [ore], tag.own.Sound ∧ tag.opponent.Sound := by decide +kernel
  have hsound : t.Sound := { Tables.sound_bundled with
    tags := List.cons_ne_nil ore []
    tagForms := hforms }
  refine ⟨check_eq_ok_iff.2 hsound, fun h => ?_⟩
  have hsingle : (t.drawTag (SeededStream.ofSeed 6)).map (·.1.text) =
      some "\x7bNumber\x7d ore".toList := by
    decide +kernel
  obtain ⟨d, s, hs, hfree⟩ := h (SeededStream.ofSeed 6)
  rw [hs] at hsingle
  have htext : d.text = "\x7bNumber\x7d ore".toList := Option.some.inj hsingle
  rw [htext] at hfree
  exact hfree (Text.occurs_iff.1 (by decide))

end Tables

end Cardwright

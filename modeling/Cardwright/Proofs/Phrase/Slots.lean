import Cardwright.Proofs.Phrase.Draw
import Cardwright.Proofs.Phrase.Number
import Cardwright.Proofs.Tables.Bundled
import Cardwright.Random.SeededStream

/-!
# No slot stays open

The check of tables reads the phrases as they stand in the tables; what comes into a slot is made
from them by putting in a number or by putting a multiplier in front.  Neither opens a slot, so
whatever fills a slot brings slots of later kinds only (`Tables.CanFill.slotsAfter`).

Hence, whatever the sentence and whatever is drawn, no slot of a kind is open once the pass for that
kind is over, and none after the last pass (`Tables.resolved_after_passes`).
-/

namespace Cardwright

open Template

/-! ### Phrases -/

theorem slotsAfter_of_open_not_mem {text : Text} (h : '{' ∉ text) (kind : Placeholder) :
    SlotsAfter kind text := by
  have hread : parse text = consLiteral text [] := by
    simpa using parse_append_of_open_not_mem h []
  intro p hp
  rw [hread, placeholders_consLiteral] at hp
  cases hp

theorem SlotsAfter.mono {kind kind' : Placeholder} {text : Text} (h : SlotsAfter kind text)
    (hrank : kind'.rank ≤ kind.rank) : SlotsAfter kind' text := fun p hp =>
  Nat.lt_of_le_of_lt hrank (h p hp)

theorem SlotsAfter.append_left {kind : Placeholder} {a text : Text} (h : SlotsAfter kind text)
    (ha : '{' ∉ a) : SlotsAfter kind (a ++ text) := by
  rwa [SlotsAfter, parse_append_of_open_not_mem ha, placeholders_consLiteral]

/-- Putting a number in neither opens a slot nor closes one. -/
theorem placeholders_parse_fillNumber (count : Nat) (text : Text) :
    placeholders (parse (fillNumber count text)) = placeholders (parse text) := by
  -- The token of the number is no slot, and with its closing brace at the end it begins none.
  have hclosed : numberToken = '{' :: "Number".toList ++ ['}'] := by decide
  have hfree : placeholders (parse numberToken) = [] := by decide +kernel
  have hapart : ∀ t, Apart numberToken t := fun t => by
    rw [hclosed]
    exact apart_of_closes _ t
  obtain ⟨d, v, hdecimal, hd⟩ := exists_decimal_eq_cons count
  have hopen : '{' ∉ d :: v := hdecimal ▸ (Text.braceFree_decimal count).1
  rw [fillNumber, hdecimal]
  -- Digits are in no token, so they neither make one nor tell the parts of one apart.
  exact placeholders_parse_replaceAll hfree hapart hopen (not_mem_token_of_isDigit hd) text

/-- Putting a number in brings no slot. -/
theorem SlotsAfter.fillNumber {kind : Placeholder} {amount : Text} (h : SlotsAfter kind amount)
    (count : Nat) : SlotsAfter kind (fillNumber count amount) := by
  rwa [SlotsAfter, placeholders_parse_fillNumber]

/-- **Putting a number in keeps the slots of a phrase.**  Whatever the phrase and the number, the
same slots are read in the same order, and the check for slots that come too early says the same of
the phrase as it stands in the tables and of what is made from it. -/
theorem fillNumber_keeps_slots (count : Nat) (text : Text) :
    placeholders (parse (fillNumber count text)) = placeholders (parse text) ∧
      ∀ (table id : Text) (kind : Placeholder),
        Check.slotsAfter table id kind (fillNumber count text) =
          Check.slotsAfter table id kind text := by
  have hslots := placeholders_parse_fillNumber count text
  refine ⟨hslots, fun table id kind => ?_⟩
  unfold Check.slotsAfter
  rw [hslots]

/-- A token that is cut in two by the place for a number, and one right behind such a place. -/
example :
    placeholders (parse (fillNumber 12 "\x7bTa\x7bNumber\x7dg\x7d\x7bNumber\x7d\x7bTag\x7d")) =
      [.tag] := by
  decide +kernel

/-! ### What fills a slot -/

section Fills

variable {t : Tables}

theorem TagForms.Sound.slotsAfter_render {tag : Tag} {side : Side}
    (h : (tag.forms side).Sound) (form : TagForm) (count : Nat) :
    SlotsAfter .tag (tag.render side form count) := by
  cases form with
  | amount => exact h.amount.fillNumber count
  | plural => exact h.plural
  | single => exact h.single

/-- **What fills a slot brings slots of later kinds only.** -/
theorem Tables.CanFill.slotsAfter (h : t.Sound) {kind : Placeholder} {text : Text}
    (hfill : t.CanFill kind text) : SlotsAfter kind text := by
  rcases hfill.origin with hfree | ⟨rfl, tag, htag, side, form, count, rfl⟩ |
    ⟨hkind, v, hv, p, hp, m, side, rfl⟩
  · exact slotsAfter_of_open_not_mem hfree.1 kind
  · exact (Tag.forall_forms (h.tagForms tag htag) side).slotsAfter_render form count
  · -- The check holds value phrases to the slots behind a duration, for they fill those as well.
    have hphrase := ValuePhrases.forall_forSide (h.valuePhrases v hv p hp) side
    have hrank : kind.rank ≤ Placeholder.duration.rank := by
      rcases hkind with rfl | rfl <;> decide
    exact (hphrase.mono hrank).append_left (braceFree_lead m).1

end Fills

/-! ### The passes -/

/-- A segment that may stand in a template once a number of passes are over: a literal, or a slot
that is filled later. -/
def Segment.FilledFrom (n : Nat) (s : Segment) : Prop := ∀ p, s = .slot p → n ≤ p.rank

theorem hereditary_filledFrom (n : Nat) : Hereditary (Segment.FilledFrom n) :=
  ⟨fun _ _ _ _ => nofun, fun _ _ => nofun⟩

theorem Segment.FilledFrom.succ {k : Placeholder} {s : Segment} (h : s.FilledFrom k.rank)
    (hne : s ≠ .slot k) : s.FilledFrom (k.rank + 1) := by
  rintro p rfl
  have hle := h p rfl
  have hrank : k.rank ≠ p.rank := fun heq => hne (by rw [Placeholder.rank_injective heq])
  omega

theorem filledFrom_iff {n : Nat} {u : Template} :
    (∀ s ∈ u, s.FilledFrom n) ↔ ∀ p ∈ placeholders u, n ≤ p.rank := by
  constructor
  · intro h p hp
    exact h _ (mem_placeholders.1 hp) p rfl
  · rintro h s hs p rfl
    exact h p (mem_placeholders.2 hs)

theorem isResolved_of_filledFrom {u : Template}
    (h : ∀ p ∈ placeholders u, Placeholder.all.length ≤ p.rank) : isResolved u = true := by
  rw [isResolved, List.isEmpty_iff, List.eq_nil_iff_forall_not_mem]
  intro p hp
  have hle := h p hp
  cases p <;> exact absurd hle (by decide)

namespace Tables

section Passes

variable {σ : Type} [WordSource σ] {t : Tables}

/-- **The invariant of the passes.**  They succeed, and after each number of them the template is
merged and open only for the kinds still to come. -/
theorem always_fillAll (h : t.Sound) (sentence : Text) {n : Nat} (hn : n ≤ Placeholder.all.length) :
    Draw.Always (fun u => Merged u ∧ ∀ p ∈ placeholders u, n ≤ p.rank)
      (fillAll t.fill (Placeholder.all.take n) (parse sentence) : Draw σ Template) := by
  have hsucceeds : ∀ k flag, Draw.Succeeds (t.fill k flag : Draw σ Fill) := fun k flag =>
    (always_fill h k flag).succeeds
  have hbrings : ∀ k flag, Returns (fun f => ∀ s ∈ parse f.text, s.FilledFrom (k.rank + 1))
      (t.fill k flag : Draw σ Fill) := by
    intro k flag
    refine (always_fill h k flag).returns.mono fun f hf => ?_
    exact filledFrom_iff.2 fun p hp => hf.slotsAfter h p hp
  have hstart : ∀ s ∈ parse sentence, s.FilledFrom 0 := fun s _ p _ => Nat.zero_le _
  -- What is returned is merged and open for later kinds only; that something is returned is a
  -- matter of the draws alone.
  have hreturns := returns_fillAll hereditary_filledFrom (fun k s hs hne => hs.succ hne) hbrings
    (exact_parse sentence).toMerged hstart hn
  have hboth := (succeeds_fillAll hsucceeds (Placeholder.all.take n) (parse sentence)).and_returns
    hreturns
  exact hboth.mono fun u hu => ⟨hu.2.1, filledFrom_iff.1 hu.2.2⟩

/-- **No slot stays open.**  For tables that are accepted, any sentence and any source of words: the
passes succeed; after the pass for a kind the template has no empty and no adjacent literals, and
no slot of that kind or of an earlier one; and what resolving the sentence normalizes is the text of
a template without slots. -/
theorem resolved_after_passes (h : t.check = .ok ()) (sentence : Text) :
    (∀ k : Placeholder, Draw.Always (fun u => Merged u ∧ ∀ p ∈ placeholders u, k.rank < p.rank)
      (fillAll t.fill (Placeholder.all.take (k.rank + 1)) (parse sentence) : Draw σ Template)) ∧
    ∀ source : σ, ∃ u source',
      fillAll t.fill Placeholder.all (parse sentence) source = some (u, source') ∧
      isResolved u = true ∧
      t.resolve sentence source = some (Text.normalize (render u), source') := by
  have hsound := check_eq_ok_iff.1 h
  constructor
  · intro k
    exact always_fillAll hsound sentence (by cases k <;> decide)
  · intro source
    have hlast : Placeholder.all.take Placeholder.all.length = Placeholder.all := List.take_length
    obtain ⟨u, source', hrun, -, hlater⟩ :=
      always_fillAll hsound sentence (Nat.le_refl Placeholder.all.length) source
    rw [hlast] at hrun
    refine ⟨u, source', hrun, isResolved_of_filledFrom hlater, ?_⟩
    rw [resolve, resolveWith_eq_map]
    simp [Functor.map, StateT.map, hrun]

/-- For the bundled tables and a seeded stream, a sentence with slots of every kind, out of order
and beside stray braces, is resolved. -/
theorem resolved_after_passes_bundled :
    let sentence : Text :=
      "\x7bPercent\x7d\x7bTag\x7bTag\x7d\x7d as \x7bValue\x7d as \x7bTimes\x7d \x7bDuration\x7d"
    Tables.bundled.check = .ok () ∧
    (∀ k : Placeholder, Draw.Always (fun u => Merged u ∧ ∀ p ∈ placeholders u, k.rank < p.rank)
      (fillAll Tables.bundled.fill (Placeholder.all.take (k.rank + 1)) (parse sentence) :
        Draw SeededStream Template)) ∧
    ∀ source : SeededStream, ∃ u source',
      fillAll Tables.bundled.fill Placeholder.all (parse sentence) source = some (u, source') ∧
      isResolved u = true ∧
      Tables.bundled.resolve sentence source = some (Text.normalize (render u), source') :=
  ⟨check_bundled, resolved_after_passes check_bundled _⟩

end Passes

end Tables

end Cardwright

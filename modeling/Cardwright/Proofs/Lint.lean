import Cardwright.Lint
import Cardwright.Phrase.Form
import Cardwright.Proofs.Template.Braces

/-!
# What the linter says about braces

The linter warns of every literal with a brace in it, and its other warnings cannot be mistaken for
such a one: only a warning about text that will not be filled ends with a quotation.  So there is no
such warning exactly if, in every effect and in every phrase of a trigger, braces stand in the
tokens of slots only (`Lint.no_unfilled_iff`).
-/

namespace Cardwright

namespace Lint

open Text (BracedBy)

/-- A warning that some literal of an entry is text that will not be filled. -/
def Unfilled (w : Text) : Prop := ∃ table id l : Text,
  w = table ++ " '" ++ id ++ "' has text that will not be filled: " ++ Text.quote false l

theorem mem_strayLiterals {l text : Text} :
    l ∈ strayLiterals text ↔ .literal l ∈ Template.parse text ∧ ¬ Text.BraceFree l := by
  have hbrace : (l.contains '{' || l.contains '}') = true ↔ ¬ Text.BraceFree l := by
    rw [Bool.or_eq_true, List.contains_iff_mem, List.contains_iff_mem, Text.BraceFree]
    tauto
  rw [strayLiterals, List.mem_filterMap]
  constructor
  · rintro ⟨s, hs, hl⟩
    cases s with
    | slot p => cases hl
    | literal l' =>
      dsimp only at hl
      split at hl
      · next hstray =>
        cases hl
        exact ⟨hs, hbrace.1 hstray⟩
      · cases hl
  · rintro ⟨hs, hstray⟩
    exact ⟨.literal l, hs, if_pos (hbrace.2 hstray)⟩

theorem strayLiterals_eq_nil_iff {text : Text} :
    strayLiterals text = [] ↔ BracedBy Placeholder.tokens text := by
  rw [Template.bracedBy_iff_parse, List.eq_nil_iff_forall_not_mem]
  constructor
  · rintro h s hs l rfl
    by_contra hstray
    exact h l (mem_strayLiterals.2 ⟨hs, hstray⟩)
  · intro h l hl
    obtain ⟨hs, hstray⟩ := mem_strayLiterals.1 hl
    exact hstray (h _ hs l rfl)

theorem strayBraces_eq_nil_iff {table id text : Text} :
    strayBraces table id text = [] ↔ BracedBy Placeholder.tokens text := by
  rw [strayBraces, List.map_eq_nil_iff, strayLiterals_eq_nil_iff]

theorem unfilled_of_mem_strayBraces {table id text w : Text} (h : w ∈ strayBraces table id text) :
    Unfilled w := by
  obtain ⟨l, -, rfl⟩ := List.mem_map.1 h
  exact ⟨table, id, l, rfl⟩

theorem strayBraces_silent_iff {table id text : Text} :
    (∀ w ∈ strayBraces table id text, ¬ Unfilled w) ↔ BracedBy Placeholder.tokens text := by
  rw [← @strayBraces_eq_nil_iff table id text, List.eq_nil_iff_forall_not_mem]
  exact ⟨fun h w hw => h w hw (unfilled_of_mem_strayBraces hw), fun h w hw => absurd hw (h w)⟩

/-! ### The other warnings -/

/-- A warning about text that will not be filled ends with a quotation mark. -/
theorem Unfilled.getLast? {w : Text} (h : Unfilled w) : w.getLast? = some '"' := by
  obtain ⟨table, id, l, rfl⟩ := h
  rw [Text.quote, ← List.append_assoc, List.getLast?_concat]

theorem not_unfilled_append {a b : Text} {c : Char} (hb : b.getLast? = some c) (hc : c ≠ '"') :
    ¬ Unfilled (a ++ b) := by
  intro hw
  have hlast := hw.getLast?
  rw [List.getLast?_append, hb] at hlast
  exact hc (Option.some.inj hlast)

theorem not_unfilled_of_mem_idleThemes {t : Tables} {w : Text} (h : w ∈ idleThemes t) :
    ¬ Unfilled w := by
  obtain ⟨theme, -, rfl⟩ := List.mem_map.1 h
  have hlast :
      "' never matches an effect; only passives can select it".toList.getLast? = some 't' := by
    decide
  exact not_unfilled_append hlast (by decide)

theorem not_unfilled_of_mem_smallPool {p : NamedPool} {w : Text} (h : w ∈ smallPool p) :
    ¬ Unfilled w := by
  unfold smallPool at h
  split at h
  · obtain rfl := List.mem_singleton.1 h
    have hlast : " recommended)".toList.getLast? = some ')' := by decide
    exact not_unfilled_append hlast (by decide)
  · cases h

theorem not_unfilled_of_mem_keywordPhrases {m : Matcher} {p : NamedPool} {w : Text}
    (h : w ∈ keywordPhrases m p) : ¬ Unfilled w := by
  obtain ⟨phrase, -, hphrase⟩ := List.mem_filterMap.1 h
  obtain ⟨word, -, rfl⟩ := Option.map_eq_some_iff.1 hphrase
  have hlast : "'".toList.getLast? = some '\x27' := by decide
  exact not_unfilled_append hlast (by decide)

theorem not_unfilled_of_mem_pools {t : Tables} {m : Matcher} {w : Text}
    (h : w ∈ (pools t.naming).flatMap fun p => smallPool p ++ keywordPhrases m p) :
    ¬ Unfilled w := by
  obtain ⟨p, -, hp⟩ := List.mem_flatMap.1 h
  rcases List.mem_append.1 hp with hsmall | hkeyword
  · exact not_unfilled_of_mem_smallPool hsmall
  · exact not_unfilled_of_mem_keywordPhrases hkeyword

/-! ### The report -/

theorem forall_phrase_iff {g : Trigger} {P : Text → Prop} :
    (∀ text ∈ [g.own, g.opponent, g.ownFirstN, g.opponentFirstN], P text) ↔
      ∀ variant, P (g.phrase variant) := by
  simp only [List.forall_mem_cons]
  constructor
  · rintro ⟨hown, hopponent, hownFirst, hopponentFirst, -⟩ variant
    cases variant <;> assumption
  · intro h
    exact ⟨h .own, h .opponent, h .ownFirstN, h .opponentFirstN, by simp⟩

/-- **The linter finds every brace that will not be filled**, in effects and in triggers, and says
so of nothing else. -/
theorem no_unfilled_iff {t : Tables} {m : Matcher} :
    (∀ w ∈ (t.lint m).warnings, ¬ Unfilled w) ↔
      (∀ e ∈ t.effects, BracedBy Placeholder.tokens e.text) ∧
      ∀ g ∈ t.triggers, ∀ variant, BracedBy Placeholder.tokens (g.phrase variant) := by
  have heffects : (∀ w ∈ t.effects.flatMap (fun e => strayBraces "effect" e.id e.text),
      ¬ Unfilled w) ↔ ∀ e ∈ t.effects, BracedBy Placeholder.tokens e.text := by
    rw [List.forall_mem_flatMap]
    exact forall₂_congr fun e _ => strayBraces_silent_iff
  have htriggers : (∀ w ∈ t.triggers.flatMap (fun g =>
      [g.own, g.opponent, g.ownFirstN, g.opponentFirstN].flatMap (strayBraces "trigger" g.id)),
      ¬ Unfilled w) ↔
        ∀ g ∈ t.triggers, ∀ variant, BracedBy Placeholder.tokens (g.phrase variant) := by
    rw [List.forall_mem_flatMap]
    refine forall₂_congr fun g _ => ?_
    rw [List.forall_mem_flatMap, ← forall_phrase_iff]
    exact forall₂_congr fun text _ => strayBraces_silent_iff
  -- The other warnings are of another form, whatever the tables.
  simp only [Tables.lint, List.forall_mem_append]
  rw [heffects, htriggers]
  exact ⟨fun h => h.1.1, fun h => ⟨⟨h, fun w hw => not_unfilled_of_mem_idleThemes hw⟩,
    fun w hw => not_unfilled_of_mem_pools hw⟩⟩

end Lint

end Cardwright

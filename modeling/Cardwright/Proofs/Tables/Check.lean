import Cardwright.Tables.Check

/-!
# What the check of tables accepts

`Tables.check` runs its steps one after another and reports the first fault; it accepts a set of
tables exactly if that set is sound (`check_eq_ok_iff`): every table and every pool that is drawn
from has an entry, amount forms keep a place for their number, and the phrases that fill a slot have
only slots that are filled later.

The parts are `TagForms.Sound`, `Value.Sound` and `NamePools.Sound`, each with the step that checks
it.
-/

namespace Cardwright

/-- A phrase all of whose slots are filled after those of `kind`. -/
def SlotsAfter (kind : Placeholder) (text : Text) : Prop :=
  ∀ p ∈ (Template.parse text).placeholders, kind.rank < p.rank

/-! ### Sound tables -/

/-- Forms of a tag that can fill the slot of a tag. -/
structure TagForms.Sound (f : TagForms) : Prop where
  numbered : numberToken <:+: f.amount
  single : SlotsAfter .tag f.single
  plural : SlotsAfter .tag f.plural
  amount : SlotsAfter .tag f.amount

/-- A value whose phrases can fill the slot of a value or of a duration. -/
def Value.Sound (v : Value) : Prop :=
  ∀ p, v.kind = .phrase p → SlotsAfter .duration p.own ∧ SlotsAfter .duration p.opponent

/-- Word pools none of which is empty. -/
structure NamePools.Sound (n : NamePools) : Prop where
  themes : n.themes ≠ []
  themeWords : ∀ theme ∈ n.themes, theme.words ≠ []
  defaultTheme : n.defaultTheme ≠ []
  rarity : ∀ r, n.rarity r ≠ []
  size : ∀ s, n.size s ≠ []
  fast : n.speed.fast ≠ []
  balanced : n.speed.balanced ≠ []
  heavy : n.speed.heavy ≠ []
  flavorWords : n.flavorWords ≠ []
  frameNouns : n.frameNouns ≠ []
  skillSpeed : n.skill.speed ≠ []
  skillPower : n.skill.power ≠ []
  skillQuirky : n.skill.quirky ≠ []
  skillElemental : n.skill.elemental ≠ []
  skillActions : n.skill.actions ≠ []

/-- Tables that cards can be generated from. -/
structure Tables.Sound (t : Tables) : Prop where
  keywords : t.keywords ≠ []
  tags : t.tags ≠ []
  effects : t.effects ≠ []
  values : t.values ≠ []
  triggers : t.triggers ≠ []
  tagForms : ∀ tag ∈ t.tags, tag.own.Sound ∧ tag.opponent.Sound
  valuePhrases : ∀ v ∈ t.values, v.Sound
  naming : t.naming.Sound

namespace Check

/-! ### The steps -/

theorem bind_eq_ok_iff {a b : Check} : (a >>= fun _ => b) = .ok () ↔ a = .ok () ∧ b = .ok () := by
  cases a with
  | error fault => simp [Bind.bind, Except.bind]
  | ok u => simp [Bind.bind, Except.bind]

theorem table_eq_ok_iff {α : Type} {name : Text} {entries : List α} :
    table name entries = .ok () ↔ entries ≠ [] := by
  simp [table, require_eq_ok_iff]

theorem pool_eq_ok_iff {name : Text} {words : List Text} :
    pool name words = .ok () ↔ words ≠ [] := by
  simp [pool, require_eq_ok_iff]

theorem tier_eq_ok_iff {family label : Text} {words? : Option (List Text)} :
    tier family label words? = .ok () ↔ words?.getD [] ≠ [] := by
  cases words? with
  | none => simp [tier]
  | some words => simp [tier, pool_eq_ok_iff]

theorem forms_eq_ok_iff {id : Text} {f : TagForms} : forms id f = .ok () ↔ f.Sound := by
  simp only [forms, bind_eq_ok_iff, require_eq_ok_iff, Text.occurs_iff, forM_eq_ok_iff,
    slotsAfter_eq_ok_iff, List.forall_mem_cons]
  constructor
  · rintro ⟨hnumber, hsingle, hplural, hamount, -⟩
    exact ⟨hnumber, hsingle, hplural, hamount⟩
  · intro h
    exact ⟨h.numbered, h.single, h.plural, h.amount, by simp⟩

theorem tag_eq_ok_iff {t : Tag} : tag t = .ok () ↔ t.own.Sound ∧ t.opponent.Sound := by
  rw [tag, forM_eq_ok_iff]
  simp only [forms_eq_ok_iff, List.forall_mem_cons]
  exact ⟨fun h => ⟨h.1, h.2.1⟩, fun h => ⟨h.1, h.2, by simp⟩⟩

theorem value_eq_ok_iff {v : Value} : value v = .ok () ↔ v.Sound := by
  cases h : v.kind with
  | plainNumber => simp [value, Value.Sound, h]
  | phrase p =>
    have hstep : value v = [p.own, p.opponent].forM (slotsAfter "values" v.id .duration) := by
      rw [value, h]
    rw [hstep, forM_eq_ok_iff]
    simp only [slotsAfter_eq_ok_iff, List.forall_mem_cons]
    constructor
    · rintro ⟨hown, hopponent, -⟩ q hq
      cases h.symm.trans hq
      exact ⟨hown, hopponent⟩
    · intro hsound
      exact ⟨(hsound p h).1, (hsound p h).2, by simp⟩

theorem naming_eq_ok_iff {n : NamePools} : naming n = .ok () ↔ n.Sound := by
  simp only [naming, bind_eq_ok_iff, table_eq_ok_iff, forM_eq_ok_iff, pool_eq_ok_iff,
    tier_eq_ok_iff]
  constructor
  · rintro ⟨h₁, h₂, h₃, h₄, h₅, h₆, h₇, h₈, h₉, h₁₀, h₁₁, h₁₂, h₁₃, h₁₄, h₁₅⟩
    exact ⟨h₁, h₂, h₃, fun r => h₄ r (Rarity.mem_all r), fun s => h₅ s (Size.mem_all s), h₆, h₇,
      h₈, h₉, h₁₀, h₁₁, h₁₂, h₁₃, h₁₄, h₁₅⟩
  · intro h
    exact ⟨h.themes, h.themeWords, h.defaultTheme, fun r _ => h.rarity r, fun s _ => h.size s,
      h.fast, h.balanced, h.heavy, h.flavorWords, h.frameNouns, h.skillSpeed, h.skillPower,
      h.skillQuirky, h.skillElemental, h.skillActions⟩

end Check

/-- **The check accepts exactly the sound tables.** -/
theorem Tables.check_eq_ok_iff {t : Tables} : t.check = .ok () ↔ t.Sound := by
  simp only [Tables.check, Check.bind_eq_ok_iff, Check.table_eq_ok_iff, Check.forM_eq_ok_iff,
    Check.tag_eq_ok_iff, Check.value_eq_ok_iff, Check.naming_eq_ok_iff]
  constructor
  · rintro ⟨h₁, h₂, h₃, h₄, h₅, h₆, h₇, h₈⟩
    exact ⟨h₁, h₂, h₃, h₄, h₅, h₆, h₇, h₈⟩
  · intro h
    exact ⟨h.keywords, h.tags, h.effects, h.values, h.triggers, h.tagForms, h.valuePhrases,
      h.naming⟩

end Cardwright

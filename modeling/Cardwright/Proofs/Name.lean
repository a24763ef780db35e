import Cardwright.Name
import Cardwright.Proofs.Random.Outcome
import Cardwright.Proofs.Tables.Check
import Cardwright.Proofs.Text.Case

/-!
# What names are drawn from

Whatever the text, the cooldown, the size and the rarity, the pools that they select from sound ones
have a word (`NamePools.Sound.pools_ne_nil`, `NamePools.SkillPool.ne_nil`).  So a name is always
drawn (`NamePools.always_drawItemName`, `NamePools.always_drawSkillName`).

A word need not be visible, and blank words are dropped from a name.  `NamePools.Spelled` asks for
the words that a name can consist of, and names that are drawn from such words are visible
(`NamePools.Spelled.visible_itemName`, `NamePools.Spelled.visible_skillName`).  Whatever words they
are drawn from, normalizing leaves names alone (`NamePools.ItemName.normalize_eq`,
`NamePools.SkillName.normalize_eq`).
-/

namespace Cardwright.NamePools

open Draw

variable {p : NamePools} {text : Text} {cooldown : Binary32} {size : Size} {rarity : Rarity}

/-! ### Items -/

theorem Sound.themeWords_ne_nil (h : p.Sound) (text : Text) : p.themeWords text ≠ [] := by
  rw [NamePools.themeWords]
  split
  · next theme htheme => exact h.themeWords theme (List.mem_of_find?_eq_some htheme)
  · exact h.defaultTheme

theorem Sound.speedWords_ne_nil (h : p.Sound) (cooldown : Binary32) :
    p.speedWords cooldown ≠ [] := by
  rw [NamePools.speedWords]
  split
  · exact h.fast
  · exact h.balanced
  · exact h.heavy

/-- The pools that the words of an item's name are drawn from, in the order of drawing. -/
def itemPools (p : NamePools) (text : Text) (cooldown : Binary32) (size : Size)
    (rarity : Rarity) : List (List Text) :=
  [p.rarity rarity, p.themeWords text, p.size size, p.speedWords cooldown, p.flavorWords,
    p.frameNouns]

/-- No pool for an item is empty. -/
theorem Sound.pools_ne_nil (h : p.Sound) :
    ∀ pool ∈ p.itemPools text cooldown size rarity, pool ≠ [] := by
  simp only [itemPools, List.forall_mem_cons, List.not_mem_nil, false_imp_iff, implies_true,
    and_true]
  exact ⟨h.rarity rarity, h.themeWords_ne_nil text, h.size size, h.speedWords_ne_nil cooldown,
    h.flavorWords, h.frameNouns⟩

/-- Words for a name that are drawn from the pools of an item. -/
structure WordsFrom (p : NamePools) (text : Text) (cooldown : Binary32) (size : Size)
    (rarity : Rarity) (w : NameWords) : Prop where
  adjective : w.adjective ∈ p.rarity rarity
  noun : w.noun ∈ p.themeWords text
  sizeNoun : w.sizeNoun ∈ p.size size
  speed : w.speed ∈ p.speedWords cooldown
  flavor : w.flavor ∈ p.flavorWords
  frame : w.frame ∈ p.frameNouns

/-- The name of an item is a pattern with words drawn from its pools. -/
def ItemName (p : NamePools) (text : Text) (cooldown : Binary32) (size : Size) (rarity : Rarity)
    (name : Text) : Prop :=
  ∃ w, p.WordsFrom text cooldown size rarity w ∧ ∃ pattern, name = NameWords.assemble w pattern

section Draws

variable {σ : Type} [WordSource σ]

theorem always_drawWords (h : p.Sound) :
    Always (p.WordsFrom text cooldown size rarity)
      (p.drawWords text cooldown size rarity : Draw σ NameWords) := by
  rw [drawWords]
  refine (always_pick (h.rarity rarity)).bind fun adjective hadjective => ?_
  refine (always_pick (h.themeWords_ne_nil text)).bind fun noun hnoun => ?_
  refine (always_pick (h.size size)).bind fun sizeNoun hsizeNoun => ?_
  refine (always_pick (h.speedWords_ne_nil cooldown)).bind fun speed hspeed => ?_
  refine (always_pick h.flavorWords).bind fun flavor hflavor => ?_
  refine (always_pick h.frameNouns).bind fun frame hframe => ?_
  exact always_pure ⟨hadjective, hnoun, hsizeNoun, hspeed, hflavor, hframe⟩

theorem always_drawItemName (h : p.Sound) :
    Always (p.ItemName text cooldown size rarity)
      (p.drawItemName text cooldown size rarity : Draw σ Text) := by
  rw [drawItemName]
  refine (always_drawWords h).bind fun w hw => ?_
  have hpatterns : NamePattern.all ≠ [] := by decide
  exact (always_pick hpatterns).bind fun pattern _ => always_pure ⟨w, hw, pattern, rfl⟩

end Draws

/-! ### Skills -/

/-- A pool that the name of a skill with a certain text can be drawn from: that of the first group
with a member in the text, or any of four if there is none. -/
def SkillPool (p : NamePools) (text : Text) (pool : List Text) : Prop :=
  match (skillGroups p.skill).find? fun group =>
      group.1.any (Text.occurs · (Text.lowerAll text)) with
  | some group => pool = group.2
  | none => pool ∈ [p.skill.quirky, p.skill.actions, p.skill.speed, p.skill.power]

/-- All pools for skills. -/
def skillPools (p : NamePools) : List (List Text) :=
  [p.skill.speed, p.skill.power, p.skill.quirky, p.skill.elemental, p.skill.actions]

theorem SkillPool.mem {pool : List Text} (hpool : p.SkillPool text pool) : pool ∈ p.skillPools := by
  unfold SkillPool at hpool
  split at hpool
  · next group hgroup =>
    have hmem := List.mem_of_find?_eq_some hgroup
    simp only [skillGroups, List.mem_cons, List.not_mem_nil, or_false] at hmem
    rcases hmem with rfl | rfl | rfl <;> simp [skillPools, hpool]
  · simp only [List.mem_cons, List.not_mem_nil, or_false] at hpool
    rcases hpool with rfl | rfl | rfl | rfl <;> simp [skillPools]

/-- No pool for a skill is empty. -/
theorem SkillPool.ne_nil (h : p.Sound) {pool : List Text} (hpool : p.SkillPool text pool) :
    pool ≠ [] := by
  have hpools : ∀ pool ∈ p.skillPools, pool ≠ [] := by
    simp only [skillPools, List.forall_mem_cons, List.not_mem_nil, false_imp_iff, implies_true,
      and_true]
    exact ⟨h.skillSpeed, h.skillPower, h.skillQuirky, h.skillElemental, h.skillActions⟩
  exact hpools pool hpool.mem

/-- The name of a skill is one word of its pool, alone or with an action behind it. -/
def SkillName (p : NamePools) (text name : Text) : Prop :=
  ∃ pool word, p.SkillPool text pool ∧ word ∈ pool ∧
    (name = capitalizeWords word ∨
      ∃ action ∈ p.skill.actions, name = capitalizeWords (word ++ ' ' :: action))

section Draws

variable {σ : Type} [WordSource σ]

theorem always_drawSkillPool :
    Always (p.SkillPool text) (p.drawSkillPool text : Draw σ (List Text)) := by
  rw [drawSkillPool]
  cases hgroup : (skillGroups p.skill).find? fun group =>
      group.1.any (Text.occurs · (Text.lowerAll text)) with
  | some group =>
    have hpool : p.SkillPool text group.2 := by rw [SkillPool, hgroup]
    exact always_pure hpool
  | none =>
    refine (always_pick (List.cons_ne_nil _ _)).mono fun pool hpool => ?_
    rw [SkillPool, hgroup]
    exact hpool

theorem always_drawSkillName (h : p.Sound) :
    Always (p.SkillName text) (p.drawSkillName text : Draw σ Text) := by
  rw [drawSkillName]
  refine always_drawSkillPool.bind fun pool hpool => ?_
  refine (always_pick (hpool.ne_nil h)).bind fun word hword => ?_
  refine (succeeds_chance _).bind fun withAction => ?_
  split
  · refine (always_pick h.skillActions).bind fun action haction => ?_
    exact always_pure ⟨pool, word, hpool, hword, Or.inr ⟨action, haction, rfl⟩⟩
  · exact always_pure ⟨pool, word, hpool, hword, Or.inl rfl⟩

end Draws

/-! ### Visible names -/

/-- A name is visible if its noun is, and one of the two words that are put together without it. -/
theorem visible_assemble {w : NameWords} (hnoun : Text.Visible w.noun)
    (hpair : Text.Visible w.adjective ∨ Text.Visible w.sizeNoun) (pattern : NamePattern) :
    Text.Visible (w.assemble pattern) := by
  refine Text.Visible.normalize ?_
  cases pattern with
  | adjectiveNoun => exact hnoun.append_left _
  | speedNoun => exact hnoun.append_left _
  | adjectiveSizeNoun =>
    rcases hpair with hadjective | hsizeNoun
    · exact (hadjective.append_right _).append_right _
    · exact hsizeNoun.append_left _
  | nounOfSizeNoun => exact (hnoun.append_right _).append_right _
  | adjectiveNounOfSizeNoun => exact ((hnoun.append_left _).append_right _).append_right _
  | adjectiveNounOfFlavor => exact ((hnoun.append_left _).append_right _).append_right _
  | nounFrame => exact (hnoun.append_right _).append_right _
  | noun => exact hnoun

/-- The words of a name are words also once their first letters are raised. -/
theorem isWord_of_mem_capitalized {t : Text} :
    ∀ w ∈ (Text.words t).map Text.capitalize, Text.IsWord w := by
  intro w hw
  obtain ⟨v, hv, rfl⟩ := List.mem_map.1 hw
  exact Text.IsWord.capitalize (Text.ne_nil_of_mem_words hv)

theorem visible_capitalizeWords {t : Text} (h : Text.Visible t) :
    Text.Visible (capitalizeWords t) := by
  refine Text.visible_intercalate isWord_of_mem_capitalized ?_
  rw [ne_eq, List.map_eq_nil_iff]
  exact Text.visible_iff_words_ne_nil.1 h

/-- Pools whose words make the name of every item visible: the nouns are, and so are the words of
every rarity or else the nouns of every size. -/
structure SpelledItems (p : NamePools) : Prop where
  themeWords : ∀ theme ∈ p.themes, ∀ word ∈ theme.words, Text.Visible word
  defaultTheme : ∀ word ∈ p.defaultTheme, Text.Visible word
  tiers : (∀ r, ∀ word ∈ p.rarity r, Text.Visible word) ∨
    ∀ s, ∀ word ∈ p.size s, Text.Visible word

/-- Pools whose words make the name of every card of a kind visible. -/
def Spelled (p : NamePools) : Kind → Prop
  | .item => p.SpelledItems
  | .skill => ∀ pool ∈ p.skillPools, ∀ word ∈ pool, Text.Visible word

theorem SpelledItems.visible_noun (h : p.SpelledItems) {word : Text}
    (hword : word ∈ p.themeWords text) : Text.Visible word := by
  rw [NamePools.themeWords] at hword
  split at hword
  · next theme htheme => exact h.themeWords theme (List.mem_of_find?_eq_some htheme) word hword
  · exact h.defaultTheme word hword

theorem Spelled.visible_itemName (h : p.Spelled .item) {name : Text}
    (hname : p.ItemName text cooldown size rarity name) : Text.Visible name := by
  obtain ⟨w, hw, pattern, rfl⟩ := hname
  refine visible_assemble (SpelledItems.visible_noun h hw.noun) ?_ pattern
  rcases SpelledItems.tiers h with hrarity | hsize
  · exact .inl (hrarity rarity w.adjective hw.adjective)
  · exact .inr (hsize size w.sizeNoun hw.sizeNoun)

theorem Spelled.visible_skillName (h : p.Spelled .skill) {name : Text}
    (hname : p.SkillName text name) : Text.Visible name := by
  obtain ⟨pool, word, hpool, hword, hname⟩ := hname
  have hvisible : Text.Visible word := h pool hpool.mem word hword
  rcases hname with rfl | ⟨action, -, rfl⟩
  · exact visible_capitalizeWords hvisible
  · exact visible_capitalizeWords (hvisible.append_right _)

/-! ### Normal names -/

theorem normalize_capitalizeWords (t : Text) :
    Text.normalize (capitalizeWords t) = capitalizeWords t :=
  congrArg [' '].intercalate (Text.words_intercalate isWord_of_mem_capitalized)

/-- Normalizing leaves names of items alone. -/
theorem ItemName.normalize_eq {name : Text} (h : p.ItemName text cooldown size rarity name) :
    Text.normalize name = name := by
  obtain ⟨w, -, pattern, rfl⟩ := h
  exact Text.normalize_normalize (w.arrange pattern)

/-- Normalizing leaves names of skills alone. -/
theorem SkillName.normalize_eq {name : Text} (h : p.SkillName text name) :
    Text.normalize name = name := by
  obtain ⟨-, word, -, -, rfl | ⟨action, -, rfl⟩⟩ := h
  · exact normalize_capitalizeWords word
  · exact normalize_capitalizeWords (word ++ ' ' :: action)

end Cardwright.NamePools

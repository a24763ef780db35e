import Cardwright.Proofs.Engine.WellFormed
import Mathlib.Data.List.Forall2

/-!
# Names and the attributes of cards

A card is named by what it shows.  The words in the name of an item suit its text, its rarity, its
size and its cooldown (`NamePools.ItemWords`) and stand in one of eight patterns
(`NamePools.Arranged`).  The pool for the name of a skill suits its text (`NamePools.SkillWords`),
and the words of the name have their first letters raised (`NamePools.RaisesWords`).  The text is
the plain one that the description has between its marks (`Generator.Presents`): for an active skill
the effect, without the trigger in front of it and with its first letter as it was resolved.

Themes and groups of words may overlap, and then the first one counts, which is said here without
the search that finds it.  Every card that is generated is named in this way
(`Generator.always_named`).
-/

namespace Cardwright

open Draw

namespace NamePools

variable {p : NamePools} {text : Text}

/-! ### Words for items -/

/-- The nouns for a text, given in lower case: those of the first theme whose key occurs in it, and
the default ones if no key does. -/
inductive ThemeNoun (p : NamePools) (lowered noun : Text) : Prop
  | theme {before behind : List Theme} {theme : Theme}
      (hthemes : p.themes = before ++ theme :: behind)
      (hbefore : ∀ earlier ∈ before, ¬ earlier.key <:+: lowered)
      (hkey : theme.key <:+: lowered) (hnoun : noun ∈ theme.words)
  | default (hnone : ∀ theme ∈ p.themes, ¬ theme.key <:+: lowered)
      (hnoun : noun ∈ p.defaultTheme)

/-- The adjectives for a cooldown: below three seconds the fast ones, from three to ten seconds the
balanced ones, and the heavy ones above. -/
inductive SpeedWord (p : NamePools) (cooldown : Binary32) (word : Text) : Prop
  | fast {halves : Nat} (hcooldown : cooldown.IsHalves halves) (h : halves < 6)
      (hword : word ∈ p.speed.fast)
  | balanced {halves : Nat} (hcooldown : cooldown.IsHalves halves) (h : 6 ≤ halves ∧ halves ≤ 20)
      (hword : word ∈ p.speed.balanced)
  | heavy {halves : Nat} (hcooldown : cooldown.IsHalves halves) (h : 20 < halves)
      (hword : word ∈ p.speed.heavy)

/-- Words for an item that suit its text, given in lower case, and its statistics. -/
structure ItemWords (p : NamePools) (lowered : Text) (s : ItemStats) (w : NameWords) : Prop where
  adjective : ∃ pool, p.rarityWords.lookup s.rarity = some pool ∧ w.adjective ∈ pool
  noun : p.ThemeNoun lowered w.noun
  sizeNoun : ∃ pool, p.sizeNouns.lookup s.size = some pool ∧ w.sizeNoun ∈ pool
  speed : p.SpeedWord s.cooldown w.speed
  flavor : w.flavor ∈ p.flavorWords
  frame : w.frame ∈ p.frameNouns

theorem themeNoun_of_mem {noun : Text} (h : noun ∈ p.themeWords text) :
    p.ThemeNoun (Text.lowerAll text) noun := by
  rw [themeWords] at h
  split at h
  · next theme htheme =>
    obtain ⟨hkey, before, behind, hthemes, hbefore⟩ := List.find?_eq_some_iff_append.1 htheme
    refine .theme hthemes (fun earlier hmem hoccurs => ?_) (Text.occurs_iff.1 hkey) h
    simpa [Text.occurs_iff.2 hoccurs] using hbefore earlier hmem
  · next hnone =>
    refine .default (fun theme hmem hoccurs => ?_) h
    exact List.find?_eq_none.1 hnone theme hmem (Text.occurs_iff.2 hoccurs)

/-- A word of a pool that may be missing has a pool. -/
theorem exists_pool_of_mem {pool? : Option (List Text)} {word : Text}
    (h : word ∈ pool?.getD []) : ∃ pool, pool? = some pool ∧ word ∈ pool := by
  cases pool? with
  | none => cases h
  | some pool => exact ⟨pool, rfl, h⟩

theorem speedWord_of_mem {halves : Nat} (hhalves : halves ≤ 30) {word : Text}
    (h : word ∈ p.speedWords (.ofHalves halves)) : p.SpeedWord (.ofHalves halves) word := by
  have hcooldown := Binary32.isHalves_ofHalves hhalves
  have hthree : (Binary32.ofHalves halves).lt (.ofHalves 6) = decide (halves < 6) :=
    hcooldown.lt_eq (Binary32.isHalves_ofHalves (by decide))
  have hten : (Binary32.ofHalves 20).lt (.ofHalves halves) = decide (20 < halves) :=
    (Binary32.isHalves_ofHalves (by decide)).lt_eq hcooldown
  rw [speedWords, SpeedBucket.ofCooldown, hthree, hten] at h
  simp only [decide_eq_true_eq] at h
  by_cases hfast : halves < 6
  · rw [if_pos hfast] at h
    exact .fast hcooldown hfast h
  · rw [if_neg hfast] at h
    by_cases hheavy : 20 < halves
    · rw [if_pos hheavy] at h
      exact .heavy hcooldown hheavy h
    · rw [if_neg hheavy] at h
      exact .balanced hcooldown (by omega) h

theorem WordsFrom.itemWords {halves : Nat} (hhalves : halves ≤ 30) {size : Size} {rarity : Rarity}
    {multicast : UInt8} {w : NameWords} (h : p.WordsFrom text (.ofHalves halves) size rarity w) :
    p.ItemWords (Text.lowerAll text) ⟨.ofHalves halves, size, rarity, multicast⟩ w where
  adjective := exists_pool_of_mem h.adjective
  noun := themeNoun_of_mem h.noun
  sizeNoun := exists_pool_of_mem h.sizeNoun
  speed := speedWord_of_mem hhalves h.speed
  flavor := h.flavor
  frame := h.frame

/-! ### Words for skills -/

/-- One of some words occurs in a text. -/
def Mentions (words : List Text) (t : Text) : Prop := ∃ w ∈ words, w <:+: t

/-- What makes a skill elemental. -/
def elementalSigns : List Text := ["poison", "burn", "freeze"]

/-- What makes a skill quick. -/
def speedSigns : List Text := ["haste", "cooldown"]

/-- What makes a skill powerful. -/
def powerSigns : List Text := ["damage", "destroy"]

/-- The pools for the text of a skill, given in lower case: the elemental, the quick or the powerful
words, whichever the text has a sign of, in this order, and any of four pools if it has none. -/
inductive SkillWords (p : NamePools) (lowered : Text) : List Text → Prop
  | elemental (h : Mentions elementalSigns lowered) : SkillWords p lowered p.skill.elemental
  | speed (helemental : ¬ Mentions elementalSigns lowered) (h : Mentions speedSigns lowered) :
      SkillWords p lowered p.skill.speed
  | power (helemental : ¬ Mentions elementalSigns lowered) (hspeed : ¬ Mentions speedSigns lowered)
      (h : Mentions powerSigns lowered) : SkillWords p lowered p.skill.power
  | other {pool : List Text} (helemental : ¬ Mentions elementalSigns lowered)
      (hspeed : ¬ Mentions speedSigns lowered) (hpower : ¬ Mentions powerSigns lowered)
      (hpool : pool ∈ [p.skill.quirky, p.skill.actions, p.skill.speed, p.skill.power]) :
      SkillWords p lowered pool

theorem mentions_iff {words : List Text} {t : Text} :
    words.any (Text.occurs · t) = true ↔ Mentions words t := by
  simp only [List.any_eq_true, Text.occurs_iff, Mentions]

theorem SkillPool.skillWords {pool : List Text} (hpool : p.SkillPool text pool) :
    p.SkillWords (Text.lowerAll text) pool := by
  have hgroups : skillGroups p.skill = [(elementalSigns, p.skill.elemental),
    (speedSigns, p.skill.speed), (powerSigns, p.skill.power)] := rfl
  have hnone : ∀ {signs : List Text}, ¬ Mentions signs (Text.lowerAll text) →
      signs.any (Text.occurs · (Text.lowerAll text)) = false := fun hsigns =>
    Bool.eq_false_iff.2 (mentions_iff.not.2 hsigns)
  rw [SkillPool, hgroups] at hpool
  by_cases helemental : Mentions elementalSigns (Text.lowerAll text)
  · simp only [List.find?_cons, mentions_iff.2 helemental] at hpool
    exact hpool ▸ .elemental helemental
  by_cases hspeed : Mentions speedSigns (Text.lowerAll text)
  · simp only [List.find?_cons, hnone helemental, mentions_iff.2 hspeed] at hpool
    exact hpool ▸ .speed helemental hspeed
  by_cases hpower : Mentions powerSigns (Text.lowerAll text)
  · simp only [List.find?_cons, hnone helemental, hnone hspeed, mentions_iff.2 hpower] at hpool
    exact hpool ▸ .power helemental hspeed hpower
  simp only [List.find?_cons, hnone helemental, hnone hspeed, hnone hpower, List.find?_nil] at hpool
  exact .other helemental hspeed hpower hpool

/-! ### Names -/

/-- The eight patterns for the names of items, with a word in each place. -/
inductive Arranged (w : NameWords) : Text → Prop
  /-- Such as "Gilded Ember". -/
  | adjectiveNoun : Arranged w (w.adjective ++ " " ++ w.noun)
  /-- Such as "Swift Ember". -/
  | speedNoun : Arranged w (w.speed ++ " " ++ w.noun)
  /-- Such as "Gilded Trinket". -/
  | adjectiveSizeNoun : Arranged w (w.adjective ++ " " ++ w.sizeNoun)
  /-- Such as "Ember of Trinket". -/
  | nounOfSizeNoun : Arranged w (w.noun ++ " of " ++ w.sizeNoun)
  /-- Such as "Gilded Ember of Trinket". -/
  | adjectiveNounOfSizeNoun :
      Arranged w (w.adjective ++ " " ++ w.noun ++ " of " ++ w.sizeNoun)
  /-- Such as "Gilded Ember of Ashes". -/
  | adjectiveNounOfFlavor : Arranged w (w.adjective ++ " " ++ w.noun ++ " of " ++ w.flavor)
  /-- Such as "Ember Engine". -/
  | nounFrame : Arranged w (w.noun ++ " " ++ w.frame)
  /-- Such as "Ember". -/
  | noun : Arranged w w.noun

theorem arranged_arrange (w : NameWords) (pattern : NamePattern) :
    Arranged w (w.arrange pattern) := by
  cases pattern with
  | adjectiveNoun => exact .adjectiveNoun
  | speedNoun => exact .speedNoun
  | adjectiveSizeNoun => exact .adjectiveSizeNoun
  | nounOfSizeNoun => exact .nounOfSizeNoun
  | adjectiveNounOfSizeNoun => exact .adjectiveNounOfSizeNoun
  | adjectiveNounOfFlavor => exact .adjectiveNounOfFlavor
  | nounFrame => exact .nounFrame
  | noun => exact .noun

/-- A text, and its words with the first letter of each raised and a single space between them. -/
inductive RaisesWords : Text → Text → Prop
  | intro {t : Text} {ws raised : List Text} (hws : Text.HasWords t ws)
      (hraised : List.Forall₂ Text.RaisesFirst ws raised) :
      RaisesWords t ([' '].intercalate raised)

theorem raisesWords_capitalizeWords (t : Text) : RaisesWords t (capitalizeWords t) := by
  refine .intro (Text.hasWords_words t) ?_
  rw [List.forall₂_map_right_iff, List.forall₂_same]
  exact fun w _ => Text.raisesFirst_capitalize w

/-- The names that suit a text and the statistics of an item, or a text alone: a pattern with words
for the item and single spaces between them, or a word for the skill, with or without an action
behind it. -/
inductive NameFor (p : NamePools) (text : Text) : Option ItemStats → Text → Prop
  | item {s : ItemStats} {w : NameWords} {lowered arranged : Text} {ws : List Text}
      (hlowered : Text.Lowers text lowered) (hw : p.ItemWords lowered s w)
      (harranged : Arranged w arranged) (hws : Text.HasWords arranged ws) :
      NameFor p text (some s) ([' '].intercalate ws)
  | skill {pool : List Text} {lowered word name : Text} (hlowered : Text.Lowers text lowered)
      (hpool : p.SkillWords lowered pool) (hword : word ∈ pool) (hname : RaisesWords word name) :
      NameFor p text none name
  | skillAction {pool : List Text} {lowered word action name : Text}
      (hlowered : Text.Lowers text lowered) (hpool : p.SkillWords lowered pool)
      (hword : word ∈ pool) (haction : action ∈ p.skill.actions)
      (hname : RaisesWords (word ++ ' ' :: action) name) : NameFor p text none name

theorem ItemName.nameFor {halves : Nat} (hhalves : halves ≤ 30) {size : Size} {rarity : Rarity}
    {multicast : UInt8} {name : Text} (h : p.ItemName text (.ofHalves halves) size rarity name) :
    p.NameFor text (some ⟨.ofHalves halves, size, rarity, multicast⟩) name := by
  obtain ⟨w, hw, pattern, rfl⟩ := h
  exact .item (Text.lowers_iff.2 rfl) (hw.itemWords hhalves) (arranged_arrange w pattern)
    (Text.hasWords_words _)

theorem SkillName.nameFor {name : Text} (h : p.SkillName text name) : p.NameFor text none name := by
  have hlowered := Text.lowers_iff.2 (Eq.refl (Text.lowerAll text))
  obtain ⟨pool, word, hpool, hword, rfl | ⟨action, haction, rfl⟩⟩ := h
  · exact .skill hlowered hpool.skillWords hword (raisesWords_capitalizeWords word)
  · exact .skillAction hlowered hpool.skillWords hword haction (raisesWords_capitalizeWords _)

end NamePools

/-! ### Cards -/

namespace Generator

variable (σ : Type) [WordSource σ] (g : Generator)

/-- The descriptions of cards of each shape, with the plain text that such a card is named by. -/
inductive Presents : Shape → (text description : Text) → Prop
  | passive {kind : Kind} {statement raised : Text} (h : g.IsStatement σ statement)
      (hraised : Text.RaisesFirst statement raised) :
      Presents ⟨kind, .passive⟩ raised (g.matcher.highlight raised ++ ['.'])
  | activeItem {effect raised : Text} (h : g.IsEffect σ effect)
      (hraised : Text.RaisesFirst effect raised) :
      Presents ⟨.item, .active⟩ raised (g.matcher.highlight raised ++ ['.'])
  | activeSkill {trigger effect lowered : Text} (h : g.IsTrigger σ trigger)
      (h' : g.IsEffect σ effect) (hlowered : Text.LowersFirst effect lowered) :
      Presents ⟨.skill, .active⟩ effect
        (g.matcher.highlight trigger ++ ' ' :: g.matcher.highlight lowered ++ ['.'])

/-- A card of a shape has a name for its own text and, if it is an item, its own statistics. -/
structure Named (shape : Shape) (c : Card) : Prop where
  kind : c.kind = shape.kind
  activity : c.activity = shape.activity
  item_iff : c.item.isSome ↔ shape.kind = .item
  name : ∃ text, g.Presents σ shape text c.description ∧
    g.tables.naming.NameFor text c.item c.name

variable {σ g}

theorem Finished.named {shape : Shape} {c : Card} (h : g.Finished (.origin σ g) shape c) :
    g.Named σ shape c := by
  cases h with
  | passiveItem hplain hname =>
    obtain ⟨statement, hstatement, rfl⟩ := hplain
    have hpresents : g.Presents σ ⟨.item, .passive⟩ _ _ :=
      .passive hstatement (Text.raisesFirst_capitalize statement)
    exact ⟨rfl, rfl, by simp, _, hpresents, hname.nameFor (Nat.zero_le 30)⟩
  | passiveSkill hplain hname =>
    obtain ⟨statement, hstatement, rfl⟩ := hplain
    have hpresents : g.Presents σ ⟨.skill, .passive⟩ _ _ :=
      .passive hstatement (Text.raisesFirst_capitalize statement)
    exact ⟨rfl, rfl, by simp, _, hpresents, hname.nameFor⟩
  | activeItem hplain hhalves _ hname =>
    have hpresents := Presents.activeItem hplain (Text.raisesFirst_capitalize _)
    exact ⟨rfl, rfl, by simp, _, hpresents, hname.nameFor hhalves.2⟩
  | activeSkill hplain htrigger hname =>
    have hpresents := Presents.activeSkill htrigger hplain (Text.lowersFirst_uncapitalize _)
    exact ⟨rfl, rfl, by simp, _, hpresents, hname.nameFor⟩

/-- **Cards are named by their own attributes**, whatever is drawn, if the tables are accepted. -/
theorem always_named (σ : Type) [WordSource σ] {g : Generator} (h : g.tables.check = .ok ()) :
    (∀ shape, Always (g.Named σ shape) (g.generateShape shape : Draw σ Card)) ∧
    Always (fun c => ∃ shape, g.Named σ shape c) (g.generate : Draw σ Card) := by
  have hsound := Tables.check_eq_ok_iff.1 h
  have hcards : ∀ shape, Always (g.Named σ shape) (g.generateShape shape : Draw σ Card) :=
    fun shape => (always_generateShape_origin hsound shape).mono fun _ hcard => hcard.named
  exact ⟨hcards, always_generate_of fun shape => (hcards shape).mono fun _ hcard => ⟨shape, hcard⟩⟩

/-- Cards of the bundled tables. -/
theorem always_named_bundled :
    let g := Generator.ofTables .bundled
    Tables.bundled.check = .ok () ∧
    (∀ shape, Always (g.Named SeededStream shape)
      (g.generateShape shape : Draw SeededStream Card)) ∧
    Always (fun c => ∃ shape, g.Named SeededStream shape c)
      (g.generate : Draw SeededStream Card) :=
  ⟨Tables.check_bundled, always_named SeededStream Tables.check_bundled⟩

end Generator

end Cardwright

import Cardwright.Tables.Basic
import Cardwright.Template.Basic

/-!
# Checking tables

A generator accepts a set of tables in which every pool it can draw from has an entry, every amount
form has room for its number, and every phrase that fills a slot brings only slots that are filled
later. `Tables.check` reports the first fault in a fixed order.

Main statements: `Check.require_eq_ok_iff`, `Check.forM_eq_ok_iff` and `Check.slotsAfter_eq_ok_iff`
(each step accepts exactly what meets its condition).
-/

namespace Cardwright

/-- The token in an amount form that the number takes the place of. -/
def numberToken : Text := "\x7bNumber\x7d"

/-- Why a set of tables is refused. -/
inductive TableFault
  /-- A table without entries. -/
  | emptyTable (table : Text)
  /-- A word pool without words. -/
  | emptyPool (pool : Text)
  /-- A rarity or a size without a pool. -/
  | missingTier (tier : Text)
  /-- A phrase with a slot that is filled before the phrase arrives. -/
  | placeholderOrder (table id : Text) (found : Placeholder)
  /-- An amount form without a place for the number. -/
  | missingNumber (tag : Text)
deriving DecidableEq, Repr

/-- The report of a fault. -/
def TableFault.message : TableFault → Text
  | emptyTable table => "table '" ++ table ++ "' is empty"
  | emptyPool pool => "word pool '" ++ pool ++ "' is empty"
  | missingTier tier => "no word pool for tier '" ++ tier ++ "'"
  | placeholderOrder table id found =>
    table ++ " entry '" ++ id ++ "' contains " ++ found.token ++ ", which is resolved before it"
  | missingNumber tag => "tag '" ++ tag ++ "' has an amount form without " ++ numberToken

/-- The outcome of a check: acceptance, or the first fault. -/
abbrev Check := Except TableFault Unit

namespace Check

/-- Refuse what does not meet a condition. -/
def require (condition : Bool) (fault : TableFault) : Check :=
  if condition then .ok () else .error fault

theorem require_eq_ok_iff {condition : Bool} {fault : TableFault} :
    require condition fault = .ok () ↔ condition = true := by
  cases condition <;> simp [require]

/-- A list is accepted exactly if each member is. -/
theorem forM_eq_ok_iff {α : Type} {f : α → Check} {xs : List α} :
    xs.forM f = .ok () ↔ ∀ x ∈ xs, f x = .ok () := by
  induction xs with
  | nil => simp [pure, Except.pure]
  | cons x xs ih =>
    rw [List.forall_mem_cons, ← ih]
    cases h : f x <;> simp [List.forM, h, bind, Except.bind]

/-- Refuse a table without entries. -/
def table {α : Type} (name : Text) (entries : List α) : Check :=
  require (!entries.isEmpty) (.emptyTable name)

/-- Refuse a pool without words. -/
def pool (name : Text) (words : List Text) : Check := require (!words.isEmpty) (.emptyPool name)

/-- Refuse a tier without a pool of words. -/
def tier (family label : Text) (words? : Option (List Text)) : Check :=
  match words? with
  | none => .error (.missingTier label)
  | some words => pool (family ++ '.' :: label) words

/-- Refuse a phrase with a slot that is filled no later than `kind`. -/
def slotsAfter (table id : Text) (kind : Placeholder) (text : Text) : Check :=
  match (Template.parse text).placeholders.find? fun p => p.rank ≤ kind.rank with
  | some found => .error (.placeholderOrder table id found)
  | none => .ok ()

/-- A phrase is accepted exactly if its slots are all filled after `kind`. -/
theorem slotsAfter_eq_ok_iff {table id : Text} {kind : Placeholder} {text : Text} :
    slotsAfter table id kind text = .ok () ↔
      ∀ p ∈ (Template.parse text).placeholders, kind.rank < p.rank := by
  unfold slotsAfter
  split
  · next found h =>
    have := List.find?_some h
    simp only [reduceCtorEq, false_iff]
    have found_mem := List.mem_of_find?_eq_some h
    exact fun later => Nat.not_le_of_lt (later found found_mem) (by simpa using this)
  · next h => simpa using h

/-- Check the forms of a tag for one side. -/
def forms (id : Text) (f : TagForms) : Check := do
  require (Text.occurs numberToken f.amount) (.missingNumber id)
  [f.single, f.plural, f.amount].forM (slotsAfter "tags" id .tag)

/-- Check both sides of a tag. -/
def tag (t : Tag) : Check := [t.own, t.opponent].forM (forms t.id)

/-- Check the phrases of a value. They also stand in for durations, so they may bring only slots
that are filled after both. -/
def value (v : Value) : Check :=
  match v.kind with
  | .plainNumber => .ok ()
  | .phrase p => [p.own, p.opponent].forM (slotsAfter "values" v.id .duration)

/-- Check the word pools. -/
def naming (n : NamePools) : Check := do
  table "themes" n.themes
  n.themes.forM fun t => pool ("themes." ++ t.key) t.words
  pool "default_theme" n.defaultTheme
  Rarity.all.forM fun r => tier "rarity_prefixes" r.label (n.rarityWords.lookup r)
  Size.all.forM fun s => tier "size_nouns" s.label (n.sizeNouns.lookup s)
  pool "speed.fast" n.speed.fast
  pool "speed.balanced" n.speed.balanced
  pool "speed.heavy" n.speed.heavy
  pool "flavor_words" n.flavorWords
  pool "frame_nouns" n.frameNouns
  pool "skill.speed" n.skill.speed
  pool "skill.power" n.skill.power
  pool "skill.quirky" n.skill.quirky
  pool "skill.elemental" n.skill.elemental
  pool "skill.actions" n.skill.actions

end Check

/-- Check everything that generation relies on, and report the first fault. -/
def Tables.check (t : Tables) : Check := do
  Check.table "keywords" t.keywords
  Check.table "tags" t.tags
  Check.table "effects" t.effects
  Check.table "values" t.values
  Check.table "triggers" t.triggers
  t.tags.forM Check.tag
  t.values.forM Check.value
  Check.naming t.naming

end Cardwright

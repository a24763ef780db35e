import Cardwright.Tables.Basic

/-!
# Bundled tables: phrases

The keywords, tags, effects, values and triggers that come with the library. Most tags and triggers
follow one scheme, which `regularTag` and `occasion` spell out.
-/

namespace Cardwright.Bundled

/-! ### Schemes -/

/-- Some words as texts. -/
def texts (words : List String) : List Text := words.map String.toList

/-- A tag whose forms are regular: "an item", "your items", "3 items", and so on for an opponent. -/
def regularTag (id article one many : Text) : Tag :=
  { id := id
    own := ⟨article ++ " " ++ one, "your " ++ many, "\x7bNumber\x7d " ++ many⟩
    opponent := ⟨"an opponent's " ++ one, "your opponent's " ++ many,
      "\x7bNumber\x7d of your opponent's " ++ many⟩ }

/-- A trigger on what you, or your opponent, may do over and over again. -/
def occasion (id own opponent : Text) : Trigger :=
  { id := id
    own := "When " ++ own ++ ", "
    opponent := "When " ++ opponent ++ ", "
    ownFirstN := "The first \x7bTimes\x7d " ++ own ++ " each fight, "
    opponentFirstN := "The first \x7bTimes\x7d " ++ opponent ++ " each fight, " }

/-! ### Tables -/

/-- The words that are marked in finished text. -/
def keywords : List Text :=
  texts
    ["LIFESTEAL", "ENCHANTED", "PROPERTY", "PROPERTIES", "FRIEND", "AQUATIC", "REGEN", "HEAL",
     "SHIELD", "WEAPON", "SMALL", "MEDIUM", "LARGE", "FLYING", "FREEZE", "AMMO", "CORE", "DINOSAUR",
     "FOOD", "POISON", "BURN", "POTION", "QUEST", "RAY", "SLOW", "HASTE", "TECH", "TOOL", "TOY",
     "VEHICLE", "BRONZE", "SILVER", "GOLD", "LEGENDARY", "RELOAD", "CHARGE", "ENCHANT", "MULTICAST",
     "SIZE", "RARITY", "DESTROY", "DESTROYED", "HEALTH", "NEUTRAL", "COOLDOWN"]

/-- Keywords that are irregular plurals, each with its singular. -/
def irregularPlurals : List (Text × Text) := [("PROPERTIES", "PROPERTY")]

/-- The classes of items. -/
def tags : List Tag :=
  [regularTag "ANY" "an" "item" "items",
    regularTag "LIFESTEAL" "a" "Lifesteal item" "Lifesteal items",
    regularTag "ENCHANTED" "an" "Enchanted item" "Enchanted items",
    regularTag "PROPERTY" "a" "Property" "Properties",
    regularTag "FRIEND" "a" "Friend" "Friends",
    regularTag "AQUATIC" "an" "Aquatic item" "Aquatic items",
    regularTag "REGEN" "a" "Regen item" "Regen items",
    regularTag "HEAL" "a" "Heal item" "Heal items",
    regularTag "SHIELD" "a" "Shield item" "Shield items",
    regularTag "WEAPON" "a" "Weapon" "Weapons",
    regularTag "SMALL" "a" "Small item" "Small items",
    regularTag "MEDIUM" "a" "Medium item" "Medium items",
    regularTag "LARGE" "a" "Large item" "Large items",
    regularTag "FLYING" "a" "Flying item" "Flying items",
    regularTag "FREEZE" "a" "Freeze item" "Freeze items",
    regularTag "AMMO" "an" "Ammo item" "Ammo items",
    regularTag "CORE" "a" "Core" "Cores",
    regularTag "DINOSAUR" "a" "Dinosaur" "Dinosaurs",
    regularTag "FOOD" "a" "Food item" "Food items",
    regularTag "POISON" "a" "Poison item" "Poison items",
    regularTag "BURN" "a" "Burn item" "Burn items",
    regularTag "POTION" "a" "Potion" "Potions",
    regularTag "QUEST" "a" "Quest item" "Quest items",
    regularTag "RAY" "a" "Ray" "Rays",
    regularTag "SLOW" "a" "Slow item" "Slow items",
    regularTag "HASTE" "a" "Haste item" "Haste items",
    regularTag "TECH" "a" "Tech item" "Tech items",
    regularTag "TOOL" "a" "Tool" "Tools",
    regularTag "TOY" "a" "Toy" "Toys",
    regularTag "VEHICLE" "a" "Vehicle" "Vehicles",
    ⟨"OTHER_HERO",
      ⟨"an item from another Hero", "items from other Heroes",
        "\x7bNumber\x7d items from another Hero"⟩,
      ⟨"an opponent's item from another Hero", "opponent's items from another Hero",
        "\x7bNumber\x7d opponent's items from another Hero"⟩⟩,
    regularTag "NEUTRAL" "a" "Neutral item" "Neutral items",
    regularTag "BRONZE" "a" "Bronze item" "Bronze items",
    regularTag "SILVER" "a" "Silver item" "Silver items",
    regularTag "GOLD" "a" "Gold item" "Gold items",
    regularTag "LEGENDARY" "a" "Legendary item" "Legendary items"]

/-- What cards do. -/
def effects : List Effect :=
  [⟨"USE", "Use \x7bTag\x7d"⟩,
    ⟨"HASTE", "Haste \x7bTag\x7d for \x7bDuration\x7d"⟩,
    ⟨"SLOW", "Slow \x7bTag\x7d for \x7bDuration\x7d"⟩,
    ⟨"FREEZE", "Freeze \x7bTag\x7d for \x7bDuration\x7d"⟩,
    ⟨"CRIT", "\x7bTag\x7d gains Crit equal to \x7bValue\x7d for the fight"⟩,
    ⟨"START_FLY", "\x7bTag\x7d starts Flying"⟩,
    ⟨"STOP_FLY", "\x7bTag\x7d stops Flying"⟩,
    ⟨"START_STOP_FLY", "\x7bTag\x7d starts or stops Flying"⟩,
    ⟨"DESTROY", "Destroy \x7bTag\x7d"⟩,
    ⟨"CD_FLAT", "Reduce \x7bTag\x7d's Cooldown by \x7bDuration\x7d for the fight"⟩,
    ⟨"CD_PERC", "Reduce \x7bTag\x7d's Cooldown by \x7bPercent\x7d for the fight"⟩,
    ⟨"CD_FLAT_INC", "Increase \x7bTag\x7d's Cooldown by \x7bDuration\x7d for the fight"⟩,
    ⟨"CD_PERC_INC", "Increase \x7bTag\x7d's Cooldown by \x7bPercent\x7d for the fight"⟩,
    ⟨"BURN", "Burn equal to \x7bValue\x7d"⟩,
    ⟨"POISON", "Poison equal to \x7bValue\x7d"⟩,
    ⟨"HEAL", "Heal equal to \x7bValue\x7d"⟩,
    ⟨"SHIELD", "Shield equal to \x7bValue\x7d"⟩,
    ⟨"DAMAGE", "Deal \x7bValue\x7d as damage"⟩,
    ⟨"REGEN", "Gain \x7bValue\x7d as Regen"⟩,
    ⟨"ENCHANT", "Enchant \x7bTag\x7d"⟩,
    ⟨"RELOAD", "Reload \x7bTag\x7d ammo equal to \x7bValue\x7d"⟩,
    ⟨"CHARGE", "Charge \x7bTag\x7d equal to \x7bValue\x7d"⟩]

/-- What effects scale with. -/
def values : List Value :=
  [⟨"NUMBER", .plainNumber⟩,
    ⟨"DAMAGE", .phrase ⟨"the damage of your weapons", "the damage of your opponent's weapons",
      some "this item's damage", true⟩⟩,
    ⟨"VALUE", .phrase ⟨"the value of your items", "the value of your opponent's items",
      some "this item's value", true⟩⟩,
    ⟨"MAX_HP", .phrase ⟨"\x7bPercent\x7d of your max Health",
      "\x7bPercent\x7d of your opponent's max Health", none, false⟩⟩,
    ⟨"LEVEL", .phrase ⟨"your level", "your opponent's level", none, true⟩⟩,
    ⟨"REGEN", .phrase ⟨"your Regen", "your opponent's Regen", none, true⟩⟩,
    ⟨"SHIELD", .phrase ⟨"the Shield of your items", "the Shield of your opponent's items",
      some "this item's Shield", true⟩⟩,
    ⟨"POISON_ITEMS", .phrase ⟨"the Poison of your items", "the Poison of your opponent's items",
      some "this item's Poison", true⟩⟩,
    ⟨"POISON", .phrase ⟨"your Poison", "your opponent's Poison", none, true⟩⟩,
    ⟨"BURN_ITEMS", .phrase ⟨"the Burn of your items", "the Burn of your opponent's items",
      some "this item's Burn", true⟩⟩,
    ⟨"BURN", .phrase ⟨"your Burn", "your opponent's Burn", none, true⟩⟩,
    ⟨"HASTE", .phrase ⟨"the amount of Haste on your items",
      "the amount of Haste on your opponent's items", some "the amount of Haste on this items",
      true⟩⟩,
    ⟨"SLOW", .phrase ⟨"the amount of Slow on your items",
      "the amount of Slow on your opponent's items", some "the amount of Slow on this items",
      true⟩⟩,
    ⟨"NUMBER_ITEMS", .phrase ⟨"the number of items on your board",
      "the number of items on your opponent's board", none, true⟩⟩]

/-- The occasions on which skills act. -/
def triggers : List Trigger :=
  [occasion "FIRST_USE_TAG" "you use \x7bTag\x7d" "your opponent uses \x7bTag\x7d",
    ⟨"FIGHT_START", "At the start of each fight, ", "At the start of each fight, ",
      "At the start of each fight, ", "At the start of each fight, "⟩,
    ⟨"FIRST_ITEM_USE", "When you use an item, ", "When your opponent uses an item, ",
      "The first \x7bTimes\x7d you use items each fight, ",
      "The first \x7bTimes\x7d your opponent uses items each fight, "⟩,
    occasion "FIRST_FLY" "your items start flying" "your opponent's items start flying",
    occasion "FIRST_STOP_FLY" "your items stop flying" "your opponent's items stop flying",
    occasion "FIRST_FLY_OR_STOP_FLY" "your items start or stop flying"
      "your opponent's items start or stop flying",
    occasion "FIRST_CRIT" "you Crit" "your opponent Crits",
    occasion "FIRST_HASTE" "you Haste" "your opponent Hastes",
    occasion "FIRST_FREEZE" "you Freeze" "your opponent Freezes",
    occasion "FIRST_SLOW" "you Slow" "your opponent Slows",
    occasion "FIRST_POISON" "you Poison" "your opponent Poisons",
    occasion "FIRST_BURN" "you Burn" "your opponent Burns",
    occasion "FIRST_SHIELD" "you Shield" "your opponent Shields",
    occasion "FIRST_HEAL" "you Heal" "your opponent Heals",
    occasion "FIRST_REGEN" "you Regen" "your opponent Regens",
    occasion "FIRST_DESTROY" "you Destroy an item" "your opponent Destroys an item",
    occasion "FIRST_SELF_DESTROY" "your items are Destroyed" "your opponent's items are Destroyed",
    occasion "HALF_HEALTH" "you reach half health" "your opponent reaches half health",
    occasion "DEATH" "you would be defeated" "your opponent would be defeated",
    occasion "USE_AMMO" "you use ammo" "your opponent uses ammo",
    occasion "RUN_OUT_AMMO" "you run out of ammo" "your opponent runs out of ammo",
    occasion "CHARGE" "you Charge" "your opponent Charges"]

end Cardwright.Bundled

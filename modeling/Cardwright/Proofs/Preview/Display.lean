import Cardwright.Preview.Display
import Cardwright.Proofs.Engine.Generation
import Cardwright.Proofs.Number.Decimal
import Cardwright.Proofs.Text.Mapping
import Mathlib.Data.List.Forall2

/-!
# What is printed of a card

A finished card is printed as lines: shown in a few of them (`Card.ShownAs`), or dumped with all its
fields, the texts in quotes (`Card.DumpedAs`, `Text.Quoted`).  Both are spelled out here apart from
the functions that write them, with a cooldown given by its number of half seconds.

Every card that is finished is printed in this way (`Generator.Finished.prints`).
-/

namespace Cardwright

/-! ### Quoted text -/

namespace Text

/-- A character that can stand for itself: a printable one of ASCII, or one beyond that shows and
does not extend the character before it. -/
def Shows (c : Char) : Prop :=
  (0x20 ≤ c.toNat ∧ c.toNat < 0x7F) ∨
    (0x80 ≤ c.toNat ∧ ¬ InRanges VisibleTable.extending c ∧ ¬ InRanges VisibleTable.hidden c)

/-- The controls that have names. -/
def namedControls : List Char := ['\x00', '\t', '\r', '\n']

/-- The written form of a character in double quotes. -/
inductive WrittenAs : Char → Text → Prop
  | null : WrittenAs '\x00' "\\0"
  | tab : WrittenAs '\t' "\\t"
  | carriageReturn : WrittenAs '\r' "\\r"
  | lineBreak : WrittenAs '\n' "\\n"
  | backslash : WrittenAs '\\' "\\\\"
  | quote : WrittenAs '"' "\\\""
  | self {c : Char} (hplain : c ≠ '\\' ∧ c ≠ '"') (hshows : Shows c) : WrittenAs c [c]
  | code {c : Char} (hnamed : c ∉ namedControls) (hshows : ¬ Shows c) :
      WrittenAs c ("\\u\x7b".toList ++ Nat.toDigits 16 c.toNat ++ "\x7d".toList)

/-- A text, and the same in double quotes. -/
inductive Quoted : Text → Text → Prop
  | intro {t : Text} {written : List Text} (h : List.Forall₂ WrittenAs t written) :
      Quoted t ('"' :: written.flatten ++ ['"'])

theorem isVisible_iff {c : Char} : isVisible c = true ↔ Shows c := by
  unfold isVisible Shows
  split
  · next hascii =>
    simp only [Bool.and_eq_true, decide_eq_true_eq]
    omega
  · next hbeyond =>
    rw [Bool.and_eq_true, Bool.not_eq_true', Bool.not_eq_true', ← Bool.not_eq_true,
      ← Bool.not_eq_true, within_iff, within_iff]
    constructor
    · exact fun h => .inr ⟨Nat.not_lt.1 hbeyond, h⟩
    · rintro (h | h)
      · omega
      · exact h.2

theorem writtenAs_escapeChar (c : Char) : WrittenAs c (escapeChar false c) := by
  unfold escapeChar
  split_ifs with hnull htab hreturn hbreak hdelimiter hvisible
  · exact hnull ▸ .null
  · exact htab ▸ .tab
  · exact hreturn ▸ .carriageReturn
  · exact hbreak ▸ .lineBreak
  · rcases hdelimiter with rfl | rfl | ⟨-, h⟩
    · exact .backslash
    · exact .quote
    · cases h
  · exact .self (by tauto) (isVisible_iff.1 hvisible)
  · refine .code ?_ (mt isVisible_iff.2 hvisible)
    simp [namedControls, hnull, htab, hreturn, hbreak]

theorem quoted_quote (t : Text) : Quoted t (quote false t) := by
  rw [quote, List.flatMap_def]
  refine .intro ?_
  rw [List.forall₂_map_right_iff, List.forall₂_same]
  exact fun c _ => writtenAs_escapeChar c

end Text

/-! ### Words for attributes -/

def Activity.word : Activity → Text
  | active => "Active"
  | passive => "Passive"

def Size.word : Size → Text
  | small => "Small"
  | medium => "Medium"
  | large => "Large"

def Rarity.word : Rarity → Text
  | bronze => "Bronze"
  | silver => "Silver"
  | gold => "Gold"
  | legendary => "Legendary"

theorem Activity.label_eq (a : Activity) : a.label = a.word := by cases a <;> rfl

theorem Size.label_eq (s : Size) : s.label = s.word := by cases s <;> rfl

theorem Rarity.label_eq (r : Rarity) : r.label = r.word := by cases r <;> rfl

/-- A number of half seconds in seconds, with one decimal. -/
def seconds (halves : Nat) : Text :=
  Nat.toDigits 10 (halves / 2) ++ if halves % 2 = 0 then ".0".toList else ".5".toList

theorem seconds_eq (halves : Nat) :
    seconds halves = Text.decimal (halves / 2) ++ ['.', Binary32.halfDigit halves] := by
  rw [seconds, Binary32.halfDigit, Text.decimal]
  split <;> rfl

/-! ### Lines -/

namespace Card

/-- What a card of each kind and activity is called. -/
def title : Kind → Activity → Text
  | .item, .active => "Item"
  | .item, .passive => "Item (Passive)"
  | .skill, .active => "Skill"
  | .skill, .passive => "Skill (Passive)"

theorem heading_eq_title (c : Card) : c.heading = title c.kind c.activity := by
  unfold heading
  cases c.kind <;> cases c.activity <;> rfl

/-- The line about a multicast, if there is one. -/
def multicastLines (n : UInt8) : List Text :=
  if n = 0 then [] else ["  Multicast x".toList ++ Nat.toDigits 10 n.toNat]

/-- The lines that show a card.  Only active items have a cooldown to show. -/
inductive ShownAs : Card → List Text → Prop
  | skill {activity : Activity} {name description : Text} :
      ShownAs ⟨.skill, activity, name, description, none⟩
        [title .skill activity ++ ": " ++ name, "  " ++ description, []]
  | passiveItem {name description : Text} {s : ItemStats} (hmulticast : s.multicast = 0) :
      ShownAs ⟨.item, .passive, name, description, some s⟩
        [title .item .passive ++ ": " ++ name, "  Size: " ++ s.size.word,
          "  Rarity: " ++ s.rarity.word, "  " ++ description, []]
  | activeItem {name description : Text} {s : ItemStats} {halves : Nat}
      (hcooldown : s.cooldown.value = .finite false (halves * Binary32.unitsPerHalf)) :
      ShownAs ⟨.item, .active, name, description, some s⟩
        ([title .item .active ++ ": " ++ name, "  CD: " ++ seconds halves ++ "s",
          "  Size: " ++ s.size.word, "  Rarity: " ++ s.rarity.word] ++
          multicastLines s.multicast ++ ["  " ++ description, []])

/-- The lines at the head of a dump, with the texts in quotes. -/
def dumpHead (kind activity quotedName quotedDescription : Text) : List Text :=
  ["Descriptor \x7b", "    kind: " ++ kind ++ ",", "    activity: " ++ activity ++ ",",
    "    name: " ++ quotedName ++ ",", "    description: " ++ quotedDescription ++ ","]

/-- The lines about the statistics in a dump. -/
def dumpStats (s : ItemStats) (halves : Nat) : List Text :=
  ["    item: Some(",
    "        ItemStats \x7b",
    "            cooldown: " ++ seconds halves ++ ",",
    "            size: " ++ s.size.word ++ ",",
    "            rarity: " ++ s.rarity.word ++ ",",
    "            multicast: " ++ Nat.toDigits 10 s.multicast.toNat ++ ",",
    "        \x7d,",
    "    ),"]

/-- The lines of the dump of a card. -/
inductive DumpedAs : Card → List Text → Prop
  | skill {activity : Activity} {name description quotedName quotedDescription : Text}
      (hname : Text.Quoted name quotedName)
      (hdescription : Text.Quoted description quotedDescription) :
      DumpedAs ⟨.skill, activity, name, description, none⟩
        (dumpHead "Skill" activity.word quotedName quotedDescription ++
          ["    item: None,".toList, "\x7d".toList])
  | item {activity : Activity} {name description quotedName quotedDescription : Text}
      {s : ItemStats} {halves : Nat} (hname : Text.Quoted name quotedName)
      (hdescription : Text.Quoted description quotedDescription)
      (hcooldown : s.cooldown.value = .finite false (halves * Binary32.unitsPerHalf)) :
      DumpedAs ⟨.item, activity, name, description, some s⟩
        (dumpHead "Item" activity.word quotedName quotedDescription ++ dumpStats s halves ++
          ["\x7d".toList])

/-- A card is printed as a text: its lines with a line break behind each, shown or dumped. -/
inductive Prints : (dumps : Bool) → Card → Text → Prop
  | shown {c : Card} {lines : List Text} (h : ShownAs c lines) :
      Prints false c (lines.flatMap (· ++ ['\n']))
  | dumped {c : Card} {lines : List Text} (h : DumpedAs c lines) :
      Prints true c (lines.flatMap (· ++ ['\n']))

/-! ### Printing -/

/-- The head of a dump, field by field. -/
theorem flatMap_dumpHead (kind activity quotedName quotedDescription : Text) :
    (dumpHead kind activity quotedName quotedDescription).flatMap (· ++ ['\n']) =
      Console.line "Descriptor \x7b"
        ++ dumpField 1 "kind" kind
        ++ dumpField 1 "activity" activity
        ++ dumpField 1 "name" quotedName
        ++ dumpField 1 "description" quotedDescription := by
  simp [dumpHead, dumpField, Console.line]

variable {activity : Activity} {name description : Text} {s : ItemStats} {halves : Nat}

/-- The statistics in a dump, line by line. -/
theorem flatMap_dumpStats (h : halves ≤ 30) (hcooldown : s.cooldown = .ofHalves halves) :
    (dumpStats s halves).flatMap (· ++ ['\n']) =
      Console.line (List.replicate 4 ' ' ++ "item: Some(")
        ++ Console.line (List.replicate 8 ' ' ++ "ItemStats \x7b")
        ++ dumpField 3 "cooldown" s.cooldown.text
        ++ dumpField 3 "size" s.size.label
        ++ dumpField 3 "rarity" s.rarity.label
        ++ dumpField 3 "multicast" (Text.decimal s.multicast.toNat)
        ++ Console.line (List.replicate 8 ' ' ++ "\x7d,")
        ++ Console.line (List.replicate 4 ' ' ++ "),") := by
  simp [dumpStats, dumpField, Console.line, Size.label_eq, Rarity.label_eq, hcooldown,
    Binary32.text_ofHalves h, seconds_eq, Text.decimal]

theorem flatMap_multicastLines (n : UInt8) :
    (multicastLines n).flatMap (· ++ ['\n']) =
      if n = 0 then [] else Console.line ("  Multicast x" ++ Text.decimal n.toNat) := by
  unfold multicastLines
  split <;> simp [Console.line, Text.decimal]

theorem prints_skill (dumps : Bool) :
    Prints dumps ⟨.skill, activity, name, description, none⟩
      (Display.block dumps ⟨.skill, activity, name, description, none⟩) := by
  cases dumps with
  | false =>
    convert Prints.shown (@ShownAs.skill activity name description) using 1
    simp [Display.block, display, Console.line, heading_eq_title]
  | true =>
    have hlines : DumpedAs ⟨.skill, activity, name, description, none⟩ _ :=
      .skill (Text.quoted_quote name) (Text.quoted_quote description)
    convert Prints.dumped hlines using 1
    rw [List.flatMap_append, flatMap_dumpHead]
    simp [Display.block, dump, dumpField, Console.line, Kind.label, Activity.label_eq]

theorem prints_item_dump (h : halves ≤ 30) (hcooldown : s.cooldown = .ofHalves halves) :
    Prints true ⟨.item, activity, name, description, some s⟩
      (dump ⟨.item, activity, name, description, some s⟩) := by
  have hvalue := Binary32.value_ofHalves h
  rw [← hcooldown] at hvalue
  have hlines : DumpedAs ⟨.item, activity, name, description, some s⟩ _ :=
    .item (Text.quoted_quote name) (Text.quoted_quote description) hvalue
  convert Prints.dumped hlines using 1
  rw [List.flatMap_append, List.flatMap_append, flatMap_dumpHead, flatMap_dumpStats h hcooldown,
    ← activity.label_eq]
  simp only [dump, List.append_assoc, Nat.mul_one, Nat.reduceMul, List.flatMap_singleton]
  rfl

theorem prints_passiveItem (hcooldown : s.cooldown = .ofHalves 0) (hmulticast : s.multicast = 0)
    (dumps : Bool) :
    Prints dumps ⟨.item, .passive, name, description, some s⟩
      (Display.block dumps ⟨.item, .passive, name, description, some s⟩) := by
  cases dumps with
  | false =>
    convert Prints.shown (@ShownAs.passiveItem name description s hmulticast) using 1
    simp [Display.block, display, Console.line, heading_eq_title, isPassive, hmulticast,
      Size.label_eq, Rarity.label_eq]
  | true => exact prints_item_dump (Nat.zero_le 30) hcooldown

theorem prints_activeItem (h : halves ≤ 30) (hcooldown : s.cooldown = .ofHalves halves)
    (dumps : Bool) :
    Prints dumps ⟨.item, .active, name, description, some s⟩
      (Display.block dumps ⟨.item, .active, name, description, some s⟩) := by
  cases dumps with
  | false =>
    have hvalue := Binary32.value_ofHalves h
    rw [← hcooldown] at hvalue
    convert Prints.shown (@ShownAs.activeItem name description s halves hvalue) using 1
    have hseconds : s.cooldownLabel = seconds halves ++ "s" := by
      rw [ItemStats.cooldownLabel, hcooldown, Binary32.tenths_ofHalves h, seconds_eq]
      rfl
    rw [List.flatMap_append, List.flatMap_append, flatMap_multicastLines]
    simp [Display.block, display, Console.line, heading_eq_title, isPassive, hseconds,
      Size.label_eq, Rarity.label_eq]
  | true => exact prints_item_dump h hcooldown

end Card

/-- **A finished card is printed as it should be.** -/
theorem Generator.Finished.prints {g : Generator} {known : Known} {shape : Shape} {c : Card}
    (h : g.Finished known shape c) (dumps : Bool) : c.Prints dumps (Display.block dumps c) := by
  cases h with
  | passiveItem => exact Card.prints_passiveItem rfl rfl dumps
  | passiveSkill => exact Card.prints_skill dumps
  | activeItem _ hhalves => exact Card.prints_activeItem hhalves.2 rfl dumps
  | activeSkill => exact Card.prints_skill dumps

end Cardwright

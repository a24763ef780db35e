import Cardwright.Card
import Cardwright.Console

/-!
# Preview: displaying cards

A card is displayed as a short block of lines, or as a dump of all its fields.
-/

namespace Cardwright

open Console

namespace Card

/-- The lines of a card. A passive item has no cooldown to show. -/
def display (c : Card) : Text :=
  line (c.heading ++ ": " ++ c.name)
    ++ (match c.item with
      | none => []
      | some s =>
        (if c.isPassive then [] else line ("  CD: " ++ s.cooldownLabel))
          ++ line ("  Size: " ++ s.size.label)
          ++ line ("  Rarity: " ++ s.rarity.label)
          ++ (if s.multicast = 0 then []
            else line ("  Multicast x" ++ Text.decimal s.multicast.toNat)))
    ++ line ("  " ++ c.description)
    ++ line ""

/-- A field of a dump, some steps to the right. -/
def dumpField (steps : Nat) (name value : Text) : Text :=
  line (List.replicate (4 * steps) ' ' ++ name ++ ": " ++ value ++ ",")

/-- All fields of a card, one on each line. -/
def dump (c : Card) : Text :=
  let indent (steps : Nat) (t : Text) : Text := List.replicate (4 * steps) ' ' ++ t
  line "Descriptor \x7b"
    ++ dumpField 1 "kind" c.kind.label
    ++ dumpField 1 "activity" c.activity.label
    ++ dumpField 1 "name" (Text.quote false c.name)
    ++ dumpField 1 "description" (Text.quote false c.description)
    ++ (match c.item with
      | none => dumpField 1 "item" "None"
      | some s =>
        line (indent 1 "item: Some(")
          ++ line (indent 2 "ItemStats \x7b")
          ++ dumpField 3 "cooldown" s.cooldown.text
          ++ dumpField 3 "size" s.size.label
          ++ dumpField 3 "rarity" s.rarity.label
          ++ dumpField 3 "multicast" (Text.decimal s.multicast.toNat)
          ++ line (indent 2 "\x7d,")
          ++ line (indent 1 "),"))
    ++ line "\x7d"

end Card

/-- Where the preview displays its cards: the text written so far, and how cards are written. -/
structure Display where
  /-- Whether cards are dumped. -/
  dumps : Bool
  written : Text
deriving DecidableEq, Repr

/-- The text that a display writes for a card. -/
def Display.block (dumps : Bool) (c : Card) : Text := if dumps then c.dump else c.display

instance : CardSink Display :=
  ⟨fun card d => { d with written := d.written ++ Display.block d.dumps card }⟩

end Cardwright

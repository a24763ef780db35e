import Cardwright.Card.Record
import Cardwright.Proofs.Engine.Generation
import Cardwright.Proofs.Record.Reader

/-!
# Cards are read back

The text of a card in record notation is read as the same card (`Card.read?_render`), whatever
characters its name and its description hold, as long as the text of the cooldown is read back; and
that of a whole number of half seconds is.
-/

namespace Cardwright

open Record

/-! ### Texts -/

section Levels

variable (levels : Nat)

theorem takes_label {name : Text} (h : IsName name)
    (hword : name ∉ (["true", "false", "None", "inf", "NaN", "Some"] : List Text)) :
    Takes (value? false levels .anything) name (.symbol name) :=
  takes_value (fun _ => takes_symbol h hword) levels

/-- The text of statistics is taken off as their structure. -/
theorem ItemStats.takes_toNode {s : ItemStats} (h : s.cooldown.ReadsBack) :
    Takes (value? false (levels + 2) .anything) s.toNode.render s.toNode := by
  have hcooldown : Takes (value? false levels .anything) s.cooldown.text
      (.number s.cooldown.text) := by
    obtain ⟨negative, whole, places, hw, hp, htext⟩ := h.numeral
    rw [htext]
    exact takes_value (fun _ => takes_point hw hp negative) levels
  have hsize : Takes (value? false levels .anything) s.size.label (.symbol s.size.label) := by
    cases s.size <;> exact takes_label levels (by decide) (by decide)
  have hrarity : Takes (value? false levels .anything) s.rarity.label
      (.symbol s.rarity.label) := by
    cases s.rarity <;> exact takes_label levels (by decide) (by decide)
  have hmulticast : Takes (value? false levels .anything) (Text.decimal s.multicast.toNat)
      (.number (Text.decimal s.multicast.toNat)) := by
    have hsmall : s.multicast.toNat < UInt64.size := by
      have hbyte := s.multicast.toNat_lt
      rw [UInt64.size]
      omega
    exact takes_value (fun _ => takes_decimal hsmall) levels
  refine takes_fields rfl (by simp) ?_
  simp only [List.forall_mem_cons, List.not_mem_nil, false_imp_iff, implies_true, and_true]
  exact ⟨⟨by decide, hcooldown⟩, ⟨by decide, hsize⟩, ⟨by decide, hrarity⟩, by decide, hmulticast⟩

/-- The text of a card is taken off as its structure. -/
theorem Card.takes_toNode {c : Card} (h : ∀ s, c.item = some s → s.cooldown.ReadsBack) :
    Takes (value? false (levels + 5) Card.layout) c.toNode.render c.toNode := by
  obtain ⟨kind, activity, name, description, item⟩ := c
  have hkind : Takes (value? false (levels + 3) .anything) kind.label (.symbol kind.label) := by
    cases kind <;> exact takes_label _ (by decide) (by decide)
  have hactivity : Takes (value? false (levels + 3) .anything) activity.label
      (.symbol activity.label) := by
    cases activity <;> exact takes_label _ (by decide) (by decide)
  have hstring : ∀ t, Takes (value? false (levels + 3) .anything) (Text.quote true t)
      (.string t) := fun t => takes_value (fun _ => takes_string t) _
  have hcard : ∀ node : Node,
      Takes (value? false (levels + 3) (.optional .anything)) node.render node →
      Takes (value? false (levels + 5) Card.layout)
        (Node.render (.fields []
          [("kind", .symbol kind.label), ("activity", .symbol activity.label),
            ("name", .string name), ("description", .string description), ("item", node)]))
        (.fields [] [("kind", .symbol kind.label), ("activity", .symbol activity.label),
          ("name", .string name), ("description", .string description), ("item", node)]) := by
    intro node hnode
    refine takes_fields rfl (by simp) ?_
    simp only [List.forall_mem_cons, List.not_mem_nil, false_imp_iff, implies_true, and_true]
    exact ⟨⟨by decide, hkind⟩, ⟨by decide, hactivity⟩, ⟨by decide, hstring name⟩,
      ⟨by decide, hstring description⟩, by decide, hnode⟩
  -- The statistics stand one level below what may be absent.
  cases item with
  | none => exact hcard .absent takes_absent
  | some s => exact hcard (.present s.toNode) (takes_present (s.takes_toNode levels (h s rfl)))

end Levels

/-! ### Meanings -/

/-- The structure of statistics means them. -/
theorem ItemStats.ofNode?_toNode {s : ItemStats} (h : s.cooldown.ReadsBack) :
    ItemStats.ofNode? s.toNode = some s := by
  obtain ⟨cooldown, size, rarity, multicast⟩ := s
  have hcooldown : Binary32.ofText? cooldown.text = some cooldown := h.ofText?
  have hsize : Node.oneOf? Size.all Size.label (.symbol size.label) = some size := by
    cases size <;> rfl
  have hrarity : Node.oneOf? Rarity.all Rarity.label (.symbol rarity.label) = some rarity := by
    cases rarity <;> rfl
  have hmulticast := byteOfLexeme?_decimal multicast
  -- The names of the fields are known, so each one is found by evaluation.
  show (Binary32.ofText? cooldown.text).bind (fun cooldown =>
    (Node.oneOf? Size.all Size.label (.symbol size.label)).bind fun size =>
      (Node.oneOf? Rarity.all Rarity.label (.symbol rarity.label)).bind fun rarity =>
        (byteOfLexeme? (Text.decimal multicast.toNat)).bind fun multicast =>
          some (⟨cooldown, size, rarity, multicast⟩ : ItemStats)) = _
  rw [hcooldown, hsize, hrarity, hmulticast]
  rfl

/-- The structure of a card means it. -/
theorem Card.ofNode?_toNode {c : Card} (h : ∀ s, c.item = some s → s.cooldown.ReadsBack) :
    Card.ofNode? c.toNode = some c := by
  obtain ⟨kind, activity, name, description, item⟩ := c
  cases item with
  | none => cases kind <;> cases activity <;> rfl
  | some s =>
    have hstats := s.ofNode?_toNode (h s rfl)
    have hitem : Node.optional? ItemStats.ofNode? (.present s.toNode) = some (some s) := by
      rw [Node.optional?, hstats]
      rfl
    have hcard : Card.ofNode? (Card.toNode ⟨kind, activity, name, description, some s⟩) =
        (Node.optional? ItemStats.ofNode? (.present s.toNode)).bind fun item =>
          some ⟨kind, activity, name, description, item⟩ := by
      cases kind <;> cases activity <;> rfl
    rw [hcard, hitem]
    rfl

namespace Card

theorem read?_render {c : Card} (h : ∀ s, c.item = some s → s.cooldown.ReadsBack) :
    Card.read? c.render = some c := by
  have htakes := Card.takes_toNode 123 h
  have hhash : c.render.head? ≠ some '#' := by
    rw [show c.render.head? = some '(' from rfl]
    decide
  rw [read?, render, Node.read?_of_takes htakes hhash, Option.bind_some, ofNode?_toNode h]

/-- The cooldowns of finished cards are read back. -/
theorem readsBack_of_finished {g : Generator} {known : Generator.Known} {shape : Shape} {c : Card}
    (h : g.Finished known shape c) : ∀ s, c.item = some s → s.cooldown.ReadsBack := by
  cases h with
  | passiveItem =>
    rintro s ⟨⟩
    exact (Binary32.isHalves_ofHalves (Nat.zero_le 30)).readsBack (Nat.zero_le 30)
  | activeItem _ hhalves =>
    rintro s ⟨⟩
    exact (Binary32.isHalves_ofHalves hhalves.2).readsBack hhalves.2
  | passiveSkill => exact nofun
  | activeSkill => exact nofun

/-- **The text of a card is read as the same card**, whatever its name and its description are, if
its cooldown is a whole number of half seconds from none to fifteen seconds.  So it is for every
card that is generated from tables that are accepted. -/
theorem read_render (σ : Type) [WordSource σ] :
    (∀ c : Card, (∀ s, c.item = some s → ∃ halves ≤ 30, s.cooldown.IsHalves halves) →
      Card.read? c.render = some c) ∧
    ∀ g : Generator, g.tables.check = .ok () → ∀ shape,
      Draw.Always (fun c => Card.read? c.render = some c)
        (g.generateShape shape : Draw σ Card) := by
  constructor
  · intro c h
    refine read?_render fun s hs => ?_
    obtain ⟨halves, hsmall, hhalves⟩ := h s hs
    exact hhalves.readsBack hsmall
  · intro g h shape
    refine (Generator.always_generateShape_of_sound (Tables.check_eq_ok_iff.1 h) shape).mono ?_
    exact fun c hcard => read?_render (readsBack_of_finished hcard)

/-- A card with quotes, a backslash, a null character, a combining accent and an unassigned
character in its texts, and a cooldown of negative zero; and the cards of the bundled tables. -/
theorem read_render_escapes :
    let stats : ItemStats := ⟨.ofMagnitude true 0, .small, .gold, 255⟩
    let c : Card := ⟨.item, .passive, "\"\\\x00\x27", "e\u0301\u0378\n", some stats⟩
    (∃ halves ≤ 30, stats.cooldown.IsHalves halves) ∧ Card.read? c.render = some c ∧
    Tables.bundled.check = .ok () ∧
    ∀ shape, Draw.Always (fun c => Card.read? c.render = some c)
      ((Generator.ofTables .bundled).generateShape shape : Draw SeededStream Card) := by
  intro stats c
  have hhalves : ∃ halves ≤ 30, stats.cooldown.IsHalves halves :=
    ⟨0, by decide, true, by decide, fun _ => rfl⟩
  refine ⟨hhalves, (read_render SeededStream).1 c ?_, Tables.check_bundled,
    (read_render SeededStream).2 (.ofTables .bundled) Tables.check_bundled⟩
  rintro s ⟨⟩
  exact hhalves

end Card

end Cardwright

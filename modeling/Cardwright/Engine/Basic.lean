import Cardwright.Engine.Generator
import Cardwright.Random.SeededStream

/-!
# Engines

An engine makes a sequence of cards that its seed determines. Every card has a stream of its own,
that of the seed plus the card's number, so card `i` does not depend on how the cards before it were
asked for. Cards drawn from other sources leave the sequence alone.

Main statements: `generate_eq_some` (what one step does) and `count_of_generateMany`.
-/

namespace Cardwright

/-- A generator with its place in a seeded sequence of cards. -/
structure Engine where
  generator : Generator
  seed : UInt64
  /-- The number of cards made so far. -/
  count : Nat
deriving DecidableEq, Repr

/-- Something that finished cards are shown to. -/
class CardSink (τ : Type) where
  /-- Take in the next card. -/
  display : Card → τ → τ

instance : CardSink (Array Card) := ⟨fun card cards => cards.push card⟩

namespace Engine

/-- The engine at the beginning of the sequence of a seed. -/
def start (g : Generator) (seed : UInt64) : Engine := ⟨g, seed, 0⟩

/-- The card with a given number in the sequence of the engine's seed. -/
def cardAt (e : Engine) (number : Nat) : Option Card :=
  (e.generator.generate (SeededStream.ofSeed (e.seed + UInt64.ofNat number))).map (·.1)

/-- Make the next card of the sequence. -/
def generate (e : Engine) : Option (Card × Engine) :=
  (e.cardAt e.count).map fun card => (card, { e with count := e.count + 1 })

/-- Make the next card and show it to a sink. -/
def generateInto {τ : Type} [CardSink τ] (e : Engine) (sink : τ) : Option (τ × Engine) :=
  e.generate.map fun (card, e) => (CardSink.display card sink, e)

/-- Make the next `n` cards and show each of them to a sink. -/
def generateMany {τ : Type} [CardSink τ] : Nat → Engine → τ → Option (τ × Engine)
  | 0, e, sink => some (sink, e)
  | n + 1, e, sink => (e.generateInto sink).bind fun (sink, e) => generateMany n e sink

/-- Batches stay below this number of cards: room for a whole batch is taken before its first card
is made, a card takes `2 ^ 6` bytes, and at most `2 ^ 63 - 1` bytes can be taken at once. -/
def batchLimit : Nat := 1 <<< 57

/-- Make the next `n` cards, if there can be room for them. -/
def generateBatch (e : Engine) (n : Nat) : Option (Array Card × Engine) :=
  if n < batchLimit then generateMany n e #[] else none

/-- One step makes the card at the engine's place and moves on by one. -/
theorem generate_eq_some {e e' : Engine} {card : Card} :
    e.generate = some (card, e') ↔
      e.cardAt e.count = some card ∧ e' = { e with count := e.count + 1 } := by
  simp only [generate, Option.map_eq_some_iff, Prod.mk.injEq]
  constructor
  · rintro ⟨c, h, rfl, rfl⟩
    exact ⟨h, rfl⟩
  · rintro ⟨h, rfl⟩
    exact ⟨card, h, rfl, rfl⟩

/-- Showing a card to a sink moves on by one and changes nothing else. -/
theorem count_of_generateInto {τ : Type} [CardSink τ] {e e' : Engine} {sink sink' : τ}
    (h : e.generateInto sink = some (sink', e')) : e' = { e with count := e.count + 1 } := by
  obtain ⟨⟨card, e₁⟩, hstep, he⟩ := Option.map_eq_some_iff.1 h
  cases he
  exact (generate_eq_some.1 hstep).2

/-- Making `n` cards moves on by `n` and changes nothing else. -/
theorem count_of_generateMany {τ : Type} [CardSink τ] {n : Nat} {e e' : Engine} {sink sink' : τ}
    (h : generateMany n e sink = some (sink', e')) : e' = { e with count := e.count + n } := by
  induction n generalizing e sink with
  | zero => exact (Prod.mk.inj (Option.some.inj h)).2.symm
  | succ n ih =>
    obtain ⟨⟨mid, e₁⟩, hmid, hrest⟩ := Option.bind_eq_some_iff.1 h
    rw [ih hrest, count_of_generateInto hmid]
    simp only [Nat.add_assoc, Nat.add_comm 1 n]

end Engine

end Cardwright

import Cardwright.Proofs.Engine.Generation

/-!
# Runs of an engine

The cards of a seed are a deck: card `i` is the one that is generated from the stream of the seed
plus `i`, modulo `2 ^ 64` (`Engine.Deals`).  Whatever is called on an engine, one after the other,
it deals from its deck in order (`Engine.serves_of_build`): each of its own cards is the next one,
the count is the number of cards dealt so far, a batch is the next cards of the deck, a sink is
shown one card, and what is drawn from other streams leaves the place in the deck alone.

`Engine.perform_of_deals` is the step and `Engine.serves_of_deals` the run.
-/

namespace Cardwright.Engine

open Draw

variable {σ : Type} [WordSource σ]

/-! ### Calls -/

/-- A call of an engine: for the next cards of its own, or for what is drawn from a stream that the
caller brings along. -/
inductive Call (σ : Type) : Type 1
  | generate
  | generateInto {τ : Type} [CardSink τ] (sink : τ)
  | generateBatch (n : Nat)
  | generateWith (stream : σ)
  | generateShape (shape : Shape) (stream : σ)
  | drawTrigger (stream : σ)
  | drawPassive (stream : σ)

/-- The answer to a call, with the sink or the stream as it is left behind. -/
inductive Answer (σ : Type) : Type 1
  | card (card : Card)
  | sink {τ : Type} (sink : τ)
  | cards (cards : Array Card)
  | drawnCard (card : Card) (stream : σ)
  | drawnText (text : Text) (stream : σ)

/-- The number of its own cards that an engine makes for a call. -/
def Call.ownCards : Call σ → Nat
  | generate => 1
  | generateInto _ => 1
  | generateBatch n => n
  | generateWith _ | generateShape _ _ | drawTrigger _ | drawPassive _ => 0

/-- The number of its own cards that an engine makes for a sequence of calls. -/
def ownCards : List (Call σ) → Nat
  | [] => 0
  | c :: calls => c.ownCards + ownCards calls

/-- Carry out one call. -/
def perform (e : Engine) : Call σ → Option (Answer σ × Engine)
  | .generate => e.generate.map fun (card, e) => (.card card, e)
  | @Call.generateInto _ _ _ sink => (e.generateInto sink).map fun (sink, e) => (.sink sink, e)
  | .generateBatch n => (e.generateBatch n).map fun (cards, e) => (.cards cards, e)
  | .generateWith stream =>
    (e.generator.generate stream).map fun (card, stream) => (.drawnCard card stream, e)
  | .generateShape shape stream =>
    (e.generator.generateShape shape stream).map fun (card, stream) => (.drawnCard card stream, e)
  | .drawTrigger stream =>
    (e.generator.drawTrigger stream).map fun (text, stream) => (.drawnText text stream, e)
  | .drawPassive stream =>
    (e.generator.drawPassive stream).map fun (text, stream) => (.drawnText text stream, e)

/-- Carry out calls one after the other. -/
def performAll : List (Call σ) → Engine → Option (List (Answer σ) × Engine)
  | [], e => some ([], e)
  | c :: calls, e => (e.perform c).bind fun (answer, e) =>
    (performAll calls e).map fun (answers, e) => (answer :: answers, e)

/-! ### What is answered -/

/-- The right answer to a call when `k` cards of the deck are dealt. -/
inductive Answered (g : Generator) (deck : Nat → Card) (k : Nat) : Call σ → Answer σ → Prop
  | generate : Answered g deck k .generate (.card (deck k))
  | generateInto {τ : Type} [CardSink τ] {sink : τ} :
      Answered g deck k (.generateInto sink) (.sink (CardSink.display (deck k) sink))
  | generateBatch {n : Nat} :
      Answered g deck k (.generateBatch n) (.cards (Array.ofFn fun i : Fin n => deck (k + i)))
  | generateWith {stream stream' : σ} {card : Card}
      (h : g.generate stream = some (card, stream')) :
      Answered g deck k (.generateWith stream) (.drawnCard card stream')
  | generateShape {shape : Shape} {stream stream' : σ} {card : Card}
      (h : g.generateShape shape stream = some (card, stream')) :
      Answered g deck k (.generateShape shape stream) (.drawnCard card stream')
  | drawTrigger {stream stream' : σ} {text : Text}
      (h : g.drawTrigger stream = some (text, stream')) :
      Answered g deck k (.drawTrigger stream) (.drawnText text stream')
  | drawPassive {stream stream' : σ} {text : Text}
      (h : g.drawPassive stream = some (text, stream')) :
      Answered g deck k (.drawPassive stream) (.drawnText text stream')

/-- The right answers to a sequence of calls, the first of which comes when `k` cards of the deck
are dealt. -/
inductive AnsweredAll (g : Generator) (deck : Nat → Card) :
    Nat → List (Call σ) → List (Answer σ) → Prop
  | nil {k : Nat} : AnsweredAll g deck k [] []
  | cons {k : Nat} {c : Call σ} {calls : List (Call σ)} {answer : Answer σ}
      {answers : List (Answer σ)} (hanswer : Answered g deck k c answer)
      (hanswers : AnsweredAll g deck (k + c.ownCards) calls answers) :
      AnsweredAll g deck k (c :: calls) (answer :: answers)

/-- An engine answers calls from a deck, counts the cards that it deals and stays the same
otherwise. -/
def Serves (e : Engine) (deck : Nat → Card) (calls : List (Call σ)) : Prop :=
  ∃ answers, performAll calls e = some (answers, { e with count := e.count + ownCards calls }) ∧
    AnsweredAll e.generator deck e.count calls answers

/-! ### Decks -/

/-- The seed plus a number, modulo `2 ^ 64`. -/
def laterSeed (seed : UInt64) (k : Nat) : UInt64 := UInt64.ofNat ((seed.toNat + k) % UInt64.size)

/-- The cards of a seed: card `i` is generated from the stream of the seed plus `i`. -/
def Deals (g : Generator) (seed : UInt64) (deck : Nat → Card) : Prop :=
  ∀ i, ∃ stream, g.generate (SeededStream.ofSeed (laterSeed seed i)) = some (deck i, stream)

theorem laterSeed_laterSeed (seed : UInt64) (k i : Nat) :
    laterSeed (laterSeed seed k) i = laterSeed seed (k + i) := by
  rw [laterSeed, laterSeed, laterSeed, UInt64.toNat_ofNat', UInt64.size]
  congr 1
  omega

theorem add_ofNat_eq_laterSeed (seed : UInt64) (i : Nat) :
    seed + UInt64.ofNat i = laterSeed seed i := by
  apply UInt64.toNat_inj.1
  rw [laterSeed, UInt64.toNat_add, UInt64.toNat_ofNat', UInt64.toNat_ofNat', UInt64.size]
  omega

theorem exists_deals {g : Generator} (h : g.tables.Sound) (seed : UInt64) :
    ∃ deck, Deals g seed deck := by
  have hcard : ∀ i, ∃ card stream,
      g.generate (SeededStream.ofSeed (laterSeed seed i)) = some (card, stream) := by
    intro i
    obtain ⟨card, stream, hcard, -⟩ :=
      Generator.always_generate h (SeededStream.ofSeed (laterSeed seed i))
    exact ⟨card, stream, hcard⟩
  choose deck hdeck using hcard
  exact ⟨deck, hdeck⟩

/-- The deck of a later seed is the rest of the deck. -/
theorem Deals.later {g : Generator} {seed : UInt64} {deck : Nat → Card} (h : Deals g seed deck)
    (k : Nat) : Deals g (laterSeed seed k) fun i => deck (k + i) := by
  intro i
  rw [laterSeed_laterSeed]
  exact h (k + i)

section Steps

variable {e : Engine} {deck : Nat → Card}

theorem cardAt_of_deals (h : Deals e.generator e.seed deck) (i : Nat) :
    e.cardAt i = some (deck i) := by
  obtain ⟨stream, hcard⟩ := h i
  rw [cardAt, add_ofNat_eq_laterSeed, hcard]
  rfl

theorem generate_of_deals (h : Deals e.generator e.seed deck) :
    e.generate = some (deck e.count, { e with count := e.count + 1 }) :=
  generate_eq_some.2 ⟨cardAt_of_deals h e.count, rfl⟩

theorem generateInto_of_deals {τ : Type} [CardSink τ] (h : Deals e.generator e.seed deck)
    (sink : τ) : e.generateInto sink =
      some (CardSink.display (deck e.count) sink, { e with count := e.count + 1 }) := by
  rw [generateInto, generate_of_deals h]
  rfl

/-- Many cards are the next ones of the deck, in order. -/
theorem generateMany_of_deals (h : Deals e.generator e.seed deck) (n : Nat) (cards : Array Card) :
    generateMany n e cards = some (cards ++ Array.ofFn fun i : Fin n => deck (e.count + i),
      { e with count := e.count + n }) := by
  induction n generalizing e cards with
  | zero => simp [generateMany]
  | succ n ih =>
    have hrest := ih (e := { e with count := e.count + 1 }) h (cards.push (deck e.count))
    rw [generateMany, generateInto_of_deals h]
    show generateMany n { e with count := e.count + 1 } (cards.push (deck e.count)) = _
    have hcards :
        cards.push (deck e.count) ++ (Array.ofFn fun i : Fin n => deck (e.count + 1 + i)) =
          cards ++ Array.ofFn fun i : Fin (n + 1) => deck (e.count + i) := by
      apply Array.toList_inj.1
      simp [List.ofFn_succ, Nat.add_assoc, Nat.add_comm 1]
    rw [hrest, hcards, Nat.add_assoc, Nat.add_comm 1 n]

/-- **The step**: a call is carried out, with the right answer, and moves on by the cards that the
engine makes for it.  Only a batch can be too large. -/
theorem perform_of_deals (hsound : e.generator.tables.Sound) (h : Deals e.generator e.seed deck)
    (c : Call σ) (hroom : ∀ n, c = .generateBatch n → n < batchLimit) :
    ∃ answer, e.perform c = some (answer, { e with count := e.count + c.ownCards }) ∧
      Answered e.generator deck e.count c answer := by
  cases c with
  | generate => exact ⟨_, by rw [perform, generate_of_deals h]; rfl, .generate⟩
  | generateInto sink => exact ⟨_, by rw [perform, generateInto_of_deals h]; rfl, .generateInto⟩
  | generateBatch n =>
    refine ⟨_, ?_, .generateBatch⟩
    rw [perform, Engine.generateBatch, if_pos (hroom n rfl), generateMany_of_deals h]
    simp [Call.ownCards]
  | generateWith stream =>
    obtain ⟨card, stream', hcard, -⟩ := Generator.always_generate hsound stream
    exact ⟨_, by rw [perform, hcard]; rfl, .generateWith hcard⟩
  | generateShape shape stream =>
    obtain ⟨card, stream', hcard, -⟩ := Generator.always_generateShape_of_sound hsound shape stream
    exact ⟨_, by rw [perform, hcard]; rfl, .generateShape hcard⟩
  | drawTrigger stream =>
    obtain ⟨text, stream', htext, -⟩ := Generator.succeeds_drawTrigger hsound stream
    exact ⟨_, by rw [perform, htext]; rfl, .drawTrigger htext⟩
  | drawPassive stream =>
    obtain ⟨text, stream', htext, -⟩ := Generator.succeeds_drawPassive hsound stream
    exact ⟨_, by rw [perform, htext]; rfl, .drawPassive htext⟩

/-- **The run**: by induction on the calls, each of them starting where the one before it left the
deck. -/
theorem serves_of_deals (hsound : e.generator.tables.Sound) (h : Deals e.generator e.seed deck)
    (calls : List (Call σ)) (hroom : ∀ n, Call.generateBatch n ∈ calls → n < batchLimit) :
    e.Serves deck calls := by
  induction calls generalizing e with
  | nil => exact ⟨[], rfl, .nil⟩
  | cons c calls ih =>
    obtain ⟨answer, hstep, hanswer⟩ := perform_of_deals hsound h c fun n hn =>
      hroom n (hn ▸ List.mem_cons_self)
    obtain ⟨answers, hrun, hanswers⟩ := ih (e := { e with count := e.count + c.ownCards })
      hsound h fun n hn => hroom n (List.mem_cons_of_mem c hn)
    refine ⟨answer :: answers, ?_, .cons hanswer hanswers⟩
    rw [performAll, hstep]
    show (performAll calls { e with count := e.count + c.ownCards }).map _ = _
    rw [hrun]
    simp [ownCards, Nat.add_assoc]

theorem serves_of_start {g : Generator} {seed : UInt64} (hsound : g.tables.Sound)
    (h : Deals g seed deck) (calls : List (Call σ))
    (hroom : ∀ n, Call.generateBatch n ∈ calls → n < batchLimit) :
    (start g seed).Serves deck calls :=
  serves_of_deals (e := start g seed) hsound h calls hroom

end Steps

/-! ### Batches -/

/-- Showing `a + b` cards is showing `a` and then `b` cards. -/
theorem generateMany_add {τ : Type} [CardSink τ] (a b : Nat) (e : Engine) (sink : τ) :
    generateMany (a + b) e sink =
      (generateMany a e sink).bind fun (sink, e) => generateMany b e sink := by
  induction a generalizing e sink with
  | zero => rw [Nat.zero_add]; rfl
  | succ a ih =>
    have hstep : a + 1 + b = a + b + 1 := by omega
    rw [hstep, generateMany, generateMany, Option.bind_assoc]
    simp only [ih]

/-- Cards that are made into an array are put behind what is in it. -/
theorem generateMany_append (n : Nat) (e : Engine) (before cards : Array Card) :
    generateMany n e (before ++ cards) =
      (generateMany n e cards).map fun (cards, e) => (before ++ cards, e) := by
  induction n generalizing e cards with
  | zero => rfl
  | succ n ih =>
    rw [generateMany, generateMany, generateInto, generateInto]
    cases e.generate with
    | none => rfl
    | some next =>
      obtain ⟨card, e'⟩ := next
      show generateMany n e' ((before ++ cards).push card) = _
      rw [← Array.append_push]
      exact ih e' (cards.push card)

/-- **Batches add up.** -/
theorem generateBatch_add (e : Engine) {a b : Nat} (hroom : a + b < batchLimit) :
    ((e.generateBatch a).bind fun (first, e) =>
      (e.generateBatch b).map fun (second, e) => (first ++ second, e)) =
      e.generateBatch (a + b) := by
  have ha : a < batchLimit := by omega
  have hb : b < batchLimit := by omega
  have hsecond : ∀ (first : Array Card) (e : Engine),
      ((e.generateBatch b).map fun (second, e) => (first ++ second, e)) =
        generateMany b e first := by
    intro first e
    rw [generateBatch, if_pos hb, ← generateMany_append, Array.append_empty]
  simp only [hsecond]
  rw [generateBatch, generateBatch, if_pos ha, if_pos hroom, generateMany_add]

/-! ### Engines that are set up -/

/-- **An engine deals from its deck in order.**  Any engine that is set up with a seed has a deck,
whose card `i` is generated from the stream of the seed plus `i`.  Any sequence of calls is
answered from it as long as no batch is too large to have room; an engine with the seed `k` later
answers from the rest of the deck behind the first `k` cards; and a batch of `a` cards with one of
`b` cards behind it is a batch of `a + b` cards. -/
theorem serves_of_build {files : Text → FileState} {s : Setup} {e : Engine}
    (h : s.build files = .ok e) :
    ∃ deck, Deals e.generator s.seed deck ∧ e.count = 0 ∧
      (∀ calls : List (Call σ), (∀ n, Call.generateBatch n ∈ calls → n < batchLimit) →
        e.Serves deck calls) ∧
      (∀ k, ∃ e', Setup.build files { s with seed := laterSeed s.seed k } = .ok e' ∧
        e'.generator = e.generator ∧ e'.count = 0 ∧
        ∀ calls : List (Call σ), (∀ n, Call.generateBatch n ∈ calls → n < batchLimit) →
          e'.Serves (fun i => deck (k + i)) calls) ∧
      ∀ (e₁ : Engine) (a b : Nat), a + b < batchLimit →
        ((e₁.generateBatch a).bind fun (first, e₂) =>
          (e₂.generateBatch b).map fun (second, e₃) => (first ++ second, e₃)) =
          e₁.generateBatch (a + b) := by
  have hchecked := Setup.checked_of_build h
  obtain ⟨t, htables, rfl⟩ := Setup.build_eq_ok_iff.1 h
  have hsound : t.Sound := Tables.check_eq_ok_iff.1 hchecked
  obtain ⟨deck, hdeck⟩ : ∃ deck, Deals (.ofTables t) s.seed deck := exists_deals hsound s.seed
  refine ⟨deck, hdeck, rfl, serves_of_start hsound hdeck, fun k => ?_, fun e₁ a b hroom => ?_⟩
  · refine ⟨.start (.ofTables t) (laterSeed s.seed k), ?_, rfl, rfl, ?_⟩
    · exact Setup.build_eq_ok_iff.2 ⟨t, htables, rfl⟩
    · exact serves_of_start hsound (hdeck.later k)
  · exact generateBatch_add e₁ hroom

/-- An engine with the last of all seeds, the sequence of which goes on with that of zero: cards of
its own one by one, into a sink and in a batch, with a draw from another stream between them. -/
theorem serves_of_build_bundled :
    let e := Engine.start (.ofTables .bundled) 18446744073709551615
    let calls : List (Call SeededStream) :=
      [.generate, .generateInto (#[] : Array Card), .drawTrigger (.ofSeed 9), .generateBatch 2]
    Setup.build (fun _ => .missing) { seed := 18446744073709551615 } = .ok e ∧
    ∃ deck, Deals e.generator 18446744073709551615 deck ∧ e.Serves deck calls ∧
      (∃ e', Setup.build (fun _ => .missing) { seed := laterSeed 18446744073709551615 3 } = .ok e' ∧
        e'.Serves (fun i => deck (3 + i)) calls) ∧
      ((e.generateBatch 2).bind fun (first, e₂) =>
        (e₂.generateBatch 3).map fun (second, e₃) => (first ++ second, e₃)) =
        e.generateBatch 5 := by
  intro e calls
  have hbuild : Setup.build (fun _ => .missing) { seed := 18446744073709551615 } = .ok e :=
    Setup.build_bundled _
  have hroom : ∀ n, Call.generateBatch n ∈ calls → n < batchLimit := by
    intro n hn
    simp only [calls, List.mem_cons, List.not_mem_nil, reduceCtorEq, false_or, or_false,
      Call.generateBatch.injEq] at hn
    subst hn
    decide
  obtain ⟨deck, hdeck, -, hcalls, hlater, hbatch⟩ := serves_of_build (σ := SeededStream) hbuild
  refine ⟨hbuild, deck, hdeck, hcalls calls hroom, ?_, hbatch e 2 3 (by decide)⟩
  obtain ⟨e', hbuild', -, -, hcalls'⟩ := hlater 3
  exact ⟨e', hbuild', hcalls' calls hroom⟩

/-- A batch that there is no room for is not answered, though it is of fewer than `2 ^ 64` cards. -/
theorem not_serves_of_no_room :
    let e := Engine.start (.ofTables .bundled) 3
    Setup.build (fun _ => .missing) { seed := 3 } = .ok e ∧
    ¬ ∃ deck, Deals e.generator 3 deck ∧
      ∀ calls : List (Call SeededStream), ownCards calls < UInt64.size → e.Serves deck calls := by
  intro e
  refine ⟨Setup.build_bundled 3, ?_⟩
  rintro ⟨deck, -, hcalls⟩
  obtain ⟨answers, hrun, -⟩ := hcalls [.generateBatch batchLimit] (by decide)
  have hbatch : e.generateBatch batchLimit = none := if_neg (Nat.lt_irrefl batchLimit)
  rw [performAll, perform, hbatch] at hrun
  cases hrun

end Cardwright.Engine

import Cardwright.Preview.Options
import Cardwright.Proofs.Engine.Run
import Cardwright.Proofs.Preview.Input
import Cardwright.Proofs.Preview.Statistics

/-!
# The shell as a state machine

All that an answer of the shell depends on, besides the tables, is the seed and the number of cards
made since it was set (`Position`).  `Answers` says what each command prints and where it leads: the
card at the position, the statistics of the next cards, or a new seed at its first card; other lines
change nothing.  A `Session` is a sequence of such answers up to a command that stops the shell or
the end of the input.

Whatever is typed, the shell goes through such a session (`Shell.session_of_at`, with the step
`Shell.step_of_at`), and as many lines with `next` show the same cards as the preview without a
shell (`Preview.session_of_open`).
-/

namespace Cardwright

open Console Engine

/-! ### The machine -/

/-- The place of a shell in its sequences of cards: the seed, and the number of cards made since it
was set. -/
structure Position where
  seed : UInt64
  made : Nat

section Machine

variable (deal : UInt64 → Nat → Card) (dumps : Bool)

/-- The next cards at a position, where `deal` gives the cards of every seed. -/
def Position.upcoming (p : Position) (n : Nat) : List Card :=
  List.ofFn fun i : Fin n => deal p.seed (p.made + i)

/-- The lines that list the commands. -/
def commandLines : List Text :=
  ["  next          generate one card",
    "  bulk <n>      generate n cards with shape stats",
    "  seed <n>      rebuild the engine with a new seed",
    "  help          list commands",
    "  quit          exit"]

/-- What a command prints at a position, and the position that it leads to. -/
inductive Answers : Position → Command → Position → Text → Prop
  | blank {p : Position} : Answers p .blank p []
  | help {p : Position} : Answers p .help p (commandLines.flatMap (· ++ ['\n']))
  | next {p : Position} {output : Text} (h : (deal p.seed p.made).Prints dumps output) :
      Answers p .next ⟨p.seed, p.made + 1⟩ output
  | bulk {p : Position} {n : Nat} {s : Statistics} (hroom : n < 2 ^ 57)
      (hs : s.Of (p.upcoming deal n)) : Answers p (.bulk n) ⟨p.seed, p.made + n⟩ (s.report n)
  | reseed {p : Position} {seed : UInt64} :
      Answers p (.reseed seed) ⟨seed, 0⟩ ("Seed set to " ++ Nat.toDigits 10 seed.toNat ++ "\n")
  | badSeed {p : Position} {w : Text} : Answers p (.badSeed w) p ("Invalid seed: " ++ w ++ "\n")
  | badCount {p : Position} {w : Text} :
      Answers p (.badCount w) p ("Invalid count: " ++ w ++ "\n")
  | unknown {p : Position} :
      Answers p .unknown p ("Unknown command. Type 'help' for commands.\n".toList)

/-- How a command stops the shell: as asked, or for want of room for a batch. -/
inductive Stops : Command → Outcome → Prop
  | quit : Stops .quit ⟨0, "Goodbye.\n", []⟩
  | noRoom {n : Nat} (h : 2 ^ 57 ≤ n) : Stops (.bulk n) ⟨101, [], []⟩

/-- The lines that are typed from a position on, and the outcome of answering them, with a prompt in
front of each answer. -/
inductive Session : Position → List Text → Outcome → Prop
  | done {p : Position} : Session p [] ⟨0, "> ", []⟩
  | answer {p p' : Position} {input output : Text} {ws inputs : List Text} {c : Command}
      {o : Outcome} (hwords : Text.HasWords input ws) (hc : Command.Spells ws c)
      (h : Answers deal dumps p c p' output) (hrest : Session p' inputs o) :
      Session p (input :: inputs) ⟨o.code, "> " ++ output ++ o.output, o.errors⟩
  | stop {p : Position} {input : Text} {ws inputs : List Text} {c : Command} {o : Outcome}
      (hwords : Text.HasWords input ws) (hc : Command.Spells ws c) (h : Stops c o) :
      Session p (input :: inputs) ⟨o.code, "> " ++ o.output, o.errors⟩

end Machine

/-! ### The shell goes through sessions -/

theorem Display.display_empty (card : Card) (dumps : Bool) :
    CardSink.display card (Display.mk dumps []) = ⟨dumps, Display.block dumps card⟩ := by
  -- Rewriting takes the empty text away, where `rfl` would write out the card.
  have hwritten : CardSink.display card (Display.mk dumps []) =
    ⟨dumps, [] ++ Display.block dumps card⟩ := rfl
  rw [hwritten, List.nil_append]

section Sessions

variable {files : Text → FileState} {g : Generator} {deal : UInt64 → Nat → Card} {dumps : Bool}

/-- A shell is at a position of the sequences of a generator, which any seed leads to. -/
structure Shell.At (files : Text → FileState) (g : Generator) (dumps : Bool) (s : Shell)
    (p : Position) : Prop where
  engine_eq : s.engine = ⟨g, p.seed, p.made⟩
  dumps_eq : s.dumps = dumps
  build_eq : ∀ seed, Setup.build files { seed := seed, tablesFile := s.tablesFile } =
    .ok (.start g seed)

theorem Shell.At.deals (hdeal : ∀ seed, Deals g seed (deal seed)) {s : Shell} {p : Position}
    (h : s.At files g dumps p) : Deals s.engine.generator s.engine.seed (deal p.seed) := by
  rw [h.engine_eq]
  exact hdeal p.seed

theorem batchLimit_eq : batchLimit = 2 ^ 57 := by decide

theorem summary_eq : Command.summary = commandLines.flatMap (· ++ ['\n']) := by
  simp [Command.summary, commandLines, line]

theorem greeting_eq : Shell.greeting = "Type 'help' for commands.\n\n" := by
  simp [Shell.greeting, line]

/-- The cards of a seed are printed as they should be. -/
theorem prints_of_deals (hsound : g.tables.Sound) {seed : UInt64} {deck : Nat → Card}
    (h : Deals g seed deck) (i : Nat) :
    (deck i).Prints dumps (Display.block dumps (deck i)) := by
  obtain ⟨stream, hcard⟩ := h i
  obtain ⟨card, stream', hcard', shape, hfinished⟩ :=
    Generator.always_generate hsound (SeededStream.ofSeed (laterSeed seed i))
  obtain ⟨rfl, -⟩ := Prod.mk.inj (Option.some.inj (hcard.symm.trans hcard'))
  exact hfinished.prints dumps

/-- A line with `next` shows the card at the position. -/
theorem Shell.step_next (hdeal : ∀ seed, Deals g seed (deal seed)) {s : Shell} {p : Position}
    (h : s.At files g dumps p) {input : Text} (hnext : Command.ofLine input = .next) :
    ∃ s', s.step files input = .goOn s' (Display.block dumps (deal p.seed p.made)) ∧
      s'.At files g dumps ⟨p.seed, p.made + 1⟩ := by
  have hdeals := h.deals hdeal
  obtain ⟨hengine, rfl, hbuild⟩ := h
  have hcard : s.engine.generateInto (Display.mk s.dumps []) =
      some (⟨s.dumps, Display.block s.dumps (deal p.seed p.made)⟩, ⟨g, p.seed, p.made + 1⟩) := by
    rw [generateInto_of_deals hdeals, Display.display_empty, hengine]
  refine ⟨{ s with engine := ⟨g, p.seed, p.made + 1⟩ }, ?_, ⟨rfl, rfl, hbuild⟩⟩
  unfold step
  -- With a name for the result, no card is made when the match on it is checked.
  generalize s.engine.generateInto (Display.mk s.dumps []) = made at hcard ⊢
  rw [hnext, hcard]

/-- **The step**: a line is answered, with a shell at the position that the answer leads to, or it
stops the shell. -/
theorem Shell.step_of_at (hsound : g.tables.Sound) (hdeal : ∀ seed, Deals g seed (deal seed))
    {s : Shell} {p : Position} (h : s.At files g dumps p) (input : Text) :
    (∃ s' p' output, s.step files input = .goOn s' output ∧
      Answers deal dumps p (Command.ofLine input) p' output ∧ s'.At files g dumps p') ∨
    ∃ o, s.step files input = .stop o ∧ Stops (Command.ofLine input) o := by
  have hdeals := h.deals hdeal
  by_cases hnext : Command.ofLine input = .next
  · obtain ⟨s', hstep, hat⟩ := s.step_next hdeal h hnext
    rw [hnext]
    exact .inl ⟨s', _, _, hstep, .next (prints_of_deals hsound (hdeal p.seed) p.made), hat⟩
  obtain ⟨hengine, rfl, hbuild⟩ := h
  have hmoved : ∀ n, { s with engine := { s.engine with count := s.engine.count + n } }.At
      files g s.dumps ⟨p.seed, p.made + n⟩ := fun n => ⟨by rw [hengine], rfl, hbuild⟩
  unfold step
  cases hcommand : Command.ofLine input with
  | blank => exact .inl ⟨s, p, _, rfl, .blank, hengine, rfl, hbuild⟩
  | quit => exact .inr ⟨_, rfl, .quit⟩
  | help =>
    refine .inl ⟨s, p, _, rfl, ?_, hengine, rfl, hbuild⟩
    rw [summary_eq]
    exact .help
  | next => exact absurd hcommand hnext
  | reseed seed =>
    simp only [hbuild seed]
    refine .inl ⟨_, ⟨seed, 0⟩, _, rfl, .reseed, rfl, rfl, hbuild⟩
  | bulk n =>
    by_cases hroom : n < batchLimit
    · simp only [generateBatch, if_pos hroom, generateMany_of_deals hdeals]
      refine .inl ⟨_, _, _, rfl, ?_, hmoved n⟩
      have hcards : (#[] ++ Array.ofFn fun i : Fin n => deal p.seed (s.engine.count + i)).toList =
          p.upcoming deal n := by
        rw [hengine]
        simp [Position.upcoming]
      obtain ⟨stats, hstats, hreport⟩ := exists_statistics (p.upcoming deal n)
      rw [hcards, hreport, Position.upcoming, List.length_ofFn]
      exact .bulk (batchLimit_eq ▸ hroom) hstats
    · simp only [generateBatch, if_neg hroom]
      exact .inr ⟨_, rfl, .noRoom (batchLimit_eq ▸ Nat.not_lt.1 hroom)⟩
  | badSeed w => exact .inl ⟨s, p, _, rfl, .badSeed, hengine, rfl, hbuild⟩
  | badCount w => exact .inl ⟨s, p, _, rfl, .badCount, hengine, rfl, hbuild⟩
  | unknown => exact .inl ⟨s, p, _, rfl, .unknown, hengine, rfl, hbuild⟩

/-- **The run**: by induction on the lines, each of them answered where the one before it left the
shell. -/
theorem Shell.session_of_at (hsound : g.tables.Sound)
    (hdeal : ∀ seed, Deals g seed (deal seed)) {s : Shell} {p : Position}
    (h : s.At files g dumps p) (inputs : List Text) :
    Session deal dumps p inputs (s.run files inputs) := by
  induction inputs generalizing s p with
  | nil => exact .done
  | cons input inputs ih =>
    have hwords := Text.hasWords_words input
    have hspells := Command.spells_ofLine input
    rw [run]
    rcases s.step_of_at hsound hdeal h input with
      ⟨s', p', output, hstep, hanswer, hat⟩ | ⟨o, hstep, hstop⟩
    · rw [hstep]
      exact .answer hwords hspells hanswer (ih hat)
    · rw [hstep]
      exact .stop hwords hspells hstop

/-! ### Cards one by one -/

/-- The texts of the first cards at a position. -/
def Position.blocks (deal : UInt64 → Nat → Card) (dumps : Bool) (p : Position) (n : Nat) :
    List Text :=
  (p.upcoming deal n).map (Display.block dumps)

theorem Position.blocks_succ (p : Position) (n : Nat) :
    p.blocks deal dumps (n + 1) =
      Display.block dumps (deal p.seed p.made) ::
        (⟨p.seed, p.made + 1⟩ : Position).blocks deal dumps n := by
  simp [blocks, upcoming, List.ofFn_succ, Nat.add_assoc, Nat.add_comm 1]

theorem Position.forall₂_blocks (hsound : g.tables.Sound)
    (hdeal : ∀ seed, Deals g seed (deal seed)) (p : Position) (n : Nat) :
    List.Forall₂ (Card.Prints dumps) (p.upcoming deal n) (p.blocks deal dumps n) := by
  rw [blocks, List.forall₂_map_right_iff, List.forall₂_same]
  intro c hc
  obtain ⟨i, rfl⟩ := List.mem_ofFn.1 hc
  exact prints_of_deals hsound (hdeal p.seed) (p.made + i)

/-- A shell that is asked for one card after another shows them, each behind a prompt. -/
theorem Shell.run_next (hdeal : ∀ seed, Deals g seed (deal seed)) {s : Shell} {p : Position}
    (h : s.At files g dumps p) {inputs : List Text}
    (hnext : ∀ input ∈ inputs, Command.ofLine input = .next) :
    s.run files inputs = .success
      ((p.blocks deal dumps inputs.length).flatMap (prompt ++ ·) ++ prompt) := by
  induction inputs generalizing s p with
  | nil => rfl
  | cons input inputs ih =>
    obtain ⟨hinput, hinputs⟩ := List.forall_mem_cons.1 hnext
    obtain ⟨s', hstep, hat⟩ := s.step_next hdeal h hinput
    rw [run, hstep, List.length_cons, Position.blocks_succ]
    simp only [ih hat hinputs]
    simp [Outcome.prepend, Outcome.success]

/-- Cards that are made into a display are written one behind the other. -/
theorem generateMany_display (hdeal : ∀ seed, Deals g seed (deal seed)) (n : Nat) (p : Position)
    (written : Text) :
    generateMany n ⟨g, p.seed, p.made⟩ (Display.mk dumps written) =
      some (⟨dumps, written ++ (p.blocks deal dumps n).flatten⟩, ⟨g, p.seed, p.made + n⟩) := by
  induction n generalizing p written with
  | zero => simp [generateMany, Position.blocks, Position.upcoming]
  | succ n ih =>
    have hdeals : Deals (Engine.mk g p.seed p.made).generator (Engine.mk g p.seed p.made).seed
        (deal p.seed) := hdeal p.seed
    have hrest := ih ⟨p.seed, p.made + 1⟩ (written ++ Display.block dumps (deal p.seed p.made))
    rw [generateMany, generateInto_of_deals hdeals, Position.blocks_succ]
    refine hrest.trans ?_
    simp [Nat.add_assoc, Nat.add_comm 1]

end Sessions

/-! ### The preview -/

namespace Preview

variable {files : Text → FileState} {o : Options} {s : Shell}

/-- The options lead to a shell at the first card of their seed, with tables that are accepted. -/
theorem at_of_open (h : o.open files = .ok s) :
    s.At files s.engine.generator o.dumps ⟨o.seed, 0⟩ ∧ s.engine.generator.tables.Sound := by
  unfold Options.open at h
  cases hbuild : Setup.build files { seed := o.seed, tablesFile := o.tablesFile } with
  | error fault =>
    rw [hbuild] at h
    cases h
  | ok e =>
    rw [hbuild] at h
    cases h
    have hsound := Tables.check_eq_ok_iff.1 (Setup.checked_of_build hbuild)
    obtain ⟨t, htables, rfl⟩ := Setup.build_eq_ok_iff.1 hbuild
    exact ⟨⟨rfl, rfl, fun seed => Setup.build_eq_ok_iff.2 ⟨t, htables, rfl⟩⟩, hsound⟩

theorem perform_shell (h : o.open files = .ok s) (input : Text) :
    perform files input { o with shell := true } =
      (s.run files (linesOf input)).prepend Shell.greeting := by
  have hopen : ({ o with shell := true } : Options).open files = .ok s := h
  rw [perform, hopen]
  rfl

theorem perform_count (h : o.open files = .ok s) {deal : UInt64 → Nat → Card}
    (hdeal : ∀ seed, Deals s.engine.generator seed (deal seed)) (input : Text) (n : Nat) :
    perform files input { o with shell := false, count := n } =
      .success ((⟨o.seed, 0⟩ : Position).blocks deal o.dumps n).flatten := by
  have hopen : ({ o with shell := false, count := n } : Options).open files = .ok s := h
  have hengine := (at_of_open h).1.engine_eq
  rw [perform, hopen]
  simp only [Bool.false_eq_true, if_false]
  rw [hengine, generateMany_display hdeal n ⟨o.seed, 0⟩ [], List.nil_append]

/-- **The shell is a state machine of a seed and a number of cards.**  If the options lead to an
engine, each seed has its cards, card `i` being generated from the stream of the seed plus `i`, and
whatever is typed into the shell, its outcome is that of a session with these cards that starts with
the seed of the options at its first card.  Lines that all ask for one card show the cards that the
preview shows without a shell if it is asked for as many. -/
theorem session_of_open (h : o.open files = .ok s) :
    ∃ deal, (∀ seed, Deals s.engine.generator seed (deal seed)) ∧
      (∀ input, ∃ lines outcome, Text.HasLines input lines ∧
        Session deal o.dumps ⟨o.seed, 0⟩ lines outcome ∧
        perform files input { o with shell := true } =
          ⟨outcome.code, "Type 'help' for commands.\n\n" ++ outcome.output, outcome.errors⟩) ∧
      ∀ input lines, Text.HasLines input lines → (∀ l ∈ lines, Text.HasWords l ["next"]) →
        ∃ blocks, List.Forall₂ (Card.Prints o.dumps)
            ((⟨o.seed, 0⟩ : Position).upcoming deal lines.length) blocks ∧
          perform files input { o with shell := true } =
            ⟨0, "Type 'help' for commands.\n\n" ++ blocks.flatMap ("> ".toList ++ ·) ++ "> ", []⟩ ∧
          ∀ other, perform files other { o with shell := false, count := lines.length } =
            ⟨0, blocks.flatten, []⟩ := by
  obtain ⟨hat, hsound⟩ := at_of_open h
  choose deal hdeal using fun seed => exists_deals (g := s.engine.generator) hsound seed
  refine ⟨deal, hdeal, fun input => ?_, fun input lines hlines hnext => ?_⟩
  · refine ⟨_, _, Text.hasLines_linesOf input, s.session_of_at hsound hdeal hat _, ?_⟩
    rw [perform_shell h, greeting_eq]
    rfl
  · obtain rfl := Text.hasLines_iff.1 hlines
    have hcommands : ∀ l ∈ linesOf input, Command.ofLine l = .next := fun l hl =>
      Command.ofLine_eq_next (hnext l hl)
    refine ⟨_, Position.forall₂_blocks hsound hdeal _ _, ?_,
      fun other => perform_count h hdeal other _⟩
    rw [perform_shell h, s.run_next hdeal hat hcommands, greeting_eq, List.append_assoc]
    rfl

/-- A shell over the bundled tables: lines that are answered, one that is not understood, a new
seed and a command to stop, with a line behind it; and three lines that ask for a card each. -/
theorem session_of_open_bundled :
    let files : Text → FileState := fun _ => .missing
    let o : Options := { seed := 7 }
    let s : Shell := ⟨.start (.ofTables .bundled) 7, none, false⟩
    let mixed : Text := "next\n\nbulk 3\nbulk x\nseed 9\nnext\n quit \nnext"
    let cards : Text := "next\n next\t\nnext"
    o.open files = .ok s ∧
    ∃ deal, (∀ seed, Deals s.engine.generator seed (deal seed)) ∧
      (∃ lines outcome, Text.HasLines mixed lines ∧ Session deal false ⟨7, 0⟩ lines outcome ∧
        perform files mixed { o with shell := true } =
          ⟨outcome.code, "Type 'help' for commands.\n\n" ++ outcome.output, outcome.errors⟩) ∧
      Text.HasLines cards ["next", " next\t", "next"] ∧
      (∀ l ∈ ["next".toList, " next\t".toList, "next".toList], Text.HasWords l ["next"]) ∧
      ∃ blocks, List.Forall₂ (Card.Prints false) ((⟨7, 0⟩ : Position).upcoming deal 3) blocks ∧
        perform files cards { o with shell := true } =
          ⟨0, "Type 'help' for commands.\n\n" ++ blocks.flatMap ("> ".toList ++ ·) ++ "> ", []⟩ ∧
        perform files [] { o with shell := false, count := 3 } = ⟨0, blocks.flatten, []⟩ := by
  intro files o s mixed cards
  have hopen : o.open files = .ok s := by
    rw [Options.open, Setup.build_bundled]
    rfl
  have hlines : Text.HasLines cards ["next", " next\t", "next"] := by decide
  have hnext : ∀ l ∈ ["next".toList, " next\t".toList, "next".toList],
      Text.HasWords l ["next"] := by decide
  obtain ⟨deal, hdeal, hmixed, hcards⟩ := session_of_open hopen
  obtain ⟨blocks, hprints, hshell, hcount⟩ := hcards cards _ hlines hnext
  exact ⟨hopen, deal, hdeal, hmixed mixed, hlines, hnext, blocks, hprints, hshell, hcount []⟩

end Preview

end Cardwright

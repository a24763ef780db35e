import Cardwright.Preview.Display

/-!
# Preview: the shell

The shell reads a command from each line and keeps an engine, which is all that a later line can see
of the earlier ones. `Shell.step` is its answer to one line, `Shell.run` to all of them.
-/

namespace Cardwright

open Console

/-! ### Commands -/

/-- A line of the shell, as it is understood. -/
inductive Command
  | blank
  | quit
  | help
  | next
  | reseed (seed : UInt64)
  | bulk (count : Nat)
  /-- A number was expected and something else was given. -/
  | badSeed (word : Text)
  | badCount (word : Text)
  | unknown
deriving DecidableEq, Repr

/-- Understand a line by its words. -/
def Command.ofLine (t : Text) : Command :=
  match Text.words t with
  | [] => .blank
  | [w] =>
    if w = ("quit" : Text) ∨ w = ("exit" : Text) then .quit
    else if w = ("help" : Text) then .help
    else if w = ("next" : Text) then .next
    else .unknown
  | [w, n] =>
    if w = ("seed" : Text) then
      match unsigned? n with
      | some seed => .reseed (UInt64.ofNat seed)
      | none => .badSeed n
    else if w = ("bulk" : Text) then
      match unsigned? n with
      | some count => .bulk count
      | none => .badCount n
    else .unknown
  | _ => .unknown

/-- The list of commands. -/
def Command.summary : Text :=
  line "  next          generate one card"
    ++ line "  bulk <n>      generate n cards with shape stats"
    ++ line "  seed <n>      rebuild the engine with a new seed"
    ++ line "  help          list commands"
    ++ line "  quit          exit"

/-! ### Bulk statistics -/

/-- How often each heading occurs among some cards, by heading. -/
def headingCounts (cards : List Card) : List (Text × Nat) :=
  let headings := cards.map (·.heading)
  let sorted := headings.eraseDups.mergeSort Text.inOrder
  sorted.map fun h => (h, headings.count h)

/-- The statistics of some cards. -/
def bulkReport (cards : List Card) : Text :=
  let items := (cards.filter (·.isItem)).length
  let skills := cards.length - items
  line ("\n=== Bulk Generation: " ++ Text.decimal cards.length ++ " cards ===\n")
    ++ (headingCounts cards).flatMap (fun (heading, n) =>
      line ("  " ++ Text.padRight 16 heading ++ " " ++ Text.padLeft 6 (Text.decimal n)))
    ++ line ("  items: " ++ Text.decimal items ++ ", skills: " ++ Text.decimal skills)
    ++ line ("  distinct names: " ++ Text.decimal (cards.map (·.name)).eraseDups.length ++ "\n")

/-! ### The shell -/

/-- What the shell keeps between two lines. -/
structure Shell where
  engine : Engine
  /-- The file that a new engine takes its tables from. -/
  tablesFile : Option Text
  dumps : Bool

/-- The answer to a line. -/
inductive Reaction
  | goOn (shell : Shell) (output : Text)
  /-- The shell ends, with what it still has to say. -/
  | stop (outcome : Outcome)

namespace Shell

/-- Answer a line. -/
def step (files : Text → FileState) (s : Shell) (input : Text) : Reaction :=
  match Command.ofLine input with
  | .blank => .goOn s []
  | .quit => .stop (.success (line "Goodbye."))
  | .help => .goOn s Command.summary
  | .next =>
    match s.engine.generateInto (Display.mk s.dumps []) with
    | some (d, engine) => .goOn { s with engine := engine } d.written
    | none => .stop .stalled
  | .reseed seed =>
    match Setup.build files { seed := seed, tablesFile := s.tablesFile } with
    | .ok engine =>
      .goOn { s with engine := engine } (line ("Seed set to " ++ Text.decimal seed.toNat))
    | .error fault => .stop (.ofFault fault)
  | .bulk count =>
    match s.engine.generateBatch count with
    | some (cards, engine) => .goOn { s with engine := engine } (bulkReport cards.toList)
    | none => .stop .stalled
  | .badSeed word => .goOn s (line ("Invalid seed: " ++ word))
  | .badCount word => .goOn s (line ("Invalid count: " ++ word))
  | .unknown => .goOn s (line "Unknown command. Type 'help' for commands.")

/-- What stands in front of every line. -/
def prompt : Text := "> "

/-- What stands above the first line. -/
def greeting : Text := line "Type 'help' for commands.\n"

/-- Answer lines until one of them ends the shell or they run out. -/
def run (files : Text → FileState) (s : Shell) : List Text → Outcome
  | [] => .success prompt
  | input :: inputs =>
    match s.step files input with
    | .goOn s output => (run files s inputs).prepend (prompt ++ output)
    | .stop outcome => outcome.prepend prompt

end Shell

/-- The lines of a text. A line break at the very end begins no further line. -/
def linesOf : Text → List Text
  | [] => []
  | c :: t =>
    if c = '\n' then [] :: linesOf t
    else
      match linesOf t with
      | [] => [[c]]
      | l :: ls => (c :: l) :: ls

end Cardwright

import Cardwright.Preview.Shell

/-!
# Preview: the command line

The preview displays the first cards of a seed, or starts the shell. `Preview.run` is the whole
tool.
-/

namespace Cardwright.Preview

open Console

/-- What the arguments ask for. -/
structure Options where
  tablesFile : Option Text := none
  seed : UInt64 := 42
  count : Nat := 5
  dumps : Bool := false
  shell : Bool := false
deriving DecidableEq, Repr

/-- What becomes of the arguments. -/
inductive Request
  | run (options : Options)
  | help
  | unknown (arg : Text)
deriving DecidableEq, Repr

/-- How the preview is called. -/
def usage : Text :=
  line "Usage: preview [--tables <path>] [--seed <n>] [--count <n>] [--debug] [--shell]"

/-- Understand the arguments from left to right. An option that wants a value is unknown without
one, and a number that cannot be read sets the option to its default. -/
def Request.ofArgs (o : Options) : List Text → Request
  | [] => .run o
  | arg :: args =>
    if arg = ("--help" : Text) ∨ arg = ("-h" : Text) then .help
    else if arg = ("--debug" : Text) then ofArgs { o with dumps := true } args
    else if arg = ("--shell" : Text) then ofArgs { o with shell := true } args
    else
      match args with
      | [] => .unknown arg
      | value :: args =>
        if arg = ("--tables" : Text) then ofArgs { o with tablesFile := some value } args
        else if arg = ("--seed" : Text) then
          ofArgs { o with seed := UInt64.ofNat ((unsigned? value).getD 42) } args
        else if arg = ("--count" : Text) then
          ofArgs { o with count := (unsigned? value).getD 5 } args
        else .unknown arg

/-- The shell that the options ask for, at its first line. -/
def Options.open (o : Options) (files : Text → FileState) : Except SetupFault Shell :=
  (Setup.build files { seed := o.seed, tablesFile := o.tablesFile }).map fun engine =>
    ⟨engine, o.tablesFile, o.dumps⟩

/-- Display the first cards, or answer the lines of the input. -/
def perform (files : Text → FileState) (input : Text) (o : Options) : Outcome :=
  match o.open files with
  | .error fault => .ofFault fault
  | .ok shell =>
    if o.shell then (shell.run files (linesOf input)).prepend Shell.greeting
    else
      match Engine.generateMany o.count shell.engine (Display.mk o.dumps []) with
      | some (d, _) => .success d.written
      | none => .stalled

/-- Run the preview on its arguments and its input. -/
def run (files : Text → FileState) (args : List Text) (input : Text) : Outcome :=
  match Request.ofArgs {} args with
  | .help => .success usage
  | .unknown arg => ⟨1, usage, line ("Unknown argument: " ++ arg)⟩
  | .run options => perform files input options

end Cardwright.Preview

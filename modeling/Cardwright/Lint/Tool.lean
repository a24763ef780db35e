import Cardwright.Console
import Cardwright.Lint

/-!
# Linting tables: the command line

The linter sets up an engine, so that it sees only tables that pass the check, and writes what it
finds in them. It fails if no engine can be set up, or if there are errors.
-/

namespace Cardwright

namespace LintTool

open Console

/-- How the linter is called. -/
def usage : Text := line "Usage: table_linter [<tables.ron>]"

/-- The linter's account of a set of tables. -/
def report (t : Tables) (r : LintReport) : Text :=
  let count {α : Type} (xs : List α) : Text := Text.decimal xs.length
  line ("Loaded " ++ count t.tags ++ " tags, " ++ count t.effects ++ " effects, " ++ count t.values
      ++ " values, " ++ count t.triggers ++ " triggers, " ++ count t.keywords ++ " keywords")
    ++ line "\n=== Table Lint Report ===\n"
    ++ (if r.errors.isEmpty && r.warnings.isEmpty then line "All checks passed!" else [])
    ++ r.warnings.flatMap (fun w => line ("WARNING: " ++ w))
    ++ r.errors.flatMap (fun e => line ("ERROR: " ++ e))
    ++ line ("\nSummary: " ++ count r.errors ++ " errors, " ++ count r.warnings ++ " warnings")

/-- Lint the tables of the file that is named first, or the bundled ones. -/
def run (files : Text → FileState) (args : List Text) : Outcome :=
  if args.contains "--help".toList || args.contains "-h".toList then .success usage
  else
    match Setup.build files { tablesFile := args.head? } with
    | .error fault => .ofFault fault
    | .ok engine =>
      let g := engine.generator
      let r := g.tables.lint g.matcher
      ⟨if r.errors.isEmpty then 0 else 1, report g.tables r, []⟩

end LintTool

end Cardwright

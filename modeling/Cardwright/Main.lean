import Cardwright.Lint.Tool
import Cardwright.Preview.Options

/-!
# The program

The first argument names the tool, `preview` or `table_linter`, and the others are the tool's. What
is done here is only to read arguments, files and lines, and to write what the tools answer.
-/

namespace Cardwright.Program

/-- Look at the file under a path. -/
def fileState (path : String) : IO FileState := do
  try
    let contents ← IO.FS.readFile path
    pure (.text contents.toList)
  catch
    | .noFileOrDirectory .. => pure .missing
    | _ => pure .unreadable

/-- Write what a tool answered. -/
def report (o : Outcome) : IO UInt32 := do
  IO.print (String.ofList o.output)
  IO.eprint (String.ofList o.errors)
  pure o.code

/-- The files a tool can see, which is the one it was told about. -/
def filesFor : Option Text → IO (Text → FileState)
  | none => pure fun _ => .missing
  | some path => do
    let state ← fileState (String.ofList path)
    pure fun asked => if asked = path then state else .missing

/-- Answer lines until the shell stops. -/
partial def converse (s : Shell) : IO UInt32 := do
  IO.print (String.ofList Shell.prompt)
  (← IO.getStdout).flush
  let input ← (← IO.getStdin).getLine
  if input.isEmpty then pure 0
  else
    let files ← filesFor s.tablesFile
    match s.step files input.toList with
    | .goOn s output =>
      IO.print (String.ofList output)
      converse s
    | .stop outcome => report outcome

/-- The preview, with a shell that answers each line as it comes. -/
def preview (args : List Text) : IO UInt32 := do
  match Preview.Request.ofArgs {} args with
  | .run o =>
    let files ← filesFor o.tablesFile
    match o.shell, o.open files with
    | true, .ok shell =>
      IO.print (String.ofList Shell.greeting)
      converse shell
    | _, _ => report (Preview.run files args [])
  | _ => report (Preview.run (fun _ => .missing) args [])

/-- The table linter. -/
def lint (args : List Text) : IO UInt32 := do
  let files ← filesFor args.head?
  report (LintTool.run files args)

end Cardwright.Program

/-- Run the tool that the first argument names. -/
def main (args : List String) : IO UInt32 :=
  match args.map (·.toList) with
  | tool :: args =>
    if tool = "preview".toList then Cardwright.Program.preview args
    else if tool = "table_linter".toList then Cardwright.Program.lint args
    else do
      IO.eprintln "Usage: cardwright (preview | table_linter) <arguments>"
      pure 1
  | [] => do
    IO.eprintln "Usage: cardwright (preview | table_linter) <arguments>"
    pure 1

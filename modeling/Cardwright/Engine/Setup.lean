import Cardwright.Engine.Basic
import Cardwright.Tables.Bundled
import Cardwright.Tables.Record

/-!
# Setting up an engine

An engine takes its tables from the caller, from a file, or from the bundled set, in this order of
precedence. Whatever their source, only tables that pass the check make an engine.

Main statement: `checked_of_build` (the tables of an engine passed the check).
-/

namespace Cardwright

/-- What is found under the path of a file. -/
inductive FileState
  | missing
  /-- Something is there, but it cannot be read as text. -/
  | unreadable
  | text (contents : Text)
deriving DecidableEq, Repr

/-- Why an engine could not be set up. -/
inductive SetupFault
  | tables (fault : LoadFault)
  | fileNotFound (path : Text)
deriving DecidableEq, Repr

/-- The report of a fault. -/
def SetupFault.message : SetupFault → Text
  | tables fault => "table error: " ++ fault.message
  | fileNotFound path => "tables file not found: " ++ path

/-- What an engine is set up from. -/
structure Setup where
  seed : UInt64 := 0
  /-- The path of a file with tables in record notation. -/
  tablesFile : Option Text := none
  /-- Tables given directly, which take precedence over a file. -/
  tables : Option Tables := none

namespace Setup

/-- The tables of a file. -/
def loadFile (files : Text → FileState) (path : Text) : Except SetupFault Tables :=
  match files path with
  | .missing => .error (.fileNotFound path)
  | .unreadable => .error (.tables .unreadable)
  | .text contents => (Tables.load contents).mapError .tables

/-- The tables to set up an engine with. -/
def chooseTables (files : Text → FileState) (s : Setup) : Except SetupFault Tables :=
  match s.tables, s.tablesFile with
  | some tables, _ => tables.checked.mapError .tables
  | none, some path => loadFile files path
  | none, none => Tables.bundled.checked.mapError .tables

/-- Set up an engine. -/
def build (files : Text → FileState) (s : Setup) : Except SetupFault Engine :=
  (chooseTables files s).map fun tables => .start (.ofTables tables) s.seed

end Setup

theorem Tables.check_of_checked {t u : Tables} (h : t.checked = .ok u) : u.check = .ok () := by
  unfold Tables.checked at h
  split at h
  · next hc => cases h; exact hc
  · cases h

namespace Setup

theorem check_of_mapError {e : Except LoadFault Tables} {t : Tables}
    (h : e.mapError SetupFault.tables = .ok t) : e = .ok t := by
  cases e with
  | error => cases h
  | ok => cases h; rfl

/-- The tables of an engine passed the check, wherever they came from. -/
theorem checked_of_build {files : Text → FileState} {s : Setup} {e : Engine}
    (h : s.build files = .ok e) : e.generator.tables.check = .ok () := by
  have chosen : ∀ t, s.chooseTables files = .ok t → t.check = .ok () := by
    intro t ht
    unfold chooseTables at ht
    split at ht
    · exact Tables.check_of_checked (check_of_mapError ht)
    · unfold loadFile at ht
      split at ht
      · cases ht
      · cases ht
      · have loaded := check_of_mapError ht
        unfold Tables.load at loaded
        split at loaded
        · exact Tables.check_of_checked loaded
        · cases loaded
    · exact Tables.check_of_checked (check_of_mapError ht)
  unfold build at h
  cases ht : s.chooseTables files with
  | error f => rw [ht] at h; cases h
  | ok t => rw [ht] at h; cases h; exact chosen t ht

end Setup

end Cardwright

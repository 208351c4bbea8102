import EsqlAudit.Bench.Command
import EsqlAudit.Bench.Source

/-!
The benches by name.
-/
namespace EsqlAudit.Bench

/-- The benches, each with the size of its workload left open. -/
def all (now : Moment) (assets : Report.Html.Assets) : Table (Nat → Figures) :=
  [("preprocessor", statements), ("parser", functions), ("cyclomatic", cyclomatics),
   ("cognitive", cognitives), ("halstead", halsteads), ("comments", comments),
   ("cursors", cursors), ("memory", memory), ("analyze_source", sources),
   ("analyze_directory", directories), ("formatters", forms now assets),
   ("cli_commands", commands now assets)]

/-- Runs the bench of a name, if there is one. -/
def run? (now : Moment) (assets : Report.Html.Assets) (name : String) (n : Nat) :
    Option Figures :=
  ((all now assets).lookup name).map fun bench => bench n

end EsqlAudit.Bench

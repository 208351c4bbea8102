import EsqlAudit.Comment.Module
import EsqlAudit.Table

/-!
An inventory of modules, once by file and once by directory. A file that is added again takes the place
of its earlier entry among the files, and stands under its directory once more.
-/
namespace EsqlAudit.Comment

structure Inventory where
  modules : Table Module
  directories : Table (List Module)

namespace Inventory

def empty : Inventory := ⟨[], []⟩

/-- The name under which a module's directory is listed. -/
def directoryOf (m : Module) : String :=
  if m.directory.isEmpty then "<root>" else m.directory

/-- Adds a module. -/
def add (i : Inventory) (m : Module) : Inventory where
  modules := i.modules.set m.filepath m
  directories := i.directories.update (directoryOf m) fun ms => ms.getD [] ++ [m]

/-- The numbers of modules. -/
def summary (i : Inventory) : Record :=
  [("total_modules", .ofNat i.modules.length),
   ("directories", .ofStrings (i.directories.map (·.1))),
   ("modules_per_directory", .obj (i.directories.map fun (d, ms) => (d, .ofNat ms.length)))]

/-- The inventory as it stands in a report. -/
def toRecord (i : Inventory) : Record :=
  [("summary", .obj i.summary),
   ("by_directory",
     .obj (i.directories.map fun (d, ms) => (d, .arr (ms.map fun m => .obj m.toRecord)))),
   ("modules", .obj (i.modules.map fun (path, m) => (path, .obj m.toRecord)))]

end Inventory

end EsqlAudit.Comment

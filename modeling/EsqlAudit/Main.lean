import EsqlAudit.Command.Run
import EsqlAudit.Grammar.Unit
import EsqlAudit.Report.Script
import EsqlAudit.Report.Style
import EsqlAudit.Report.Terminal
import Std.Time.Zoned

/-!
The command line: reads the files under the current directory and those that the arguments name, runs a
command on them, prints what it shows and writes the files that it changes.
-/
namespace EsqlAudit.Main
open Files

/-- Reads a file, or a directory with all that is in it. -/
partial def readTree (entry : IO.FS.DirEntry) : IO Tree := do
  if ← entry.path.isDir then
    let entries ← (← entry.path.readDir).toList.mapM fun e => do
      return (e.fileName, ← readTree e)
    return .directory entries
  return .file (← IO.FS.readBinFile entry.path).toList

/-- Adds what a path leads to, or the directory that it would be in. -/
def addPath (d : Disk) (path : String) : IO Disk := do
  let entry : IO.FS.DirEntry := ⟨".", path⟩
  let way := wayAlong (d.names path.toList)
  if ← entry.path.pathExists then
    return { d with root := Tree.insert (← readTree entry) way d.root }
  let known := (d.root.follow [] (way.dropLast.map String.toList)).toOption.isSome
  let some parent := entry.path.parent | return d
  if !known && (← parent.isDir) then
    return { d with root := Tree.insert .empty way.dropLast d.root }
  return d

/-- The disk as far as the arguments name it. -/
def readDisk (arguments : List String) : IO Disk := do
  let working := wayAlong (Text.splitOn '/' (← IO.currentDir).toString.toList)
  ("." :: arguments).foldlM addPath ⟨.empty, working⟩

/-- The moment it is. -/
def moment : IO Moment := do
  let d ← Std.Time.PlainDateTime.now
  return ⟨d.year.toNat, d.month.toNat, d.day.toNat, d.hour.toNat, d.minute.toNat, d.second.toNat⟩

/-- Prints what a command showed, and writes the files that it changed. -/
def carryOut (old : Disk) (o : Command.Outcome) : IO Unit := do
  for line in o.shown.flatMap Console.Item.lines do
    IO.println line
  for (way, bytes) in old.changes o.disk do
    IO.FS.writeBinFile ("/" ++ "/".intercalate way) ⟨bytes.toArray⟩
  if let some f := o.fault then
    IO.eprintln ("Error: " ++ f.message)

end EsqlAudit.Main

open EsqlAudit in
def main (arguments : List String) : IO UInt32 := do
  let disk ← Main.readDisk arguments
  let w : Command.World :=
    ⟨disk, fun _ source => Grammar.tree? source, ← Main.moment,
      ⟨Report.Html.styleSheet, Report.Html.script⟩⟩
  let answer := Command.run w arguments
  match answer with
  | .version => IO.print Command.versionText
  | .help => IO.println Command.helpText
  | .outcome o => Main.carryOut w.disk o
  return UInt32.ofNat answer.exitCode

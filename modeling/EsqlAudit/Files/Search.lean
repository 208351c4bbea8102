import EsqlAudit.Files.Name
import EsqlAudit.Files.Tree
import EsqlAudit.Text.Blank

/-!
Searching a tree for the files whose paths fit a pattern. A pattern is a path whose names may be name
patterns; a name of two stars stands for any number of directories.
-/
namespace EsqlAudit.Files
open Text

/-- One step of a path pattern. -/
inductive Selector where
  /-- Any number of directories. -/
  | anywhere
  /-- An entry whose name fits a name pattern. -/
  | fitting (pattern : List Char)
  /-- The entry of the name. -/
  | exactly (name : List Char)
  /-- The directory itself: the pattern ends in a slash. -/
  | here

/-- Why a text is no path pattern. -/
inductive PatternFault where
  | empty | rooted | stars | noNames
deriving DecidableEq, Repr

def PatternFault.message : PatternFault → String
  | empty => "Unacceptable pattern: ''"
  | rooted => "Non-relative patterns are unsupported"
  | stars => "Invalid pattern: '**' can only be an entire path component"
  | noNames => "tuple index out of range"

/-- The step that a name of a path pattern stands for. -/
def selectorOf (name : List Char) : Except PatternFault Selector :=
  if name == ['*', '*'] then .ok .anywhere
  else if contains ['*', '*'] name then .error .stars
  else if name.any fun c => c == '*' || c == '?' || c == '[' then .ok (.fitting name)
  else .ok (.exactly name)

/-- The steps of a path pattern that is searched for below every directory, or below the first only. -/
def selectors (recursive : Bool) (pattern : List Char) : Except PatternFault (List Selector) := do
  if pattern.isEmpty && !recursive then throw .empty
  let path := Path.ofText pattern
  if !path.root.isEmpty then throw .rooted
  let steps ← path.parts.mapM selectorOf
  let closing := if pattern.getLast? == some '/' then [Selector.here] else []
  let steps := (if recursive then [.anywhere] else []) ++ steps ++ closing
  if steps.isEmpty then throw .noNames
  return steps

mutual
/-- A directory and the directories below it, with their paths. -/
def directories (path : Path) : Tree → List (Path × Tree)
  | .file _ => []
  | .directory entries => (path, .directory entries) :: directoriesAmong path entries
def directoriesAmong (path : Path) : List (String × Tree) → List (Path × Tree)
  | [] => []
  | (name, t) :: rest => directories (path.child name.toList) t ++ directoriesAmong path rest
end

/-- What the steps select below a path. Every step but the last goes to directories only. -/
def select (disk : Disk) : List Selector → Path → Tree → List (Path × Tree)
  | [], path, t => [(path, t)]
  | .here :: _, path, t => [(path, t)]
  | .anywhere :: rest, path, t =>
    (directories path t).flatMap fun (p, d) => select disk rest p d
  | .fitting pattern :: rest, path, t =>
    match t with
    | .file _ => []
    | .directory entries =>
      entries.flatMap fun (name, child) =>
        if (rest.isEmpty || child.isDirectory) && matchesName pattern name.toList then
          select disk rest (path.child name.toList) child
        else []
  | .exactly name :: rest, path, _ =>
    let p := path.child name
    match disk.find? p with
    | some child => if rest.isEmpty || child.isDirectory then select disk rest p child else []
    | none => []

/-- The paths that a pattern selects below a path, whose last step leads to files. -/
def globFiles (disk : Disk) (path : Path) (recursive : Bool) (pattern : List Char) :
    Except PatternFault (List Path) := do
  let steps ← selectors recursive pattern
  match disk.find? path with
  | some (.directory entries) =>
    return ((select disk steps path (.directory entries)).filter (·.2.isFile)).map (·.1)
  | _ => return []

/-- The order of file lists: name by name, each by its code points. -/
def namesBefore : List (List Char) → List (List Char) → Bool
  | [], _ => true
  | _ :: _, [] => false
  | a :: as, b :: bs =>
    if a == b then namesBefore as bs else decide (String.ofList a < String.ofList b)

/-- Paths in order, each once. -/
def sortedPaths (paths : List Path) : List Path :=
  paths.eraseDups.mergeSort fun p q => namesBefore p.parts q.parts

/-- The files that at least one of some patterns selects, in order. -/
def findFiles (disk : Disk) (path : Path) (recursive : Bool) (patterns : List (List Char)) :
    Except PatternFault (List Path) :=
  (patterns.mapM (globFiles disk path recursive)).map fun found => sortedPaths found.flatten

mutual
/-- The files of a tree with their paths. -/
def allFiles (path : Path) : Tree → List Path
  | .file _ => [path]
  | .directory entries => allFilesAmong path entries
def allFilesAmong (path : Path) : List (String × Tree) → List Path
  | [] => []
  | (name, t) :: rest => allFiles (path.child name.toList) t ++ allFilesAmong path rest
end

/-- The files directly in a directory with their paths. -/
def directFiles (path : Path) (entries : List (String × Tree)) : List Path :=
  (entries.filter (·.2.isFile)).map fun (name, _) => path.child name.toList

/-- The files below a path, or directly in it, whose names fit at least one of some patterns when letter
case does not count, in order. -/
def findFilesFolded (disk : Disk) (path : Path) (recursive : Bool) (patterns : List (List Char)) :
    List Path :=
  match disk.find? path with
  | some (.directory entries) =>
    let found := if recursive then allFilesAmong path entries else directFiles path entries
    sortedPaths (found.filter fun p => patterns.any fun pattern => matchesFolded pattern p.name)
  | _ => []

/-- The pattern used where none is given. -/
def defaultPattern : List Char := "*.pc".toList

/-- The patterns of a list with semicolons between them. -/
def parsePatterns (s : List Char) : List (List Char) :=
  match ((splitOn ';' s).map strip).filter (!·.isEmpty) with
  | [] => [defaultPattern]
  | patterns => patterns

end EsqlAudit.Files

import EsqlAudit.Text.Basic

/-!
File paths as a root and names. Empty names and single dots are left out when a path is read; two dots
stay.
-/
namespace EsqlAudit.Files
open Text

structure Path where
  root : List Char
  parts : List (List Char)
deriving DecidableEq

namespace Path

/-- The root that a path starts with: exactly two slashes are a root of their own. -/
def rootOf : List Char → List Char
  | '/' :: '/' :: '/' :: _ => ['/']
  | '/' :: '/' :: _ => ['/', '/']
  | '/' :: _ => ['/']
  | _ => []

/-- Reads a path. -/
def ofText (s : List Char) : Path :=
  ⟨rootOf s, (splitOn '/' s).filter fun p => !p.isEmpty && p != ['.']⟩

/-- Writes a path; the empty one is a dot. -/
def text (p : Path) : List Char :=
  if p.root.isEmpty && p.parts.isEmpty then ['.'] else p.root ++ joinWith ['/'] p.parts

/-- The last name of a path, empty if there is none. -/
def name (p : Path) : List Char :=
  p.parts.getLast?.getD []

/-- The path without its last name. -/
def parent (p : Path) : Path :=
  ⟨p.root, p.parts.dropLast⟩

/-- The path of a name in a directory. -/
def child (p : Path) (name : List Char) : Path :=
  ⟨p.root, p.parts ++ [name]⟩

end Path

/-- The last name of a path given as a text. -/
def fileName (path : String) : String :=
  String.ofList (Path.ofText path.toList).name

end EsqlAudit.Files

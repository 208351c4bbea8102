import EsqlAudit.Files.Path
import EsqlAudit.Table
import EsqlAudit.Text.Quoted
import EsqlAudit.Text.Utf8

/-!
Files and directories as a tree, and what paths lead to in it from its root or from the working directory.
-/
namespace EsqlAudit.Files
open Text

/-- Why a path leads nowhere, or not to a file. -/
inductive Obstacle where
  | missing | notADirectory | isADirectory
deriving DecidableEq, Repr

namespace Obstacle

/-- The kind of the obstacle in messages. -/
def name : Obstacle → String
  | missing => "FileNotFoundError"
  | notADirectory => "NotADirectoryError"
  | isADirectory => "IsADirectoryError"

/-- The text about an obstacle on a path. -/
def message (path : String) : Obstacle → String
  | missing => "[Errno 2] No such file or directory: " ++ quoted path
  | notADirectory => "[Errno 20] Not a directory: " ++ quoted path
  | isADirectory => "[Errno 21] Is a directory: " ++ quoted path

end Obstacle

inductive Tree where
  | file (bytes : List UInt8)
  | directory (entries : List (String × Tree))

namespace Tree

def empty : Tree := directory []

def isFile : Tree → Bool
  | file _ => true
  | directory _ => false

def isDirectory : Tree → Bool
  | file _ => false
  | directory _ => true

/-- The entry of a directory with the given name. -/
def entry? : Tree → String → Option Tree
  | directory entries, name => entries.lookup name
  | file _, _ => none

/-- Goes on from a tree, with the directories above it, along the names of a path. An empty name and a
dot stay in a directory, and so do two dots in the root. -/
def follow (t : Tree) (above : List Tree) : List (List Char) → Except Obstacle Tree
  | [] => .ok t
  | name :: rest =>
    if !t.isDirectory then .error .notADirectory
    else if name.isEmpty || name == ['.'] then t.follow above rest
    else if name == ['.', '.'] then
      match above with
      | [] => t.follow [] rest
      | parent :: above => parent.follow above rest
    else
      match t.entry? (String.ofList name) with
      | some child => child.follow (t :: above) rest
      | none => .error .missing

/-- Puts a tree at the end of a way through directories; what is missing on the way is made. -/
def insert (new : Tree) : List String → Tree → Tree
  | [], _ => new
  | name :: rest, directory entries =>
    directory (Table.update entries name fun old => insert new rest (old.getD empty))
  | name :: rest, file _ => directory [(name, insert new rest empty)]

mutual
/-- The files of a tree with the ways to them. -/
def files (way : List String) : Tree → List (List String × List UInt8)
  | file bytes => [(way, bytes)]
  | directory entries => filesOf way entries
def filesOf (way : List String) : List (String × Tree) → List (List String × List UInt8)
  | [] => []
  | (name, t) :: rest => files (way ++ [name]) t ++ filesOf way rest
end

end Tree

/-- Puts a character before a text whose first character, as it was, is given. -/
def newlineStep (c : Char) : Option Char × List Char → Option Char × List Char
  | (next, out) =>
    if c == '\r' then (some c, if next == some '\n' then out else '\n' :: out) else (some c, c :: out)

/-- Line ends of all kinds as newlines. -/
def universalNewlines (s : List Char) : List Char :=
  (s.foldr newlineStep (none, [])).2

/-- The text of a file: bytes that are no text are replaced, and line ends become newlines. -/
def textOf (bytes : List UInt8) : List Char :=
  universalNewlines (Utf8.decodeLossy bytes)

/-- The names on the way that a path takes from the root, each way up taken back. -/
def wayAlong (names : List (List Char)) : List String :=
  names.foldl (fun way name =>
    if name.isEmpty || name == ['.'] then way
    else if name == ['.', '.'] then way.dropLast
    else way ++ [String.ofList name]) []

/-- All files and directories, and the way from the root to the working directory. -/
structure Disk where
  root : Tree
  working : List String

namespace Disk

/-- The names to follow from the root for the text of a path. A text that does not start at the root
starts in the working directory. -/
def names (d : Disk) (path : List Char) : List (List Char) :=
  (if path.head? == some '/' then [] else d.working.map String.toList) ++ splitOn '/' path

/-- What the text of a path leads to. An empty text leads nowhere. -/
def lookup (d : Disk) (path : List Char) : Except Obstacle Tree :=
  if path.isEmpty then .error .missing else d.root.follow [] (d.names path)

/-- What the text of a path leads to, if it leads anywhere. -/
def lookup? (d : Disk) (path : List Char) : Option Tree :=
  (d.lookup path).toOption

/-- What a path leads to, if it leads anywhere. -/
def find? (d : Disk) (path : Path) : Option Tree :=
  d.lookup? path.text

/-- Reads the text of a file. -/
def read (d : Disk) (path : List Char) : Except Obstacle (List Char) :=
  match d.lookup path with
  | .ok (.file bytes) => .ok (textOf bytes)
  | .ok (.directory _) => .error .isADirectory
  | .error o => .error o

/-- Writes a file. Its directory has to exist, and a slash at the end of its path makes it a directory. -/
def write (d : Disk) (path : List Char) (bytes : List UInt8) : Except Obstacle Disk :=
  if path.isEmpty then .error .missing
  else
    let names := d.names path
    let way := (names.reverse.dropWhile List.isEmpty).reverse
    match d.root.follow [] way.dropLast, d.lookup path with
    | .error o, _ => .error o
    | .ok (.file _), _ => .error .notADirectory
    | .ok (.directory _), .ok (.directory _) => .error .isADirectory
    | .ok (.directory _), _ =>
      if way.length < names.length then .error .isADirectory
      else .ok { d with root := Tree.insert (.file bytes) (wayAlong names) d.root }

/-- The files of a disk that are not on another disk, or not with the same content, with the ways to them
from the root. -/
def changes (old new : Disk) : List (List String × List UInt8) :=
  (new.root.files []).filter fun (way, bytes) =>
    match (old.root.files []).lookup way with
    | some before => before != bytes
    | none => true

end Disk

end EsqlAudit.Files

import EsqlAudit.Comment.Basic
import EsqlAudit.Json.Value
import EsqlAudit.Table

/-!
Notes that comments leave for later: a tag such as `TODO` and the text after it, up to the end of the
line, or of the next line that has any text.
-/
namespace EsqlAudit.Comment
open Text

inductive Priority where
  | high | medium | low
deriving DecidableEq, Repr

def Priority.name : Priority → String
  | high => "high"
  | medium => "medium"
  | low => "low"

/-- The tags that are looked for, in this order, and their priorities. -/
def tags : List (String × Priority) :=
  [("FIXME", .high), ("BUG", .high), ("XXX", .high), ("HACK", .medium), ("TODO", .medium),
   ("NOTE", .low), ("WARNING", .medium), ("WARN", .medium), ("OPTIMIZE", .low), ("REVIEW", .medium),
   ("DEPRECATED", .high)]

/-- The priority of a tag in capital letters, low for a tag that is not listed. -/
def priorityOf (tag : String) : Priority :=
  (tags.lookup tag).getD .low

/-- A tag as a whole word (group 1), colons and blanks, and the rest of the line (group 2). -/
def todoPattern : Pattern :=
  .all [.wordEdge, .group 1 (.any (tags.map fun t => .word t.1)), .wordEdge,
    .greedy (fun c => c == ':' || isBlank c), .group 2 (.greedy notNewline), .lineEnd]

structure Todo where
  tag : String
  message : String
  line : Nat
  priority : Priority
  /-- The whole line that the note stands on. -/
  context : List Char

/-- The notes of a comment in a text with the given lines. -/
def todosOf (lines : List (List Char)) (c : Comment) : List Todo :=
  (todoPattern.findAll c.text).map fun o =>
    let tag := String.ofList (upper (o.groupText c.text 1))
    let line := c.line + newlines (c.text.take o.span.start)
    { tag, message := String.ofList (strip (o.groupText c.text 2)), line,
      priority := priorityOf tag, context := lines[line - 1]?.getD [] }

/-- The notes of a text, comment by comment. -/
def todos (source : List Char) : List Todo :=
  (comments source).flatMap (todosOf (lines source))

namespace Todo

/-- The note as it stands in a report. -/
def toRecord (t : Todo) : Record :=
  [("tag", .str t.tag), ("message", .str t.message), ("line_number", .ofNat t.line),
   ("priority", .str t.priority.name), ("context", .ofChars (strip t.context))]

end Todo

/-- The notes of each priority. -/
def byPriority (todos : List Todo) : List (Priority × List Todo) :=
  [Priority.high, .medium, .low].map fun p => (p, todos.filter (·.priority == p))

/-- The notes of each tag, in the order in which the tags first appear. -/
def byTag (todos : List Todo) : Table (List Todo) :=
  Table.group (todos.map fun t => (t.tag, t))

end EsqlAudit.Comment

import EsqlAudit.Table
import EsqlAudit.Text.Line
import EsqlAudit.Text.Search

/-!
SQL cursors of a host program: their declarations and the lines on which they are opened, fetched from and
closed. Names of cursors are compared in small letters.
-/
namespace EsqlAudit.Cursor
open Text

/-- `EXEC SQL`, a keyword, and what follows after white space. -/
def statement (keyword : String) (rest : List Pattern) : Pattern :=
  .all ([.word "EXEC", .blanks1, .word "SQL", .blanks1, .word keyword, .blanks1] ++ rest)

/-- A keyword statement about a name: group 1. -/
def namedStatement (keyword : String) : Pattern :=
  statement keyword [.group 1 .word1]

def openPattern : Pattern := namedStatement "OPEN"

def fetchPattern : Pattern := namedStatement "FETCH"

def closePattern : Pattern := namedStatement "CLOSE"

/-- A statement that is prepared: group 1 is its name. -/
def preparePattern : Pattern :=
  statement "PREPARE" [.group 1 .word1, .blanks1, .word "FROM"]

/-- A declared cursor (group 1) and what follows `FOR`. -/
def declaration (rest : Pattern) : Pattern :=
  statement "DECLARE"
    [.group 1 .word1, .blanks1, .word "CURSOR", .blanks1, .word "FOR", .blanks1, rest]

/-- A cursor for a query: group 2, up to the semicolon. -/
def queryPattern : Pattern :=
  declaration (.seq (.group 2 (.lazy fun _ => true)) (.exactly ";"))

/-- A cursor for a word: group 2. -/
def dynamicPattern : Pattern :=
  declaration (.group 2 .word1)

/-- The text of a group in small letters. -/
def lowered (source : List Char) (o : Occurrence) (n : Nat) : String :=
  String.ofList (lower (o.groupText source n))

/-- A statement about a cursor: the name and the stretch of the text that it takes. -/
structure Use where
  cursor : String
  span : Span

/-- The statements about cursors that a pattern finds. -/
def uses (p : Pattern) (source : List Char) : List Use :=
  (p.findAll source).map fun o => ⟨lowered source o 1, o.span⟩

/-- How a cursor is declared. -/
structure Declared where
  line : Nat
  query : List Char
  isDynamic : Bool

/-- The names of the prepared statements. -/
def prepared (source : List Char) : List String :=
  (uses preparePattern source).map (·.cursor)

/-- The declarations of cursors for queries. -/
def queryDeclarations (source : List Char) : List (String × Declared) :=
  (queryPattern.findAll source).map fun o =>
    (lowered source o 1, ⟨lineAt source o.span.start, strip (o.groupText source 2), false⟩)

/-- The declarations of cursors for prepared statements. -/
def dynamicDeclarations (source : List Char) : List (String × Declared) :=
  let names := prepared source
  ((dynamicPattern.findAll source).filter fun o => names.contains (lowered source o 2)).map fun o =>
    (lowered source o 1, ⟨lineAt source o.span.start, [], true⟩)

/-- The declared cursors; a later declaration of the same name counts, and one for a prepared statement
counts as later. -/
def declarations (source : List Char) : Table Declared :=
  Table.ofEntries (queryDeclarations source ++ dynamicDeclarations source)

end EsqlAudit.Cursor

namespace EsqlAudit

structure Cursor where
  name : String
  declared : Cursor.Declared
  openLines : List Nat
  fetchLines : List Nat
  closeLines : List Nat

end EsqlAudit

namespace EsqlAudit.Cursor
open Text

/-- The lines of the uses of a cursor. -/
def linesOf (source : List Char) (uses : List Use) (name : String) : List Nat :=
  (uses.filter (·.cursor == name)).map fun u => lineAt source u.span.start

/-- The cursors of a text with their lines. -/
def cursors (source : List Char) : List Cursor :=
  let opens := uses openPattern source
  let fetches := uses fetchPattern source
  let closes := uses closePattern source
  (declarations source).map fun (name, d) =>
    { name, declared := d
      openLines := linesOf source opens name
      fetchLines := linesOf source fetches name
      closeLines := linesOf source closes name }

end EsqlAudit.Cursor

import EsqlAudit.Sql.Statement
import EsqlAudit.Table
import EsqlAudit.Text.Line

/-!
Embedded SQL blocks of a host program, and the plain C text that is left when each block is replaced.

Three passes run one after the other. Declare sections lose their delimiters and keep the declarations
between them. Every other `EXEC SQL` statement becomes a call that names its kind. Precompiler options
(`EXEC ORACLE`) become one fixed call.
-/
namespace EsqlAudit.Sql
open Text

/-- A block, with its position, line and text in the text that its pass read. -/
structure Block where
  start : Nat
  stop : Nat
  line : Nat
  content : List Char
  kind : Kind

/-- `EXEC`, a word, and everything up to the next semicolon; group 1 is the statement itself. -/
def execPattern (w : String) : Pattern :=
  .all [.word "EXEC", .blanks1, .word w, .blanks1, .group 1 (.lazy fun _ => true), .blanks,
    .exactly ";"]

/-- `EXEC SQL BEGIN DECLARE SECTION;` or its `END`. -/
def sectionMark (w : String) : Pattern :=
  .all [.word "EXEC", .blanks1, .word "SQL", .blanks1, .word w, .blanks1, .word "DECLARE", .blanks1,
    .word "SECTION", .blanks, .exactly ";"]

/-- A declare section; group 1 is what stands between its marks. -/
def sectionPattern : Pattern :=
  .all [sectionMark "BEGIN", .group 1 (.lazy fun _ => true), sectionMark "END"]

/-- A declare section as comments around its declarations. -/
def openSection (declarations : List Char) : List Char :=
  "/* EXEC SQL DECLARE SECTION */\n".toList ++ declarations ++ "\n/* END DECLARE SECTION */".toList

/-- The call that stands for a statement of a kind. -/
def placeholder (k : Kind) : List Char :=
  "__exec_sql_".toList ++ lower k.name.toList ++ "__()".toList

/-- Whether a statement is a mark of a declare section that has no partner. -/
def isSectionMark (statement : List Char) : Bool :=
  let s := upper (strip statement)
  "BEGIN DECLARE".toList.isPrefixOf s || "END DECLARE".toList.isPrefixOf s

/-- A pass over a text: the blocks found and the text with each of them replaced. -/
structure Pass where
  blocks : List Block
  text : List Char

/-- Opens every declare section. -/
def openSections (source : List Char) : Pass :=
  let found := sectionPattern.findAll source
  { blocks := found.map fun o =>
      ⟨o.span.start, o.span.stop, lineIn (lineStarts source) o.span.start, o.text source,
        .declareSection⟩
    text := splice source (found.map fun o => (o.span, openSection (o.groupText source 1))) }

/-- Replaces every `EXEC SQL` statement that is no mark of a declare section. -/
def replaceStatements (source : List Char) : Pass :=
  let starts := lineStarts source
  let found := ((execPattern "SQL").findAll source).filter fun o =>
    !isSectionMark (o.groupText source 1)
  let blocks := found.map fun o : Occurrence =>
    (⟨o.span.start, o.span.stop, lineIn starts o.span.start, o.text source,
      classify (strip (o.groupText source 1))⟩ : Block)
  { blocks, text := splice source (blocks.map fun b => (⟨b.start, b.stop⟩, placeholder b.kind)) }

/-- Replaces every precompiler option. -/
def replaceOptions (source : List Char) : List Char :=
  (execPattern "ORACLE").replaceAll (fun _ => "__exec_oracle__()".toList) source

/-- The outcome of preparing a host program: the C text, the blocks, and where the lines start in the
text with opened declare sections, by which later positions are told. -/
structure Prepared where
  text : List Char
  blocks : List Block
  starts : List Nat

/-- Turns a host program into plain C text. -/
def prepare (source : List Char) : Prepared :=
  let sections := openSections source
  let statements := replaceStatements sections.text
  { text := replaceOptions statements.text
    blocks := sections.blocks ++ statements.blocks
    starts := lineStarts sections.text }

/-- How often each kind occurs, in the order of first appearance. -/
def countKinds (blocks : List Block) : Counter Kind :=
  blocks.foldl (fun counts b => counts.add b.kind) []

end EsqlAudit.Sql

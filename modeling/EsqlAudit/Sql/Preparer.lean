import EsqlAudit.Sql.Block

/-!
A preparer of host programs. It keeps the blocks that it has found and where the lines start in the text that it
reads; it tells the line of a block by these. Both are kept from one program to the next.
-/
namespace EsqlAudit.Sql
open Text

structure Preparer where
  blocks : List Block
  starts : List Nat

namespace Preparer

/-- A preparer that has seen no program yet. -/
def new : Preparer := ⟨[], []⟩

/-- Turns to the lines of a text. -/
def turnTo (p : Preparer) (source : List Char) : Preparer :=
  { p with starts := lineStarts source }

/-- Enters a block. -/
def enter (source : List Char) (kindOf : Occurrence → Kind) (p : Preparer) (o : Occurrence) : Preparer :=
  { p with
    blocks := p.blocks ++
      [⟨o.span.start, o.span.stop, lineIn p.starts o.span.start, o.text source, kindOf o⟩] }

/-- Opens every declare section and turns to the lines of the text that is left. -/
def openSections (p : Preparer) (source : List Char) : List Char × Preparer :=
  let found := sectionPattern.findAll source
  let p := found.foldl (enter source fun _ => .declareSection) p
  let text := splice source (found.map fun o => (o.span, openSection (o.groupText source 1)))
  (text, p.turnTo text)

/-- Replaces every `EXEC SQL` statement that is no mark of a declare section. -/
def replaceStatements (p : Preparer) (source : List Char) : List Char × Preparer :=
  let kindOf (o : Occurrence) := classify (strip (o.groupText source 1))
  let found := ((execPattern "SQL").findAll source).filter fun o => !isSectionMark (o.groupText source 1)
  (splice source (found.map fun o => (o.span, placeholder (kindOf o))), found.foldl (enter source kindOf) p)

/-- Forgets the blocks of the program before and turns the next one into plain C text. -/
def run (p : Preparer) (source : List Char) : List Char × Preparer :=
  let p : Preparer := { p with blocks := [] }
  let (text, p) := (p.turnTo source).openSections source
  let (text, p) := p.replaceStatements text
  (replaceOptions text, p)

end Preparer

end EsqlAudit.Sql

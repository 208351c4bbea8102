import EsqlAudit.Analysis.Source
import EsqlAudit.Files.Search
import EsqlAudit.Grammar.Unit
import EsqlAudit.Report.Grading

/-!
Benches: figures that the parts of the program give on workloads.
-/
namespace EsqlAudit.Bench

/-- What can end a bench. -/
inductive Fault where
  /-- The workload has no function to look at. -/
  | noFunction
  | analysis (fault : Analysis.Fault)
  | pattern (fault : Files.PatternFault)
  | group (fault : UnknownGroup)

/-- The figures of a bench, or what ended it. -/
abbrev Figures := Except Fault (List Json)

/-- The tree of a plain C text by the small grammar. -/
def parse (source : List Char) : Option Syntax.Node :=
  Grammar.tree? source

/-- A plain C text with its tree. -/
def program (source : List Char) : Syntax.Program :=
  .load source (parse source)

/-- A measure whose fault ends the bench. -/
def measured {α : Type} (r : Except Utf8.Fault α) : Except Fault α :=
  r.mapError fun e => .analysis (.undecodable e)

/-- A number whose fault ends the bench. -/
def worked {α : Type} (r : Except Complexity.NumberFault α) : Except Fault α :=
  r.mapError fun e => .analysis (.number e)

/-- The first function of a program. -/
def firstFunction (p : Syntax.Program) : Except Fault Function := do
  match ← measured (Function.all p) with
  | f :: _ => return f
  | [] => throw .noFunction

end EsqlAudit.Bench

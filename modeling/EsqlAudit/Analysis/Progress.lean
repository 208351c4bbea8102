import EsqlAudit.Analysis.Analyzer

/-!
Analyses that tell a listener of each file before it is analyzed. What the listener makes of a notice and keeps is its
own affair.
-/
namespace EsqlAudit.Analysis
open Files

/-- The path of a file, its number from 1 on, and how many files there are. -/
structure Notice where
  path : String
  number : Nat
  total : Nat

namespace Analyzer

/-- Analyzes files one after the other, numbered from the given number on. -/
def eachTelling {σ : Type} (a : Analyzer) (w : Surroundings) (tell : σ → Notice → σ) (total number : Nat) (kept : σ) :
    List String → (List FileMetrics × σ) × Analyzer
  | [] => (([], kept), a)
  | path :: rest =>
    let kept := tell kept ⟨path, number, total⟩
    let (f, a) := a.file w path
    let ((fs, kept), a) := a.eachTelling w tell total (number + 1) kept rest
    ((f :: fs, kept), a)

/-- The report on some files, with the inventory as it is then, and what the listener has kept. -/
def surveyTelling {σ : Type} (a : Analyzer) (w : Surroundings) (tell : σ → Notice → σ) (kept : σ)
    (paths : List String) : (Report × σ) × Analyzer :=
  let ((files, kept), a) := a.eachTelling w tell paths.length 1 kept paths
  ((⟨files, whenOn a.options.todos a.inventory.toRecord⟩, kept), a)

/-- The report on the files that patterns select in a directory, and what the listener has kept. -/
def directoryTelling {σ : Type} (a : Analyzer) (w : Surroundings) (tell : σ → Notice → σ) (kept : σ)
    (directory : String) (recursive : Bool) (patterns : List (List Char)) :
    Except PatternFault (Report × σ) × Analyzer :=
  match selectPaths w.disk (Path.ofText directory.toList) recursive patterns with
  | .error e => (.error e, a.clear)
  | .ok none => (.ok (.empty, kept), a.clear)
  | .ok (some paths) =>
    let (surveyed, a) := a.clear.surveyTelling w tell kept paths
    (.ok surveyed, a)

end Analyzer

end EsqlAudit.Analysis

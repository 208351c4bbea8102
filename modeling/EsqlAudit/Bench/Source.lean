import EsqlAudit.Bench.Basic
import EsqlAudit.Workload.Source

/-!
Benches of what is found in one source: statements, functions, measures, notes, cursors and memory.
-/
namespace EsqlAudit.Bench
open Complexity Text

/-- How often each of some names occurs, in the order of the names. -/
def tally (counts : List (String × Nat)) : Json :=
  .arr ((counts.mergeSort fun a b => decide (a.1 ≤ b.1)).map fun (name, n) =>
    .arr [.str name, .ofNat n])

/-- The embedded statements of a host program. -/
def statements (n : Nat) : Figures :=
  let p := Sql.prepare (Workload.hostProgram n)
  .ok [.ofNat p.text.length, .ofNat p.blocks.length,
    tally ((Sql.countKinds p.blocks).map fun (k, n) => (k.name, n)),
    .ofNat (lineAt "a\nb".toList 2)]

/-- A function between words, and one that does not end. -/
def wordBlocks : List String :=
  ["", "VOID legacy(INT a)", "begin", "    a = a + 1;", "end",
   "", "VOID unfinished(INT b)", "begin", "    b = 1;"]

/-- The tree and the functions of a plain C text, and what there is without a tree. -/
def functions (n : Nat) : Figures := do
  let p := program (Workload.functions n ++ Workload.joined wordBlocks)
  let fs ← measured (Function.all p)
  let texts ← measured ((p.nodes.take 1).mapM p.nodeText)
  let start := texts.map fun s => Json.str (String.ofList (s.toList.take 4))
  let nothing := Syntax.Program.none
  let absent := [nothing.root, nothing.nodes.head?, (nothing.nodesNamed "if_statement").head?].map
    fun node? => (node?.map fun n => Json.str n.kind.name).getD .null
  return [.ofNat fs.length, .int (totalOf (fs.map (·.lineCount))), .ofNat p.nodes.length,
    .ofNat (p.nodesNamed "if_statement").length, .bool p.hasErrors,
    .arr [.ofNat p.lineCount, .ofNat p.nonEmptyLineCount], .arr (start ++ absent)]

/-- A function without a node, as the scan for words finds it. -/
def nodeless : Function :=
  { name := "legacy", startLine := 1, endLine := 4, node := none, parameters := [],
    returnType := "void" }

/-- The sum of numbers. -/
def sumOf (ns : List Nat) : Json :=
  .int (totalOf (ns.map Int.ofNat))

/-- Cyclomatic complexities. -/
def cyclomatics (n : Nat) : Figures := do
  let p := program (Workload.functions n)
  let s := Session.start p
  let all ← measured (s.measureAll Session.measureCyclomatic).1
  let bare ← measured (s.measureCyclomatic nodeless).1
  let (_, total) ← measured (s.explainCyclomatic (← firstFunction p)).1
  return [sumOf (all.map (·.2)), .ofNat all.length, .ofNat bare, .ofNat total]

/-- Cognitive complexities. -/
def cognitives (n : Nat) : Figures := do
  let p := program (Workload.functions n)
  let s := Session.start p
  let all ← measured (s.measureAll Session.measureCognitive).1
  let explained ← measured (s.forFunctions Session.explainCognitive).1
  let (_, total) ← measured (s.explainCognitive (← firstFunction p)).1
  return [sumOf (all.map (·.2)), sumOf (explained.map fun (_, b, _) => b.maxNesting),
    .ofNat total]

/-- Halstead figures. -/
def halsteads (n : Nat) : Figures := do
  let p := program (Workload.functions n)
  let s := Session.start p
  let all ← measured (s.measureAll Session.measureVocabulary).1
  let bare := (← measured (s.measureVocabulary nodeless).1).counts
  let words := (← measured (s.measureVocabulary (← firstFunction p)).1).counts
  let rounded (places : Nat) (x : Except NumberFault Float) : Except Fault Json := do
    return .float (Decimal.roundTo places (← worked x))
  return [.ofNat all.length,
    .arr [.int bare.vocabulary, ← rounded 2 bare.volume, ← rounded 2 bare.difficulty,
      ← rounded 2 bare.effort],
    .arr [.int words.vocabulary, .int words.length, ← rounded 2 words.calculatedLength,
      ← rounded 2 words.volume, ← rounded 2 words.difficulty, ← rounded 2 words.effort,
      ← rounded 2 words.timeSeconds, ← rounded 2 words.timeMinutes, ← rounded 4 words.bugs]]

/-- A header without labels. -/
def plainHeader : List String :=
  ["/*", " * Plain header title line", " *", " * This is the main processing module for things.",
   " * It handles various operations on data.", " */", "int x;"]

/-- Notes, headers and the inventory of three modules. -/
def comments (n : Nat) : Figures :=
  let source := Workload.comments n
  let plain := Workload.joined plainHeader
  let todos := Comment.todos source
  let labeled := Comment.Module.ofSource source "dense.pc"
  let unlabeled := Comment.Module.ofSource plain "plain.pc"
  let inventory := (["one/a.pc", "two/b.pc", "three/c.pc"].map (Comment.Module.ofSource plain)).foldl
    Comment.Inventory.add .empty
  .ok [.ofNat todos.length, sumOf ((Comment.byPriority todos).map (·.2.length)),
    .ofNat (Comment.byTag todos).length, .str labeled.title, .str unlabeled.title,
    .str unlabeled.description, .ofNat inventory.modules.length,
    .ofNat inventory.directories.length, .ofStrings ((todos.take 3).map (·.tag))]

/-- Cursors and the issues with them. -/
def cursors (n : Nat) : Figures :=
  let r := Cursor.examine (Workload.cursors n)
  let prepared := Cursor.examine
    "EXEC SQL PREPARE s FROM :q; EXEC SQL DECLARE c CURSOR FOR s;".toList
  .ok [.ofNat r.cursors.length, .ofNat r.issues.length, .ofNat r.nestedCount,
    tally ([Severity.error, .info, .warning].map fun s => (s.name, r.countOf s)),
    sumOf (r.cursors.map (·.fetchLines.length)), .ofNat prepared.cursors.length]

/-- Issues with memory, and a line that a text does not have. -/
def memory (n : Nat) : Figures :=
  let source := Workload.memory n
  let r := Memory.examine source
  let beyond : Int := newlines source + 10
  .ok [.ofNat r.issues.length, .ofNat (r.countOf .critical), .ofNat (r.countOf .error),
    .ofNat (r.countOf .warning), .ofNat r.allocations.length, .ofChars (lineText source beyond),
    .ofNat (linePosition "".toList 1)]

end EsqlAudit.Bench

import EsqlAudit.Report.Console

/-!
What is shown on a console, as plain lines.
-/
namespace EsqlAudit.Console

/-- Whether a character can stand in a style mark. -/
def isStyleChar (c : Char) : Bool :=
  c.isLower || c == ' ' || c == '/'

/-- A text without the style marks that stand in brackets. -/
def withoutStyles : List Char → List Char
  | [] => []
  | c :: rest =>
    let inside := rest.takeWhile isStyleChar
    if c == '[' && !inside.isEmpty && (rest.drop inside.length).head? == some ']' then
      withoutStyles (rest.drop (inside.length + 1))
    else c :: withoutStyles rest
termination_by s => s.length
decreasing_by
  · simp only [List.length_drop, List.length_cons]; omega
  · simp only [List.length_cons]; omega

/-- A text as it is read. -/
def plain (s : String) : String := String.ofList (withoutStyles s.toList)

/-- The lines of a thing shown. Progress leaves no lines. -/
def Item.lines : Item → List String
  | .line s => [plain s]
  | .table headed columns rows =>
    (if headed then [columns.map (·.title)] else []) ++ rows |>.map fun cells =>
      "  ".intercalate (cells.map plain)
  | .panel s _ => [ruler, plain s, ruler]
  | .task _ _ | .update _ _ => []

end EsqlAudit.Console

import EsqlAudit.Function.Tree
import EsqlAudit.Text.Line
import EsqlAudit.Text.Search

/-!
Functions written with the words `begin` and `end` instead of braces. A declaration on one line, the
word `begin` within five lines, and as many `end` as `begin` after it make a function.
-/
namespace EsqlAudit.Function
open Text

/-- Letters of a type name, without regard to case, or an underscore. -/
def isTypeStart (c : Char) : Bool :=
  let k := caseKey c
  ('a' ≤ k && k ≤ 'z') || c == '_'

def isTypeChar (c : Char) : Bool :=
  isTypeStart c || c.isDigit

/-- The name of a type: group 1. -/
def typeName : Pattern :=
  .group 1 (.seq (.one isTypeStart) (.greedy isTypeChar))

/-- A type (group 1), a name (group 2) and a closed list of parameters. -/
def declarationPattern : Pattern :=
  .all [.blanks, typeName, .blanks1, .group 2 .word1, .blanks, .exactly "(", .greedy (· != ')'),
    .exactly ")"]

/-- A whole word, without regard to case. -/
def wholeWord (w : String) : Pattern :=
  .all [.wordEdge, .word w, .wordEdge]

/-- How often a whole word occurs. -/
def countWord (w : String) (s : List Char) : Nat :=
  ((wholeWord w).findAll s).length

/-- The line up to the first `//`. -/
def beforeLineComment : List Char → List Char
  | [] => []
  | c :: rest => if "//".toList.isPrefixOf (c :: rest) then [] else c :: beforeLineComment rest

/-- A block comment that starts and ends on one line. -/
def blockCommentPattern : Pattern :=
  .all [.exactly "/*", .lazy notNewline, .exactly "*/"]

/-- A line without its comments: nothing from the first `//` on, and no block comments. -/
def removeComments (line : List Char) : List Char :=
  blockCommentPattern.replaceAll (fun _ => []) (beforeLineComment line)

/-- Parameters of a declaration: the names after their types in the first parentheses. -/
def declaredParameters (line : List Char) : List String :=
  match (Pattern.all [.exactly "(", .group 1 (.greedy (· != ')')), .exactly ")"]).find? line with
  | none => []
  | some o =>
    let inside := strip (o.groupText line 1)
    ((Pattern.all [typeName, .blanks1, .group 2 .word1]).findAll inside).map fun o =>
      String.ofList (o.groupText inside 2)

/-- How many lines after the first of them the word `begin` stands, if within five lines. -/
def beginOffset (lines : List (List Char)) : Option Nat :=
  (lines.take 5).findIdx? (wholeWord "begin").occursIn

/-- How many lines after the first of them the open `begin`s are all ended, counting whole lines. -/
def endOffset (depth : Int) : List (List Char) → Option Nat
  | [] => none
  | line :: rest =>
    let text := removeComments line
    let depth := depth + countWord "begin" text - countWord "end" text
    if depth == 0 then some 0 else (endOffset depth rest).map (· + 1)

/-- The line with the `end` for a `begin` on line `b`, looked for on the lines behind it. -/
def matchingEnd? (lines : List (List Char)) (b : Nat) : Option Nat :=
  (endOffset 1 (lines.drop (b + 1))).map (b + 1 + ·)

/-- How many lines after its declaration a function ends. -/
def bodyOffset (lines : List (List Char)) : Option Nat :=
  (beginOffset lines).bind (matchingEnd? lines)

/-- The type a function is declared with, in small letters. -/
def normalizedType (type : List Char) : String :=
  String.ofList (lower (upper type))

/-- The functions from line `n` on, after the next `skip` lines have been passed over. -/
def beginEndFrom (n : Nat) : Nat → List (List Char) → List Function
  | _, [] => []
  | skip + 1, _ :: rest => beginEndFrom (n + 1) skip rest
  | 0, line :: rest =>
    match declarationPattern.atStart? line with
    | none => beginEndFrom (n + 1) 0 rest
    | some o =>
      match bodyOffset (line :: rest) with
      | none => beginEndFrom (n + 1) 0 rest
      | some e =>
        { name := String.ofList (o.groupText line 2), startLine := n, endLine := n + e, node := none,
          parameters := declaredParameters line,
          returnType := normalizedType (o.groupText line 1) } :: beginEndFrom (n + 1) e rest

/-- The functions of a text written with `begin` and `end`. -/
def beginEnd (source : List Char) : List Function :=
  beginEndFrom 1 0 (lines source)

/-- All functions of a program: those of the syntax tree, then those written with `begin` and `end` whose
names the tree does not have. -/
def all (p : Syntax.Program) : Except Utf8.Fault (List Function) := do
  let inTree ← inTree p
  let others := (beginEnd p.text).filter fun f => !inTree.any (·.name == f.name)
  return inTree ++ others

end EsqlAudit.Function

import EsqlAudit.Grammar.Statement

/-!
# Structured programs

A part of C without jumps: assignments and returns, blocks, `if`, `while` and `do`, over expressions of names,
whole numbers and binary operators. A program is written with a space between tokens, and with parentheses
where the levels of the operators want them.
-/

namespace EsqlAudit.Grammar.Structured

/-! ## Names, numerals, operators -/

/-- Words that are no names: types, `sizeof` and the words of statements. -/
def reserved : List String :=
  typeWords ++ ["sizeof", "if", "else", "while", "for", "do", "switch", "case", "default", "goto", "break",
    "continue", "return"]

/-- The characters that a name goes on with. -/
def isNameChar (c : Char) : Bool :=
  c.isAlphanum || c == '_'

def isName (s : String) : Bool :=
  match s.toList with
  | [] => false
  | c :: rest => startsWord c && rest.all isNameChar && !reserved.contains s

structure Name where
  text : String
  valid : isName text = true

def isNumeral (s : String) : Bool :=
  !s.toList.isEmpty && s.toList.all Char.isDigit

structure Numeral where
  text : String
  valid : isNumeral text = true

/-- A binary operator and its level. -/
structure Operator where
  text : String
  level : Nat
  valid : (text, level) ∈ binaryOperators

/-! ## Expressions and statements -/

inductive Expr where
  | name (x : Name)
  | number (n : Numeral)
  | op (o : Operator) (left right : Expr)

inductive Stmt where
  | assign (x : Name) (e : Expr)
  | ret (e : Expr)
  | empty
  | block (body : List Stmt)
  | ifThen (cond : Expr) (body : List Stmt)
  | ifElse (cond : Expr) (body other : List Stmt)
  | whileLoop (cond : Expr) (body : List Stmt)
  | doLoop (body : List Stmt) (cond : Expr)

/-- How tightly an expression is bound; a single token more tightly than any operator. -/
def Expr.level : Expr → Nat
  | name _ | number _ => 11
  | op o _ _ => o.level

/-! ## Writing -/

/-- A token without its place. -/
structure Lexeme where
  cls : TokenClass
  text : String
deriving DecidableEq

def word (s : String) : Lexeme := ⟨.word, s⟩

def mark (s : String) : Lexeme := ⟨.mark, s⟩

def parenthesized (ls : List Lexeme) : List Lexeme :=
  mark "(" :: (ls ++ [mark ")"])

def braced (ls : List Lexeme) : List Lexeme :=
  mark "\x7b" :: (ls ++ [mark "\x7d"])

/-- Lexemes in parentheses if these are needed. -/
def enclosed (needed : Bool) (ls : List Lexeme) : List Lexeme :=
  if needed then parenthesized ls else ls

/-- An expression with parentheses around a left operand of a lower level and around a right operand of a
lower or the same level. -/
def Expr.lexemes : Expr → List Lexeme
  | name x => [word x.text]
  | number n => [⟨.number, n.text⟩]
  | op o l r =>
    enclosed (l.level < o.level) l.lexemes ++ mark o.text :: enclosed (r.level ≤ o.level) r.lexemes

mutual
def Stmt.lexemes : Stmt → List Lexeme
  | assign x e => word x.text :: mark "=" :: (e.lexemes ++ [mark ";"])
  | ret e => word "return" :: (e.lexemes ++ [mark ";"])
  | empty => [mark ";"]
  | block body => braced (Stmt.lexemesAll body)
  | ifThen cond body => word "if" :: (parenthesized cond.lexemes ++ braced (Stmt.lexemesAll body))
  | ifElse cond body other =>
    word "if" :: (parenthesized cond.lexemes ++ braced (Stmt.lexemesAll body) ++
      word "else" :: braced (Stmt.lexemesAll other))
  | whileLoop cond body => word "while" :: (parenthesized cond.lexemes ++ braced (Stmt.lexemesAll body))
  | doLoop body cond =>
    word "do" :: (braced (Stmt.lexemesAll body) ++ word "while" :: (parenthesized cond.lexemes ++ [mark ";"]))
def Stmt.lexemesAll : List Stmt → List Lexeme
  | [] => []
  | s :: rest => s.lexemes ++ Stmt.lexemesAll rest
end

/-- A function without parameters whose body are the statements. -/
def functionLexemes (body : List Stmt) : List Lexeme :=
  [word "int", word "f", mark "(", mark ")"] ++ braced (Stmt.lexemesAll body)

/-- The texts of lexemes with a space between them. -/
def written (ls : List Lexeme) : List Char :=
  [' '].intercalate (ls.map fun l => l.text.toList)

/-- The text of a function whose body are the statements. -/
def source (body : List Stmt) : List Char :=
  written (functionLexemes body)

example :
    let a : Expr := .name ⟨"a", by decide⟩
    let minus (l r : Expr) : Expr := .op ⟨"-", 9, by decide⟩ l r
    source [.whileLoop (minus (minus a a) (minus a a)) [], .ret (.number ⟨"0", by decide⟩)] =
      "int f ( ) \x7b while ( a - a - ( a - a ) ) \x7b \x7d return 0 ; \x7d".toList := by decide

end EsqlAudit.Grammar.Structured

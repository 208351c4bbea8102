import EsqlAudit.Text.Alphanumeric
import EsqlAudit.Text.Blank

/-!
Tokens of C text. The text is read byte by byte, each byte being the character of that code. White
space, comments and characters that start no token are passed over.
-/
namespace EsqlAudit.Grammar
open Text

inductive TokenClass where
  | word | number | string | character | mark
deriving DecidableEq, Repr

/-- A token and the bytes it covers, from `start` up to `stop`. -/
structure Token where
  cls : TokenClass
  text : String
  start : Nat
  stop : Nat
deriving DecidableEq, Repr

/-- The marks of several characters, longer ones before shorter ones. -/
def compoundMarks : List String :=
  ["<<=", ">>=", "->", "++", "--", "&&", "||", "<<", ">>", "==", "!=", "<=", ">=", "+=", "-=", "*=",
   "/=", "%=", "&=", "|=", "^="]

/-- The marks of one character. -/
def simpleMarks : List Char :=
  "-+*/%=<>!&|^~?:;,.()\x7b\x7d[]".toList

/-- The number of characters up to and including the first `*/`. -/
def commentLength : List Char → Option Nat
  | [] => none
  | c :: rest =>
    if "*/".toList.isPrefixOf (c :: rest) then some 2 else (commentLength rest).map (· + 1)

/-- The number of characters up to and including the closing quote; a backslash takes the next
character with it. -/
def quotedLength (quote : Char) : List Char → Option Nat
  | [] => none
  | '\\' :: _ :: rest => (quotedLength quote rest).map (· + 2)
  | c :: rest =>
    if c == quote then some 1
    else if c == '\\' then none
    else (quotedLength quote rest).map (· + 1)

/-- The number of characters of a number: digits, then possibly a point and digits. -/
def numberLength (s : List Char) : Nat :=
  let whole := s.takeWhile Char.isDigit
  match s.drop whole.length with
  | '.' :: rest =>
    let part := rest.takeWhile Char.isDigit
    if part.isEmpty then whole.length else whole.length + 1 + part.length
  | _ => whole.length

/-- Whether a character starts a word. -/
def startsWord (c : Char) : Bool :=
  c.isAlpha || c == '_'

/-- What stands at the front of a text: its length and, unless it is passed over, its class. -/
def scan (c : Char) (rest : List Char) : Nat × Option TokenClass :=
  if isBlank c then (1, none)
  else if "/*".toList.isPrefixOf (c :: rest) && (commentLength (rest.drop 1)).isSome then
    (2 + (commentLength (rest.drop 1)).getD 0, none)
  else if "//".toList.isPrefixOf (c :: rest) then ((rest.takeWhile (· != '\n')).length + 1, none)
  else if (c == '"' || c == '\'') && (quotedLength c rest).isSome then
    (1 + (quotedLength c rest).getD 0, some (if c == '"' then .string else .character))
  else if c.isDigit then (numberLength (c :: rest), some .number)
  else if startsWord c then ((rest.takeWhile isWord).length + 1, some .word)
  else
    match compoundMarks.find? fun m => m.toList.isPrefixOf (c :: rest) with
    | some m => (m.length, some .mark)
    | none => (1, if simpleMarks.contains c then some .mark else none)

/-- The tokens from position `pos` on, after the next `skip` characters have been passed over. -/
def tokensFrom (pos : Nat) : Nat → List Char → List Token
  | _, [] => []
  | skip + 1, _ :: rest => tokensFrom (pos + 1) skip rest
  | 0, c :: rest =>
    match scan c rest with
    | (n, some cls) =>
      ⟨cls, String.ofList ((c :: rest).take n), pos, pos + n⟩ :: tokensFrom (pos + 1) (n - 1) rest
    | (n, none) => tokensFrom (pos + 1) (n - 1) rest

/-- The tokens of a text given as bytes. -/
def tokenize (bytes : List UInt8) : List Token :=
  tokensFrom 0 0 (bytes.map fun b => Char.ofNat b.toNat)

/-- Words that name a type. -/
def typeWords : List String :=
  ["int", "char", "void", "float", "double", "long", "short", "unsigned", "signed"]

namespace Token

def isWord (t : Token) : Bool := t.cls == .word

def isTypeWord (t : Token) : Bool := typeWords.contains t.text

end Token

end EsqlAudit.Grammar

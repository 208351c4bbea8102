import EsqlAudit.Decimal.Shortest
import EsqlAudit.Json.Value

/-!
JSON text. A document is written on one line, with a blank after each comma and colon, or indented with
one item a line.
-/
namespace EsqlAudit.Json
open Decimal

/-- How a document is written: the blanks of one level of indentation, if it is indented at all, and
whether characters beyond ASCII are escaped. -/
structure Style where
  indent : Option Nat
  ascii : Bool

/-- Four hexadecimal digits. -/
def hex4 (n : Nat) : List Char :=
  let digits := Nat.toDigits 16 n
  List.replicate (4 - digits.length) '0' ++ digits

/-- A code point as one escaped unit, or as two beyond the basic plane. -/
def escapeUnits (n : Nat) : List Char :=
  if n < 0x10000 then '\\' :: 'u' :: hex4 n
  else
    let m := n - 0x10000
    '\\' :: 'u' :: (hex4 (0xD800 + m / 0x400) ++ '\\' :: 'u' :: hex4 (0xDC00 + m % 0x400))

/-- A character inside quotes. -/
def escapeChar (ascii : Bool) (c : Char) : List Char :=
  if c == '"' then ['\\', '"']
  else if c == '\\' then ['\\', '\\']
  else if c == '\n' then ['\\', 'n']
  else if c == '\r' then ['\\', 'r']
  else if c == '\t' then ['\\', 't']
  else if c == '\x08' then ['\\', 'b']
  else if c == '\x0c' then ['\\', 'f']
  else if c.toNat < 32 || (ascii && 126 < c.toNat) then escapeUnits c.toNat
  else [c]

/-- A text in quotes. -/
def quote (ascii : Bool) (s : String) : String :=
  String.ofList ('"' :: (s.toList.flatMap (escapeChar ascii) ++ ['"']))

/-- A double as JSON text. -/
def floatText (x : Float) : String :=
  match decode x with
  | .finite b => Layout.report.finite b
  | .infinite negative => if negative then "-Infinity" else "Infinity"
  | .notANumber => "NaN"

/-- The start of a new line at a level of indentation. -/
def newline (width level : Nat) : String :=
  String.ofList ('\n' :: List.replicate (width * level) ' ')

/-- Items between brackets: nothing between empty brackets, else on one line or a line each. -/
def enclose (style : Style) (level : Nat) (opening closing : String) (items : List String) : String :=
  if items.isEmpty then opening ++ closing
  else
    match style.indent with
    | none => opening ++ String.intercalate ", " items ++ closing
    | some w =>
      opening ++ newline w (level + 1) ++ String.intercalate ("," ++ newline w (level + 1)) items ++
        newline w level ++ closing

mutual
/-- The text of a value at a level of indentation. -/
def printAt (style : Style) (level : Nat) : Json → String
  | null => "null"
  | bool b => if b then "true" else "false"
  | int i => toString i
  | float x => floatText x
  | str s => quote style.ascii s
  | arr items => enclose style level "[" "]" (printItems style (level + 1) items)
  | obj members => enclose style level "\x7b" "\x7d" (printMembers style (level + 1) members)
def printItems (style : Style) (level : Nat) : List Json → List String
  | [] => []
  | v :: rest => printAt style level v :: printItems style level rest
def printMembers (style : Style) (level : Nat) : List (String × Json) → List String
  | [] => []
  | (k, v) :: rest =>
    (quote style.ascii k ++ ": " ++ printAt style level v) :: printMembers style level rest
end

/-- The text of a document. -/
def print (style : Style) (v : Json) : String :=
  printAt style 0 v

end EsqlAudit.Json

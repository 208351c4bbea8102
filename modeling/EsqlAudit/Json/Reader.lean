import EsqlAudit.Decimal.Binary
import EsqlAudit.Json.Value

/-!
Reading JSON text. The first fault ends the reading and is told with its position.
-/
namespace EsqlAudit.Json
open Decimal

/-- Why a text is no JSON. -/
inductive Reason where
  | value | extra | property | colon | comma | unterminated | control | escape | unicodeEscape | mark
deriving DecidableEq, Repr

/-- A reason and the position it was found at. -/
structure Fault where
  reason : Reason
  pos : Nat
deriving DecidableEq, Repr

def Reason.message : Reason → String
  | value => "Expecting value"
  | extra => "Extra data"
  | property => "Expecting property name enclosed in double quotes"
  | colon => "Expecting ':' delimiter"
  | comma => "Expecting ',' delimiter"
  | unterminated => "Unterminated string starting at"
  | control => "Invalid control character at"
  | escape => "Invalid \\escape"
  | unicodeEscape => "Invalid \\uXXXX escape"
  | mark => "Unexpected UTF-8 BOM (decode using utf-8-sig)"

/-- The fault in words, with the line and column of its position in the text. -/
def Fault.message (f : Fault) (text : List Char) : String :=
  let before := text.take f.pos
  let line := before.count '\n' + 1
  let column := (before.reverse.takeWhile (· != '\n')).length + 1
  s!"{f.reason.message}: line {line} column {column} (char {f.pos})"

/-- What is left to read: a position and the characters from it on. -/
abbrev Input := Nat × List Char

def isJsonBlank (c : Char) : Bool :=
  c == ' ' || c == '\t' || c == '\n' || c == '\r'

def skipBlanks : Input → Input
  | (pos, s) =>
    let blanks := s.takeWhile isJsonBlank
    (pos + blanks.length, s.drop blanks.length)

def hexValue? (c : Char) : Option Nat :=
  if c.isDigit then some (c.toNat - 48)
  else if 'a' ≤ c && c ≤ 'f' then some (c.toNat - 87)
  else if 'A' ≤ c && c ≤ 'F' then some (c.toNat - 55)
  else none

/-- The number of four hexadecimal digits. -/
def hex4? (a b c d : Char) : Option Nat := do
  let a ← hexValue? a
  let b ← hexValue? b
  let c ← hexValue? c
  let d ← hexValue? d
  return ((a * 16 + b) * 16 + c) * 16 + d

/-- The character that a backslash and a letter stand for. -/
def simpleEscape? (c : Char) : Option Char :=
  [('"', '"'), ('\\', '\\'), ('/', '/'), ('b', '\x08'), ('f', '\x0c'), ('n', '\n'), ('r', '\r'),
   ('t', '\t')].lookup c

def isHighUnit (n : Nat) : Bool := 0xD800 ≤ n && n < 0xDC00

def isLowUnit (n : Nat) : Bool := 0xDC00 ≤ n && n < 0xE000

/-- The rest of a text in quotes that was opened at position `opened`, after the characters `acc` in
reverse. A code of four digits at the very end is no code. -/
def readString (opened : Nat) (acc : List Char) (pos : Nat) :
    List Char → Except Fault (String × Input)
  | [] => .error ⟨.unterminated, opened⟩
  | '"' :: rest => .ok (String.ofList acc.reverse, (pos + 1, rest))
  | ['\\'] => .error ⟨.unterminated, opened⟩
  | '\\' :: 'u' :: a :: b :: c :: d :: '\\' :: 'u' :: e :: f :: g :: h :: rest =>
    match hex4? a b c d with
    | none => .error ⟨.unicodeEscape, pos + 1⟩
    | some high =>
      match hex4? e f g h with
      | some low =>
        if isHighUnit high && isLowUnit low then
          if rest.isEmpty then .error ⟨.unicodeEscape, pos + 7⟩
          else
            let n := 0x10000 + (high - 0xD800) * 0x400 + (low - 0xDC00)
            readString opened (Char.ofNat n :: acc) (pos + 12) rest
        else readString opened (Char.ofNat high :: acc) (pos + 6)
          ('\\' :: 'u' :: e :: f :: g :: h :: rest)
      | none => .error ⟨.unicodeEscape, pos + 7⟩
  | '\\' :: 'u' :: a :: b :: c :: d :: rest =>
    match hex4? a b c d with
    | none => .error ⟨.unicodeEscape, pos + 1⟩
    | some n =>
      if rest.isEmpty then .error ⟨.unicodeEscape, pos + 1⟩
      else readString opened (Char.ofNat n :: acc) (pos + 6) rest
  | '\\' :: c :: rest =>
    if c == 'u' then .error ⟨.unicodeEscape, pos + 1⟩
    else
      match simpleEscape? c with
      | some e => readString opened (e :: acc) (pos + 2) rest
      | none => .error ⟨.escape, pos⟩
  | c :: rest =>
    if c.toNat < 32 then .error ⟨.control, pos⟩ else readString opened (c :: acc) (pos + 1) rest

/-- The number that digits make, after `n`. -/
def digitsValue (n : Nat) (digits : List Char) : Nat :=
  digits.foldl (fun n c => n * 10 + (c.toNat - 48)) n

/-- The digits of a whole part: a single zero, or digits that do not start with one. -/
def wholeDigits : List Char → List Char
  | '0' :: _ => ['0']
  | s => s.takeWhile Char.isDigit

/-- The digits after a point, none if no point with a digit follows. -/
def fractionDigits : List Char → List Char
  | '.' :: rest => rest.takeWhile Char.isDigit
  | _ => []

/-- Sign and digits of an exponent, and how many characters it takes. -/
def exponentPart : List Char → Option (Bool × List Char × Nat)
  | e :: s =>
    if e == 'e' || e == 'E' then
      let signed := s.head? == some '-' || s.head? == some '+'
      let digits := (s.drop (if signed then 1 else 0)).takeWhile Char.isDigit
      if digits.isEmpty then none
      else some (s.head? == some '-', digits, 1 + (if signed then 1 else 0) + digits.length)
    else none
  | [] => none

/-- A number at the front of the characters. -/
def readNumber? (pos : Nat) (s : List Char) : Option (Json × Input) :=
  let negative := s.head? == some '-'
  let body := if negative then s.drop 1 else s
  let whole := wholeDigits body
  if whole.isEmpty then none
  else
    let afterWhole := body.drop whole.length
    let fraction := fractionDigits afterWhole
    let fractionSize := if fraction.isEmpty then 0 else fraction.length + 1
    let exponent := exponentPart (afterWhole.drop fractionSize)
    let exponentSize := (exponent.map (·.2.2)).getD 0
    let size := (if negative then 1 else 0) + whole.length + fractionSize + exponentSize
    let value :=
      if fractionSize + exponentSize == 0 then
        let n : Int := digitsValue 0 whole
        int (if negative then -n else n)
      else
        let power : Int := match exponent with
          | some (true, ds, _) => -(digitsValue 0 ds : Int)
          | some (false, ds, _) => digitsValue 0 ds
          | none => 0
        float (ofDecimal negative (digitsValue 0 (whole ++ fraction)) (power - fraction.length))
    some (value, (pos + size, s.drop size))

/-- The words of JSON, those for the numbers that are no finite numbers included. -/
def words : List (String × Json) :=
  [("null", null), ("true", bool true), ("false", bool false), ("NaN", float (0.0 / 0.0)),
   ("Infinity", float (1.0 / 0.0)), ("-Infinity", float (-1.0 / 0.0))]

/-- A word or a number at the front of the characters. -/
def readScalar (input : Input) : Except Fault (Json × Input) :=
  match words.find? fun (w, _) => w.toList.isPrefixOf input.2 with
  | some (w, v) => .ok (v, (input.1 + w.length, input.2.drop w.length))
  | none =>
    match readNumber? input.1 input.2 with
    | some r => .ok r
    | none => .error ⟨.value, input.1⟩

mutual

/-- A value; `fuel` bounds the number of values, members and items still to come. -/
def readValue : Nat → Input → Except Fault (Json × Input)
  | 0, input => .error ⟨.value, input.1⟩
  | fuel + 1, input =>
    match input.2 with
    | '"' :: rest => (readString input.1 [] (input.1 + 1) rest).map fun (s, more) => (str s, more)
    | '[' :: rest =>
      match skipBlanks (input.1 + 1, rest) with
      | (pos, ']' :: more) => .ok (arr [], (pos + 1, more))
      | start => (readItems fuel start).map fun (items, more) => (arr items, more)
    | '\x7b' :: rest =>
      match skipBlanks (input.1 + 1, rest) with
      | (pos, '\x7d' :: more) => .ok (obj [], (pos + 1, more))
      | start =>
        (readMembers fuel start).map fun (members, more) =>
          (obj (Table.ofEntries members), more)
    | _ => readScalar input

/-- The items of an array up to and including its closing bracket. -/
def readItems : Nat → Input → Except Fault (List Json × Input)
  | 0, input => .error ⟨.value, input.1⟩
  | fuel + 1, input =>
    match readValue fuel input with
    | .error e => .error e
    | .ok (v, more) =>
      match skipBlanks more with
      | (pos, ']' :: after) => .ok ([v], (pos + 1, after))
      | (pos, ',' :: after) =>
        (readItems fuel (skipBlanks (pos + 1, after))).map fun (vs, rest) => (v :: vs, rest)
      | (pos, _) => .error ⟨.comma, pos⟩

/-- The members of an object up to and including its closing brace. -/
def readMembers : Nat → Input → Except Fault (List (String × Json) × Input)
  | 0, input => .error ⟨.value, input.1⟩
  | fuel + 1, input =>
    match input.2 with
    | '"' :: rest =>
      match readString input.1 [] (input.1 + 1) rest with
      | .error e => .error e
      | .ok (key, more) =>
        match skipBlanks more with
        | (pos, ':' :: after) =>
          match readValue fuel (skipBlanks (pos + 1, after)) with
          | .error e => .error e
          | .ok (v, more) =>
            match skipBlanks more with
            | (pos, '\x7d' :: after) => .ok ([(key, v)], (pos + 1, after))
            | (pos, ',' :: after) =>
              (readMembers fuel (skipBlanks (pos + 1, after))).map fun (ms, rest) =>
                ((key, v) :: ms, rest)
            | (pos, _) => .error ⟨.comma, pos⟩
        | (pos, _) => .error ⟨.colon, pos⟩
    | _ => .error ⟨.property, input.1⟩

end

/-- The value that a whole text stands for. -/
def parse (text : List Char) : Except Fault Json :=
  if text.head? == some '\ufeff' then .error ⟨.mark, 0⟩
  else
    -- Every value, member and item takes at least one character, and each spends two units of fuel.
    match readValue (2 * text.length + 2) (skipBlanks (0, text)) with
    | .error e => .error e
    | .ok (v, more) =>
      match skipBlanks more with
      | (_, []) => .ok v
      | (pos, _) => .error ⟨.extra, pos⟩

end EsqlAudit.Json

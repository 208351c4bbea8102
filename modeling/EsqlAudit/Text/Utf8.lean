/-!
UTF-8 as bytes: encoding of texts, decoding that stops at the first fault, and decoding that puts a
replacement character for each fault.
-/
namespace EsqlAudit.Utf8

/-- Why bytes are no UTF-8. -/
inductive Defect where
  /-- A byte that no character starts with. -/
  | start
  /-- A character whose next byte does not continue it. -/
  | continuation
  /-- A character cut off by the end. -/
  | cut
deriving DecidableEq, Repr

/-- A stretch of bytes that is no UTF-8, from position `start` up to position `stop`. -/
structure Fault where
  start : Nat
  stop : Nat
  byte : UInt8
  defect : Defect
deriving DecidableEq, Repr

/-- What the bytes at a place make: a character or a defect, and how many bytes that is. -/
inductive Step where
  | char (c : Char) (size : Nat)
  | defect (d : Defect) (size : Nat)

def isContinuation (b : UInt8) : Bool :=
  0x80 ≤ b && b < 0xC0

/-- Six payload bits of a continuation byte. -/
def payload (b : UInt8) : Nat :=
  b.toNat % 64

/-- Whether a second byte rules out overlong forms, surrogates and code points past the last one. -/
def secondFits (b0 b1 : UInt8) : Bool :=
  isContinuation b1 &&
    (if b0 == 0xE0 then 0xA0 ≤ b1
     else if b0 == 0xED then b1 < 0xA0
     else if b0 == 0xF0 then 0x90 ≤ b1
     else if b0 == 0xF4 then b1 < 0x90
     else true)

/-- Reads one character that starts with the byte `b0`. -/
def step (b0 : UInt8) (rest : List UInt8) : Step :=
  if b0 < 0x80 then .char (Char.ofNat b0.toNat) 1
  else if b0 < 0xC2 then .defect .start 1
  else if b0 < 0xE0 then
    match rest with
    | [] => .defect .cut 1
    | b1 :: _ =>
      if isContinuation b1 then .char (Char.ofNat ((b0.toNat % 32) * 64 + payload b1)) 2
      else .defect .continuation 1
  else if b0 < 0xF0 then
    match rest with
    | [] => .defect .cut 1
    | [b1] => if secondFits b0 b1 then .defect .cut 2 else .defect .continuation 1
    | b1 :: b2 :: _ =>
      if !secondFits b0 b1 then .defect .continuation 1
      else if !isContinuation b2 then .defect .continuation 2
      else .char (Char.ofNat (((b0.toNat % 16) * 64 + payload b1) * 64 + payload b2)) 3
  else if b0 < 0xF5 then
    match rest with
    | [] => .defect .cut 1
    | [b1] => if secondFits b0 b1 then .defect .cut 2 else .defect .continuation 1
    | [b1, b2] =>
      if !secondFits b0 b1 then .defect .continuation 1
      else if !isContinuation b2 then .defect .continuation 2
      else .defect .cut 3
    | b1 :: b2 :: b3 :: _ =>
      if !secondFits b0 b1 then .defect .continuation 1
      else if !isContinuation b2 then .defect .continuation 2
      else if !isContinuation b3 then .defect .continuation 3
      else
        .char (Char.ofNat
          ((((b0.toNat % 8) * 64 + payload b1) * 64 + payload b2) * 64 + payload b3)) 4
  else .defect .start 1

/-- Decodes the bytes from position `pos` on after passing over `skip` of them, onto the characters
read before in reverse. -/
def decodeOnto (acc : List Char) (pos : Nat) : Nat → List UInt8 → Except Fault (List Char)
  | _, [] => .ok acc.reverse
  | skip + 1, _ :: rest => decodeOnto acc (pos + 1) skip rest
  | 0, b :: rest =>
    match step b rest with
    | .char c n => decodeOnto (c :: acc) (pos + 1) (n - 1) rest
    | .defect d n => .error ⟨pos, pos + n, b, d⟩

/-- The characters of the bytes, or the first fault in them. -/
def decode (bytes : List UInt8) : Except Fault (List Char) :=
  decodeOnto [] 0 0 bytes

/-- Decodes like `decodeOnto` with a replacement character for each fault. -/
def decodeLossyOnto (acc : List Char) : Nat → List UInt8 → List Char
  | _, [] => acc.reverse
  | skip + 1, _ :: rest => decodeLossyOnto acc skip rest
  | 0, b :: rest =>
    match step b rest with
    | .char c n => decodeLossyOnto (c :: acc) (n - 1) rest
    | .defect _ n => decodeLossyOnto ('�' :: acc) (n - 1) rest

/-- The characters of the bytes, with a replacement character for each fault. -/
def decodeLossy (bytes : List UInt8) : List Char :=
  decodeLossyOnto [] 0 bytes

/-- The bytes of a text. -/
def encode (s : List Char) : List UInt8 :=
  s.flatMap String.utf8EncodeChar

def Defect.message : Defect → String
  | .start => "invalid start byte"
  | .continuation => "invalid continuation byte"
  | .cut => "unexpected end of data"

/-- A byte in two hexadecimal digits. -/
def hexByte (b : UInt8) : String :=
  let digits := Nat.toDigits 16 b.toNat
  String.ofList (if digits.length < 2 then '0' :: digits else digits)

/-- The fault in words. -/
def Fault.message (f : Fault) : String :=
  let place :=
    if f.stop - f.start == 1 then s!"byte 0x{hexByte f.byte} in position {f.start}"
    else s!"bytes in position {f.start}-{f.stop - 1}"
  "'utf-8' codec can't decode " ++ place ++ ": " ++ f.defect.message

end EsqlAudit.Utf8

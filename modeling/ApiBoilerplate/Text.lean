import ApiBoilerplate.Foundation.ByteStream
import ApiBoilerplate.Uuid

/-!
# Text

How bytes are read as text where the program does not insist on valid UTF-8,
how a part is looked for in a text, and how a map of strings is printed as a
JSON object.
-/

namespace ApiBoilerplate.Text

open Foundation

/-- The byte at a position, zero past the end; zero never continues a character. -/
def byteAt (bytes : Bytes) (i : Nat) : Nat := (bytes.getD i 0).toNat

def isContinuation (b : Nat) : Bool := 0x80 ≤ b && b ≤ 0xBF

/-- Whether the second byte fits the first of a three-byte character. -/
def secondOfThree (a b : Nat) : Bool :=
  if a = 0xE0 then 0xA0 ≤ b && b ≤ 0xBF
  else if a = 0xED then 0x80 ≤ b && b ≤ 0x9F
  else isContinuation b

/-- Whether the second byte fits the first of a four-byte character. -/
def secondOfFour (a b : Nat) : Bool :=
  if a = 0xF0 then 0x90 ≤ b && b ≤ 0xBF
  else if a = 0xF4 then 0x80 ≤ b && b ≤ 0x8F
  else isContinuation b

/-- The first character of some bytes, or none for a maximal ill-formed
sequence, with the number of bytes it takes. -/
def nextChar (bytes : Bytes) : Option Char × Nat :=
  let a := byteAt bytes 0
  let b := byteAt bytes 1
  let c := byteAt bytes 2
  let d := byteAt bytes 3
  if a < 0x80 then (some (Char.ofNat a), 1)
  else if 0xC2 ≤ a ∧ a < 0xE0 then
    if isContinuation b then (some (Char.ofNat ((a - 0xC0) * 64 + (b - 0x80))), 2)
    else (none, 1)
  else if 0xE0 ≤ a ∧ a < 0xF0 then
    if !secondOfThree a b then (none, 1)
    else if !isContinuation c then (none, 2)
    else (some (Char.ofNat (((a - 0xE0) * 64 + (b - 0x80)) * 64 + (c - 0x80))), 3)
  else if 0xF0 ≤ a ∧ a < 0xF5 then
    if !secondOfFour a b then (none, 1)
    else if !isContinuation c then (none, 2)
    else if !isContinuation d then (none, 3)
    else
      (some (Char.ofNat
        ((((a - 0xF0) * 64 + (b - 0x80)) * 64 + (c - 0x80)) * 64 + (d - 0x80))), 4)
  else (none, 1)

/-- Every character takes a byte, so as many rounds as there are bytes suffice. -/
def decodeLossy : Nat → Bytes → List Char
  | 0, _ => []
  | _ + 1, [] => []
  | rounds + 1, bytes =>
    let (c, width) := nextChar bytes
    c.getD (Char.ofNat 0xFFFD) :: decodeLossy rounds (bytes.drop width)

def fromUtf8Lossy (bytes : Bytes) : String := String.ofList (decodeLossy bytes.length bytes)

def containsList (part : List Char) : List Char → Bool
  | [] => part.isEmpty
  | c :: text => part.isPrefixOf (c :: text) || containsList part text

def contains (text : List Char) (part : String) : Bool := containsList part.toList text

def escapeChar (c : Char) : List Char :=
  if c = '"' then ['\\', '"']
  else if c = '\\' then ['\\', '\\']
  else if c.toNat = 8 then ['\\', 'b']
  else if c.toNat = 9 then ['\\', 't']
  else if c.toNat = 10 then ['\\', 'n']
  else if c.toNat = 12 then ['\\', 'f']
  else if c.toNat = 13 then ['\\', 'r']
  else if c.toNat < 32 then
    ['\\', 'u', '0', '0', Uuid.hexDigit (c.toNat / 16), Uuid.hexDigit (c.toNat % 16)]
  else [c]

def quoted (s : String) : List Char := '"' :: s.toList.flatMap escapeChar ++ ['"']

/-- A JSON object of strings, its keys in order. -/
abbrev StringMap := List (String × String)

namespace StringMap

/-- Insert into the ordered map; a value already under the key is replaced. -/
def insert (key value : String) : StringMap → StringMap
  | [] => [(key, value)]
  | (k, v) :: rest =>
    if key = k then (k, value) :: rest
    else if key < k then (key, value) :: (k, v) :: rest
    else (k, v) :: insert key value rest

def fields : StringMap → List Char
  | [] => []
  | [(k, v)] => quoted k ++ ':' :: quoted v
  | (k, v) :: rest => quoted k ++ ':' :: quoted v ++ ',' :: fields rest

def toJson (m : StringMap) : String := String.ofList ('{' :: fields m ++ ['}'])

end StringMap

example : fromUtf8Lossy [0x68, 0xC3, 0xA9, 0xE2, 0x82, 0x21] = "hé\uFFFD!" := by decide

example : (StringMap.insert "a" "x\"y" [("b", "z")]).toJson =
    "\x7b\"a\":\"x\\\"y\",\"b\":\"z\"\x7d" := by
  decide

end ApiBoilerplate.Text

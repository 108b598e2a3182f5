import Orchestration.Text.Basic

namespace Orchestration.Url

open Text

def upperHexDigit (value : Nat) : Char :=
  if value < 10 then Char.ofNat ('0'.toNat + value)
  else Char.ofNat ('A'.toNat + (value - 10))

def encodeByte (byte : UInt8) : List Char :=
  ['%', upperHexDigit (byte.toNat / 16), upperHexDigit (byte.toNat % 16)]

def utf8 (text : List Char) : List UInt8 :=
  (String.ofList text).toUTF8.toList

/-- Controls and characters beyond ASCII are always encoded. -/
def isControl (c : Char) : Bool := c.toNat < 0x20 || 0x7f ≤ c.toNat

def encodeChar (set : List Char) (c : Char) : List Char :=
  if isControl c || set.contains c then (utf8 [c]).flatMap encodeByte else [c]

/-- Encodes the controls and the characters of a set. -/
def encode (set : List Char) (text : List Char) : List Char :=
  text.flatMap (encodeChar set)

def fragmentSet : List Char := [' ', '"', '<', '>', '\x60']

def querySet : List Char := [' ', '"', '#', '<', '>']

def specialQuerySet : List Char := '\'' :: querySet

def pathSet : List Char := ['#', '?', '\x7b', '\x7d'] ++ fragmentSet

def userSet : List Char :=
  ['/', ':', ';', '=', '@', '[', '\\', ']', '^', '|'] ++ pathSet

def byteOf (high low : Char) : UInt8 :=
  (hexValue high * 16 + hexValue low).toUInt8

/-- The bytes of a text; a percent sign without two digits stands for itself. -/
def decodeBytes : List Char → List UInt8
  | [] => []
  | '%' :: high :: low :: rest =>
      if isHexDigit high && isHexDigit low then
        byteOf high low :: decodeBytes rest
      else utf8 ['%'] ++ decodeBytes (high :: low :: rest)
  | c :: rest => utf8 [c] ++ decodeBytes rest

def decode? (text : List Char) : Option (List Char) :=
  if text.contains '%' then
    (String.fromUTF8? ⟨(decodeBytes text).toArray⟩).map String.toList
  else some text

end Orchestration.Url

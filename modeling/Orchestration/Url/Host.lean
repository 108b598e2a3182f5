import Orchestration.Number.Numeral
import Orchestration.Text.Basic
import Orchestration.Url.Domain
import Orchestration.Url.Percent

namespace Orchestration.Url

open Text

inductive Fault where
  | relative
  | emptyHost
  | invalidPort
  | invalidName
  | invalidIpv4
  | invalidIpv6
  | invalidHostChar
deriving DecidableEq

namespace Fault

def message : Fault → String
  | relative => "relative URL without a base"
  | emptyHost => "empty host"
  | invalidPort => "invalid port number"
  | invalidName => "invalid international domain name"
  | invalidIpv4 => "invalid IPv4 address"
  | invalidIpv6 => "invalid IPv6 address"
  | invalidHostChar => "invalid domain character"

end Fault

inductive Host where
  | name (letters : List Char)
  | ipv4 (address : Nat)
  | ipv6 (pieces : List Nat)
deriving DecidableEq

def octalDigit (c : Char) : Bool := '0' ≤ c && c ≤ '7'

def octalValueOf (digits : List Char) : Nat :=
  digits.foldl (fun value c => 8 * value + digitValue c) 0

def marked (isDigit : Char → Bool) (value : List Char → Nat)
    (digits : List Char) : Option Nat :=
  if digits.all isDigit then some (value digits) else none

def addressNumber? : List Char → Option Nat
  | [] => none
  | '0' :: 'x' :: digits => marked isHexDigit hexValueOf digits
  | '0' :: 'X' :: digits => marked isHexDigit hexValueOf digits
  | '0' :: c :: digits => marked octalDigit octalValueOf (c :: digits)
  | digits => marked isDigit valueOf digits

/-- The parts of a name between points; one point at the end does not count. -/
def addressParts (name : List Char) : List (List Char) :=
  let parts := pieces '.' name
  if parts.getLast? = some [] then parts.dropLast else parts

/-- A name whose last part is a number has to be an address. -/
def endsInNumber (name : List Char) : Bool :=
  match (addressParts name).getLast? with
  | some part =>
      !part.isEmpty && part.all isDigit || (addressNumber? part).isSome
  | none => false

/-- The last number fills all bytes that the numbers before it leave. -/
def joinNumbers : List Nat → Nat → Option Nat
  | [], _ => none
  | [last], room => if last < 256 ^ room then some last else none
  | number :: rest, room =>
      if number < 256 ∧ 1 < room then
        (joinNumbers rest (room - 1)).map fun tail =>
          number * 256 ^ (room - 1) + tail
      else none

def ipv4? (name : List Char) : Option Nat :=
  ((addressParts name).mapM addressNumber?).bind fun numbers =>
    joinNumbers numbers 4

def hexPiece? (text : List Char) : Option Nat :=
  if text ≠ [] ∧ text.length ≤ 4 ∧ text.all isHexDigit then
    some (hexValueOf text)
  else none

def decimalByte? (text : List Char) : Option Nat :=
  if text ≠ [] ∧ text.all isDigit ∧
      (text.length = 1 ∨ text.head? ≠ some '0') ∧ valueOf text < 256 then
    some (valueOf text)
  else none

def dottedPieces? (text : List Char) : Option (List Nat) :=
  match (pieces '.' text).mapM decimalByte? with
  | some [a, b, c, d] => some [a * 256 + b, c * 256 + d]
  | _ => none

/-- Pieces between colons; the last one may be dotted if `dotted` says so. -/
def pieceList? (dotted : Bool) : List (List Char) → Option (List Nat)
  | [] => some []
  | [last] =>
      match hexPiece? last with
      | some piece => some [piece]
      | none => if dotted then dottedPieces? last else none
  | text :: rest =>
      match hexPiece? text, pieceList? dotted rest with
      | some piece, some more => some (piece :: more)
      | _, _ => none

def colonPieces? (dotted : Bool) (text : List Char) : Option (List Nat) :=
  if text.isEmpty then some [] else pieceList? dotted (pieces ':' text)

def cutColons : List Char → Option (List Char × List Char)
  | ':' :: ':' :: rest => some ([], rest)
  | c :: rest => (cutColons rest).map fun (head, tail) => (c :: head, tail)
  | [] => none

/-- A pair of colons stands for one or more pieces that are zero. -/
def ipv6? (text : List Char) : Option (List Nat) :=
  match cutColons text with
  | none =>
      (colonPieces? true text).filter fun pieces => pieces.length == 8
  | some (head, tail) =>
      match colonPieces? false head, colonPieces? true tail with
      | some head, some tail =>
          if head.length + tail.length ≤ 7 then
            some (head ++
              List.replicate (8 - head.length - tail.length) 0 ++ tail)
          else none
      | _, _ => none

def bracketed (text : List Char) : Except Fault Host :=
  match text.getLast?, ipv6? text.dropLast with
  | some ']', some pieces => .ok (.ipv6 pieces)
  | _, _ => .error .invalidIpv6

namespace Host

/-- A host of one of the schemes that everybody knows. -/
def readSpecial : List Char → Except Fault Host
  | '[' :: rest => bracketed rest
  | text =>
      match (decode? text).bind Domain.ascii? with
      | none => .error .invalidName
      | some domain =>
          if domain.isEmpty then .error .emptyHost
          else if endsInNumber domain then
            match ipv4? domain with
            | some address => .ok (.ipv4 address)
            | none => .error .invalidIpv4
          else .ok (.name domain)

def deniedInOther : List Char :=
  ['\x00', '\t', '\n', '\r', ' ', '#', '/', ':', '<', '>', '?', '@', '[', '\\',
    ']', '^', '|']

def readOther : List Char → Except Fault Host
  | '[' :: rest => bracketed rest
  | text =>
      if text.any deniedInOther.contains then .error .invalidHostChar
      else .ok (.name (encode [] text))

def decimal (value : Nat) : List Char := Nat.toDigits 10 value

def ipv4Text (address : Nat) : List Char :=
  ['.'].intercalate
    [decimal (address / 256 ^ (3 : Nat) % 256),
      decimal (address / 256 ^ (2 : Nat) % 256),
      decimal (address / 256 % 256), decimal (address % 256)]

def leadingZeros (pieces : List Nat) : Nat := (pieces.takeWhile (· = 0)).length

/-- Where the first of the longest runs of zeros begins, and its length. -/
def longestZeros : List Nat → Nat × Nat
  | [] => (0, 0)
  | piece :: rest =>
      let here := leadingZeros (piece :: rest)
      let (place, length) := longestZeros rest
      if length ≤ here then (0, here) else (place + 1, length)

def hexPieces (pieces : List Nat) : List Char :=
  [':'].intercalate (pieces.map (Nat.toDigits 16))

/-- A run of two or more zeros is written as a pair of colons. -/
def ipv6Text (pieces : List Nat) : List Char :=
  let (place, length) := longestZeros pieces
  if length < 2 then hexPieces pieces
  else
    hexPieces (pieces.take place) ++ [':', ':'] ++
      hexPieces (pieces.drop (place + length))

def text : Host → List Char
  | name letters => letters
  | ipv4 address => ipv4Text address
  | ipv6 pieces => ['['] ++ ipv6Text pieces ++ [']']

end Host

end Orchestration.Url

import Orchestration.Number.Rounding
import Orchestration.Text.Basic

namespace Orchestration

open Text

structure Numeral where
  negative : Bool
  digits : List Char
  scale : Int

namespace Numeral

/-- Exponents far beyond every format round like the nearest extreme. -/
def extremeScale : Int := 400

/-- Rounds the numeral `digits * 10 ^ scale` with `round`, which takes the sign
and a quotient. Numerals beyond `10 ^ 400` or below `10 ^ -400` are replaced by
these bounds, which no format distinguishes from them. -/
def roundWith (round : Bool → Nat → Nat → Double) (numeral : Numeral) :
    Double :=
  let digits := numeral.digits.dropWhile (· = '0')
  let value := valueOf digits
  let magnitude := digits.length + numeral.scale
  if value = 0 then round numeral.negative 0 1
  else if extremeScale < magnitude then
    round numeral.negative (10 ^ extremeScale.toNat) 1
  else if magnitude < -extremeScale then
    round numeral.negative 1 (10 ^ extremeScale.toNat)
  else
    round numeral.negative (value * 10 ^ numeral.scale.toNat)
      (10 ^ (-numeral.scale).toNat)

def toDouble (numeral : Numeral) : Double := numeral.roundWith Double.ofRatio

def toSingle (numeral : Numeral) : Double :=
  numeral.roundWith Double.ofRatioSingle

/-- Cuts off an optional sign; the flag tells whether it was a minus. -/
def readSign : List Char → Bool × List Char
  | '-' :: rest => (true, rest)
  | '+' :: rest => (false, rest)
  | text => (false, text)

/-- An exponent with at least one digit and nothing behind it, or nothing. -/
def readExponent : List Char → Option Int
  | [] => some 0
  | mark :: rest =>
      if mark = 'e' || mark = 'E' then
        let (negative, digits) := readSign rest
        if digits ≠ [] ∧ digits.all isDigit then
          some (if negative then -valueOf digits else valueOf digits)
        else none
      else none

def readUnsigned (negative : Bool) (text : List Char) : Option Numeral :=
  let (whole, rest) := spanDigits text
  let (fraction, rest) :=
    match rest with
    | '.' :: rest => spanDigits rest
    | rest => ([], rest)
  if whole = [] ∧ fraction = [] then none
  else
    (readExponent rest).map fun exponent =>
      ⟨negative, whole ++ fraction, exponent - fraction.length⟩

end Numeral

/-- A numeral rounded with `round`, or one of the words `inf`, `infinity` and
`nan` in letters of either case, behind an optional sign. -/
def readReal (round : Numeral → Double) (text : String) : Option Double :=
  let (negative, rest) := Numeral.readSign text.toList
  let word := lower (String.ofList rest)
  if word = "inf" ∨ word = "infinity" then some (.infinite negative)
  else if word = "nan" then some .nan
  else (Numeral.readUnsigned negative rest).map round

def readInteger (text : List Char) : Option Int :=
  let (negative, digits) := Numeral.readSign text
  if digits ≠ [] ∧ digits.all isDigit then
    some (if negative then -valueOf digits else valueOf digits)
  else none

def leastSigned : Int := -2 ^ (63 : Nat)

def greatestSigned : Int := 2 ^ (63 : Nat) - 1

def greatestUnsigned : Int := 2 ^ (64 : Nat) - 1

/-- The nearest signed word. -/
def saturate (value : Int) : Int :=
  max leastSigned (min greatestSigned value)

def FitsSigned (value : Int) : Prop :=
  leastSigned ≤ value ∧ value ≤ greatestSigned

instance (value : Int) : Decidable (FitsSigned value) := by
  unfold FitsSigned
  infer_instance

end Orchestration

import Orchestration.Number.Shortest

namespace Orchestration

/-- How the text of a double is laid out: leading-digit exponents `e` with
`plainFrom ≤ e < plainBelow` are written without an exponent. -/
structure Layout where
  plainFrom : Int
  plainBelow : Int
  exponentPlus : Bool
  tie : FiniteDouble.Tie

namespace Layout

def zeros (count : Nat) : String :=
  String.ofList (List.replicate count '0')

def plain (digits : List Char) (exponent : Int) : String :=
  let point := exponent + 1
  if point ≤ 0 then
    "0." ++ zeros (-point).toNat ++ String.ofList digits
  else if digits.length ≤ point then
    String.ofList digits ++ zeros (point.toNat - digits.length) ++ ".0"
  else
    String.ofList (digits.take point.toNat) ++ "." ++
      String.ofList (digits.drop point.toNat)

def scientific (layout : Layout) (digits : List Char) (exponent : Int) :
    String :=
  let fraction :=
    if digits.length ≤ 1 then "" else "." ++ String.ofList (digits.drop 1)
  let sign := if layout.exponentPlus && 0 ≤ exponent then "+" else ""
  String.ofList (digits.take 1) ++ fraction ++ "e" ++ sign ++ toString exponent

def magnitude (layout : Layout) (x : FiniteDouble) : String :=
  if x.isZero then "0.0"
  else
    let decimal := x.shortest layout.tie
    let digits := Nat.toDigits 10 decimal.digits
    let exponent := decimal.scale + digits.length - 1
    if layout.plainFrom ≤ exponent ∧ exponent < layout.plainBelow then
      plain digits exponent
    else layout.scientific digits exponent

def text (layout : Layout) (x : FiniteDouble) : String :=
  (if x.negative then "-" else "") ++ layout.magnitude x

end Layout

namespace Double

/-- The text of a double as a parameter of a text type. -/
def parameterLayout : Layout where
  plainFrom := -4
  plainBelow := 16
  exponentPlus := false
  tie := .up

def text : Double → String
  | .finite x => parameterLayout.text x
  | .infinite negative => if negative then "-inf" else "inf"
  | .nan => "NaN"

end Double

end Orchestration

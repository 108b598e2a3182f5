import Orchestration.Error
import Orchestration.Number.Layout
import Orchestration.Parameter.HostValue
import Orchestration.Text.Basic

namespace Orchestration

open Text

namespace HostValue

/-- The integer that a value stands for; doubles lose their fraction and stop
at the ends of the signed words. -/
def integer? : HostValue → Option Int
  | .int value => some value.toInt
  | .bool value => some (if value then 1 else 0)
  | .float (.finite value) => some (saturate value.truncate)
  | .text value =>
      (readInteger (trim value.toList)).bind fun integer =>
        if FitsSigned integer then some integer else none
  | _ => none

def real? : HostValue → Option Double
  | .float value => some value
  | .int value => some (.ofInt value.toInt)
  | .bool value => some (.ofInt (if value then 1 else 0))
  | .text value => readReal Numeral.toDouble (trimmed value)
  | _ => none

def truth? : HostValue → Option Bool
  | .bool value => some value
  | .int value => some (value != 0)
  | .float value => some (!value.isZero)
  | .text value =>
      let word := lower (trimmed value)
      if word = "true" then some true
      else if word = "false" then some false
      else none
  | _ => none

def toText : HostValue → String
  | .null => ""
  | .bool value => if value then "true" else "false"
  | .int value => toString value.toInt
  | .float value => value.text
  | .text value => value
  | .typed wrapped => wrapped.value.compact
  | .json value => value.compact

end HostValue

namespace ValueType

def wireForm? (type : ValueType) (value : HostValue) : Option Json :=
  match type with
  | integer => value.integer?.map .ofInt
  | float =>
      (value.real?.bind Double.finite?).map fun real => .number (.real real)
  | boolean => value.truth?.map .bool
  | _ => some (.string value.toText)

/-- Wraps a value in this type. Blank values become the empty text. -/
def convert (type : ValueType) (value : HostValue) : Except Error TypedValue :=
  let value := value.unwrapped
  if value.isBlank then .ok ⟨type, .string ""⟩
  else
    match type.wireForm? value with
    | some json => .ok ⟨type, json⟩
    | none => .error (.parameter (.notConvertible value.toRawJson type))

end ValueType

namespace HostValue

/-- The type that a value has by itself; lists and maps have none. -/
def implicitType? : HostValue → Option ValueType
  | .bool _ => some .boolean
  | .int _ => some .integer
  | .float _ => some .float
  | .text _ => some .varchar
  | .null => some .varchar
  | .typed wrapped => some wrapped.type
  | .json _ => none

def infer : HostValue → Except Error TypedValue
  | .typed wrapped => .ok wrapped
  | value =>
      match value.implicitType? with
      | some type => type.convert value
      | none => .error (.parameter (.noImplicitType value.toRawJson))

end HostValue

end Orchestration

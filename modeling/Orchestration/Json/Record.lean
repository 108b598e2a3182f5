import Orchestration.Json.Document
import Orchestration.Number.Numeral

namespace Orchestration

namespace Json

/-! Records in documents. A record is an object, in which unknown fields are
ignored, or an array of its values in the order of the fields. -/

structure Fields where
  given : List (String × Document)
  positional : Bool

namespace Document

def named? : List (Option String × Document) → Option (List (String × Document))
  | [] => some []
  | (none, _) :: _ => none
  | (some key, value) :: rest => (named? rest).map ((key, value) :: ·)

/-- The fields of a record with the given field names. A field must not be
given twice, and an array must not be longer than the record. -/
def fields? (names : List String) : Document → Option Fields
  | .object fields => do
      let given := (← named? fields).filter fun field => field.1 ∈ names
      if (given.map (·.1)).Nodup then some ⟨given, false⟩ else none
  | .array items =>
      if items.length ≤ names.length then some ⟨names.zip items, true⟩ else none
  | _ => none

def text? : Document → Option String
  | .string text => text
  | _ => none

def unit? : Document → Option Unit
  | .null => some ()
  | _ => none

def bool? : Document → Option Bool
  | .bool value => some value
  | _ => none

def integer? (least greatest : Int) : Document → Option Int
  | .number (some (.integer value)) =>
      if least ≤ value ∧ value ≤ greatest then some value else none
  | _ => none

def signed? : Document → Option Int := integer? leastSigned greatestSigned

def signed32? : Document → Option Int :=
  integer? (-2 ^ (31 : Nat)) (2 ^ (31 : Nat) - 1)

def unsigned? (document : Document) : Option Nat :=
  (document.integer? 0 greatestUnsigned).map Int.toNat

def value? (document : Document) : Option Json := document.toJson?

/-- Nothing in place of a value is `null`. -/
def nullable? (decode? : Document → Option α) : Document → Option (Option α)
  | .null => some none
  | document => (decode? document).map some

end Document

namespace Fields

variable {α : Type}

def find? (fields : Fields) (name : String) : Option Document :=
  fields.given.lookup name

def required (fields : Fields) (name : String)
    (decode? : Document → Option α) : Option α :=
  (fields.find? name).bind decode?

/-- A field that may be missing from an object. -/
def optional (fields : Fields) (name : String)
    (decode? : Document → Option α) : Option (Option α) :=
  match fields.find? name with
  | some document => document.nullable? decode?
  | none => if fields.positional then none else some none

/-- A field that may be missing from objects and arrays. -/
def withDefault (fields : Fields) (name : String)
    (decode? : Document → Option α) (default : α) : Option α :=
  match fields.find? name with
  | some document => decode? document
  | none => some default

end Fields

end Json

class JsonForm (α : Type) where
  encode : α → Json
  decode? : Json.Document → Option α

namespace JsonForm

instance : JsonForm Unit := ⟨fun _ => .null, Json.Document.unit?⟩

instance : JsonForm String := ⟨.string, Json.Document.text?⟩

instance : JsonForm Int := ⟨.ofInt, Json.Document.signed?⟩

def read? [JsonForm α] (text : String) : Option α :=
  (Json.Document.read? text).bind decode?

def readBytes? [JsonForm α] (bytes : ByteArray) : Option α :=
  (Json.Document.readBytes? bytes).bind decode?

theorem readBytes?_toUTF8 [JsonForm α] (text : String) :
    (readBytes? text.toUTF8 : Option α) = read? text := by
  rw [readBytes?, Json.Document.readBytes?_toUTF8, read?]

def ofJson? [JsonForm α] (json : Json) : Option α := decode? (.ofJson json)

end JsonForm

end Orchestration

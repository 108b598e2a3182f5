import Orchestration.Number.Double
import Orchestration.SortedMap

namespace Orchestration

/-! JSON values. Numbers written without point and exponent that fit a word of
64 bits are integers; all others are doubles. -/

inductive Json.Number where
  | integer (value : Int)
  | real (value : FiniteDouble)
deriving DecidableEq

inductive Json where
  | null
  | bool (value : Bool)
  | number (value : Json.Number)
  | string (value : String)
  | array (items : List Json)
  | object (fields : List (String × Json))

namespace Json

instance : Inhabited Json := ⟨null⟩

def ofInt (value : Int) : Json := .number (.integer value)

def ofNat (value : Nat) : Json := .number (.integer value)

def ofOption (encode : α → Json) : Option α → Json
  | some value => encode value
  | none => .null

def strings (values : List String) : Json := .array (values.map .string)

def integers (values : List Int) : Json := .array (values.map ofInt)

mutual

def decEq : (a b : Json) → Decidable (a = b)
  | .null, .null => isTrue rfl
  | .bool a, .bool b =>
      if h : a = b then isTrue (h ▸ rfl) else isFalse (by simp [h])
  | .number a, .number b =>
      if h : a = b then isTrue (h ▸ rfl) else isFalse (by simp [h])
  | .string a, .string b =>
      if h : a = b then isTrue (h ▸ rfl) else isFalse (by simp [h])
  | .array a, .array b =>
      match decEqItems a b with
      | isTrue h => isTrue (h ▸ rfl)
      | isFalse h => isFalse (by simp [h])
  | .object a, .object b =>
      match decEqFields a b with
      | isTrue h => isTrue (h ▸ rfl)
      | isFalse h => isFalse (by simp [h])
  | .null, .bool _ | .null, .number _ | .null, .string _ | .null, .array _
  | .null, .object _ | .bool _, .null | .bool _, .number _ | .bool _, .string _
  | .bool _, .array _ | .bool _, .object _ | .number _, .null
  | .number _, .bool _ | .number _, .string _ | .number _, .array _
  | .number _, .object _ | .string _, .null | .string _, .bool _
  | .string _, .number _ | .string _, .array _ | .string _, .object _
  | .array _, .null | .array _, .bool _ | .array _, .number _
  | .array _, .string _ | .array _, .object _ | .object _, .null
  | .object _, .bool _ | .object _, .number _ | .object _, .string _
  | .object _, .array _ => isFalse (by simp)

def decEqItems : (a b : List Json) → Decidable (a = b)
  | [], [] => isTrue rfl
  | [], _ :: _ | _ :: _, [] => isFalse (by simp)
  | a :: as, b :: bs =>
      match decEq a b, decEqItems as bs with
      | isTrue h, isTrue hs => isTrue (h ▸ hs ▸ rfl)
      | isFalse h, _ => isFalse (by simp [h])
      | _, isFalse h => isFalse (by simp [h])

def decEqFields : (a b : List (String × Json)) → Decidable (a = b)
  | [], [] => isTrue rfl
  | [], _ :: _ | _ :: _, [] => isFalse (by simp)
  | (k, a) :: as, (l, b) :: bs =>
      if hkey : k = l then
        match decEq a b, decEqFields as bs with
        | isTrue h, isTrue hs => isTrue (hkey ▸ h ▸ hs ▸ rfl)
        | isFalse h, _ => isFalse (by simp [h])
        | _, isFalse h => isFalse (by simp [h])
      else isFalse (by simp [hkey])

end

instance : DecidableEq Json := decEq

def Number.same : Number → Number → Bool
  | .integer a, .integer b => a == b
  | .real a, .real b => a.equal b
  | _, _ => false

mutual

def same : Json → Json → Bool
  | .null, .null => true
  | .bool a, .bool b => a == b
  | .number a, .number b => a.same b
  | .string a, .string b => a == b
  | .array a, .array b => sameItems a b
  | .object a, .object b => sameFields a b
  | _, _ => false

def sameItems : List Json → List Json → Bool
  | [], [] => true
  | a :: as, b :: bs => same a b && sameItems as bs
  | _, _ => false

def sameFields : List (String × Json) → List (String × Json) → Bool
  | [], [] => true
  | (k, a) :: as, (l, b) :: bs => k == l && same a b && sameFields as bs
  | _, _ => false

end

def ofMap (map : SortedMap String Json) : Json := .object map.entries

mutual

def sorted : Json → Json
  | .array items => .array (sortedItems items)
  | .object fields => ofMap (.ofList (sortedFields fields))
  | json => json

def sortedItems : List Json → List Json
  | [] => []
  | item :: rest => sorted item :: sortedItems rest

def sortedFields : List (String × Json) → List (String × Json)
  | [] => []
  | (key, value) :: rest => (key, sorted value) :: sortedFields rest

end

/-- A field that holds `null` counts as missing. -/
def field? (json : Json) (name : String) : Option Json :=
  match json with
  | .object fields =>
      match fields.lookup name with
      | some .null => none
      | value => value
  | _ => none

def text? : Json → Option String
  | .string value => some value
  | _ => none

def integer? : Json → Option Int
  | .number (.integer value) => some value
  | _ => none

def bool? : Json → Option Bool
  | .bool value => some value
  | _ => none

def items : Json → List Json
  | .array items => items
  | _ => []

def fields : Json → List (String × Json)
  | .object fields => fields
  | _ => []

end Json

end Orchestration

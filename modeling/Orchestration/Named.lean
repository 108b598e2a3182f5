import Orchestration.Json.Record
import Orchestration.Text.Basic

namespace Orchestration

class Named (α : Type) where
  all : List α
  name : α → String
  complete : ∀ value, value ∈ all
  distinct : (all.map name).Nodup

namespace Named

variable {α : Type} [Named α]

def ofName? (text : String) : Option α :=
  all.find? fun value => name value == text

/-- The case of letters does not count. -/
def ofLetters? (text : String) : Option α :=
  all.find? fun value => Text.sameLetters (name value) text

theorem eq_of_name_eq {values : List α} (distinct : (values.map name).Nodup)
    {a b : α} (ha : a ∈ values) (hb : b ∈ values) (h : name a = name b) :
    a = b := by
  induction values with
  | nil => simp at ha
  | cons first rest induction =>
      rw [List.map_cons, List.nodup_cons, List.mem_map] at distinct
      rcases List.mem_cons.mp ha with rfl | inRest
      · rcases List.mem_cons.mp hb with rfl | inRest
        · rfl
        · exact absurd ⟨b, inRest, h.symm⟩ distinct.1
      · rcases List.mem_cons.mp hb with rfl | otherInRest
        · exact absurd ⟨a, inRest, h⟩ distinct.1
        · exact induction distinct.2 inRest otherInRest

theorem name_injective {a b : α} (h : name a = name b) : a = b :=
  eq_of_name_eq distinct (complete a) (complete b) h

@[simp] theorem ofName?_name (value : α) : ofName? (name value) = some value := by
  unfold ofName?
  cases h : all.find? fun other : α => name other == name value with
  | none =>
      have := List.find?_eq_none.mp h value (complete value)
      simp at this
  | some other =>
      have := List.find?_some h
      rw [name_injective (eq_of_beq this)]

def toJson (value : α) : Json := .string (name value)

/-- The name as a text, or as the only key of an object that holds nothing. -/
def decode? : Json.Document → Option α
  | .string (some text) => ofName? text
  | .object [(some text, .null)] => ofName? text
  | _ => none

@[simp] theorem decode?_toJson (value : α) :
    decode? (.ofJson (toJson value)) = some value := by
  simp [toJson, Json.Document.ofJson, decode?]

instance : JsonForm α := ⟨toJson, decode?⟩

end Named

end Orchestration

import Orchestration.Parameter.Map
import Orchestration.Proofs.Number.Rounding
import Orchestration.Proofs.Parameter.Conversion

namespace Orchestration

/-- An integer that no signed word holds; JSON has them up to the end of the
unsigned words. Integers inside of lists and maps are not meant. -/
def Json.IsWide (json : Json) : Prop :=
  ∃ value, json = .ofInt value ∧ ¬ FitsSigned value

namespace HostValue

theorem toRawJson_ofJson {json : Json} (narrow : ¬ json.IsWide) :
    (ofJson json).toRawJson = json := by
  cases json with
  | number value =>
      cases value with
      | integer value =>
          have fits : FitsSigned value :=
            not_not.mp fun wide => narrow ⟨value, rfl, wide⟩
          change (ofJson (.ofInt value)).toRawJson = .ofInt value
          rw [ofJson_ofInt fits, toRawJson, toInt_ofInt_of_fitsSigned fits]
      | real value => rfl
  | null | bool | string | array | object => rfl

theorem ofJson_ofInt_of_wide {value : Int} (wide : ¬ FitsSigned value) :
    ofJson (.ofInt value) = .float (.ofInt value) :=
  if_neg wide

theorem toRawJson_float_ne (real : Double) (value : Int) :
    (float real).toRawJson ≠ .ofInt value := by
  intro same
  cases real <;> cases same

theorem toRawJson_ofJson_iff {json : Json} :
    (ofJson json).toRawJson = json ↔ ¬ json.IsWide := by
  refine ⟨fun same wide => ?_, toRawJson_ofJson⟩
  obtain ⟨value, rfl, wide⟩ := wide
  rw [ofJson_ofInt_of_wide wide] at same
  exact toRawJson_float_ne _ _ same

/-- A wide integer of an unsigned word becomes a double near it. -/
theorem toRawJson_ofInt_near {value : Int} (low : greatestSigned < value)
    (high : value ≤ greatestUnsigned) :
    ∃ real : FiniteDouble,
      (ofJson (.ofInt value)).toRawJson = .number (.real real) ∧
        |real.truncate - value| ≤ 2 ^ 10 := by
  rw [greatestSigned] at low
  rw [greatestUnsigned] at high
  have wide : ¬ FitsSigned value := by
    rw [fitsSigned_iff]
    omega
  obtain ⟨natural, rfl⟩ : ∃ natural : Nat, value = natural :=
    ⟨value.toNat, by omega⟩
  have atLeast : 2 ^ (52 + 11) ≤ natural := by omega
  have below : natural < 2 ^ (53 + 11) := by omega
  obtain ⟨real, rounded, positive, steps, down, up⟩ :=
    Double.ofInt_large atLeast below (by decide)
  refine ⟨real, ?_, ?_⟩
  · rw [ofJson_ofInt_of_wide wide, rounded]
    rfl
  · rw [FiniteDouble.truncate_of_whole steps positive, abs_le]
    omega

/-- The greatest of the unsigned words does not come back. -/
theorem toRawJson_ofJson_greatest :
    ¬ ∀ value, leastSigned ≤ value → value ≤ greatestUnsigned →
      (ofJson (.ofInt value)).toRawJson = .ofInt value := by
  intro carried
  have same := carried greatestUnsigned (by decide) (by decide)
  revert same
  decide +kernel

end HostValue

namespace ParameterMap

theorem lookup_cons (key name : String) (value : HostValue)
    (rest : List (String × HostValue)) :
    ((key, value) :: rest).lookup name =
      if key = name then some value else rest.lookup name := by
  rw [List.lookup_cons]
  by_cases same : key = name
  · simp [same]
  · simp [same, beq_false_of_ne (Ne.symm same)]

theorem lookup_insertIn (name other : String) (value : HostValue)
    (entries : List (String × HostValue)) :
    (insertIn name value entries).lookup other =
      if name = other then some value else entries.lookup other := by
  induction entries with
  | nil => rw [insertIn, lookup_cons]
  | cons entry rest induction =>
      obtain ⟨key, old⟩ := entry
      rw [insertIn]
      by_cases replaced : key = name
      · rw [if_pos replaced, lookup_cons, lookup_cons, replaced]
        split <;> rfl
      · rw [if_neg replaced, lookup_cons, lookup_cons, induction]
        by_cases found : key = other
        · have apart : name ≠ other := fun same =>
            replaced (found.trans same.symm)
          rw [if_pos found, if_neg apart, if_pos found]
        · rw [if_neg found, if_neg found]

theorem find?_insert (map : ParameterMap) (name other : String)
    (value : HostValue) :
    (map.insert name value).find? other =
      if name = other then some value else map.find? other :=
  lookup_insertIn name other value map.entries

end ParameterMap

end Orchestration

import Orchestration.Parameter.Conversion
import Orchestration.Proofs.Number.Numeral

namespace Orchestration

open Text

/-! What conversion makes of values. Each type has one form on the wire, and
what has it stays as it is. -/

theorem fitsSigned_iff {value : Int} :
    FitsSigned value ↔ -2 ^ 63 ≤ value ∧ value < 2 ^ 63 := by
  rw [FitsSigned, leastSigned, greatestSigned, Int.le_sub_one_iff]

theorem fitsSigned_toInt (value : Int64) : FitsSigned value.toInt :=
  fitsSigned_iff.mpr ⟨value.le_toInt, value.toInt_lt⟩

theorem toInt_ofInt_of_fitsSigned {value : Int} (fits : FitsSigned value) :
    (Int64.ofInt value).toInt = value :=
  Int64.toInt_ofInt_of_le (fitsSigned_iff.mp fits).1 (fitsSigned_iff.mp fits).2

theorem fitsSigned_saturate (value : Int) : FitsSigned (saturate value) := by
  rw [FitsSigned, saturate]
  have ordered : leastSigned ≤ greatestSigned := by decide
  omega

namespace HostValue

theorem ofJson_ofInt {value : Int} (fits : FitsSigned value) :
    ofJson (.ofInt value) = .int (.ofInt value) :=
  if_pos fits

theorem fitsSigned_of_integer? {value : HostValue} {integer : Int}
    (found : value.integer? = some integer) : FitsSigned integer := by
  cases value with
  | int value =>
      cases found
      exact fitsSigned_toInt value
  | bool value =>
      cases found
      cases value <;> decide
  | float value =>
      cases value with
      | finite value =>
          cases found
          exact fitsSigned_saturate _
      | infinite negative => cases found
      | nan => cases found
  | text value =>
      obtain ⟨read, -, found⟩ := Option.bind_eq_some_iff.mp found
      obtain ⟨fits, same⟩ := Option.ite_none_right_eq_some.mp found
      cases same
      exact fits
  | null | typed wrapped | json value => cases found

theorem toText_of_isBlank {value : HostValue} (blank : value.isBlank = true) :
    value.toText = "" := by
  cases value with
  | null => rfl
  | text value => exact String.isEmpty_iff.mp blank
  | _ => cases blank

end HostValue

namespace ValueType

/-- The form that values of a type have on the wire. -/
inductive HasForm : ValueType → Json → Prop where
  | integer (fits : FitsSigned value) : HasForm .integer (.ofInt value)
  | float (value : FiniteDouble) : HasForm .float (.number (.real value))
  | boolean (value : Bool) : HasForm .boolean (.bool value)
  | text (isText : type.IsText) (value : String) :
      HasForm type (.string value)

variable {type : ValueType} {value : HostValue} {json : Json}
  {typed : TypedValue}

theorem wireForm?_of_isText (isText : type.IsText) (value : HostValue) :
    type.wireForm? value = some (.string value.toText) := by
  obtain ⟨notInteger, notFloat, notBoolean⟩ := isText
  cases type <;> first | rfl | contradiction

theorem hasForm_of_wireForm? (formed : type.wireForm? value = some json) :
    type.HasForm json := by
  by_cases isText : type.IsText
  · rw [wireForm?_of_isText isText] at formed
    cases formed
    exact .text isText _
  · cases type with
    | integer =>
        obtain ⟨integer, found, rfl⟩ := Option.map_eq_some_iff.mp formed
        exact .integer (HostValue.fitsSigned_of_integer? found)
    | float =>
        obtain ⟨real, -, rfl⟩ := Option.map_eq_some_iff.mp formed
        exact .float real
    | boolean =>
        obtain ⟨truth, -, rfl⟩ := Option.map_eq_some_iff.mp formed
        exact .boolean truth
    | _ => exact absurd (by decide) isText

theorem HasForm.wireForm? (form : type.HasForm json) :
    type.wireForm? (.ofJson json) = some json := by
  cases form with
  | integer fits =>
      rw [HostValue.ofJson_ofInt fits]
      simp only [ValueType.wireForm?, HostValue.integer?,
        toInt_ofInt_of_fitsSigned fits, Option.map_some]
  | float real => rfl
  | boolean truth => rfl
  | text isText text => exact wireForm?_of_isText isText _

theorem convert_of_isBlank (blank : value.unwrapped.isBlank = true) :
    type.convert value = .ok ⟨type, .string ""⟩ :=
  if_pos blank

theorem convert_ok_iff (filled : value.unwrapped.isBlank = false) :
    type.convert value = .ok typed ↔
      typed.type = type ∧
        type.wireForm? value.unwrapped = some typed.value := by
  obtain ⟨given, json⟩ := typed
  rw [convert, if_neg (by simp [filled])]
  cases type.wireForm? value.unwrapped with
  | none => simp
  | some formed => simp [eq_comm]

theorem hasForm_of_convert (converted : type.convert value = .ok typed) :
    typed.type = type ∧
      (typed.value = .string "" ∨ type.HasForm typed.value) := by
  cases blank : value.unwrapped.isBlank with
  | true =>
      rw [convert_of_isBlank blank] at converted
      cases converted
      exact ⟨rfl, .inl rfl⟩
  | false =>
      obtain ⟨same, formed⟩ := (convert_ok_iff blank).mp converted
      exact ⟨same, .inr (hasForm_of_wireForm? formed)⟩

theorem HasForm.filled (form : type.HasForm json) (something : json ≠ .string "") :
    (HostValue.ofJson json).isBlank = false := by
  cases form with
  | integer fits =>
      rw [HostValue.ofJson_ofInt fits]
      rfl
  | float real => rfl
  | boolean truth => rfl
  | text isText text =>
      rw [HostValue.ofJson, HostValue.isBlank, ← Bool.not_eq_true,
        String.isEmpty_iff]
      rintro rfl
      exact something rfl

theorem convert_typed_eq_self_iff :
    type.convert (.typed typed) = .ok typed ↔
      typed.type = type ∧
        (typed.value = .string "" ∨ type.HasForm typed.value) := by
  refine ⟨hasForm_of_convert, ?_⟩
  obtain ⟨given, json⟩ := typed
  rintro ⟨rfl, form⟩
  by_cases blank : json = .string ""
  · subst blank
    rfl
  · have form := form.resolve_left blank
    refine (convert_ok_iff ?_).mpr ⟨rfl, form.wireForm?⟩
    exact form.filled blank

theorem convert_of_isText (isText : type.IsText) (value : HostValue) :
    type.convert value = .ok ⟨type, .string value.unwrapped.toText⟩ := by
  cases blank : value.unwrapped.isBlank with
  | true =>
      rw [convert_of_isBlank blank, HostValue.toText_of_isBlank blank]
  | false =>
      rw [convert_ok_iff blank]
      exact ⟨rfl, wireForm?_of_isText isText _⟩

/-- Whatever a type makes of a value, it is blank or has the form of the type,
and exactly such values are left as they are. A text type makes something of
every value. -/
theorem canonicity (type : ValueType) (value : HostValue) :
    (∀ typed, type.convert value = .ok typed →
      typed.type = type ∧
        (typed.value = .string "" ∨ type.HasForm typed.value) ∧
        type.convert (.typed typed) = .ok typed) ∧
      (∀ json, json = .string "" ∨ type.HasForm json →
        type.convert (.typed ⟨type, json⟩) = .ok ⟨type, json⟩) ∧
      (type.IsText → ∃ typed, type.convert value = .ok typed) := by
  refine ⟨fun typed converted => ?_, fun json form => ?_, fun isText => ?_⟩
  · obtain ⟨same, form⟩ := hasForm_of_convert converted
    exact ⟨same, form, convert_typed_eq_self_iff.mpr ⟨same, form⟩⟩
  · exact convert_typed_eq_self_iff.mpr ⟨rfl, form⟩
  · exact ⟨_, convert_of_isText isText value⟩

theorem canonicity_signed :
    let answer : TypedValue := ⟨.integer, .ofInt 42⟩
    let items : HostValue := .json (.array [.null, .bool true])
    integer.convert (.text " +0042 ") = .ok answer ∧
      integer.convert (.typed answer) = .ok answer ∧
      float.convert (.typed ⟨.float, .string ""⟩) = .ok ⟨.float, .string ""⟩ ∧
      ∃ typed, list.convert items = .ok typed ∧
        list.convert (.typed typed) = .ok typed := by
  intro answer items
  have converted : integer.convert (.text " +0042 ") = .ok answer := by
    decide +kernel
  obtain ⟨typed, listed⟩ := (canonicity .list items).2.2 (by decide)
  have again := ((canonicity .list items).1 typed listed).2.2
  refine ⟨converted, ?_, ?_, typed, listed, again⟩
  · exact ((canonicity .integer (.text " +0042 ")).1 answer converted).2.2
  · exact (canonicity .float .null).2.1 _ (.inl rfl)

theorem convert_integer_text_iff {text : String} (something : text ≠ "") :
    integer.convert (.text text) = .ok typed ↔
      ∃ core value, Surrounds text.toList core ∧ IsInteger core value ∧
        FitsSigned value ∧ typed = ⟨.integer, .ofInt value⟩ := by
  obtain ⟨given, json⟩ := typed
  have filled : (HostValue.text text).unwrapped.isBlank = false := by
    rw [← Bool.not_eq_true]
    exact fun empty => something (String.isEmpty_iff.mp empty)
  rw [convert_ok_iff filled]
  constructor
  · rintro ⟨rfl, formed⟩
    obtain ⟨value, found, rfl⟩ := Option.map_eq_some_iff.mp formed
    obtain ⟨read, written, found⟩ := Option.bind_eq_some_iff.mp found
    obtain ⟨fits, same⟩ := Option.ite_none_right_eq_some.mp found
    cases same
    obtain ⟨core, around, isInteger⟩ := readInteger_trim_eq_some_iff.mp written
    exact ⟨core, value, around, isInteger, fits, rfl⟩
  · rintro ⟨core, value, around, isInteger, fits, same⟩
    cases same
    have written := readInteger_trim_eq_some_iff.mpr ⟨core, around, isInteger⟩
    refine ⟨rfl, Option.map_eq_some_iff.mpr ⟨value, ?_, rfl⟩⟩
    exact Option.bind_eq_some_iff.mpr ⟨value, written, if_pos fits⟩

theorem convert_integer_toString {value : Int} (fits : FitsSigned value) :
    integer.convert (.text (toString value)) =
      .ok ⟨.integer, .ofInt value⟩ := by
  have written := isInteger_toString value
  have something : toString value ≠ "" := fun empty =>
    written.nonempty (congrArg String.toList empty)
  refine (convert_integer_text_iff something).mpr
    ⟨_, value, ?_, written, fits, rfl⟩
  exact ⟨[], [], by simp, by simp, by simp⟩

theorem convert_typed_string (type given : ValueType) (text : String) :
    type.convert (.typed ⟨given, .string text⟩) = type.convert (.text text) :=
  rfl

/-- What a text type makes of an integer or of a truth value can be taken back.
Of the other texts, integers are those that stand for signed words, with blanks
around them or none. -/
theorem wrapping :
    (∀ type : ValueType, type.IsText →
      (∀ value : Int64, ∃ typed, type.convert (.int value) = .ok typed ∧
        integer.convert (.typed typed) =
          .ok ⟨.integer, .ofInt value.toInt⟩) ∧
      ∀ value : Bool, ∃ typed, type.convert (.bool value) = .ok typed ∧
        boolean.convert (.typed typed) = .ok ⟨.boolean, .bool value⟩) ∧
      ∀ text : String, text ≠ "" → ∀ typed,
        integer.convert (.text text) = .ok typed ↔
          ∃ core value, Surrounds text.toList core ∧ IsInteger core value ∧
            FitsSigned value ∧ typed = ⟨.integer, .ofInt value⟩ := by
  refine ⟨fun type isText => ⟨fun value => ?_, fun value => ?_⟩,
    fun text something typed => convert_integer_text_iff something⟩
  · refine ⟨_, convert_of_isText isText _, ?_⟩
    rw [convert_typed_string]
    exact convert_integer_toString (fitsSigned_toInt value)
  · refine ⟨_, convert_of_isText isText _, ?_⟩
    rw [convert_typed_string]
    cases value <;> decide +kernel

/-- The least of the signed words comes back, and zeros in front of a number
may be more than a signed word has digits. -/
theorem wrapping_least :
    (∃ typed, long.convert (.int Int64.minValue) = .ok typed ∧
      integer.convert (.typed typed) = .ok ⟨.integer, .ofInt leastSigned⟩) ∧
      (∃ typed, date.convert (.bool true) = .ok typed ∧
        boolean.convert (.typed typed) = .ok ⟨.boolean, .bool true⟩) ∧
      ∃ core, Surrounds "+00000000000000000000007 ".toList core ∧
        IsInteger core 7 := by
  obtain ⟨wraps, reads⟩ := wrapping
  have converted : integer.convert (.text "+00000000000000000000007 ") =
      .ok ⟨.integer, .ofInt 7⟩ := by decide +kernel
  obtain ⟨core, value, around, isInteger, -, same⟩ :=
    (reads "+00000000000000000000007 " (by decide) _).mp converted
  cases same
  exact ⟨(wraps .long (by decide)).1 Int64.minValue,
    (wraps .date (by decide)).2 true, core, around, isInteger⟩

end ValueType

end Orchestration

import Orchestration.Parameter.Basic
import Orchestration.Proofs.Except
import Orchestration.Proofs.Parameter.Conversion

namespace Orchestration

/-! The types that values have by themselves. What such a type makes of a value
is the value as it was handed over, so that nothing of it is lost. -/

namespace HostValue

/-- The values that have a type by themselves and are neither nothing nor
wrapped. -/
inductive Plain : HostValue → ValueType → Prop where
  | bool (value : Bool) : Plain (.bool value) .boolean
  | int (value : Int64) : Plain (.int value) .integer
  | float (value : FiniteDouble) : Plain (.float (.finite value)) .float
  | text (value : String) : Plain (.text value) .varchar

variable {value : HostValue} {type : ValueType}

namespace Plain

theorem hasForm (plain : value.Plain type) : type.HasForm value.toRawJson := by
  cases plain with
  | bool value => exact .boolean value
  | int value => exact .integer (fitsSigned_toInt value)
  | float value => exact .float value
  | text value => exact .text (by decide) value

theorem ofJson_toRawJson (plain : value.Plain type) :
    ofJson value.toRawJson = value := by
  cases plain with
  | int value =>
      rw [toRawJson, ofJson_ofInt (fitsSigned_toInt value), Int64.ofInt_toInt]
  | bool | float | text => rfl

/-- A plain value converts as its own raw form does in the wrapping of its
type, and there the raw form is canonical. -/
theorem convert (plain : value.Plain type) :
    type.convert value = .ok ⟨type, value.toRawJson⟩ := by
  have unwrapped : value.unwrapped = value := by cases plain <;> rfl
  have same : type.convert value =
      type.convert (.typed ⟨type, value.toRawJson⟩) := by
    rw [ValueType.convert, ValueType.convert, unwrapped, HostValue.unwrapped,
      plain.ofJson_toRawJson]
  rw [same, ValueType.convert_typed_eq_self_iff]
  exact ⟨rfl, .inr plain.hasForm⟩

theorem infer (plain : value.Plain type) :
    value.infer = .ok ⟨type, value.toRawJson⟩ := by
  have inferred : value.infer = type.convert value := by cases plain <;> rfl
  rw [inferred, plain.convert]

end Plain

theorem infer_error_iff :
    (∃ error, value.infer = .error error) ↔
      (∃ json, value = .json json) ∨
        ∃ real : Double, value = .float real ∧ real.isFinite = false := by
  constructor
  · rintro ⟨error, failed⟩
    cases value with
    | null | typed => cases failed
    | bool value => cases (Plain.bool value).infer.symm.trans failed
    | int value => cases (Plain.int value).infer.symm.trans failed
    | text value => cases (Plain.text value).infer.symm.trans failed
    | json json => exact .inl ⟨json, rfl⟩
    | float real =>
        cases real with
        | finite value => cases (Plain.float value).infer.symm.trans failed
        | infinite negative => exact .inr ⟨_, rfl, rfl⟩
        | nan => exact .inr ⟨_, rfl, rfl⟩
  · rintro (⟨json, rfl⟩ | ⟨real, rfl, notFinite⟩)
    · exact ⟨_, rfl⟩
    · cases real with
      | finite value => cases notFinite
      | infinite negative => exact ⟨_, rfl⟩
      | nan => exact ⟨_, rfl⟩

end HostValue

namespace Parameter

variable {direction : Direction} {entries : List (String × HostValue)}
  {parameters : List Parameter}

theorem infer_ok_iff {name : String} {value : HostValue}
    {parameter : Parameter} :
    infer direction name value = .ok parameter ↔
      ∃ typed, value.infer = .ok typed ∧
        parameter = ⟨name, direction, typed.type, typed.value⟩ := by
  rw [infer]
  cases value.infer <;> simp [Except.map, eq_comm]

theorem inferAll_eq_mapM (direction : Direction)
    (entries : List (String × HostValue)) :
    inferAll direction entries =
      entries.mapM fun entry => infer direction entry.1 entry.2 := by
  induction entries with
  | nil => rfl
  | cons entry rest induction =>
      rw [inferAll, induction, List.mapM_cons]

theorem inferAll_ok_iff :
    inferAll direction entries = .ok parameters ↔
      List.Forall₂ (fun entry parameter => ∃ typed,
        entry.2.infer = .ok typed ∧
          parameter = ⟨entry.1, direction, typed.type, typed.value⟩)
        entries parameters := by
  rw [inferAll_eq_mapM, Except.mapM_ok_iff]
  simp only [infer_ok_iff]

theorem inferAll_eq_nil_iff :
    inferAll direction entries = .ok [] ↔ entries = [] := by
  rw [inferAll_ok_iff, List.forall₂_nil_right_iff]

theorem exists_of_inferAll_error {error : Error}
    (failed : inferAll direction entries = .error error) :
    ∃ entry ∈ entries, entry.2.infer = .error error := by
  rw [inferAll_eq_mapM] at failed
  obtain ⟨entry, member, failed⟩ := Except.mapM_error failed
  exact ⟨entry, member, Except.error_of_map failed⟩

theorem exists_inferAll_iff :
    (∃ parameters, inferAll direction entries = .ok parameters) ↔
      ∀ entry ∈ entries, ∃ typed, entry.2.infer = .ok typed := by
  constructor
  · rintro ⟨parameters, inferred⟩ entry member
    obtain ⟨_, -, typed, found, -⟩ :=
      exists_of_forall₂ (inferAll_ok_iff.mp inferred) member
    exact ⟨typed, found⟩
  · intro each
    cases inferred : inferAll direction entries with
    | ok parameters => exact ⟨parameters, rfl⟩
    | error error =>
        obtain ⟨entry, member, failed⟩ := exists_of_inferAll_error inferred
        obtain ⟨typed, found⟩ := each entry member
        cases found.symm.trans failed

end Parameter

/-- Values have types by themselves unless they are structured or not finite.
What is wrapped stays so, nothing becomes the empty text, and all else is taken
as it is and can be given back. Lists of parameters have their types exactly if
each of the values has one, and are told in the order of the values. -/
theorem HostValue.inference :
    (∀ value : HostValue,
      (∃ error, value.infer = .error error) ↔
        (∃ json, value = .json json) ∨
          ∃ real : Double, value = .float real ∧ real.isFinite = false) ∧
      (∀ typed, (HostValue.typed typed).infer = .ok typed) ∧
      HostValue.null.infer = .ok ⟨.varchar, .string ""⟩ ∧
      (∀ (value : HostValue) (type : ValueType), value.Plain type →
        value.infer = .ok ⟨type, value.toRawJson⟩ ∧
          HostValue.ofJson value.toRawJson = value ∧
          type.convert value = value.infer) ∧
      ∀ (direction : Direction) (entries : List (String × HostValue)),
        ((∃ parameters, Parameter.inferAll direction entries = .ok parameters) ↔
          ∀ entry ∈ entries, ∃ typed, entry.2.infer = .ok typed) ∧
        ∀ parameters, Parameter.inferAll direction entries = .ok parameters ↔
          List.Forall₂ (fun entry parameter => ∃ typed,
            entry.2.infer = .ok typed ∧
              parameter = ⟨entry.1, direction, typed.type, typed.value⟩)
            entries parameters := by
  refine ⟨fun value => HostValue.infer_error_iff, fun typed => rfl, rfl,
    fun value type plain => ⟨plain.infer, plain.ofJson_toRawJson, ?_⟩,
    fun direction entries => ⟨Parameter.exists_inferAll_iff,
      fun parameters => Parameter.inferAll_ok_iff⟩⟩
  rw [plain.infer, plain.convert]

/-- Nothing has the wire form of the empty text, and from that form it is the
text which comes back. -/
theorem HostValue.inference_mixed :
    (∃ error, (HostValue.float .nan).infer = .error error) ∧
      (HostValue.text "").infer = HostValue.null.infer ∧
      HostValue.ofJson (HostValue.text "").toRawJson = .text "" ∧
      ∃ parameters,
        Parameter.inferAll .input [("n", .int Int64.minValue), ("e", .text ""),
          ("t", .typed ⟨.list, .ofInt 1⟩)] = .ok parameters ∧
        parameters.map Parameter.value =
          [.ofInt leastSigned, .string "", .ofInt 1] := by
  obtain ⟨errs, wrapped, nothing, plain, lists⟩ := HostValue.inference
  obtain ⟨empty, back, -⟩ := plain _ _ (.text "")
  refine ⟨(errs _).mpr (.inr ⟨.nan, rfl, rfl⟩), ?_, back, ?_⟩
  · rw [empty, nothing]
    rfl
  · refine ⟨[⟨"n", .input, .integer, .ofInt leastSigned⟩,
      ⟨"e", .input, .varchar, .string ""⟩, ⟨"t", .input, .list, .ofInt 1⟩],
      ((lists .input _).2 _).mpr ?_, rfl⟩
    refine .cons ⟨_, (plain _ _ (.int Int64.minValue)).1, by decide⟩ ?_
    exact .cons ⟨_, empty, rfl⟩ (.cons ⟨_, wrapped _, rfl⟩ .nil)

end Orchestration

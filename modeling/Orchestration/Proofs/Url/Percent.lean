import Orchestration.Url.Percent

namespace Orchestration.Url

/-- No character of the text has to be encoded. -/
def Clear (set text : List Char) : Prop :=
  ∀ c ∈ text, isControl c = false ∧ c ∉ set

section Clear

variable {set text first second : List Char} {c : Char}

theorem clear_nil : Clear set [] := nofun

theorem clear_append (before : Clear set first) (after : Clear set second) :
    Clear set (first ++ second) :=
  List.forall_mem_append.mpr ⟨before, after⟩

theorem Clear.of_subset {whole : List Char} (clear : Clear set whole)
    (within : ∀ c ∈ text, c ∈ whole) : Clear set text :=
  fun c member => clear c (within c member)

theorem Clear.notMem (clear : Clear set text) (denied : c ∈ set) : c ∉ text :=
  fun member => (clear c member).2 denied

theorem Clear.printed (clear : Clear set text) (member : c ∈ text) :
    0x20 ≤ c.toNat ∧ c.toNat < 0x7f := by
  have solid := (clear c member).1
  rw [isControl, Bool.or_eq_false_iff, decide_eq_false_iff_not,
    decide_eq_false_iff_not] at solid
  omega

theorem Clear.above (clear : Clear set text) (blank : ' ' ∈ set)
    (member : c ∈ text) : 0x20 < c.toNat := by
  refine Nat.lt_of_le_of_ne (clear.printed member).1 fun same => ?_
  obtain rfl : ' ' = c := Char.toNat_inj.mp same
  exact clear.notMem blank member

theorem encode_clear (clear : Clear set text) : encode set text = text := by
  induction text with
  | nil => rfl
  | cons c rest induction =>
      obtain ⟨solid, free⟩ := clear c List.mem_cons_self
      have kept : encodeChar set c = [c] := by
        simp [encodeChar, solid, free]
      rw [encode, List.flatMap_cons, kept, ← encode,
        induction fun other among => clear other (List.mem_cons_of_mem _ among)]
      rfl

end Clear

def Escapes (set : List Char) : Prop :=
  '%' ∉ set ∧ ∀ value < 16, upperHexDigit value ∉ set

instance (set : List Char) : Decidable (Escapes set) :=
  inferInstanceAs (Decidable (_ ∧ _))

theorem upperHexDigit_solid :
    ∀ value < 16, isControl (upperHexDigit value) = false := by
  decide

theorem mem_encodeByte {byte : UInt8} {c : Char}
    (member : c ∈ encodeByte byte) :
    c = '%' ∨ ∃ value < 16, c = upperHexDigit value := by
  have small : byte.toNat < 256 := byte.toNat_lt
  simp only [encodeByte, List.mem_cons, List.not_mem_nil, or_false] at member
  rcases member with rfl | rfl | rfl
  · exact .inl rfl
  · exact .inr ⟨_, by omega, rfl⟩
  · exact .inr ⟨_, by omega, rfl⟩

variable {set text : List Char} {c : Char}

theorem mem_encode (member : c ∈ encode set text) :
    (c ∈ text ∧ isControl c = false ∧ c ∉ set) ∨
      c = '%' ∨ ∃ value < 16, c = upperHexDigit value := by
  obtain ⟨origin, among, written⟩ := List.mem_flatMap.mp member
  rw [encodeChar] at written
  split at written
  next =>
    obtain ⟨byte, -, within⟩ := List.mem_flatMap.mp written
    exact .inr (mem_encodeByte within)
  next kept =>
    obtain rfl := List.mem_singleton.mp written
    rw [Bool.or_eq_true, not_or, List.contains_iff_mem,
      Bool.not_eq_true] at kept
    exact .inl ⟨among, kept⟩

theorem clear_encode (escapes : Escapes set) (text : List Char) :
    Clear set (encode set text) := by
  intro c member
  obtain ⟨-, solid, free⟩ | rfl | ⟨value, small, rfl⟩ := mem_encode member
  · exact ⟨solid, free⟩
  · exact ⟨by decide, escapes.1⟩
  · exact ⟨upperHexDigit_solid value small, escapes.2 value small⟩

theorem encode_avoids {denied : Char → Bool} (mark : denied '%' = false)
    (digits : ∀ value < 16, denied (upperHexDigit value) = false)
    (free : ∀ c ∈ text, denied c = false) :
    ∀ c ∈ encode set text, denied c = false := by
  intro c member
  obtain ⟨among, -⟩ | rfl | ⟨value, small, rfl⟩ := mem_encode member
  · exact free c among
  · exact mark
  · exact digits value small

end Orchestration.Url

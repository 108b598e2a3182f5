import Mathlib.Data.List.Perm.Basic
import Orchestration.Json.Record
import Orchestration.Named
import Orchestration.Proofs.Json.Document

namespace Orchestration.Json

/-- The object shows the fields of a record, except those that were omitted, in
any order, and others may stand between them. -/
inductive Shows (written : List (String × Json)) (omitted : List String) :
    Json → Prop where
  | intro {given others : List (String × Json)}
      (apart : ∀ other ∈ others, other.1 ∉ written.map Prod.fst)
      (shown : given.Perm
        (written.filter (fun field => field.1 ∉ omitted) ++ others)) :
      Shows written omitted (.object given)

theorem shows_self (written : List (String × Json)) :
    Shows written [] (.object written) :=
  @Shows.intro written [] written [] nofun (by simp)

/-- The fields that are there are those of a record, with the values that were
written for it. -/
structure Fields.Carries (fields : Fields) (written : List (String × Json))
    (omitted : List String) : Prop where
  named : fields.positional = false
  find? : ∀ name, fields.find? name =
    if name ∈ omitted then none
    else (written.lookup name).map Document.ofJson

namespace Document

theorem named?_ofFields (fields : List (String × Json)) :
    named? (ofFields fields) =
      some (fields.map fun field => (field.1, ofJson field.2)) := by
  induction fields with
  | nil => rfl
  | cons field rest induction =>
      rw [ofFields, named?, induction, Option.map_some, List.map_cons]

theorem fields?_object (names : List String) (given : List (String × Json)) :
    (ofJson (.object given)).fields? names =
      let kept := given.filter fun field => field.1 ∈ names
      if (kept.map Prod.fst).Nodup then
        some ⟨kept.map fun field => (field.1, ofJson field.2), false⟩
      else none := by
  have kept :
      (given.map fun field => (field.1, ofJson field.2)).filter
          (fun field => field.1 ∈ names) =
        (given.filter fun field => field.1 ∈ names).map
          fun field => (field.1, ofJson field.2) := by
    rw [List.filter_map]
    rfl
  rw [ofJson, fields?, named?_ofFields]
  simp only [Option.bind_eq_bind, Option.bind_some, kept, List.map_map]
  rfl

end Document

variable {written : List (String × Json)} {omitted : List String} {json : Json}

theorem perm_kept {given others : List (String × Json)}
    (apart : ∀ other ∈ others, other.1 ∉ written.map Prod.fst)
    (shown : given.Perm
      (written.filter (fun field => field.1 ∉ omitted) ++ others)) :
    (given.filter fun field => field.1 ∈ written.map Prod.fst).Perm
      (written.filter fun field => field.1 ∉ omitted) := by
  have own : (written.filter fun field => field.1 ∉ omitted).filter
      (fun field => field.1 ∈ written.map Prod.fst) =
        written.filter fun field => field.1 ∉ omitted :=
    List.filter_eq_self.mpr fun field member =>
      decide_eq_true (List.mem_map_of_mem (List.mem_of_mem_filter member))
  have strange :
      others.filter (fun field => field.1 ∈ written.map Prod.fst) = [] :=
    List.filter_eq_nil_iff.mpr fun other member => by
      simpa using apart other member
  refine (shown.filter _).trans (.of_eq ?_)
  rw [List.filter_append, own, strange, List.append_nil]

theorem lookup_kept {kept : List (String × Json)}
    (perm : kept.Perm (written.filter fun field => field.1 ∉ omitted))
    (distinct : (written.map Prod.fst).Nodup)
    (keptDistinct : (kept.map Prod.fst).Nodup) (name : String) :
    kept.lookup name =
      if name ∈ omitted then none else written.lookup name := by
  apply Option.ext
  intro value
  rw [SortedMap.lookup_eq_some_iff (List.pairwise_map.mp keptDistinct),
    perm.mem_iff, List.mem_filter]
  by_cases left : name ∈ omitted
  · simp [left]
  · rw [if_neg left,
      SortedMap.lookup_eq_some_iff (List.pairwise_map.mp distinct)]
    simp [left]

theorem Shows.carries (shows : Shows written omitted json)
    (distinct : (written.map Prod.fst).Nodup) :
    ∃ fields, (Document.ofJson json).fields? (written.map Prod.fst) =
        some fields ∧ fields.Carries written omitted := by
  obtain @⟨given, others, apart, shown⟩ := shows
  have perm := perm_kept apart shown
  have keptDistinct := (perm.map Prod.fst).nodup_iff.mpr
    (distinct.sublist (List.filter_sublist.map _))
  refine ⟨_, (Document.fields?_object _ given).trans (if_pos keptDistinct),
    rfl, fun name => ?_⟩
  rw [Fields.find?, lookup_map, lookup_kept perm distinct keptDistinct]
  split <;> rfl

def FitsSigned32 (value : Int) : Prop :=
  -2 ^ (31 : Nat) ≤ value ∧ value ≤ 2 ^ (31 : Nat) - 1

def held {α : Type} (omitted : List String) (name : String)
    (default value : α) : α :=
  if name ∈ omitted then default else value

namespace Fields.Carries

variable {α : Type} {fields : Fields} {name : String} {value : Json}
  {decoded : α}

theorem required (carries : fields.Carries written omitted)
    (decode? : Document → Option α) (kept : name ∉ omitted)
    (found : written.lookup name = some value)
    (decodes : decode? (.ofJson value) = some decoded) :
    fields.required name decode? = some decoded := by
  rw [Fields.required, carries.find?, if_neg kept, found]
  exact decodes

theorem text {text : String} (carries : fields.Carries written omitted)
    (kept : name ∉ omitted)
    (found : written.lookup name = some (.string text)) :
    fields.required name Document.text? = some text :=
  carries.required _ kept found rfl

theorem signed {value : Int} (carries : fields.Carries written omitted)
    (kept : name ∉ omitted) (fits : FitsSigned value)
    (found : written.lookup name = some (.ofInt value)) :
    fields.required name Document.signed? = some value :=
  carries.required _ kept found (if_pos fits)

theorem signed32 {value : Int} (carries : fields.Carries written omitted)
    (kept : name ∉ omitted) (fits : FitsSigned32 value)
    (found : written.lookup name = some (.ofInt value)) :
    fields.required name Document.signed32? = some value :=
  carries.required _ kept found (if_pos fits)

theorem withDefault (carries : fields.Carries written omitted)
    (name : String) (decode? : Document → Option α) (default : α)
    (found : written.lookup name = some value)
    (decodes : decode? (.ofJson value) = some decoded) :
    fields.withDefault name decode? default =
      some (held omitted name default decoded) := by
  rw [Fields.withDefault, carries.find?, held, found]
  by_cases left : name ∈ omitted
  · rw [if_pos left, if_pos left]
  · rw [if_neg left, if_neg left]
    exact decodes

theorem textOr {text : String} (carries : fields.Carries written omitted)
    (name standard : String)
    (found : written.lookup name = some (.string text)) :
    fields.withDefault name Document.text? standard =
      some (held omitted name standard text) :=
  carries.withDefault name _ standard found rfl

theorem optional {decoded : Option α} (carries : fields.Carries written omitted)
    (name : String) (decode? : Document → Option α)
    (found : written.lookup name = some value)
    (decodes : Document.nullable? decode? (.ofJson value) = some decoded) :
    fields.optional name decode? = some (held omitted name none decoded) := by
  rw [Fields.optional, carries.find?, held, found, carries.named]
  by_cases left : name ∈ omitted
  · rw [if_pos left, if_pos left]
    rfl
  · rw [if_neg left, if_neg left]
    exact decodes

end Fields.Carries

namespace Document

theorem unsigned?_ofNat {value : Nat} (fits : value ≤ greatestUnsigned) :
    unsigned? (ofJson (.ofNat value)) = some value :=
  congrArg (Option.map Int.toNat)
    (if_pos ⟨Int.natCast_nonneg value, fits⟩)

theorem nullable?_text (text : Option String) :
    nullable? text? (ofJson (.ofOption .string text)) = some text := by
  cases text <;> rfl

theorem value?_ofJson {json : Json} (ordered : json.sorted = json) :
    value? (ofJson json) = some json := by
  rw [value?, toJson?_ofJson, ordered]

end Document

end Orchestration.Json

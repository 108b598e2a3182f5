import Orchestration.Json.Document
import Orchestration.Proofs.Json.Words

namespace Orchestration.Json

/-! A value that was written as a text is read again, its fields in the order of
their keys. -/

namespace Document

/-- The tokens lead from one state to the other. -/
def Builds (tokens : List Token) (start finish : State) : Prop :=
  tokens.foldlM step start = some finish

theorem Builds.cons {token : Token} {tokens : List Token}
    {start next finish : State} (first : step start token = some next)
    (more : Builds tokens next finish) :
    Builds (token :: tokens) start finish := by
  rw [Builds, List.foldlM_cons, first]
  exact more

theorem Builds.append {first second : List Token} {start middle finish : State}
    (before : Builds first start middle) (after : Builds second middle finish) :
    Builds (first ++ second) start finish := by
  rw [Builds, List.foldlM_append, before]
  exact after

/-- The state takes the next token as the first one of a value. -/
def Awaits (state : State) (stack : List Frame) : Prop :=
  ∀ token, token ≠ .closeBracket → step state token = begin stack token

theorem awaits_value (stack : List Frame) : Awaits (.value stack) stack :=
  fun _ _ => rfl

theorem awaits_firstItem (stack : List Frame) :
    Awaits (.firstItem stack) (.items [] :: stack) := by
  intro token notLast
  cases token with
  | closeBracket => exact absurd rfl notLast
  | _ => rfl

theorem intercalate_cons {α : Type} (separator first : List α)
    (rest : List (List α)) :
    separator.intercalate (first :: rest) =
      first ++ rest.flatMap (separator ++ ·) := by
  induction rest generalizing first with
  | nil => simp
  | cons second rest induction =>
      rw [List.intercalate_cons_cons, induction, List.flatMap_cons,
        List.append_assoc, List.append_assoc]

mutual

theorem builds_tokens : (json : Json) → ∀ {state stack}, Awaits state stack →
    Builds json.tokens state (.finished (ofJson json) stack)
  | .null, _, _, awaits => .cons (awaits .null nofun) rfl
  | .bool value, _, _, awaits => .cons (awaits (.bool value) nofun) rfl
  | .number value, _, _, awaits =>
      .cons (awaits (.number value) nofun) rfl
  | .string value, _, _, awaits =>
      .cons (awaits (.string value) nofun) rfl
  | .array [], _, _, awaits =>
      .cons (awaits .openBracket nofun) (.cons rfl rfl)
  | .array (item :: rest), _, stack, awaits => by
      rw [tokens, itemTokens, intercalate_cons, List.append_assoc]
      exact .cons (awaits .openBracket nofun)
        ((builds_tokens item (awaits_firstItem stack)).append
          (builds_items rest (ofJson item) [] stack))
  | .object [], _, _, awaits =>
      .cons (awaits .openBrace nofun) (.cons rfl rfl)
  | .object ((key, value) :: rest), _, stack, awaits => by
      rw [tokens, fieldTokens, intercalate_cons, List.append_assoc]
      exact .cons (awaits .openBrace nofun) (.cons rfl (.cons rfl
        ((builds_tokens value (awaits_value _)).append
          (builds_fields rest key (ofJson value) [] stack))))

theorem builds_items : (items : List Json) →
    ∀ (item : Document) (done : List Document) (stack : List Frame),
    Builds ((itemTokens items).flatMap ([.comma] ++ ·) ++ [.closeBracket])
      (.finished item (.items done :: stack))
      (.finished (.array (done.reverse ++ item :: ofItems items)) stack)
  | [], item, done, stack => by
      rw [ofItems, ← List.reverse_cons]
      exact .cons rfl rfl
  | next :: rest, item, done, stack => by
      have more := builds_items rest (ofJson next) (item :: done) stack
      rw [List.reverse_cons, List.append_assoc] at more
      rw [itemTokens, List.flatMap_cons, List.append_assoc, List.append_assoc]
      exact .cons rfl ((builds_tokens next (awaits_value _)).append more)

theorem builds_fields : (fields : List (String × Json)) →
    ∀ (key : Option String) (value : Document)
      (done : List (Option String × Document)) (stack : List Frame),
    Builds ((fieldTokens fields).flatMap ([.comma] ++ ·) ++ [.closeBrace])
      (.finished value (.fields done key :: stack))
      (.finished (.object (done.reverse ++ (key, value) :: ofFields fields))
        stack)
  | [], key, value, done, stack => by
      rw [ofFields, ← List.reverse_cons]
      exact .cons rfl rfl
  | (name, next) :: rest, key, value, done, stack => by
      have more :=
        builds_fields rest name (ofJson next) ((key, value) :: done) stack
      rw [List.reverse_cons, List.append_assoc] at more
      rw [fieldTokens, List.flatMap_cons, List.append_assoc, List.append_assoc]
      exact .cons rfl (.cons rfl (.cons rfl
        ((builds_tokens next (awaits_value _)).append more)))

end

theorem ofTokens?_tokens (json : Json) :
    ofTokens? json.tokens = some (ofJson json) := by
  have builds := builds_tokens json (awaits_value [])
  rw [ofTokens?, builds]

end Document

theorem ofList_entries (map : SortedMap String Json) :
    .ofList map.entries = map :=
  SortedMap.ext_find? fun key => by
    rw [SortedMap.find?_ofList, SortedMap.lookup_reverse_entries]

theorem sorted_ofMap {map : SortedMap String Json}
    (ordered : ∀ entry ∈ map.entries, entry.2.sorted = entry.2) :
    (ofMap map).sorted = ofMap map := by
  have same : sortedFields map.entries = map.entries := by
    rw [sortedFields_eq]
    conv_rhs => rw [← List.map_id map.entries]
    exact List.map_congr_left fun entry member =>
      Prod.ext rfl (ordered entry member)
  rw [ofMap, sorted, same, ofList_entries]
  rfl

mutual

theorem sorted_sorted : (json : Json) → json.sorted.sorted = json.sorted
  | .null | .bool _ | .number _ | .string _ => rfl
  | .array items => congrArg Json.array (sortedItems_sortedItems items)
  | .object fields => by
      rw [sorted]
      exact sorted_ofMap fun entry member =>
        sorted_of_mem_sortedFields fields entry
          (SortedMap.mem_of_mem_ofList member)

theorem sortedItems_sortedItems : (items : List Json) →
    sortedItems (sortedItems items) = sortedItems items
  | [] => rfl
  | item :: rest => by
      rw [sortedItems, sortedItems, sorted_sorted item,
        sortedItems_sortedItems rest]

theorem sorted_of_mem_sortedFields : (fields : List (String × Json)) →
    ∀ field ∈ sortedFields fields, field.2.sorted = field.2
  | [], _, member => nomatch member
  | (key, value) :: rest, field, member => by
      rcases List.mem_cons.mp member with rfl | later
      · exact sorted_sorted value
      · exact sorted_of_mem_sortedFields rest field later

end

mutual

def depth : Json → Nat
  | .array items => itemsDepth items + 1
  | .object fields => fieldsDepth fields + 1
  | _ => 0

def itemsDepth : List Json → Nat
  | [] => 0
  | item :: rest => max (depth item) (itemsDepth rest)

def fieldsDepth : List (String × Json) → Nat
  | [] => 0
  | (_, value) :: rest => max (depth value) (fieldsDepth rest)

end

namespace Document

mutual

theorem limited_ofJson : (json : Json) → ∀ room, json.depth ≤ room →
    limited room (ofJson json) = ofJson json
  | .null, _, _ | .bool _, _, _ | .number _, _, _ | .string _, _, _ => by
      simp [ofJson, limited]
  | .array items, room + 1, within =>
      congrArg Document.array
        (limitedItems_ofItems items room (Nat.le_of_succ_le_succ within))
  | .object fields, room + 1, within =>
      congrArg Document.object
        (limitedFields_ofFields fields room (Nat.le_of_succ_le_succ within))

theorem limitedItems_ofItems : (items : List Json) → ∀ room,
    itemsDepth items ≤ room →
    limitedItems room (ofItems items) = ofItems items
  | [], _, _ => rfl
  | item :: rest, room, within => by
      have both := Nat.max_le.mp within
      rw [ofItems, limitedItems, limited_ofJson item room both.1,
        limitedItems_ofItems rest room both.2]

theorem limitedFields_ofFields : (fields : List (String × Json)) → ∀ room,
    fieldsDepth fields ≤ room →
    limitedFields room (ofFields fields) = ofFields fields
  | [], _, _ => rfl
  | (key, value) :: rest, room, within => by
      have both := Nat.max_le.mp within
      rw [ofFields, limitedFields, limited_ofJson value room both.1,
        limitedFields_ofFields rest room both.2]

end

mutual

/-- A value that is not nested too deep is read, in the order of keys. -/
theorem toJson?_limited : (json : Json) → ∀ room,
    toJson? (limited room (ofJson json)) =
      if json.depth ≤ room then some json.sorted else none
  | .null, room => by simp [ofJson, limited, toJson?, depth, sorted]
  | .bool _, room => by simp [ofJson, limited, toJson?, depth, sorted]
  | .number _, room => by simp [ofJson, limited, toJson?, depth, sorted]
  | .string _, room => by simp [ofJson, limited, toJson?, depth, sorted]
  | .array items, 0 => by simp [ofJson, limited, toJson?, depth]
  | .array items, room + 1 => by
      have inner := toItems?_limited items room
      simp only [ofJson, limited, toJson?, depth, sorted, inner,
        Nat.add_le_add_iff_right]
      split <;> rfl
  | .object fields, 0 => by simp [ofJson, limited, toJson?, depth]
  | .object fields, room + 1 => by
      have inner := toFields?_limited fields room
      simp only [ofJson, limited, toJson?, depth, sorted, inner,
        Nat.add_le_add_iff_right]
      split <;> rfl

theorem toItems?_limited : (items : List Json) → ∀ room,
    toItems? (limitedItems room (ofItems items)) =
      if itemsDepth items ≤ room then some (sortedItems items) else none
  | [], _ => by simp [ofItems, limitedItems, toItems?, itemsDepth, sortedItems]
  | item :: rest, room => by
      have first := toJson?_limited item room
      have more := toItems?_limited rest room
      simp only [ofItems, limitedItems, toItems?, itemsDepth, sortedItems,
        first, more, Nat.max_le]
      by_cases shallow : item.depth ≤ room <;>
        by_cases others : itemsDepth rest ≤ room <;> simp [shallow, others]

theorem toFields?_limited : (fields : List (String × Json)) → ∀ room,
    toFields? (limitedFields room (ofFields fields)) =
      if fieldsDepth fields ≤ room then some (sortedFields fields) else none
  | [], _ => by
      simp [ofFields, limitedFields, toFields?, fieldsDepth, sortedFields]
  | (key, value) :: rest, room => by
      have first := toJson?_limited value room
      have more := toFields?_limited rest room
      simp only [ofFields, limitedFields, toFields?, fieldsDepth, sortedFields,
        first, more, Nat.max_le]
      by_cases shallow : value.depth ≤ room <;>
        by_cases others : fieldsDepth rest ≤ room <;> simp [shallow, others]

end

theorem toJson?_ofJson (json : Json) :
    toJson? (ofJson json) = some json.sorted := by
  have deep := toJson?_limited json json.depth
  rwa [limited_ofJson json _ le_rfl, if_pos le_rfl] at deep

def ofText? (text : String) : Option Document :=
  (Token.scan text.toList).bind ofTokens?

theorem ofText?_compact {json : Json} (words : json.holdsWords = true) :
    ofText? json.compact = some (ofJson json) := by
  have scans := scans_compact json words [] .finish
  have nothing : Token.scan [] = some [] := by
    rw [Token.scan]
    rfl
  rw [List.append_nil, nothing, Option.map_some, List.append_nil] at scans
  rw [ofText?, scans, Option.bind_some, ofTokens?_tokens]

end Document

def ofText? (text : String) : Option Json :=
  (Document.ofText? text).bind Document.toJson?

/-- The text stands for the value: `ofText?` decodes it, at every depth and with
numbers as the nearest doubles, to the value with its fields in the order of
their keys. The reader `read?` does so up to the depth that it takes. -/
structure IsTextOf (text : String) (json : Json) : Prop where
  value : ofText? text = some json.sorted
  read : read? text =
    if json.depth ≤ Document.nestingLimit then some json.sorted else none

theorem isTextOf_compact {json : Json} (words : json.holdsWords = true) :
    IsTextOf json.compact json where
  value := by
    rw [ofText?, Document.ofText?_compact words, Option.bind_some,
      Document.toJson?_ofJson]
  read := by
    have read : Document.read? json.compact =
        (Document.ofText? json.compact).map
          (Document.limited Document.nestingLimit) := rfl
    rw [read?, read, Document.ofText?_compact words, Option.map_some,
      Option.bind_some, Document.toJson?_limited]

end Orchestration.Json

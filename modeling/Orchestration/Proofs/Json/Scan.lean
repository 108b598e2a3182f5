import Mathlib.Data.List.Forall2
import Orchestration.Proofs.Json.Numeral

namespace Orchestration.Json

open Text

namespace Token

/-- A text is split into these tokens, whatever closes it. -/
def Scans (text : List Char) (tokens : List Token) : Prop :=
  ∀ rest, Closes rest →
    scan (text ++ rest) = (scan rest).map (tokens ++ ·)

theorem scan_next {c : Char} {text rest : List Char} {token : Token}
    (solid : isBlank c = false)
    (next : next? (c :: text) = some (token, rest)) :
    scan (c :: text) = (scan rest).map (token :: ·) := by
  have kept : (c :: text).dropWhile isBlank = c :: text :=
    List.dropWhile_cons_of_neg (by simp [solid])
  rw [scan]
  split
  next empty =>
    rw [kept] at empty
    cases empty
  next first remaining same =>
    rw [kept] at same
    cases same
    split
    next none =>
      rw [next] at none
      cases none
    next some =>
      rw [next] at some
      cases some
      rfl

theorem scans_next {c : Char} {text : List Char} {token : Token}
    (solid : isBlank c = false)
    (next : ∀ rest, Closes rest →
      next? (c :: text ++ rest) = some (token, rest)) :
    Scans (c :: text) [token] :=
  fun rest closes => scan_next solid (next rest closes)

theorem scans_number {number : Number} (word : number.isWord = true) :
    Scans number.compact.toList [.number (some number)] := by
  obtain ⟨c, tail, shape, first⟩ := exists_first_compact word
  have next : ∀ rest, Closes rest → _ := fun rest => next?_compact word
  have solid : isBlank c = false := by
    rcases first with rfl | digit
    · rfl
    · rw [isDigit_iff] at digit
      simp only [isBlank, Bool.or_eq_false_iff, decide_eq_false_iff_not]
      refine ⟨⟨⟨?_, ?_⟩, ?_⟩, ?_⟩ <;> rintro rfl <;> simp at digit
  rw [shape] at next ⊢
  exact scans_next solid next

def simpleEscapes : List (Char × Char) :=
  [('"', '"'), ('\\', '\\'), ('\x08', 'b'), ('\t', 't'), ('\n', 'n'),
    ('\x0c', 'f'), ('\r', 'r')]

def piece (c : Char) : Piece :=
  if c.toNat < 0x20 ∧ c ∉ simpleEscapes.map (·.1) then .unit c.toNat
  else .char c

theorem pieces_char {c : Char} (solid : 0x20 ≤ c.toNat) (notQuote : c ≠ '"')
    (notEscape : c ≠ '\\') (rest : List Char) :
    pieces (c :: rest) =
      (pieces rest).map fun (more, behind) => (.char c :: more, behind) := by
  have kept : (decide (c.toNat < 0x20) || decide (c = '\\')) = false := by
    simp [notEscape, solid]
  rw [pieces.eq_def]
  split
  · simp_all
  · simp_all
  · simp_all
  · simp_all
  next same =>
    cases same
    rw [kept, if_neg Bool.false_ne_true]

theorem exists_control {value : Nat} (control : value < 0x20) :
    ∃ high low,
      ((if value < 0x10 then "\\u000" else "\\u00") ++
        hexText value).toList = ['\\', 'u', '0', '0', high, low] ∧
      unit? '0' '0' high low = some value := by
  by_cases short : value < 0x10
  · have unit : ∀ value < 0x10,
        unit? '0' '0' '0' value.digitChar = some value := by decide
    refine ⟨'0', value.digitChar, ?_, unit value short⟩
    rw [if_pos short, hexText, Nat.toDigits_of_lt_base short]
    simp
  · have unit : ∀ value < 0x20, ¬ value < 0x10 →
        Nat.toDigits 16 value = ['1', (value - 0x10).digitChar] ∧
          unit? '0' '0' '1' (value - 0x10).digitChar = some value := by
      decide
    obtain ⟨digits, unit⟩ := unit value control short
    refine ⟨'1', _, ?_, unit⟩
    rw [if_neg short, hexText, digits]
    simp

theorem pieces_escape {mark c : Char} (simple : mark ≠ 'u')
    (escaped : escaped? mark = some c) (rest : List Char) :
    pieces ('\\' :: mark :: rest) =
      (pieces rest).map fun (more, behind) => (.char c :: more, behind) := by
  rw [pieces.eq_def]
  split
  · simp_all
  · simp_all
  · simp_all
  next same =>
    cases same
    rw [escaped]
    cases pieces rest <;> rfl
  next other same =>
    cases same
    exact (other mark rest rfl rfl).elim

theorem pieces_unit {a b c d : Char} {value : Nat}
    (unit : unit? a b c d = some value) (rest : List Char) :
    pieces ('\\' :: 'u' :: a :: b :: c :: d :: rest) =
      (pieces rest).map fun (more, behind) =>
        (.unit value :: more, behind) := by
  rw [pieces, unit]
  cases pieces rest <;> rfl

theorem simpleEscapes_sound :
    ∀ escape ∈ simpleEscapes, escape.2 ≠ 'u' ∧
      escaped? escape.2 = some escape.1 ∧
      (escapeChar escape.1).toList = ['\\', escape.2] := by
  simp [simpleEscapes, escaped?, escapeChar]

theorem pieces_escapeChar (c : Char) (rest : List Char) :
    pieces ((escapeChar c).toList ++ rest) =
      (pieces rest).map fun (more, behind) => (piece c :: more, behind) := by
  by_cases simple : c ∈ simpleEscapes.map (·.1)
  · obtain ⟨escape, listed, rfl⟩ := List.mem_map.mp simple
    obtain ⟨notUnit, escaped, text⟩ := simpleEscapes_sound escape listed
    rw [text, piece, if_neg fun control => control.2 simple]
    exact pieces_escape notUnit escaped rest
  · have others : c ≠ '"' ∧ c ≠ '\\' ∧ c ≠ '\x08' ∧ c ≠ '\t' ∧ c ≠ '\n' ∧
        c ≠ '\x0c' ∧ c ≠ '\r' := by
      simpa [simpleEscapes] using simple
    obtain ⟨quote, escape, b, t, n, f, r⟩ := others
    rw [escapeChar, if_neg quote, if_neg escape, if_neg b, if_neg t, if_neg n,
      if_neg f, if_neg r, piece]
    split
    next control =>
      obtain ⟨high, low, text, unit⟩ := exists_control control
      rw [text, if_pos ⟨control, simple⟩]
      exact pieces_unit unit rest
    next visible =>
      rw [if_neg fun control => visible control.1]
      simpa using pieces_char (Nat.not_lt.mp visible) quote escape rest

theorem pieces_quote (text rest : List Char) :
    pieces (text.flatMap (fun c => (escapeChar c).toList) ++ '"' :: rest) =
      some (text.map piece, rest) := by
  induction text with
  | nil => rfl
  | cons c text induction =>
      rw [List.flatMap_cons, List.append_assoc, pieces_escapeChar, induction]
      rfl

theorem joinPieces_unit {value : Nat} (control : value < 0x20)
    (rest : List Piece) :
    joinPieces (.unit value :: rest) =
      (joinPieces rest).map (Char.ofNat value :: ·) := by
  have high : isHighSurrogate value = false := by
    simp [isHighSurrogate]
    omega
  have low : isLowSurrogate value = false := by
    simp [isLowSurrogate]
    omega
  cases rest with
  | nil => simp [joinPieces, high, low]
  | cons first rest => cases first <;> simp [joinPieces, high, low]

theorem joinPieces_map_piece (text : List Char) :
    joinPieces (text.map piece) = some text := by
  induction text with
  | nil => rfl
  | cons c text induction =>
      rw [List.map_cons, piece]
      split
      next control =>
        rw [joinPieces_unit control.1, induction, Char.ofNat_toNat]
        rfl
      next => rw [joinPieces, induction, Option.map_some]

theorem toList_quote (text : String) :
    (quote text).toList = '"' ::
      (text.toList.flatMap (fun c => (escapeChar c).toList) ++ ['"']) := by
  rw [quote, String.toList_append, String.toList_append, String.toList_join,
    List.flatMap_map]
  rfl

theorem scan_quote (text : String) (rest : List Char) :
    scan ((quote text).toList ++ rest) =
      (scan rest).map (.string (some text) :: ·) := by
  rw [toList_quote, List.cons_append, List.append_assoc]
  refine scan_next rfl ?_
  rw [next?, List.singleton_append, pieces_quote, Option.map_some]
  simp only [joinPieces_map_piece, Option.map_some, String.ofList_toList]

theorem scan_mark {c : Char} {token : Token} (solid : isBlank c = false)
    (next : ∀ rest, next? (c :: rest) = some (token, rest))
    (rest : List Char) : scan (c :: rest) = (scan rest).map (token :: ·) :=
  scan_next solid (next rest)

theorem scan_colon (rest : List Char) :
    scan (':' :: rest) = (scan rest).map (.colon :: ·) :=
  scan_mark rfl (fun _ => rfl) rest

theorem scan_comma (rest : List Char) :
    scan (',' :: rest) = (scan rest).map (.comma :: ·) :=
  scan_mark rfl (fun _ => rfl) rest

variable {text : List Char} {tokens : List Token}

theorem Scans.between {first last : Char} {opening closing : Token}
    (scans : Scans text tokens)
    (opens : ∀ rest, scan (first :: rest) = (scan rest).map (opening :: ·))
    (closes : ∀ rest, scan (last :: rest) = (scan rest).map (closing :: ·))
    (mark : ∀ rest, Closes (last :: rest)) :
    Scans (first :: (text ++ [last])) (opening :: (tokens ++ [closing])) := by
  intro rest _
  have inner := scans (last :: rest) (mark rest)
  rw [closes] at inner
  rw [List.cons_append, List.append_assoc, List.singleton_append, opens, inner,
    Option.map_map, Option.map_map]
  simp [Function.comp_def]

theorem Scans.array (scans : Scans text tokens) :
    Scans ('[' :: (text ++ [']']))
      (.openBracket :: (tokens ++ [.closeBracket])) :=
  scans.between (scan_mark rfl fun _ => rfl) (scan_mark rfl fun _ => rfl)
    .bracket

theorem Scans.object (scans : Scans text tokens) :
    Scans ('\x7b' :: (text ++ ['\x7d']))
      (.openBrace :: (tokens ++ [.closeBrace])) :=
  scans.between (scan_mark rfl fun _ => rfl) (scan_mark rfl fun _ => rfl)
    .brace

theorem Scans.field (scans : Scans text tokens) (key : String) :
    Scans ((quote key).toList ++ ':' :: text)
      (.string (some key) :: .colon :: tokens) := by
  intro rest closes
  rw [List.append_assoc, scan_quote, List.cons_append, scan_colon,
    scans rest closes, Option.map_map, Option.map_map]
  rfl

theorem scans_intercalate {texts : List (List Char)}
    {tokens : List (List Token)} (all : List.Forall₂ Scans texts tokens) :
    Scans ([','].intercalate texts) ([.comma].intercalate tokens) := by
  induction all with
  | nil =>
      intro rest _
      simp
  | @cons text values texts tokens scans rest induction =>
      cases rest with
      | nil => simpa using scans
      | cons =>
          intro rest closes
          have more := induction rest closes
          rw [List.intercalate_cons_cons, List.intercalate_cons_cons,
            List.append_assoc, List.append_assoc, List.singleton_append,
            scans _ (.comma _), scan_comma, more, Option.map_map,
            Option.map_map]
          simp [Function.comp_def]

end Token

mutual

/-- Every integer in a value is a word of 64 bits. -/
def holdsWords : Json → Bool
  | .number value => value.isWord
  | .array items => itemsHoldWords items
  | .object fields => fieldsHoldWords fields
  | _ => true

def itemsHoldWords : List Json → Bool
  | [] => true
  | item :: rest => holdsWords item && itemsHoldWords rest

def fieldsHoldWords : List (String × Json) → Bool
  | [] => true
  | (_, value) :: rest => holdsWords value && fieldsHoldWords rest

end

mutual

def tokens : Json → List Token
  | .null => [.null]
  | .bool value => [.bool value]
  | .number value => [.number (some value)]
  | .string value => [.string (some value)]
  | .array items =>
      .openBracket :: ([.comma].intercalate (itemTokens items) ++
        [.closeBracket])
  | .object fields =>
      .openBrace :: ([.comma].intercalate (fieldTokens fields) ++
        [.closeBrace])

def itemTokens : List Json → List (List Token)
  | [] => []
  | item :: rest => tokens item :: itemTokens rest

def fieldTokens : List (String × Json) → List (List Token)
  | [] => []
  | (key, value) :: rest =>
      (.string (some key) :: .colon :: tokens value) :: fieldTokens rest

end

mutual

theorem scans_compact : (json : Json) → json.holdsWords = true →
    Token.Scans json.compact.toList json.tokens
  | .null, _ => fun rest closes => Token.scan_next rfl rfl
  | .bool true, _ => fun rest closes => Token.scan_next rfl rfl
  | .bool false, _ => fun rest closes => Token.scan_next rfl rfl
  | .number value, words => Token.scans_number words
  | .string value, _ => fun rest _ => Token.scan_quote value rest
  | .array items, words => by
      have inner := Token.scans_intercalate (scans_items items words)
      simpa [compact, tokens, String.toList_intercalate] using inner.array
  | .object fields, words => by
      have inner := Token.scans_intercalate (scans_fields fields words)
      simpa [compact, tokens, String.toList_intercalate] using inner.object

theorem scans_items : (items : List Json) → itemsHoldWords items = true →
    List.Forall₂ Token.Scans ((compactItems items).map String.toList)
      (itemTokens items)
  | [], _ => .nil
  | item :: rest, words =>
      have both := Bool.and_eq_true_iff.mp words
      .cons (scans_compact item both.1) (scans_items rest both.2)

theorem scans_fields : (fields : List (String × Json)) →
    fieldsHoldWords fields = true →
    List.Forall₂ Token.Scans ((compactFields fields).map String.toList)
      (fieldTokens fields)
  | [], _ => .nil
  | (key, value) :: rest, words =>
      have both := Bool.and_eq_true_iff.mp words
      .cons (by simpa using (scans_compact value both.1).field key)
        (scans_fields rest both.2)

end

end Orchestration.Json

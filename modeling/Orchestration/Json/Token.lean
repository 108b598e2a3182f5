import Orchestration.Json.Basic
import Orchestration.Number.Numeral

namespace Orchestration.Json

open Text

/-! Tokens of JSON text. A number beyond the doubles and a text with an
unpaired surrogate are tokens without a value: they may stand where the value
is not looked at. -/

inductive Token where
  | openBrace
  | closeBrace
  | openBracket
  | closeBracket
  | comma
  | colon
  | null
  | bool (value : Bool)
  | number (value : Option Number)
  | string (value : Option String)

namespace Token

def isBlank (c : Char) : Bool :=
  c = ' ' || c = '\n' || c = '\t' || c = '\r'

/-- An integer word, or else the nearest double; minus zero is a double. -/
def integerValue (negative : Bool) (digits : List Char) : Option Number :=
  let value : Int := if negative then -valueOf digits else valueOf digits
  if value = 0 ∧ negative then some (.real (.zero true))
  else if leastSigned ≤ value ∧ value ≤ greatestUnsigned then
    some (.integer value)
  else ((Numeral.mk negative digits 0).toDouble).finite?.map .real

/-- Digits of an integer part: a zero stands alone. -/
def wholeDigits (text : List Char) : Option (List Char × List Char) :=
  match spanDigits text with
  | (['0'], rest) => some (['0'], rest)
  | ('0' :: _, _) => none
  | ([], _) => none
  | (digits, rest) => some (digits, rest)

def fractionDigits : List Char → Option (Option (List Char) × List Char)
  | '.' :: text =>
      match spanDigits text with
      | ([], _) => none
      | (digits, rest) => some (some digits, rest)
  | text => some (none, text)

def exponentValue : List Char → Option (Option Int × List Char)
  | mark :: text =>
      if mark = 'e' || mark = 'E' then
        let (negative, unsigned) := Numeral.readSign text
        match spanDigits unsigned with
        | ([], _) => none
        | (digits, rest) =>
            some (some (if negative then -valueOf digits else valueOf digits),
              rest)
      else some (none, mark :: text)
  | [] => some (none, [])

/-- Cuts off a minus sign; a plus sign is none in front of a number. -/
def readMinus : List Char → Bool × List Char
  | '-' :: rest => (true, rest)
  | text => (false, text)

/-- A number without point and exponent may be an integer. -/
def numberValue (negative : Bool) (whole : List Char)
    (fraction : Option (List Char)) (exponent : Option Int) : Option Number :=
  match fraction, exponent with
  | none, none => integerValue negative whole
  | fraction, exponent =>
      let fraction := fraction.getD []
      let numeral : Numeral :=
        ⟨negative, whole ++ fraction, exponent.getD 0 - fraction.length⟩
      numeral.toDouble.finite?.map .real

def number? (text : List Char) : Option (Token × List Char) := do
  let (negative, unsigned) := readMinus text
  let (whole, afterWhole) ← wholeDigits unsigned
  let (fraction, afterFraction) ← fractionDigits afterWhole
  let (exponent, rest) ← exponentValue afterFraction
  return (.number (numberValue negative whole fraction exponent), rest)

def escaped? (c : Char) : Option Char :=
  if c = '"' || c = '\\' || c = '/' then some c
  else if c = 'b' then some '\x08'
  else if c = 'f' then some '\x0c'
  else if c = 'n' then some '\n'
  else if c = 'r' then some '\r'
  else if c = 't' then some '\t'
  else none

def isHighSurrogate (unit : Nat) : Bool := 0xd800 ≤ unit && unit < 0xdc00

def isLowSurrogate (unit : Nat) : Bool := 0xdc00 ≤ unit && unit < 0xe000

def ofSurrogates (high low : Nat) : Char :=
  Char.ofNat (0x10000 + (high - 0xd800) * 0x400 + (low - 0xdc00))

def unit? (a b c d : Char) : Option Nat :=
  if [a, b, c, d].all isHexDigit then some (hexValueOf [a, b, c, d]) else none

inductive Piece where
  | char (c : Char)
  | unit (value : Nat)

/-- The pieces up to the closing quotation mark, and the text behind it. -/
def pieces : List Char → Option (List Piece × List Char)
  | [] => none
  | '"' :: rest => some ([], rest)
  | '\\' :: 'u' :: a :: b :: c :: d :: rest =>
      match unit? a b c d, pieces rest with
      | some unit, some (more, end_) => some (.unit unit :: more, end_)
      | _, _ => none
  | '\\' :: c :: rest =>
      match escaped? c, pieces rest with
      | some c, some (more, end_) => some (.char c :: more, end_)
      | _, _ => none
  | c :: rest =>
      if c.toNat < 0x20 || c = '\\' then none
      else (pieces rest).map fun (more, end_) => (.char c :: more, end_)

/-- Joins surrogate pairs; nothing, if a surrogate has no partner. -/
def joinPieces : List Piece → Option (List Char)
  | [] => some []
  | .char c :: rest => (joinPieces rest).map (c :: ·)
  | .unit high :: .unit low :: rest =>
      if isHighSurrogate high then
        if isLowSurrogate low then
          (joinPieces rest).map (ofSurrogates high low :: ·)
        else none
      else if isLowSurrogate high then none
      else (joinPieces (.unit low :: rest)).map (Char.ofNat high :: ·)
  | .unit unit :: rest =>
      if isHighSurrogate unit || isLowSurrogate unit then none
      else (joinPieces rest).map (Char.ofNat unit :: ·)

def next? : List Char → Option (Token × List Char)
  | '\x7b' :: rest => some (.openBrace, rest)
  | '\x7d' :: rest => some (.closeBrace, rest)
  | '[' :: rest => some (.openBracket, rest)
  | ']' :: rest => some (.closeBracket, rest)
  | ',' :: rest => some (.comma, rest)
  | ':' :: rest => some (.colon, rest)
  | '"' :: rest =>
      (pieces rest).map fun (body, end_) =>
        (.string ((joinPieces body).map String.ofList), end_)
  | 'n' :: 'u' :: 'l' :: 'l' :: rest => some (.null, rest)
  | 't' :: 'r' :: 'u' :: 'e' :: rest => some (.bool true, rest)
  | 'f' :: 'a' :: 'l' :: 's' :: 'e' :: rest => some (.bool false, rest)
  | text => number? text

theorem wholeDigits_shorter {text digits rest : List Char}
    (h : wholeDigits text = some (digits, rest)) :
    rest.length < text.length := by
  have lengths := length_spanDigits text
  unfold wholeDigits at h
  split at h <;> simp_all [← List.length_pos_iff] <;> omega

theorem fractionDigits_notLonger {text rest : List Char}
    {digits : Option (List Char)}
    (h : fractionDigits text = some (digits, rest)) :
    rest.length ≤ text.length := by
  unfold fractionDigits at h
  split at h
  · rename_i tail
    have lengths := length_spanDigits tail
    split at h
    · simp_all
    · simp_all
      omega
  · simp_all

theorem readSign_notLonger (text : List Char) :
    (Numeral.readSign text).2.length ≤ text.length := by
  unfold Numeral.readSign
  split <;> simp

theorem exponentValue_notLonger {text rest : List Char} {value : Option Int}
    (h : exponentValue text = some (value, rest)) :
    rest.length ≤ text.length := by
  unfold exponentValue at h
  split at h
  · rename_i mark tail
    have sign := readSign_notLonger tail
    have lengths := length_spanDigits (Numeral.readSign tail).2
    split at h
    · simp only at h
      split at h
      · simp at h
      · rename_i digits remaining _ spanned
        simp only [Option.some.injEq, Prod.mk.injEq] at h
        rw [spanned, h.2] at lengths
        simp only [List.length_cons] at lengths ⊢
        omega
    · simp_all
  · simp_all

theorem readMinus_notLonger (text : List Char) :
    (readMinus text).2.length ≤ text.length := by
  unfold readMinus
  split <;> simp

theorem number?_shorter {text rest : List Char} {token : Token}
    (h : number? text = some (token, rest)) : rest.length < text.length := by
  unfold number? at h
  simp only [bind, Option.bind_eq_some_iff, pure, Option.some.injEq,
    Prod.mk.injEq] at h
  obtain ⟨_, whole, _, fraction, _, exponent, _, rfl⟩ := h
  have minus := readMinus_notLonger text
  have wholeShorter := wholeDigits_shorter whole
  have fractionNotLonger := fractionDigits_notLonger fraction
  have exponentNotLonger := exponentValue_notLonger exponent
  omega

theorem pieces_shorter {text rest : List Char} {body : List Piece}
    (h : pieces text = some (body, rest)) : rest.length < text.length := by
  fun_induction pieces text generalizing body with
  | case1 => simp at h
  | case2 tail => simp_all
  | case3 a b c d tail unit more remaining taken _ hypothesis =>
      simp only [Option.some.injEq, Prod.mk.injEq] at h
      obtain ⟨_, rfl⟩ := h
      have := hypothesis taken
      simp only [List.length_cons]
      omega
  | case4 => simp at h
  | case5 => grind
  | case6 => simp at h
  | case7 => simp at h
  | case8 c tail _ _ _ _ hypothesis =>
      simp only [Option.map_eq_some_iff, Prod.exists, Prod.mk.injEq] at h
      obtain ⟨more, remaining, taken, _, rfl⟩ := h
      have := hypothesis taken
      simp only [List.length_cons]
      omega

theorem next?_shorter {text rest : List Char} {token : Token}
    (h : next? text = some (token, rest)) : rest.length < text.length := by
  unfold next? at h
  split at h
  case h_11 => exact number?_shorter h
  case h_7 tail =>
    simp only [Option.map_eq_some_iff, Prod.exists, Prod.mk.injEq] at h
    obtain ⟨body, remaining, taken, _, rfl⟩ := h
    have := pieces_shorter taken
    simp only [List.length_cons]
    omega
  all_goals
    simp only [Option.some.injEq, Prod.mk.injEq] at h
    simp only [← h.2, List.length_cons]
    omega

def scan (text : List Char) : Option (List Token) :=
  match _trimmed : text.dropWhile isBlank with
  | [] => some []
  | first :: rest =>
      match _taken : next? (first :: rest) with
      | none => none
      | some (token, remaining) => (scan remaining).map (token :: ·)
termination_by text.length
decreasing_by
  have shorter := next?_shorter _taken
  have suffix := (List.dropWhile_suffix isBlank (l := text)).length_le
  rw [_trimmed] at suffix
  omega

end Token

end Orchestration.Json

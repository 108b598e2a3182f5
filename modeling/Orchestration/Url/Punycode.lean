import Orchestration.SortedMap
import Orchestration.Text.Basic

namespace Orchestration.Url.Punycode

open Text

/-! Labels of host names in letters beyond ASCII, written in ASCII: the plain
characters first, then the places of the others. Places are numbers in base 36,
the least digit first, with thresholds that adapt. -/

def base : Nat := 36

def digit (value : Nat) : Char :=
  if value < 26 then Char.ofNat ('a'.toNat + value)
  else Char.ofNat ('0'.toNat + (value - 26))

/-- Divides by 35 until at most 455 is left, and counts the divisions. -/
def shrink (delta count : Nat) : Nat × Nat :=
  if 455 < delta then shrink (delta / 35) (count + 1) else (delta, count)
termination_by delta

def adapt (delta points : Nat) (first : Bool) : Nat :=
  let delta := if first then delta / 700 else delta / 2
  let (delta, count) := shrink (delta + delta / points) 0
  base * count + 36 * delta / (delta + 38)

/-- A digit with index `k` is the last one of its number if it is smaller. -/
def threshold (bias k : Nat) : Nat := min 26 (max 1 (base * k - bias))

/-- The digits of a number from the digit with index `k` on. -/
def number (bias : Nat) (value k : Nat) : List Char :=
  let threshold := threshold bias k
  if value < threshold then [digit value]
  else
    let rest := (value - threshold) / (base - threshold)
    let head := digit (threshold + (value - threshold) % (base - threshold))
    if rest < value then head :: number bias rest (k + 1) else [head]
termination_by value

structure State where
  delta : Nat := 0
  bias : Nat := 72
  handled : Nat
  output : List Char

/-- Looks at one character while the places of `code` are written. -/
def place (plain code : Nat) (state : State) (c : Char) : State :=
  if c.toNat < code then { state with delta := state.delta + 1 }
  else if c.toNat = code then
    { delta := 0
      bias := adapt state.delta (state.handled + 1) (state.handled == plain)
      handled := state.handled + 1
      output := state.output ++ number state.bias state.delta 1 }
  else state

def isPlain (c : Char) : Bool := c.toNat < 0x80

def codes (text : List Char) : List Nat :=
  let set : SortedSet Int :=
    (text.filter (!isPlain ·)).foldl
      (fun set c => SortedSet.add set (c.toNat : Int)) .empty
  set.toList.map Int.toNat

/-- Writes the places of all code points from `next` on. -/
def places (text : List Char) (plain : Nat) :
    List Nat → Nat → State → List Char
  | [], _, state => state.output
  | code :: rest, next, state =>
      let skipped :=
        { state with
          delta := state.delta + (code - next) * (state.handled + 1) }
      let placed := text.foldl (place plain code) skipped
      places text plain rest (code + 1)
        { placed with delta := placed.delta + 1 }

def encode (text : List Char) : List Char :=
  let plain := text.filter isPlain
  let head := if plain.isEmpty then [] else plain ++ ['-']
  places text plain.length (codes text) 0x80
    { handled := plain.length, output := head }

def digitValue? (c : Char) : Option Nat :=
  if isDigit c then some (26 + Text.digitValue c)
  else if 'a' ≤ c && c ≤ 'z' then some (c.toNat - 'a'.toNat)
  else none

/-- Reads a number from the digit with index `k` on, whose digits weigh `weight`
and more, and adds it to `sum`. -/
def readNumber (bias : Nat) (k weight sum : Nat) :
    List Char → Option (Nat × List Char)
  | [] => none
  | c :: rest =>
      match digitValue? c with
      | none => none
      | some value =>
          let sum := sum + value * weight
          if value < threshold bias k then some (sum, rest)
          else
            readNumber bias (k + 1) (weight * (base - threshold bias k)) sum rest

theorem readNumber_shorter {bias k weight sum number : Nat}
    {text rest : List Char}
    (h : readNumber bias k weight sum text = some (number, rest)) :
    rest.length < text.length := by
  fun_induction readNumber bias k weight sum text with
  | case1 => simp at h
  | case2 => simp at h
  | case3 => simp_all
  | case4 _ _ _ _ _ _ _ _ _ ih =>
    have := ih h
    simp only [List.length_cons]
    omega

/-- Inserts characters at places. The last one had the code `code`, and stands
before the place `place`. -/
def insert (bias code place : Nat) (letters text : List Char) :
    Option (List Char) :=
  if text.isEmpty then some letters
  else
    match found : readNumber bias 1 1 place text with
    | none => none
    | some (number, rest) =>
        let points := letters.length + 1
        let code := code + number / points
        let here := number % points
        if code.isValidChar then
          insert (adapt (number - place) points (place == 0)) code (here + 1)
            (letters.insertIdx here (Char.ofNat code)) rest
        else none
termination_by text.length
decreasing_by exact readNumber_shorter found

/-- Cuts at the last hyphen, unless it is the first character. -/
def cutPlain (text : List Char) : List Char × List Char :=
  let places := (text.reverse.takeWhile (· ≠ '-')).reverse
  if places.length + 1 < text.length then
    (text.take (text.length - places.length - 1), places)
  else ([], text)

def decode? (text : List Char) : Option (List Char) :=
  let (plain, places) := cutPlain text
  insert 72 0x80 0 plain places

end Orchestration.Url.Punycode

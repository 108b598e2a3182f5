import Orchestration.Text.Basic

namespace Orchestration.Unicode

open Text

/-! Tables of code points, written as hexadecimal words between blanks. -/

def wordsOf (text : String) : List (List Char) :=
  let spaced := text.toList.map fun c => if c = '\n' then ' ' else c
  (pieces ' ' spaced).filter (!·.isEmpty)

def lettersOf (word : List Char) : List Char :=
  (pieces '.' word).map fun code => Char.ofNat (hexValueOf code)

structure Range where
  first : Nat
  last : Nat
deriving DecidableEq

namespace Range

def contains (range : Range) (code : Nat) : Bool :=
  range.first ≤ code && code ≤ range.last

def ofWord (word : List Char) : Range :=
  let (first, last) := cut '-' word
  ⟨hexValueOf first, hexValueOf (last.getD first)⟩

end Range

def ranges (text : String) : List Range := (wordsOf text).map Range.ofWord

def among (ranges : List Range) (c : Char) : Bool :=
  ranges.any (·.contains c.toNat)

end Orchestration.Unicode

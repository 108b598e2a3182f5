import Orchestration.Number.Numeral
import Orchestration.Text.Basic

namespace Orchestration

open Text

/-! Version numbers: major, minor and patch, an optional pre-release part behind
a hyphen and an optional build part behind a plus sign. -/

structure Version where
  major : Nat
  minor : Nat
  patch : Nat
  prerelease : List (List Char) := []
  build : List (List Char) := []
deriving DecidableEq

namespace Version

def number? (text : List Char) : Option Nat :=
  if text ≠ [] ∧ text.all isDigit ∧ (text.length = 1 ∨ text.head? ≠ some '0') ∧
      (valueOf text : Int) ≤ greatestUnsigned then
    some (valueOf text)
  else none

def isIdentifierChar (c : Char) : Bool :=
  isDigit c || ('a' ≤ c && c ≤ 'z') || ('A' ≤ c && c ≤ 'Z') || c = '-'

def IsIdentifier (text : List Char) : Prop :=
  text ≠ [] ∧ text.all isIdentifierChar

instance (text : List Char) : Decidable (IsIdentifier text) := by
  unfold IsIdentifier
  infer_instance

/-- Numbers in a pre-release part have no leading zeros. -/
def IsPlain (text : List Char) : Prop :=
  text.all isDigit → text.length = 1 ∨ text.head? ≠ some '0'

instance (text : List Char) : Decidable (IsPlain text) := by
  unfold IsPlain
  infer_instance

def identifiers? (text : Option (List Char)) : Option (List (List Char)) :=
  match text with
  | none => some []
  | some text =>
      let parts := pieces '.' text
      if ∀ part ∈ parts, IsIdentifier part then some parts else none

def numbers? (text : List Char) : Option (Nat × Nat × Nat) :=
  match pieces '.' text with
  | [major, minor, patch] =>
      return (← number? major, ← number? minor, ← number? patch)
  | _ => none

def read? (text : List Char) : Option Version := do
  let (text, build) := cut '+' text
  let (core, prerelease) := cut '-' text
  let build ← identifiers? build
  let prerelease ← identifiers? prerelease
  let (major, minor, patch) ← numbers? core
  if ∀ part ∈ prerelease, IsPlain part then
    some { major, minor, patch, prerelease, build }
  else none

def numbers (version : Version) : Nat × Nat × Nat :=
  (version.major, version.minor, version.patch)

/-- Numbers come before words. Numbers are in the order of their values, words
in that of their characters. -/
def compareIdentifiers (a b : List Char) : Ordering :=
  match a.all isDigit, b.all isDigit with
  | true, true => Ord.compare (valueOf a) (valueOf b)
  | true, false => .lt
  | false, true => .gt
  | false, false => Ord.compare a b

/-- A version without a pre-release part comes after those that have one. -/
def comparePrereleases (a b : List (List Char)) : Ordering :=
  match a, b with
  | [], [] => .eq
  | [], _ :: _ => .gt
  | _ :: _, [] => .lt
  | a, b => a.compareLex compareIdentifiers b

def compare (a b : Version) : Ordering :=
  (Ord.compare a.major b.major).then <|
    (Ord.compare a.minor b.minor).then <|
      (Ord.compare a.patch b.patch).then <|
        comparePrereleases a.prerelease b.prerelease

end Version

end Orchestration

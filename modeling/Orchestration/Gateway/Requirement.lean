import Orchestration.Gateway.Version

namespace Orchestration

open Text

inductive Comparison where
  | less
  | atMost
  | equal
  | atLeast
  | greater
deriving DecidableEq

namespace Comparison

def holds : Comparison → Ordering → Bool
  | less, ordering => ordering.isLT
  | atMost, ordering => ordering.isLE
  | equal, ordering => ordering.isEq
  | atLeast, ordering => ordering.isGE
  | greater, ordering => ordering.isGT

def read? : List Char → Option (Comparison × List Char)
  | '<' :: '=' :: rest => some (atMost, rest)
  | '<' :: rest => some (less, rest)
  | '=' :: rest => some (equal, rest)
  | '>' :: '=' :: rest => some (atLeast, rest)
  | '>' :: rest => some (greater, rest)
  | _ => none

end Comparison

structure Bound where
  comparison : Comparison
  version : Version
deriving DecidableEq

namespace Bound

def trimSpaces (text : List Char) : List Char :=
  ((text.dropWhile (· = ' ')).reverse.dropWhile (· = ' ')).reverse

def read? (text : List Char) : Option Bound := do
  let (comparison, rest) ← Comparison.read? (trimSpaces text)
  let version ← Version.read? (trimSpaces rest)
  return { comparison, version }

def admits (bound : Bound) (version : Version) : Bool :=
  bound.comparison.holds (version.compare bound.version)

def namesPrerelease (bound : Bound) (version : Version) : Bool :=
  bound.version.numbers == version.numbers && !bound.version.prerelease.isEmpty

end Bound

structure Requirement where
  bounds : List Bound
deriving DecidableEq

namespace Requirement

def read? (text : String) : Option Requirement :=
  ((pieces ',' text.toList).mapM Bound.read?).map fun bounds => { bounds }

/-- A pre-release is admitted only where some bound is one with the same
numbers. -/
def admits (requirement : Requirement) (version : Version) : Bool :=
  requirement.bounds.all (·.admits version) &&
    (version.prerelease.isEmpty ||
      requirement.bounds.any (·.namesPrerelease version))

end Requirement

namespace Gateway

/-- Gateways of the versions from 3.2 up to, but not including, 3.4. -/
def supportedVersions : String := ">=3.2.0, <3.4.0"

def supports (version : String) : Bool :=
  match Requirement.read? supportedVersions with
  | none => false
  | some requirement =>
      (Version.read? (trim version.toList)).any requirement.admits

end Gateway

end Orchestration

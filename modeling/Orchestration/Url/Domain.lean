import Orchestration.Unicode.Composition
import Orchestration.Unicode.WritingDirection
import Orchestration.Unicode.Folding
import Orchestration.Unicode.Joining
import Orchestration.Url.Punycode

namespace Orchestration.Url.Domain

open Text
open Unicode

def mark : List Char := ['x', 'n', '-', '-']

/-- Labels that are longer are neither encoded nor decoded. -/
def longestLabel : Nat := 1000

def longestCode : Nat := 2000

def isAscii (c : Char) : Bool := c.toNat < 0x80

/-- Characters of ASCII that no name has. -/
def isDenied (c : Char) : Bool :=
  c.toNat ≤ 0x20 || c.toNat = 0x7f ||
    ['%', '#', '/', ':', '<', '>', '?', '@', '[', '\\', ']', '^', '|'].contains c

def fold? (text : List Char) : Option (List Char) :=
  (text.mapM folded?).bind fun letters =>
    let name := composed letters.flatten
    if name.any isDenied then none else some name

/-- Only what folding gives, beyond ASCII at least in part, is encoded. -/
def decodeLabel? (code : List Char) : Option (List Char) :=
  if code.all isAscii ∧ code.getLast?.any (· ≠ '-') ∧
      code.length ≤ longestCode then
    (Punycode.decode? code).filter fun label =>
      label.all isFolded && composed label == label
  else none

def label? (text : List Char) : Option (List Char) :=
  if mark.isPrefixOf text then decodeLabel? (text.drop mark.length)
  else some text

/-! Characters that join letters. They may stand behind a virama; the one that
keeps letters apart also between letters that would join. -/

def nonJoiner : Char := Char.ofNat 0x200c

def joiner : Char := Char.ofNat 0x200d

def meets (joins : Char → Bool) (text : List Char) : Bool :=
  match text.dropWhile fun c => isTransparent c && !joins c with
  | [] => false
  | c :: _ => joins c

/-- `before` has the characters before the rest of a label, last one first. -/
def joinersFit (before : List Char) : List Char → Bool
  | [] => true
  | c :: rest =>
      let fits :=
        if c = nonJoiner then
          before.head?.any isVirama ||
            meets joinsNext before && meets joinsPrevious rest
        else if c = joiner then before.head?.any isVirama
        else true
      fits && joinersFit (c :: before) rest

def isLabel (label : List Char) : Bool :=
  !label.head?.any isMark && joinersFit [] label &&
    (label.all isAscii || label.length ≤ longestLabel)

/-! Names with letters from right to left. Each of their labels has a direction,
and what it ends in and contains fits that direction. -/

def fromTheRight (direction : WritingDirection) : Bool :=
  [.rightToLeft, .arabicLetter, .arabicNumber].contains direction

def neutrals : List WritingDirection :=
  [.europeanSeparator, .commonSeparator, .europeanTerminator, .otherNeutral,
    .boundaryNeutral, .mark]

/-- The directions without the marks at their end, the last one first. -/
def withoutMarks (directions : List WritingDirection) : List WritingDirection :=
  directions.reverse.dropWhile (· = .mark)

def fitsLeftToRight (directions : List WritingDirection) : Bool :=
  let letters : List WritingDirection := [.leftToRight, .europeanNumber]
  (withoutMarks directions).head?.any letters.contains &&
    directions.all (letters ++ neutrals).contains

def fitsRightToLeft (directions : List WritingDirection) : Bool :=
  let letters : List WritingDirection :=
    [.rightToLeft, .arabicLetter, .europeanNumber, .arabicNumber]
  (withoutMarks directions).head?.any letters.contains &&
    directions.all (letters ++ neutrals).contains &&
    !(directions.contains .europeanNumber && directions.contains .arabicNumber)

def directionFits (label : List Char) : Bool :=
  let directions := label.map WritingDirection.of
  match directions.head? with
  | none => true
  | some .leftToRight => fitsLeftToRight directions
  | some .rightToLeft => fitsRightToLeft directions
  | some .arabicLetter => fitsRightToLeft directions
  | some _ => false

def directionsFit (labels : List (List Char)) : Bool :=
  labels.all directionFits ||
    !labels.any (·.any fun c => fromTheRight (WritingDirection.of c))

def labelText (label : List Char) : List Char :=
  if label.all isAscii then label else mark ++ Punycode.encode label

def ascii? (text : List Char) : Option (List Char) :=
  ((fold? text).bind fun name => (pieces '.' name).mapM label?).bind fun labels =>
    if labels.all isLabel && directionsFit labels then
      some (['.'].intercalate (labels.map labelText))
    else none

end Orchestration.Url.Domain

import MiniLisp.Terminal.Grapheme.Ranges

/-!
# Grapheme classes

Every character has one class, which tells how it goes together with its
neighbours.  A class is a value of the Unicode property `Grapheme_Cluster_Break`,
divided further where pictographs and conjuncts ask for it.
-/

namespace MiniLisp

/-- How a character goes together with its neighbours. -/
inductive GraphemeClass where
  | carriageReturn
  | lineFeed
  | control
  | extend
  | nonJoiner
  | linker
  | joiner
  | spacingMark
  | prepend
  | regionalIndicator
  | leading
  | vowel
  | trailing
  | openSyllable
  | closedSyllable
  | consonant
  | pictograph
  | other
deriving DecidableEq

namespace GraphemeClass

/-- The number of trailing letters, none among them, that a Hangul syllable may have.  The
syllables with the same letters but the trailing one follow each other. -/
def trailingCount : Nat := 28

def firstSyllable : Nat := 0xAC00

/-- The class of a Hangul syllable.  The first of those that share their other letters has
no trailing one. -/
def ofSyllable (char : Char) : GraphemeClass :=
  if (char.toNat - firstSyllable) % trailingCount = 0 then .openSyllable else .closedSyllable

def ofWide (char : Char) : GraphemeClass :=
  if char.toNat = 0x200C then .nonJoiner
  else if char.toNat = 0x200D then .joiner
  else if isWithin GraphemeRanges.syllable char then ofSyllable char
  else if isWithin GraphemeRanges.linker char then .linker
  else if isWithin GraphemeRanges.extend char then .extend
  else if isWithin GraphemeRanges.spacingMark char then .spacingMark
  else if isWithin GraphemeRanges.consonant char then .consonant
  else if isWithin GraphemeRanges.pictograph char then .pictograph
  else if isWithin GraphemeRanges.regionalIndicator char then .regionalIndicator
  else if isWithin GraphemeRanges.leadingJamo char then .leading
  else if isWithin GraphemeRanges.vowelJamo char then .vowel
  else if isWithin GraphemeRanges.trailingJamo char then .trailing
  else if isWithin GraphemeRanges.prepend char then .prepend
  else if isWithin GraphemeRanges.control char then .control
  else .other

/-- The class of a character.  Most texts are ASCII, where only controls are of a class of
their own. -/
def ofChar (char : Char) : GraphemeClass :=
  if char = '\r' then .carriageReturn
  else if char = '\n' then .lineFeed
  else if char.toNat < 0x80 then
    if isWithin GraphemeRanges.control char then .control else .other
  else ofWide char

/-- Whether characters of the class never go together with their neighbours, lines ended
by two characters aside. -/
def standsAlone : GraphemeClass → Bool
  | .carriageReturn | .lineFeed | .control => true
  | _ => false

def isExtender : GraphemeClass → Bool
  | .extend | .nonJoiner | .linker => true
  | _ => false

def isConjunctMark : GraphemeClass → Bool
  | .extend | .linker | .joiner => true
  | _ => false

/-- Whether characters of the class belong to whatever comes before them. -/
def belongsBefore (kind : GraphemeClass) : Bool :=
  kind.isExtender || kind == .joiner || kind == .spacingMark

def sharesSyllable : GraphemeClass → GraphemeClass → Bool
  | .leading, .leading | .leading, .vowel | .leading, .openSyllable
  | .leading, .closedSyllable => true
  | .vowel, .vowel | .vowel, .trailing | .openSyllable, .vowel
  | .openSyllable, .trailing => true
  | .trailing, .trailing | .closedSyllable, .trailing => true
  | _, _ => false

/-- Whether what comes before, the nearest first, is a consonant with marks that link it to
a consonant to come. -/
def linksConsonant (before : List GraphemeClass) : Bool :=
  (before.takeWhile isConjunctMark).contains .linker &&
    (before.dropWhile isConjunctMark).head? == some .consonant

/-- Whether what comes before, the nearest first, is a pictograph, maybe extended, with a
joiner. -/
def joinsPictograph : List GraphemeClass → Bool
  | .joiner :: before => (before.dropWhile isExtender).head? == some .pictograph
  | _ => false

/-- Whether what comes before, the nearest first, ends with a regional indicator that is
not the second of its region. -/
def awaitsIndicator (before : List GraphemeClass) : Bool :=
  (before.takeWhile (· == .regionalIndicator)).length % 2 == 1

/-- Whether a character goes on the cluster that the characters before it make, the nearest
first. -/
def continues : List GraphemeClass → GraphemeClass → Bool
  | [], _ => false
  | last :: before, next =>
    if last == .carriageReturn && next == .lineFeed then true
    else if last.standsAlone || next.standsAlone then false
    else next.belongsBefore || last == .prepend || sharesSyllable last next ||
      (next == .consonant && linksConsonant (last :: before)) ||
      (next == .pictograph && joinsPictograph (last :: before)) ||
      (next == .regionalIndicator && awaitsIndicator (last :: before))

end GraphemeClass

end MiniLisp

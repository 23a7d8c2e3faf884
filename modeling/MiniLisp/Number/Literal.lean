import MiniLisp.Cursor.Characters
import MiniLisp.Number.Decimal

/-!
# Number literals

Whether a word is a number is found out in stages.

* A word that begins with a letter after at most one sign is none, unless the
  letters are `Infinity`.
* A word that spells a double is that number.  Decimals spell the nearest
  double, and words for infinity and for what is no number spell doubles in
  letters of either case, so that what is spelled may still have to be refused.
* In any other word a cursor looks for a whole number in one of the radices
  sixteen, eight and two, which are announced by `0x`, `0o` or `0b`, in either
  case, and take no sign.  It has to be all of the word.  Its digits are gathered
  from the left, and what has been gathered is a double at any time, so that past
  fifty-three significant bits each digit may be rounded.
-/

universe u

namespace MiniLisp

namespace Literal

/-- Whether a minus sign leads some characters, and what follows the sign. -/
def splitSign : List Char → Bool × List Char
  | '-' :: unsigned => (true, unsigned)
  | '+' :: unsigned => (false, unsigned)
  | unsigned => (false, unsigned)

def digitValue? (radix : Nat) (char : Char) : Option Nat :=
  let value :=
    if char.isDigit then char.toNat - '0'.toNat
    else if 'a' ≤ char && char ≤ 'z' then char.toNat - 'a'.toNat + 10
    else if 'A' ≤ char && char ≤ 'Z' then char.toNat - 'A'.toNat + 10
    else radix
  if value < radix then some value else none

def isDigitIn (radix : Nat) (char : Char) : Bool :=
  (digitValue? radix char).isSome

def coefficient (digits : List Char) : Nat :=
  digits.foldl (fun value digit => 10 * value + (digit.toNat - '0'.toNat)) 0

/-- The size of an exponent.  Once it has reached `65536` further digits do not
count: no decimal that can be written out in full needs them. -/
def exponentSize (digits : List Char) : Nat :=
  digits.foldl
    (fun value digit =>
      if value < 65536 then 10 * value + (digit.toNat - '0'.toNat) else value) 0

def exponent? : List Char → Option Int
  | [] => some 0
  | mark :: signed =>
    let (negative, digits) := splitSign signed
    if (mark == 'e' || mark == 'E') && !digits.isEmpty && digits.all Char.isDigit then
      some (if negative then -(exponentSize digits : Int) else exponentSize digits)
    else
      none

/-- The digits after the point that some characters begin with, if they do, and
the characters after those. -/
def splitFraction : List Char → List Char × List Char
  | '.' :: rest => (rest.takeWhile Char.isDigit, rest.dropWhile Char.isDigit)
  | rest => ([], rest)

def decimal? (unsigned : List Char) : Option Decimal :=
  let whole := unsigned.takeWhile Char.isDigit
  let (fraction, ending) := splitFraction (unsigned.dropWhile Char.isDigit)
  if whole.isEmpty && fraction.isEmpty then none
  else
    (exponent? ending).map fun exponent =>
      { coefficient := coefficient (whole ++ fraction)
        place := exponent - fraction.length }

/-- Whether unsigned characters begin with a letter, other than the one word that
is a number. -/
def isOtherWord (unsigned : List Char) : Bool :=
  unsigned.head?.any Char.isAlpha && unsigned != "Infinity".toList

/-- The bits of the double that unsigned characters spell: a decimal or, in letters
of either case, a word for infinity or for what is no number. -/
def spelledBits? (unsigned : List Char) : Option Nat :=
  let lowered := unsigned.map Char.toLower
  if lowered = "inf".toList || lowered = "infinity".toList then some Double.infinityBits
  else if lowered = "nan".toList then some Double.nanBits
  else (decimal? unsigned).map Decimal.bits

def spelled? (characters : List Char) : Option Float :=
  let (negative, unsigned) := splitSign characters
  (spelledBits? unsigned).map (Double.ofMagnitude negative)

def radix? (mark : Char) : Option Nat :=
  if mark == 'x' || mark == 'X' then some 16
  else if mark == 'o' || mark == 'O' then some 8
  else if mark == 'b' || mark == 'B' then some 2
  else none

/-- The bits after one more digit: those so far times the radix, rounded, and
then the digit added, and rounded again. -/
def gatherDigit (radix bits digit : Nat) : Nat :=
  let product := Double.nearest (Double.quanta bits * radix) 1
  Double.nearest (Double.quanta product + digit * Double.quantaInOne) 1

def gather (radix : Nat) (digits : List Nat) : Nat :=
  digits.foldl (gatherDigit radix) 0

/-- The bits of the number that a literal denotes in the radix that it announces. -/
def radixBits? (literal : List Char) : Option Nat :=
  match literal with
  | '0' :: mark :: digits => do
    let radix ← radix? mark
    let values ← digits.mapM (digitValue? radix)
    return gather radix values
  | _ => none

section Scan

variable {σ : Type u} [Source σ Char]

def skipDigits (mark : Char) (cursor : Cursor σ Char) : Bool × Cursor σ Char :=
  match radix? mark with
  | some radix => cursor.skipWhile (isDigitIn radix)
  | none => (false, cursor)

/-- Pass a literal that announces its radix, and say whether there was one.  If
there was none, the characters that it could have begun with are passed too. -/
def passAnnounced (cursor : Cursor σ Char) : Bool × Cursor σ Char :=
  match cursor.accept '0' with
  | (none, after) => (false, after)
  | (some _, after) =>
    match after.acceptAny ['x', 'X', 'o', 'O', 'b', 'B'] with
    | (none, after) => (false, after)
    | (some mark, after) => skipDigits mark after

/-- Hand over a literal that announces its radix.  If there is none, the cursor
goes back to where it was. -/
def scanAnnounced (cursor : Cursor σ Char) : Option (List Char) × Cursor σ Char :=
  match passAnnounced cursor with
  | (true, after) => (some after.cut.1, after.cut.2)
  | (false, after) => (none, (after.seek cursor.position).2)

end Scan

def announcedBits? (characters : List Char) : Option Nat :=
  match scanAnnounced (Cursor.ofSource characters) with
  | (some literal, after) => if after.atEnd.1 then radixBits? literal else none
  | (none, _) => none

/-- The number that a word spells, if it is a number literal. -/
def number? (word : String) : Option Float :=
  if isOtherWord (splitSign word.toList).2 then none
  else
    match spelled? word.toList with
    | some double => if Double.isNaN double then none else some double
    | none => (announcedBits? word.toList).map (Double.ofMagnitude false)

end Literal

end MiniLisp

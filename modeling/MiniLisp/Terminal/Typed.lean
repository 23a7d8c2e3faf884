import MiniLisp.Terminal.Grapheme.Cluster

/-!
# Typed texts

A text that is typed may have backspaces in it, and each of them erases the grapheme
cluster before it, if there is one left.  Backspaces are controls, and so each is a
cluster by itself.

What is erased is counted in bytes.  The size of a cluster is kept in eight bits, so
that of a cluster of 256 bytes or more only a part is erased.  If that part begins
within a character, the text is torn.  A text without backspaces stays as it is.

No session depends on this.  It is what the editor that the program is run with makes of a
line.
-/

namespace MiniLisp

def backspace : Char := '\x08'

def byteCount (characters : List Char) : Nat :=
  characters.foldl (fun count char => count + char.utf8Size) 0

/-- What remains of characters without the first of them, which take up so many bytes,
unless a character would have to be cut. -/
def dropBytes? : Nat → List Char → Option (List Char)
  | 0, characters => some characters
  | _ + 1, [] => none
  | count + 1, char :: characters =>
    if char.utf8Size ≤ count + 1 then dropBytes? (count + 1 - char.utf8Size) characters
    else none

structure TypedText where
  /-- The characters, the last first. -/
  characters : List Char
  /-- The sizes of its clusters, the last first. -/
  sizes : List UInt8

namespace TypedText

def empty : TypedText where
  characters := []
  sizes := []

def write (typed : TypedText) (cluster : List Char) : TypedText where
  characters := cluster.reverseAux typed.characters
  sizes := (byteCount cluster).toUInt8 :: typed.sizes

/-- What is left after a backspace, unless the text is torn. -/
def erase? (typed : TypedText) : Option TypedText :=
  match typed.sizes with
  | [] => some typed
  | size :: sizes =>
    (dropBytes? size.toNat typed.characters).map fun characters => { characters, sizes }

def type? (typed : TypedText) (cluster : List Char) : Option TypedText :=
  if cluster = [backspace] then typed.erase? else some (typed.write cluster)

def typeAll? (typed : TypedText) : List (List Char) → Option TypedText
  | [] => some typed
  | cluster :: clusters =>
    match typed.type? cluster with
    | some typed => typed.typeAll? clusters
    | none => none

def text (typed : TypedText) : String :=
  String.ofList typed.characters.reverse

/-- The text that is left of a line when it is typed, unless it is torn. -/
def ofLine? (line : String) : Option String :=
  (empty.typeAll? (graphemeClusters line.toList)).map text

end TypedText

end MiniLisp

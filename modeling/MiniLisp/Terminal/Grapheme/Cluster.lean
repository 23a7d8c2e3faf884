import MiniLisp.Terminal.Grapheme.Class

/-!
# Grapheme clusters

A text falls into grapheme clusters, which are what a reader takes for its
characters: a letter with its marks, a Hangul syllable, a pictograph made of several
others, the two indicators of a region.  Each character either goes on the cluster
before it or begins another.
-/

namespace MiniLisp

/-- A text in clusters, as far as it is read. -/
structure Clustering where
  /-- The clusters that have ended, the last first. -/
  ended : List (List Char)
  /-- The characters of the cluster that may go on, the last first. -/
  current : List Char
  classes : List GraphemeClass

namespace Clustering

def empty : Clustering where
  ended := []
  current := []
  classes := []

def all (clustering : Clustering) : List (List Char) :=
  if clustering.current.isEmpty then clustering.ended
  else clustering.current.reverse :: clustering.ended

/-- The clusters with the one that may go on ended. -/
def close (clustering : Clustering) : Clustering where
  ended := clustering.all
  current := []
  classes := []

def push (clustering : Clustering) (char : Char) (kind : GraphemeClass) : Clustering :=
  { clustering with
    current := char :: clustering.current
    classes := kind :: clustering.classes }

def read (clustering : Clustering) (char : Char) : Clustering :=
  let kind := GraphemeClass.ofChar char
  if GraphemeClass.continues clustering.classes kind then clustering.push char kind
  else clustering.close.push char kind

end Clustering

def graphemeClusters (characters : List Char) : List (List Char) :=
  (characters.foldl Clustering.read Clustering.empty).all.reverse

end MiniLisp

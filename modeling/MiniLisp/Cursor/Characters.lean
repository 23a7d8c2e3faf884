import MiniLisp.Cursor.Basic
import MiniLisp.Text.Blank

/-!
# Cursors over characters

Over characters a cursor can hand over the items passed as a text, and pass the
blank ones.
-/

universe u

namespace MiniLisp

namespace Cursor

variable {σ : Type u}

/-- Hand over the characters passed, as a text. -/
def cutText (cursor : Cursor σ Char) : String × Cursor σ Char :=
  (String.ofList cursor.cut.1, cursor.cut.2)

def skipBlank [Source σ Char] (cursor : Cursor σ Char) : Bool × Cursor σ Char :=
  cursor.skipWhile isBlank

end Cursor

end MiniLisp

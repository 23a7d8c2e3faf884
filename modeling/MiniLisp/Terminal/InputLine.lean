/-!
# Lines of input

Input is a sequence of bytes that line feeds end lines in.  The line feed does
not belong to the line, and neither does one carriage return right before it.
Bytes after the last line feed make a line of their own.  A line is a text if its
bytes are UTF-8, and garbled otherwise.
-/

namespace MiniLisp

inductive InputLine where
  | text (content : String)
  | garbled
deriving DecidableEq

namespace InputLine

def lineFeed : UInt8 := 10

/-- The byte that is dropped before a line feed. -/
def carriageReturn : UInt8 := 13

def ofBytes (bytes : List UInt8) : InputLine :=
  match String.fromUTF8? (ByteArray.mk bytes.toArray) with
  | some content => .text content
  | none => .garbled

def ofEndedBytes (bytes : List UInt8) : InputLine :=
  if bytes.getLast? = some carriageReturn then ofBytes bytes.dropLast else ofBytes bytes

def all (input : List UInt8) : List InputLine :=
  match input with
  | [] => []
  | first :: others =>
    match _ : (first :: others).dropWhile (· != lineFeed) with
    | [] => [ofBytes (first :: others)]
    | _ :: rest => ofEndedBytes ((first :: others).takeWhile (· != lineFeed)) :: all rest
termination_by input.length
decreasing_by
  next ended =>
    have shorter := (List.dropWhile_suffix (l := first :: others) (· != lineFeed)).length_le
    rw [ended] at shorter
    simp only [List.length_cons] at shorter ⊢
    omega

end InputLine

end MiniLisp

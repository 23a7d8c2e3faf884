import MiniLisp.Text.Printable

/-!
# Written lists, truth values and texts

Expressions and values share one way to write a list: its items stand between
parentheses, with one space between neighbours.  Listings of tokens and of
arguments have brackets instead, with commas, and quote the texts in them.  In a
quoted text some characters are written as a backslash and a letter, and those that
do not show as their code points.
-/

namespace MiniLisp

def parenthesize (items : List (List Char)) : List Char :=
  '(' :: List.intercalate [' '] items ++ [')']

/-- Written items as a listing. -/
def bracket (items : List (List Char)) : List Char :=
  '[' :: List.intercalate [',', ' '] items ++ [']']

def writeBoolean (value : Bool) : List Char :=
  if value then "true".toList else "false".toList

def writeCodePoint (char : Char) : List Char :=
  "\\u\x7b".toList ++ Nat.toDigits 16 char.toNat ++ "\x7d".toList

/-- A character in a quoted text. -/
def quoteChar (char : Char) : List Char :=
  if char = '\x00' then ['\\', '0']
  else if char = '\t' then ['\\', 't']
  else if char = '\r' then ['\\', 'r']
  else if char = '\n' then ['\\', 'n']
  else if char = '"' || char = '\\' then ['\\', char]
  else if isExtender char || !isPrintable char then writeCodePoint char
  else [char]

def quote (characters : List Char) : List Char :=
  '"' :: (characters.flatMap quoteChar ++ ['"'])

end MiniLisp

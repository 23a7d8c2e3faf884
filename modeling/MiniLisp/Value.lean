import MiniLisp.Builtin
import MiniLisp.Number.Layout
import MiniLisp.Text.Written

/-!
# Values

What an expression evaluates to is a value, and so is whatever a name is bound
to.  A value is written in one of two ways: shown, as a reader of results sees
it, or in detail, as a listing of a procedure's arguments has it.
-/

namespace MiniLisp

inductive Value where
  | number (value : Float)
  | text (characters : String)
  | boolean (value : Bool)
  | null
  | list (items : List Value)
  | procedure (builtin : Builtin)
deriving Inhabited

inductive Kind where
  | number
  | string
  | boolean
  | null
  | list
  | procedure
deriving DecidableEq

def Kind.name : Kind → String
  | .number => "number"
  | .string => "string"
  | .boolean => "boolean"
  | .null => "null"
  | .list => "list"
  | .procedure => "procedure"

namespace Value

def kind : Value → Kind
  | .number _ => .number
  | .text _ => .string
  | .boolean _ => .boolean
  | .null => .null
  | .list _ => .list
  | .procedure _ => .procedure

mutual

/-- The characters of a shown value.  Numbers have the plain layout, and a text
stands between quotes as it is. -/
def characters : Value → List Char
  | .number value => NumberLayout.plain.write value
  | .text inner => '"' :: (inner.toList ++ ['"'])
  | .boolean value => writeBoolean value
  | .null => "null".toList
  | .list items => parenthesize (charactersOfAll items)
  | .procedure builtin => "#<procedure ".toList ++ builtin.symbol.toList ++ ['>']

def charactersOfAll : List Value → List (List Char)
  | [] => []
  | item :: items => characters item :: charactersOfAll items

end

def shown (value : Value) : String :=
  String.ofList value.characters

/-- A value as the answer to a line: truth values and null by themselves, and any
other followed by its kind. -/
def render (value : Value) : String :=
  match value with
  | .boolean _ | .null => value.shown
  | .number _ | .text _ | .list _ | .procedure _ => value.shown ++ ": " ++ value.kind.name

mutual

/-- The characters of a value in detail: its kind with what it holds.  Numbers
have the detailed layout. -/
def detailCharacters : Value → List Char
  | .number value => "Number(".toList ++ NumberLayout.detailed.write value ++ [')']
  | .text inner => "Text(".toList ++ quote inner.toList ++ [')']
  | .boolean value => "Boolean(".toList ++ writeBoolean value ++ [')']
  | .null => "Null".toList
  | .list items => "List(".toList ++ bracket (detailCharactersOfAll items) ++ [')']
  | .procedure builtin =>
      "Procedure(Builtin(".toList ++ builtin.detail.toList ++ [')', ')']

def detailCharactersOfAll : List Value → List (List Char)
  | [] => []
  | item :: items => detailCharacters item :: detailCharactersOfAll items

end

def detailOfAll (values : List Value) : String :=
  String.ofList (bracket (detailCharactersOfAll values))

mutual

/-- Whether two values are the same.  Their numbers are compared as numbers:
zeros of both signs are the same, and what is not a number differs from itself. -/
def same : Value → Value → Bool
  | .number value, .number other => value == other
  | .text inner, .text other => inner == other
  | .boolean value, .boolean other => value == other
  | .null, .null => true
  | .list items, .list others => sameAll items others
  | .procedure builtin, .procedure other => builtin == other
  | _, _ => false

def sameAll : List Value → List Value → Bool
  | [], [] => true
  | item :: items, other :: others => same item other && sameAll items others
  | _, _ => false

end

end Value

end MiniLisp

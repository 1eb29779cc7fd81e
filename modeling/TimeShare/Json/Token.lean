import TimeShare.Json.Quoted
import TimeShare.Text.Decimal

/-!
# Tokens

A JSON text is written as a list of tokens. Only integers are written as numbers,
so a number token holds an integer. `compact` joins the tokens without blanks, and
`pretty` lays them out over lines with an indent of two blanks per level.
-/

namespace TimeShare.Json

inductive Token
  | openObject
  | closeObject
  | openArray
  | closeArray
  | comma
  | colon
  | null
  | bool (value : Bool)
  | integer (value : Int)
  | string (text : String)
  deriving DecidableEq, Repr

namespace Token

def chars : Token → List Char
  | openObject => ['\x7b']
  | closeObject => ['\x7d']
  | openArray => ['[']
  | closeArray => [']']
  | comma => [',']
  | colon => [':']
  | null => "null".toList
  | bool true => "true".toList
  | bool false => "false".toList
  | integer value => Text.ofInt value
  | string text => quote text.toList

end Token

/-- The tokens of some values with commas between them. -/
def separated : List (List Token) → List Token
  | [] => []
  | [value] => value
  | value :: next :: rest => value ++ .comma :: separated (next :: rest)

def array (values : List (List Token)) : List Token :=
  .openArray :: separated values ++ [.closeArray]

/-- The tokens of a member of an object. -/
def member (key : String) (value : List Token) : List Token :=
  .string key :: .colon :: value

/-- The tokens of an object with some members. -/
def object (members : List (String × List Token)) : List Token :=
  .openObject :: separated (members.map fun (key, value) => member key value) ++ [.closeObject]

def natural (n : Nat) : List Token :=
  [.integer n]

/-- The member of a value that may be missing. -/
def optional {α : Type} (key : String) (tokens : α → List Token) :
    Option α → List (String × List Token)
  | some value => [(key, tokens value)]
  | none => []

/-! ## Layout -/

def compactChars (tokens : List Token) : List Char :=
  tokens.flatMap Token.chars

/-- The text of some tokens without blanks, as a string. -/
def compact (tokens : List Token) : String :=
  String.ofList (compactChars tokens)

/-- The beginning of a line at a level. -/
def newLine (level : Nat) : List Char :=
  '\n' :: List.replicate (2 * level) ' '

/-- Lays tokens out over lines from a level on; empty objects and arrays stay on one line. -/
def prettyFrom : Nat → List Token → List Char
  | _, [] => []
  | level, .openObject :: .closeObject :: rest =>
    Token.openObject.chars ++ Token.closeObject.chars ++ prettyFrom level rest
  | level, .openArray :: .closeArray :: rest =>
    Token.openArray.chars ++ Token.closeArray.chars ++ prettyFrom level rest
  | level, .openObject :: rest =>
    Token.openObject.chars ++ newLine (level + 1) ++ prettyFrom (level + 1) rest
  | level, .openArray :: rest =>
    Token.openArray.chars ++ newLine (level + 1) ++ prettyFrom (level + 1) rest
  | level, .closeObject :: rest =>
    newLine (level - 1) ++ Token.closeObject.chars ++ prettyFrom (level - 1) rest
  | level, .closeArray :: rest =>
    newLine (level - 1) ++ Token.closeArray.chars ++ prettyFrom (level - 1) rest
  | level, .comma :: rest => Token.comma.chars ++ newLine level ++ prettyFrom level rest
  | level, .colon :: rest => Token.colon.chars ++ ' ' :: prettyFrom level rest
  | level, token :: rest => token.chars ++ prettyFrom level rest

/-- The text of some tokens laid out over lines. -/
def pretty (tokens : List Token) : String :=
  String.ofList (prettyFrom 0 tokens)

end TimeShare.Json

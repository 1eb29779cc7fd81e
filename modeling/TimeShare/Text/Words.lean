/-!
# Words and lines

`words` cuts a text into its maximal runs of characters that are no separators.
`lines` cuts a text at newlines; a newline ends the line before it, so no empty
line follows the last one, and a carriage return directly before a newline
belongs to the line's end.
-/

namespace TimeShare.Text

/-- The maximal non-empty runs of characters that are no separators, in order. -/
def words (isSeparator : Char → Bool) (text : List Char) : List (List Char) :=
  (text.splitOnP isSeparator).filter (· ≠ [])

/-- A line without the carriage return it may end in. -/
def dropReturn (line : List Char) : List Char :=
  if line.getLast? = some '\r' then line.dropLast else line

/--
The lines made of the pieces between newlines: every piece but the last was
ended by a newline, and the last is a line of its own only if it is not empty.
-/
def linesOfPieces : List (List Char) → List (List Char)
  | [] => []
  | [last] => if last = [] then [] else [last]
  | piece :: next :: rest => dropReturn piece :: linesOfPieces (next :: rest)

def lines (text : List Char) : List (List Char) :=
  linesOfPieces (text.splitOn '\n')

end TimeShare.Text

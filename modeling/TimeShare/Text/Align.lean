/-!
# Alignment

Blanks that bring a text to a width. A width counts characters, and a text that is
wider already is left as it is.
-/

namespace TimeShare.Text

/-- The text with blanks after it up to a width in characters. -/
def padRight (width : Nat) (text : List Char) : List Char :=
  text ++ List.replicate (width - text.length) ' '

/-- The text with blanks before it up to a width in characters. -/
def padLeft (width : Nat) (text : List Char) : List Char :=
  List.replicate (width - text.length) ' ' ++ text

end TimeShare.Text

import TimeShare.Instruction.Decode

/-!
# Programs

A program is a list of instructions; its end is where the list ends. Programs
are loaded from lines of text. Blank lines and lines whose first character that
is no blank is `;` or `#` hold no instruction, but they count in the numbers of
the lines.
-/

namespace TimeShare

/-- A decoded program. -/
structure Program where
  instructions : List Instruction
  deriving DecidableEq, Repr

namespace Program

def size (program : Program) : Nat :=
  program.instructions.length

/-- The instruction at a position, if the program reaches it. -/
def get? (program : Program) (pc : Nat) : Option Instruction :=
  program.instructions[pc]?

def halts (program : Program) : Bool :=
  program.instructions.contains .halt

/-- Whether a line without blanks at its ends holds an instruction. -/
def isCode : List Char → Bool
  | [] => false
  | c :: _ => c ≠ ';' && c ≠ '#'

/-- Decodes the lines that hold an instruction; the first line has the given number. -/
def decodeLines : Nat → List (List Char) → Except LoadError (List Instruction)
  | _, [] => .ok []
  | number, line :: rest =>
    if isCode (Text.trim line) then do
      let instruction ← Instruction.decode number (Text.trim line)
      let instructions ← decodeLines (number + 1) rest
      return instruction :: instructions
    else
      decodeLines (number + 1) rest

/-- Loads a program from lines; the first line has number one. -/
def ofLines (lines : List (List Char)) : Except LoadError Program :=
  (decodeLines 1 lines).map Program.mk

def ofChars (source : List Char) : Except LoadError Program :=
  ofLines (Text.lines source)

def ofString (source : String) : Except LoadError Program :=
  ofChars source.toList

/-- What is found where a program file should be. -/
inductive FileContents
  | bytes (contents : ByteArray)
  | missing
  | directory
  /-- The file cannot be read, for the given reason. -/
  | failed (reason : String)

/-- The text of a file, or the reason why there is none. -/
def FileContents.text : FileContents → Except String String
  | bytes contents =>
    match String.fromUTF8? contents with
    | some text => .ok text
    | none => .error "stream did not contain valid UTF-8"
  | missing => .error "No such file or directory (os error 2)"
  | directory => .error "Is a directory (os error 21)"
  | failed reason => .error reason

def ofFile (path : String) (contents : FileContents) : Except LoadError Program :=
  match contents.text with
  | .ok source => ofString source
  | .error reason => .error (.unreadable path reason)

/-- The text of a program, one instruction per line with newlines between the lines. -/
def chars (program : Program) : List Char :=
  ['\n'].intercalate (program.instructions.map Instruction.chars)

end Program

end TimeShare

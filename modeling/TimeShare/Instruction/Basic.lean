import TimeShare.Register

/-!
# Instructions

The instruction set of the processor. Nothing in it branches: every instruction
is followed by the next one. Arithmetic is on 32-bit words and wraps around.

`Instruction.chars` writes an instruction in the form that the decoder of
`TimeShare.Instruction.Decode` reads, with the two-operand form of arithmetic
where the result replaces the left operand. `Instruction.effect` words what an
instruction does.
-/

namespace TimeShare

inductive ArithOp
  | add
  | sub
  | mul
  deriving DecidableEq, Repr

namespace ArithOp

def mnemonic : ArithOp → String
  | add => "ADD"
  | sub => "SUB"
  | mul => "MUL"

def symbol : ArithOp → String
  | add => "+"
  | sub => "-"
  | mul => "*"

/-- The operation on 32-bit words, which wraps around. -/
def apply : ArithOp → Int32 → Int32 → Int32
  | add, a, b => a + b
  | sub, a, b => a - b
  | mul, a, b => a * b

end ArithOp

inductive Instruction
  | load (rd : Register) (imm : Int32)
  /-- Puts the result of an operation on `lhs` and `rhs` into `rd`. -/
  | arith (op : ArithOp) (rd lhs rhs : Register)
  | push (rs : Register)
  | pop (rd : Register)
  | halt
  /-- A line whose mnemonic is outside the set, kept as it was written. -/
  | unknown (text : String)
  deriving DecidableEq, Repr

namespace Instruction

def chars : Instruction → List Char
  | load rd imm => "LOAD ".toList ++ rd.chars ++ ", ".toList ++ Text.ofInt imm.toInt
  | arith op rd lhs rhs =>
    if lhs = rd then
      op.mnemonic.toList ++ ' ' :: rd.chars ++ ", ".toList ++ rhs.chars
    else
      op.mnemonic.toList ++ ' ' :: rd.chars ++ ", ".toList ++ lhs.chars ++ ", ".toList ++ rhs.chars
  | push rs => "PUSH ".toList ++ rs.chars
  | pop rd => "POP ".toList ++ rd.chars
  | halt => "HALT".toList
  | unknown text => text.toList

/-- The written form of an instruction as a string. -/
def text (i : Instruction) : String :=
  String.ofList i.chars

/-- What an instruction does, in words or as an assignment. -/
def effect : Instruction → String
  | load rd imm => s!"{rd.text} = {imm.toInt}"
  | arith op rd lhs rhs => s!"{rd.text} = {lhs.text} {op.symbol} {rhs.text}"
  | push rs => s!"push {rs.text}"
  | pop rd => s!"pop {rd.text}"
  | halt => "halt"
  | unknown text => s!"unknown '{text}'"

end Instruction

end TimeShare

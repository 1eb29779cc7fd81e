/-!
# What can go wrong while a program is loaded

A line with a known mnemonic is refused unless its operands fit; a file may also
be unreadable. Every refusal of a line carries the line's number.
-/

namespace TimeShare

/-- Why a program could not be loaded. -/
inductive LoadError
  /-- A mnemonic with the wrong number of operands; `expected` words the right number. -/
  | operandCount (line : Nat) (opcode expected : String) (found : Nat)
  | invalidRegister (line : Nat) (operand : String)
  | invalidImmediate (line : Nat) (operand : String)
  /-- A file that could not be read as text. -/
  | unreadable (path reason : String)
  deriving DecidableEq, Repr

namespace LoadError

def message : LoadError → String
  | operandCount line opcode expected found =>
    s!"line {line}: {opcode} expects {expected} operand(s), found {found}"
  | invalidRegister line operand => s!"line {line}: invalid register '{operand}'"
  | invalidImmediate line operand => s!"line {line}: invalid immediate '{operand}'"
  | unreadable path reason => s!"failed to read program {path}: {reason}"

def code : LoadError → String
  | operandCount .. => "program::operand_count"
  | invalidRegister .. => "program::invalid_register"
  | invalidImmediate .. => "program::invalid_immediate"
  | unreadable .. => "program::io"

/-- The advice that goes with a load error. -/
def help : LoadError → String
  | operandCount .. => "LOAD Rd, imm | ADD/SUB/MUL Rd, Rs[, Rt] | PUSH Rs | POP Rd | HALT"
  | invalidRegister .. => "Registers are written R0 through R7."
  | invalidImmediate .. => "Immediates are decimal 32-bit signed integers."
  | unreadable .. => "Check that the program file exists and is readable."

/-- The error with its line number raised; a file has no line number. -/
def shift (offset : Nat) : LoadError → LoadError
  | operandCount line opcode expected found => operandCount (line + offset) opcode expected found
  | invalidRegister line operand => invalidRegister (line + offset) operand
  | invalidImmediate line operand => invalidImmediate (line + offset) operand
  | unreadable path reason => unreadable path reason

end LoadError

end TimeShare

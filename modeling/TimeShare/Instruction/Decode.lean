import TimeShare.Text.Blank
import TimeShare.Text.Words
import TimeShare.Instruction.Basic
import TimeShare.LoadError

/-!
# Decoding a line

The words of a line are its maximal runs of characters that are neither blanks
nor commas. The first word is the mnemonic, in either case of the Latin letters;
the others are its operands. A line with an unknown mnemonic decodes to
`Instruction.unknown`, never to an error; a known mnemonic whose operands do not
fit is an error.

The number of operands is checked first. Then operands are read from left to
right, except that the constant of `LOAD` is read before its register.
-/

namespace TimeShare

inductive Mnemonic
  | load
  | arith (op : ArithOp)
  | push
  | pop
  | halt
  deriving DecidableEq, Repr

namespace Mnemonic

def text : Mnemonic → String
  | load => "LOAD"
  | arith op => op.mnemonic
  | push => "PUSH"
  | pop => "POP"
  | halt => "HALT"

def all : List Mnemonic :=
  [load, arith .add, arith .sub, arith .mul, push, pop, halt]

/-- The mnemonic written by a word, in either case of the Latin letters. -/
def ofChars? (word : List Char) : Option Mnemonic :=
  all.find? fun m => m.text.toList = word.map Char.toUpper

/-- The numbers of operands that a mnemonic takes, in words. -/
def operandCounts : Mnemonic → String
  | load => "2"
  | arith _ => "2 or 3"
  | push => "1"
  | pop => "1"
  | halt => "0"

end Mnemonic

namespace Instruction

def minImmediate : Int := Int32.minValue.toInt

def maxImmediate : Int := Int32.maxValue.toInt

/-- A blank or a comma stands between words. -/
def isSeparator (c : Char) : Bool :=
  Text.isBlank c || c = ','

def readRegister (line : Nat) (operand : List Char) : Except LoadError Register :=
  match Register.ofChars? operand with
  | some r => .ok r
  | none => .error (.invalidRegister line (String.ofList operand))

def readImmediate (line : Nat) (operand : List Char) : Except LoadError Int32 :=
  match Text.signed? operand with
  | some i =>
    if minImmediate ≤ i ∧ i ≤ maxImmediate then
      .ok (Int32.ofInt i)
    else
      .error (.invalidImmediate line (String.ofList operand))
  | none => .error (.invalidImmediate line (String.ofList operand))

def ofOperands (line : Nat) (mnemonic : Mnemonic) (operands : List (List Char)) :
    Except LoadError Instruction :=
  match mnemonic, operands with
  | .load, [rd, imm] => do
    let imm ← readImmediate line imm
    let rd ← readRegister line rd
    return .load rd imm
  | .arith op, [rd, rhs] => do
    let rd ← readRegister line rd
    let rhs ← readRegister line rhs
    return .arith op rd rd rhs
  | .arith op, [rd, lhs, rhs] => do
    let rd ← readRegister line rd
    let lhs ← readRegister line lhs
    let rhs ← readRegister line rhs
    return .arith op rd lhs rhs
  | .push, [rs] => do
    let rs ← readRegister line rs
    return .push rs
  | .pop, [rd] => do
    let rd ← readRegister line rd
    return .pop rd
  | .halt, [] => return .halt
  | mnemonic, operands =>
    .error (.operandCount line mnemonic.text mnemonic.operandCounts operands.length)

/-- Decodes one line; the number of the line is only for its errors. -/
def decode (line : Nat) (text : List Char) : Except LoadError Instruction :=
  match Text.words isSeparator text with
  | [] => .ok (.unknown "")
  | first :: operands =>
    match Mnemonic.ofChars? first with
    | some mnemonic => ofOperands line mnemonic operands
    | none => .ok (.unknown (String.ofList (Text.trim text)))

end Instruction

end TimeShare

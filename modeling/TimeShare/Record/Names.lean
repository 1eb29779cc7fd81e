import TimeShare.Json.Reader
import TimeShare.Task.Basic

/-!
# Names in records

Values without data stand in records as their names.
-/

namespace TimeShare

open Json

def Exit.names : List (String × Exit) :=
  [("halted", halted), ("preempted", preempted), ("exhausted", exhausted)]

def Exit.name : Exit → String
  | halted => "halted"
  | preempted => "preempted"
  | exhausted => "exhausted"

def Exit.tokens (exit : Exit) : List Token :=
  [.string exit.name]

def Exit.reader : Reader Exit :=
  Reader.oneOf names

def Fault.names : List (String × Fault) :=
  [("unknown_opcode", unknownOpcode), ("stack_overflow", stackOverflow),
    ("stack_underflow", stackUnderflow)]

def Fault.name : Fault → String
  | unknownOpcode => "unknown_opcode"
  | stackOverflow => "stack_overflow"
  | stackUnderflow => "stack_underflow"

def Fault.tokens (fault : Fault) : List Token :=
  [.string fault.name]

def Fault.reader : Reader Fault :=
  Reader.oneOf names

def StackFault.names : List (String × StackFault) :=
  [("overflow", overflow), ("underflow", underflow)]

def StackFault.name : StackFault → String
  | overflow => "overflow"
  | underflow => "underflow"

def StackFault.tokens (fault : StackFault) : List Token :=
  [.string fault.name]

def StackFault.reader : Reader StackFault :=
  Reader.oneOf names

def Phase.names : List (String × Phase) :=
  [("admitted", admitted), ("dispatched", dispatched), ("preempted", preempted),
    ("completed", completed)]

def Phase.name : Phase → String
  | admitted => "admitted"
  | dispatched => "dispatched"
  | preempted => "preempted"
  | completed => "completed"

def Phase.tokens (phase : Phase) : List Token :=
  [.string phase.name]

def Phase.reader : Reader Phase :=
  Reader.oneOf names

end TimeShare

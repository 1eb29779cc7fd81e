import TimeShare.Processor.Run

/-!
# Statistics

Counters over the life of a scheduler. They have 64 bits and wrap around. Sweeps
and dispatches are counted when they begin; what a dispatch executed and how it
ended is counted when its context has come back.
-/

namespace TimeShare

/-- The counters of a scheduler, with the length of its time slice. -/
structure Statistics where
  sweeps : UInt64
  dispatches : UInt64
  preemptions : UInt64
  completions : UInt64
  instructions : UInt64
  unknownOpcodes : UInt64
  stackOverflows : UInt64
  stackUnderflows : UInt64
  sliceMicros : UInt64
  deriving DecidableEq, Repr

namespace Statistics

def zero (sliceMicros : UInt64) : Statistics :=
  ⟨0, 0, 0, 0, 0, 0, 0, 0, sliceMicros⟩

/-- Counts the beginning of a sweep; the counter is then the sweep's number. -/
def countSweep (s : Statistics) : Statistics :=
  { s with sweeps := s.sweeps + 1 }

def countDispatch (s : Statistics) : Statistics :=
  { s with dispatches := s.dispatches + 1 }

def countPreemption (s : Statistics) : Statistics :=
  { s with preemptions := s.preemptions + 1 }

def countCompletion (s : Statistics) : Statistics :=
  { s with completions := s.completions + 1 }

/-- Counts what a run executed. -/
def countRun (s : Statistics) (report : Processor.Report) : Statistics :=
  { s with
    instructions := s.instructions + UInt64.ofNat report.retired
    unknownOpcodes := s.unknownOpcodes + UInt64.ofNat report.unknownOpcodes
    stackOverflows := s.stackOverflows + UInt64.ofNat report.stackOverflows
    stackUnderflows := s.stackUnderflows + UInt64.ofNat report.stackUnderflows }

def countExit (s : Statistics) (exit : Exit) : Statistics :=
  if exit.isTerminal then s.countCompletion else s.countPreemption

end Statistics

end TimeShare

/-!
# Shared flags

A preemption flag may be held by several handles: a copy of a handle shares the
flag with it, so that one side raises what the other side sees. A pool keeps the
flags and, for every handle, which flag it holds. Handles are numbered in the
order in which they were made.
-/

namespace TimeShare

/-- Flags and the handles that hold them. -/
structure FlagPool where
  /-- The flags, each with its value. -/
  flags : List Bool
  /-- For each handle the number of its flag. -/
  handles : List Nat
  deriving DecidableEq, Repr

namespace FlagPool

def empty : FlagPool :=
  ⟨[], []⟩

/-- Makes a new flag that is not raised, and a handle on it. -/
def create (pool : FlagPool) : FlagPool :=
  ⟨pool.flags ++ [false], pool.handles ++ [pool.flags.length]⟩

/-- Makes a handle on the flag of another handle. -/
def share (pool : FlagPool) (handle : Nat) : FlagPool :=
  match pool.handles[handle]? with
  | some flag => ⟨pool.flags, pool.handles ++ [flag]⟩
  | none => pool

/-- Gives the flag of a handle a value. -/
def put (pool : FlagPool) (handle : Nat) (value : Bool) : FlagPool :=
  match pool.handles[handle]? with
  | some flag => ⟨pool.flags.set flag value, pool.handles⟩
  | none => pool

def raise (pool : FlagPool) (handle : Nat) : FlagPool :=
  pool.put handle true

def clear (pool : FlagPool) (handle : Nat) : FlagPool :=
  pool.put handle false

/-- Whether the flag of a handle is raised. -/
def isRaised (pool : FlagPool) (handle : Nat) : Bool :=
  match pool.handles[handle]? with
  | some flag => pool.flags[flag]?.getD false
  | none => false

/-- What every handle reads, in the order of the handles. -/
def readings (pool : FlagPool) : List Bool :=
  pool.handles.map fun flag => pool.flags[flag]?.getD false

end FlagPool

end TimeShare

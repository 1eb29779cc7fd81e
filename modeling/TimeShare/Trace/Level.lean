/-!
# Levels

How important a record is. A filter admits the records of some level and of all
levels above it, or none at all.
-/

namespace TimeShare

/-- The importance of a record, the highest first. -/
inductive Level
  | error
  | warn
  | info
  | debug
  | trace
  deriving DecidableEq, Repr

namespace Level

def name : Level → String
  | error => "error"
  | warn => "warn"
  | info => "info"
  | debug => "debug"
  | trace => "trace"

/-- The name of a level in the log. -/
def tag : Level → String
  | error => "ERROR"
  | warn => "WARN"
  | info => "INFO"
  | debug => "DEBUG"
  | trace => "TRACE"

/-- The position of a level, counted down from the most important. -/
def depth : Level → Nat
  | error => 0
  | warn => 1
  | info => 2
  | debug => 3
  | trace => 4

end Level

inductive LevelFilter
  | off
  /-- Shows a level and all levels above it. -/
  | upTo (level : Level)
  deriving DecidableEq, Repr

namespace LevelFilter

def shows : LevelFilter → Level → Bool
  | off, _ => false
  | upTo least, level => level.depth ≤ least.depth

/-- What a log shows unless it is told otherwise. -/
def standard : LevelFilter :=
  upTo .info

/-- All filters with their names; no name at all stands for errors. -/
def named : List (String × LevelFilter) :=
  [("", upTo .error), ("off", off), ("error", upTo .error), ("warn", upTo .warn),
    ("info", upTo .info), ("debug", upTo .debug), ("trace", upTo .trace)]

/-- The filter that a setting names, in either case of the Latin letters; the standard filter if
it names none or is missing. -/
def ofSetting : Option String → LevelFilter
  | none => standard
  | some text =>
    match named.find? fun (name, _) => name.toList = text.toList.map Char.toLower with
    | some (_, filter) => filter
    | none => standard

end LevelFilter

end TimeShare

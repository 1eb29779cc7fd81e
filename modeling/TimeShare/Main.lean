import TimeShare.CommandLine

/-!
# The program

The host that the program is run on: the environment, files and streams of the
operating system.
-/

namespace TimeShare.CommandLine

/-- The code of the host's error for reading a directory as a file. -/
def isDirectoryCode : UInt32 := 21

/-- What is found under a path. -/
def readFile (path : String) : IO Program.FileContents := do
  try
    return .bytes (← IO.FS.readBinFile path)
  catch
    | .noFileOrDirectory .. => return .missing
    | .inappropriateType name code details =>
      if code = isDirectoryCode then
        return .directory
      else
        return .failed (toString (IO.Error.inappropriateType name code details))
    | error => return .failed (toString error)

/-- A fresh identifier for a run: random but for its version and its variant. -/
def freshRunId : IO RunId := do
  let bytes ← IO.getRandomBytes 16
  let random := BitVec.ofNat 128 (bytes.toList.foldl (fun n byte => n * 256 + byte.toNat) 0)
  let version : RunId := 0xF000#128 <<< 64
  let variant : RunId := 0xC000#128 <<< 48
  return (random &&& ~~~version &&& ~~~variant) ||| (0x4000#128 <<< 64) ||| (0x8000#128 <<< 48)

instance : Host IO where
  setting name := IO.getEnv name
  contents := readFile
  freshId := freshRunId
  print line := IO.println line
  complain text := IO.eprintln text

end TimeShare.CommandLine

/-- The program: one session for the files named by the arguments. -/
def main (arguments : List String) : IO UInt32 :=
  TimeShare.CommandLine.session (fun _ => .none) arguments

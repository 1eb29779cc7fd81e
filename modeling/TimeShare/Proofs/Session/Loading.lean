import Mathlib.Data.List.Forall2
import TimeShare.Session

/-!
# Loading the files of a session

A session loads its files in order and stops at the first that does not load.
`loadFiles_of_loads` and `loadFiles_of_unloadable` say what comes of files that
all load and of files that do not, and every list of files is of one of the two
kinds.

* `Loads`: the programs of some files.
* `FirstUnloadable`: the error of the first file that does not load.
* `ranked`: some programs with their priorities, which fall to one.
-/

namespace TimeShare.Session

/-- The path of a program file and what is found there. -/
abbrev File : Type :=
  String × Program.FileContents

/-- The programs of some files, all of which load. -/
def Loads (files : List File) (programs : List Program) : Prop :=
  List.Forall₂ (fun file program => Program.ofFile file.1 file.2 = .ok program) files programs

/-- Some file does not load, for the given reason, and those before it do. -/
def FirstUnloadable (files : List File) (error : LoadError) : Prop :=
  ∃ earlier programs file later, files = earlier ++ file :: later ∧ Loads earlier programs ∧
    Program.ofFile file.1 file.2 = .error error

/-- Programs with their priorities: the number of programs from each one on. -/
def ranked (programs : List Program) : List (Int32 × Program) :=
  programs.mapIdx fun place program => (Int32.ofNat (programs.length - place), program)

variable {files : List File} {programs : List Program} {error : LoadError}

theorem ranked_cons (program : Program) (rest : List Program) :
    ranked (program :: rest) = (Int32.ofNat (rest.length + 1), program) :: ranked rest := by
  rw [ranked, List.mapIdx_cons, List.length_cons, Nat.sub_zero, ranked]
  congr 2
  funext place program
  rw [Nat.add_sub_add_right]

@[simp] theorem length_ranked (programs : List Program) :
    (ranked programs).length = programs.length :=
  List.length_mapIdx

theorem getElem?_ranked (programs : List Program) (place : Nat) :
    (ranked programs)[place]? =
      programs[place]?.map fun program => (Int32.ofNat (programs.length - place), program) :=
  List.getElem?_mapIdx

/-- Every list of files loads as a whole or has a first file that does not load. -/
theorem loads_or_unloadable (files : List File) :
    (∃ programs, Loads files programs) ∨ ∃ error, FirstUnloadable files error := by
  induction files with
  | nil => exact .inl ⟨[], .nil⟩
  | cons file rest ih =>
    cases loaded : Program.ofFile file.1 file.2 with
    | error error => exact .inr ⟨error, [], [], file, rest, rfl, .nil, loaded⟩
    | ok program =>
      rcases ih with ⟨programs, loads⟩ | ⟨error, earlier, programs, other, later, rfl, loads, fails⟩
      · exact .inl ⟨program :: programs, .cons loaded loads⟩
      · exact .inr ⟨error, file :: earlier, program :: programs, other, later, rfl,
          .cons loaded loads, fails⟩

/-! ## What loading gives -/

theorem loadFiles_cons_of_ok {file : File} {program : Program} (rest : List File)
    (loaded : Program.ofFile file.1 file.2 = .ok program) :
    loadFiles (file :: rest) =
      (.notice (.programLoaded file.1 program.size) :: (loadFiles rest).1,
        (loadFiles rest).2.map ((Int32.ofNat (rest.length + 1), program) :: ·)) := by
  rw [loadFiles, loaded]

theorem loadFiles_cons_of_error {file : File} (rest : List File)
    (fails : Program.ofFile file.1 file.2 = .error error) :
    loadFiles (file :: rest) = ([], .error error) := by
  rw [loadFiles, fails]

/-- Files that load give their programs, the first with the highest priority. -/
theorem loadFiles_of_loads (loads : Loads files programs) :
    (loadFiles files).2 = .ok (ranked programs) := by
  induction loads with
  | nil => rfl
  | @cons file program rest programs loaded loads ih =>
    rw [loadFiles_cons_of_ok rest loaded, ih, loads.length_eq, ranked_cons]
    rfl

/-- Of files that do not all load the first such file gives its error. -/
theorem loadFiles_of_unloadable (unloadable : FirstUnloadable files error) :
    (loadFiles files).2 = .error error := by
  obtain ⟨earlier, programs, file, later, rfl, loads, fails⟩ := unloadable
  induction loads with
  | nil => rw [List.nil_append, loadFiles_cons_of_error later fails]
  | cons loaded _ ih =>
    rw [List.cons_append, loadFiles_cons_of_ok _ loaded, ih]
    rfl

/-- Nothing happens to tasks while files are loaded. -/
theorem events_loadFiles (files : List File) :
    (loadFiles files).1.filterMap Entry.event? = [] := by
  induction files with
  | nil => rfl
  | cons file rest ih =>
    cases loaded : Program.ofFile file.1 file.2 with
    | error error =>
      rw [loadFiles_cons_of_error rest loaded]
      rfl
    | ok program =>
      rw [loadFiles_cons_of_ok rest loaded, List.filterMap_cons, Entry.event?]
      exact ih

/-- Where files are named, they are what is loaded. -/
theorem load_of_ne_nil (named : files ≠ []) : load files = loadFiles files := by
  cases files with
  | nil => exact absurd rfl named
  | cons file rest => rfl

end TimeShare.Session

import Mathlib.Algebra.GroupWithZero.Nat
import TimeShare.Proofs.Json.Layout
import TimeShare.Proofs.Record.Report

/-!
# The summary of a run is read again

The identifier of a run is written as five groups of hexadecimal digits
(`RunId.splitOn_text`), and the digits give the identifier again
(`RunId.ofText_text`). The record of a summary has the identifier of its run, its
sweeps, the snapshots of its tasks in order and its statistics, and all of them are
read again from it.
-/

namespace TimeShare

open Json

/-! ## Identifiers -/

namespace RunId

/-- The number that some hexadecimal digits write. -/
def ofHexDigits (values : List Nat) : Nat :=
  values.foldl (fun n value => 16 * n + value) 0

/-- The identifier that the hexadecimal digits of a text write; other characters do not count. -/
def ofText (text : String) : RunId :=
  BitVec.ofNat 128 (ofHexDigits (text.toList.filterMap hexDigit?))

theorem length_hexDigits (count n : Nat) : (hexDigits count n).length = count := by
  induction count generalizing n with
  | zero => rfl
  | succ count ih => rw [hexDigits, List.length_append, ih, List.length_singleton]

theorem hexDigit?_of_mem_hexDigits {count n : Nat} {c : Char} (mem : c ∈ hexDigits count n) :
    ∃ value, hexDigit? c = some value := by
  induction count generalizing n with
  | zero => cases mem
  | succ count ih =>
    rw [hexDigits, List.mem_append, List.mem_singleton] at mem
    rcases mem with before | rfl
    · exact ih before
    · exact ⟨_, hexDigit?_digitChar (Nat.mod_lt n (by decide))⟩

/-- So many digits write the number up to a multiple of as many powers of sixteen. -/
theorem ofHexDigits_hexDigits (count n : Nat) :
    ofHexDigits ((hexDigits count n).filterMap hexDigit?) = n % 16 ^ count := by
  induction count generalizing n with
  | zero => rw [Nat.pow_zero, Nat.mod_one]; rfl
  | succ count ih =>
    have last : hexDigit? (n % 16).digitChar = some (n % 16) :=
      hexDigit?_digitChar (Nat.mod_lt n (by decide))
    rw [hexDigits, List.filterMap_append, ofHexDigits, List.foldl_append, ← ofHexDigits, ih,
      List.filterMap_cons, last, List.filterMap_nil, List.foldl_cons, List.foldl_nil,
      Nat.pow_succ', Nat.mod_mul, Nat.add_comm]

theorem sum_eq_length_drop {size : Nat} {sizes : List Nat} {digits : List Char}
    (whole : (size :: sizes).sum = digits.length) : sizes.sum = (digits.drop size).length := by
  rw [List.length_drop, ← whole, List.sum_cons, Nat.add_sub_cancel_left]

theorem flatten_cut {sizes : List Nat} {digits : List Char} (whole : sizes.sum = digits.length) :
    (cut sizes digits).flatten = digits := by
  induction sizes generalizing digits with
  | nil => rw [List.eq_nil_of_length_eq_zero whole.symm]; rfl
  | cons size sizes ih =>
    rw [cut, List.flatten_cons, ih (sum_eq_length_drop whole), List.take_append_drop]

theorem map_length_cut {sizes : List Nat} {digits : List Char}
    (whole : sizes.sum = digits.length) : (cut sizes digits).map List.length = sizes := by
  induction sizes generalizing digits with
  | nil => rfl
  | cons size sizes ih =>
    have first : size ≤ digits.length := by
      rw [← whole, List.sum_cons]
      exact Nat.le_add_right _ _
    rw [cut, List.map_cons, ih (sum_eq_length_drop whole), List.length_take_of_le first]

/-- What stands between pieces does not count if it is no digit. -/
theorem filterMap_intercalate {c : Char} (other : hexDigit? c = none) (pieces : List (List Char)) :
    ([c].intercalate pieces).filterMap hexDigit? = pieces.flatten.filterMap hexDigit? := by
  induction pieces with
  | nil => rfl
  | cons piece pieces ih =>
    cases pieces with
    | nil => rw [List.intercalate_singleton, List.flatten_singleton]
    | cons next pieces =>
      have joined : (piece :: next :: pieces).flatten = piece ++ (next :: pieces).flatten := rfl
      rw [List.intercalate_cons_cons, List.filterMap_append, List.filterMap_append, ih,
        List.filterMap_cons, other, List.filterMap_nil, List.append_nil, joined,
        List.filterMap_append]

/-- The digits of a run's identifier, cut into groups. -/
theorem flatten_groups (id : RunId) :
    (cut groups (hexDigits 32 id.toNat)).flatten = hexDigits 32 id.toNat :=
  flatten_cut (length_hexDigits 32 id.toNat).symm

/-- A run's identifier is written in five groups of digits with dashes between them. -/
theorem splitOn_text (id : RunId) : (id.text.toList.splitOn '-').map List.length = groups := by
  have digits : ∀ piece ∈ cut groups (hexDigits 32 id.toNat), '-' ∉ piece := by
    intro piece mem dash
    have inside : '-' ∈ hexDigits 32 id.toNat := by
      rw [← flatten_groups]
      exact List.mem_flatten_of_mem mem dash
    obtain ⟨value, digit⟩ := hexDigit?_of_mem_hexDigits inside
    cases digit
  rw [text, String.toList_ofList, List.splitOn_intercalate '-' digits (List.cons_ne_nil _ _)]
  exact map_length_cut (length_hexDigits 32 id.toNat).symm

/-- The digits of its written form give the identifier of a run again. -/
theorem ofText_text (id : RunId) : ofText id.text = id := by
  have fits : id.toNat % 16 ^ 32 = id.toNat := Nat.mod_eq_of_lt id.isLt
  rw [ofText, text, String.toList_ofList, filterMap_intercalate rfl, flatten_groups,
    ofHexDigits_hexDigits, fits, BitVec.ofNat_toNat, BitVec.setWidth_eq]

end RunId

/-! ## Summaries -/

/-- Reads a natural number of any size. -/
def readNat : Reader Nat :=
  Reader.integer.filterMap Int.toNat?

theorem restores_natural (n : Nat) : Restores readNat (natural n) n := by
  have integer : Restores Reader.integer (natural n) n :=
    restores_token (fun _ => rfl) ⟨nofun, nofun⟩
  exact integer.filterMap rfl

namespace Summary

def fields :=
  (Fields.required "run_id" (Reader.string.map RunId.ofText)).both
    ((Fields.required "sweeps" readNat).both
      ((Fields.required "tasks" (Reader.array Snapshot.reader)).both
        (Fields.required "stats" Statistics.reader)))

/-- Reads a summary with the identifier of its run. -/
def reader : Reader (RunId × Summary) :=
  fields.reader.map fun (id, sweeps, tasks, statistics) => (id, { sweeps, tasks, statistics })

theorem makes (summary : Summary) (id : RunId) :
    fields.Makes
      [("run_id", [.string id.text]), ("sweeps", natural summary.sweeps),
        ("tasks", array (summary.tasks.map Snapshot.tokens)), ("stats", summary.statistics.tokens)]
      (id, summary.sweeps, summary.tasks, summary.statistics) :=
  .after_required (.mapTo (restores_string id.text) id.ofText_text) (by simp) <|
    .after_required (restores_natural summary.sweeps) (by simp) <|
      .after_required (restores_array fun task _ => task.restores) (by simp) <|
        Fields.makes_required "stats" summary.statistics.restores

/-- The record of a summary gives the summary again, and the identifier of its run. -/
theorem restores (summary : Summary) (id : RunId) :
    Restores reader (summary.tokens id) (id, summary) :=
  (summary.makes id).restores.map _

end Summary

end TimeShare

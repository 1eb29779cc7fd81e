import Mathlib.Data.List.Basic
import Mathlib.Data.List.TakeWhile
import TimeShare.Text.Blank

/-!
# Trimming

`Trimmed` says what is left of a text without the blanks at its ends;
`trim_eq_iff` says that `trim` leaves this and nothing else. The two ends are
alike, so what holds at the end is shown by reversing the text.
-/

namespace TimeShare.Text

variable {text core lead trail : List Char}

/-- A text that neither begins nor ends with a blank. -/
structure IsTrim (text : List Char) : Prop where
  first : ∀ c ∈ text.head?, isBlank c = false
  last : ∀ c ∈ text.getLast?, isBlank c = false

/-- What is left of a text when the blanks at its two ends are taken off. -/
def Trimmed (text core : List Char) : Prop :=
  IsTrim core ∧ ∃ lead trail, (∀ c ∈ lead, isBlank c = true) ∧ (∀ c ∈ trail, isBlank c = true) ∧
    text = lead ++ (core ++ trail)

/-! ## The beginning -/

theorem trimStart_append (blank : ∀ c ∈ lead, isBlank c = true) (text : List Char) :
    trimStart (lead ++ text) = trimStart text :=
  List.dropWhile_append_of_pos blank

theorem trimStart_of_first (first : ∀ c ∈ text.head?, isBlank c = false) :
    trimStart text = text := by
  cases text with
  | nil => rfl
  | cons c text =>
    have visible : ¬ isBlank c = true := Bool.not_eq_true _ ▸ first c rfl
    exact List.dropWhile_cons_of_neg visible

theorem first_trimStart (text : List Char) :
    ∀ c ∈ (trimStart text).head?, isBlank c = false := by
  intro c first
  have stops := List.head?_dropWhile_not isBlank text
  rw [← trimStart, first] at stops
  exact stops

theorem exists_trimStart (text : List Char) :
    ∃ lead, (∀ c ∈ lead, isBlank c = true) ∧ text = lead ++ trimStart text :=
  ⟨text.takeWhile isBlank, fun _ mem => List.mem_takeWhile_imp mem,
    List.takeWhile_append_dropWhile.symm⟩

/-! ## The end -/

theorem trimEnd_eq (text : List Char) : trimEnd text = (trimStart text.reverse).reverse := rfl

theorem trimEnd_append (blank : ∀ c ∈ trail, isBlank c = true) (text : List Char) :
    trimEnd (text ++ trail) = trimEnd text := by
  have reversed : ∀ c ∈ trail.reverse, isBlank c = true :=
    fun c mem => blank c (List.mem_reverse.1 mem)
  rw [trimEnd_eq, List.reverse_append, trimStart_append reversed, trimEnd_eq]

theorem trimEnd_of_last (last : ∀ c ∈ text.getLast?, isBlank c = false) : trimEnd text = text := by
  rw [← List.head?_reverse] at last
  rw [trimEnd_eq, trimStart_of_first last, List.reverse_reverse]

theorem last_trimEnd (text : List Char) : ∀ c ∈ (trimEnd text).getLast?, isBlank c = false := by
  rw [trimEnd_eq, List.getLast?_reverse]
  exact first_trimStart text.reverse

theorem exists_trimEnd (text : List Char) :
    ∃ trail, (∀ c ∈ trail, isBlank c = true) ∧ text = trimEnd text ++ trail := by
  obtain ⟨lead, blank, split⟩ := exists_trimStart text.reverse
  refine ⟨lead.reverse, fun c mem => blank c (List.mem_reverse.1 mem), ?_⟩
  rw [trimEnd_eq, ← List.reverse_append, ← split, List.reverse_reverse]

/-! ## Both ends -/

theorem trimmed_trim (text : List Char) : Trimmed text (trim text) := by
  obtain ⟨lead, blank, split⟩ := exists_trimStart text
  obtain ⟨trail, blank', split'⟩ := exists_trimEnd (trimStart text)
  refine ⟨⟨fun c first => ?_, last_trimEnd _⟩, lead, trail, blank, blank', ?_⟩
  -- What is cut off at the end leaves the beginning as it is.
  · refine first_trimStart text c ?_
    rw [split']
    exact List.mem_head?_append_of_mem_head? first
  · rw [trim, ← split', ← split]

theorem Trimmed.trim_eq (trimmed : Trimmed text core) : trim text = core := by
  obtain ⟨⟨first, last⟩, lead, trail, blank, blank', rfl⟩ := trimmed
  rw [trim, trimStart_append blank]
  cases core with
  | nil =>
    have nothing := trimStart_append blank' []
    rw [List.append_nil] at nothing
    rw [List.nil_append, nothing]
    rfl
  | cons c core =>
    have first' : ∀ d ∈ (c :: core ++ trail).head?, isBlank d = false := first
    rw [trimStart_of_first first', trimEnd_append blank', trimEnd_of_last last]

/-- Trimming leaves a text without the blanks at its ends. -/
theorem trim_eq_iff : trim text = core ↔ Trimmed text core := by
  constructor
  · rintro rfl
    exact trimmed_trim text
  · exact Trimmed.trim_eq

/-- Of a text without blanks at its ends all is left. -/
theorem IsTrim.trimmed (isTrim : IsTrim text) : Trimmed text text :=
  ⟨isTrim, [], [], nofun, nofun, (List.append_nil _).symm⟩

end TimeShare.Text

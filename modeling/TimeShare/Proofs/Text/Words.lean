import TimeShare.Text.Words

/-!
# The words of a text

`Cut` says what it is for a text to be cut into its words: between separators
stand the words, each as long as it can be. `words_eq_iff` says that `words` cuts
a text in the only way there is.

A separator parts the words before it from the words behind it
(`words_append_separator`); the other equations for `words` follow from this one.
-/

namespace TimeShare.Text

variable {isSeparator : Char → Bool} {text word gap rest : List Char} {c : Char}
  {found : List (List Char)}

/-- A word is not empty and has no separator in it. -/
structure IsWord (isSeparator : Char → Bool) (word : List Char) : Prop where
  ne_nil : word ≠ []
  inside : ∀ c ∈ word, isSeparator c = false

/-- A text of nothing but separators. -/
def IsGap (isSeparator : Char → Bool) (gap : List Char) : Prop :=
  ∀ c ∈ gap, isSeparator c = true

/-- A text and its words in order: after a gap comes a word, which ends where the text ends or a
separator follows. -/
inductive Cut (isSeparator : Char → Bool) : List Char → List (List Char) → Prop
  | nothing {gap : List Char} : IsGap isSeparator gap → Cut isSeparator gap []
  | word {gap word rest : List Char} {others : List (List Char)} : IsGap isSeparator gap →
    IsWord isSeparator word → (∀ c ∈ rest.head?, isSeparator c = true) →
    Cut isSeparator rest others → Cut isSeparator (gap ++ (word ++ rest)) (word :: others)

/-! ## Equations -/

@[simp] theorem words_nil (isSeparator : Char → Bool) : words isSeparator [] = [] := by
  rw [words, List.splitOnP_nil]
  rfl

/-- A separator parts the words before it from the words behind it. -/
theorem words_append_separator (separates : isSeparator c = true) (before behind : List Char) :
    words isSeparator (before ++ c :: behind) =
      words isSeparator before ++ words isSeparator behind := by
  rw [words, List.splitOnP_append_cons _ _ separates, List.filter_append, ← words, ← words]

theorem words_cons_separator (separates : isSeparator c = true) (text : List Char) :
    words isSeparator (c :: text) = words isSeparator text := by
  have parted := words_append_separator separates [] text
  rwa [words_nil, List.nil_append, List.nil_append] at parted

theorem words_gap_append (separates : IsGap isSeparator gap) (text : List Char) :
    words isSeparator (gap ++ text) = words isSeparator text := by
  induction gap with
  | nil => rfl
  | cons c gap ih =>
    have here := List.forall_mem_cons.1 separates
    rw [List.cons_append, words_cons_separator here.1, ih here.2]

theorem words_append_gap (separates : IsGap isSeparator gap) (text : List Char) :
    words isSeparator (text ++ gap) = words isSeparator text := by
  cases gap with
  | nil => rw [List.append_nil]
  | cons c gap =>
    have here := List.forall_mem_cons.1 separates
    have nothing := words_gap_append here.2 []
    rw [List.append_nil, words_nil] at nothing
    rw [words_append_separator here.1, nothing, List.append_nil]

theorem words_of_isWord (isWord : IsWord isSeparator word) : words isSeparator word = [word] := by
  rw [words, List.splitOnP_eq_singleton isWord.inside]
  exact List.filter_cons_of_pos (decide_eq_true isWord.ne_nil)

/-- Where a word ends, a separator stands or nothing. -/
theorem words_word_append (isWord : IsWord isSeparator word)
    (ends : ∀ c ∈ rest.head?, isSeparator c = true) :
    words isSeparator (word ++ rest) = word :: words isSeparator rest := by
  cases rest with
  | nil => rw [List.append_nil, words_of_isWord isWord, words_nil]
  | cons c rest =>
    have separates : isSeparator c = true := ends c rfl
    rw [words_append_separator separates, words_of_isWord isWord, words_cons_separator separates]
    rfl

/-! ## The cut -/

/-- A separator in front of a text changes nothing about its words. -/
theorem Cut.cons_separator (cut : Cut isSeparator text found) (separates : isSeparator c = true) :
    Cut isSeparator (c :: text) found := by
  cases cut with
  | nothing gap => exact .nothing (List.forall_mem_cons.2 ⟨separates, gap⟩)
  | word gap isWord ends cut =>
    exact .word (List.forall_mem_cons.2 ⟨separates, gap⟩) isWord ends cut

/-- A word in front of a text, with a separator between them. -/
theorem Cut.cons_word (cut : Cut isSeparator text found) (isWord : IsWord isSeparator word)
    (separates : isSeparator c = true) : Cut isSeparator (word ++ c :: text) (word :: found) := by
  have ends : ∀ next ∈ (c :: text).head?, isSeparator next = true := by
    intro next first
    obtain rfl := Option.some.inj first
    exact separates
  have cut' : Cut isSeparator ([] ++ (word ++ c :: text)) (word :: found) :=
    .word nofun isWord ends (cut.cons_separator separates)
  exact cut'

theorem IsWord.cut (isWord : IsWord isSeparator word) : Cut isSeparator word [word] := by
  have cut : Cut isSeparator ([] ++ (word ++ [])) [word] :=
    .word nofun isWord nofun (.nothing nofun)
  rwa [List.append_nil] at cut

/-- A character that is no separator begins a new word, or goes to the front of the first one. -/
theorem Cut.exists_cons (cut : Cut isSeparator text found) (belongs : isSeparator c = false) :
    ∃ found', Cut isSeparator (c :: text) found' := by
  have single : IsWord isSeparator [c] := ⟨List.cons_ne_nil _ _, by simpa using belongs⟩
  have before : IsGap isSeparator [] := nofun
  cases cut with
  | nothing gap =>
    have ends : ∀ next ∈ text.head?, isSeparator next = true :=
      fun next first => gap next (List.mem_of_mem_head? first)
    exact ⟨_, .word before single ends (.nothing gap)⟩
  | @word gap word rest others separates isWord ends cut =>
    cases gap with
    | nil =>
      have longer : IsWord isSeparator (c :: word) :=
        ⟨List.cons_ne_nil _ _, List.forall_mem_cons.2 ⟨belongs, isWord.inside⟩⟩
      exact ⟨_, .word before longer ends cut⟩
    | cons next gap =>
      have parted : ∀ other ∈ ((next :: gap) ++ (word ++ rest)).head?, isSeparator other = true := by
        intro other first
        obtain rfl := Option.some.inj first
        exact separates _ List.mem_cons_self
      exact ⟨_, .word before single parted (.word separates isWord ends cut)⟩

/-- Every text can be cut into words. -/
theorem exists_cut (isSeparator : Char → Bool) (text : List Char) :
    ∃ found, Cut isSeparator text found := by
  induction text with
  | nil => exact ⟨[], .nothing nofun⟩
  | cons c text ih =>
    obtain ⟨found, cut⟩ := ih
    cases separates : isSeparator c with
    | true => exact ⟨found, cut.cons_separator separates⟩
    | false => exact cut.exists_cons separates

theorem Cut.words_eq (cut : Cut isSeparator text found) : words isSeparator text = found := by
  induction cut with
  | nothing gap =>
    have nothing := words_append_gap gap []
    rwa [List.nil_append, words_nil] at nothing
  | word gap isWord ends _ ih => rw [words_gap_append gap, words_word_append isWord ends, ih]

/-- A text is cut into its words and in no other way. -/
theorem words_eq_iff : words isSeparator text = found ↔ Cut isSeparator text found := by
  constructor
  · intro same
    obtain ⟨found', cut⟩ := exists_cut isSeparator text
    rwa [← same, cut.words_eq]
  · exact Cut.words_eq

end TimeShare.Text

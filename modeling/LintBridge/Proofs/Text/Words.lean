import LintBridge.Text.Blank

/-!
The words of a text, and the ways to write them.

`Spaced` says how words may be written: with at least one blank between two of them, and with any blanks around them.
A text is written so for one list of words only, and that is what it is cut into (`words_eq_iff`).
-/

set_option autoImplicit false
set_option relaxedAutoImplicit false

namespace LintBridge.Text

/-- A word has characters, and none of them is blank. -/
structure IsWord (w : String) : Prop where
  some : w ≠ ""
  inky : ∀ c ∈ w.toList, isBlank c = false

theorem isWord_iff {w : String} : IsWord w ↔ w ≠ "" ∧ (w.toList.all fun c => !isBlank c) = true := by
  simp only [List.all_eq_true, Bool.not_eq_true']
  exact ⟨fun isWord => ⟨isWord.some, isWord.inky⟩, fun both => ⟨both.1, both.2⟩⟩

instance : DecidablePred IsWord := fun _ => decidable_of_iff _ isWord_iff.symm

/-- A text has these words, with blanks before, between and behind them. -/
inductive Spaced : List String → List Char → Prop
  | nothing {blanks : List Char} (blank : ∀ c ∈ blanks, isBlank c = true) : Spaced [] blanks
  | word {blanks rest : List Char} {w : String} {ws : List String} (blank : ∀ c ∈ blanks, isBlank c = true)
      (isWord : IsWord w) (apart : ∀ c ∈ rest.head?, isBlank c = true) (more : Spaced ws rest) :
      Spaced (w :: ws) (blanks ++ (w.toList ++ rest))

section
variable {c : Char} {cs blanks run rest : List Char} {ws ws' : List String} {s : String}

theorem spaced_nil_iff : Spaced [] cs ↔ ∀ c ∈ cs, isBlank c = true := by
  constructor
  · rintro ⟨blank⟩
    exact blank
  · exact .nothing

theorem Spaced.isWord (spaced : Spaced ws cs) : ∀ w ∈ ws, IsWord w := by
  induction spaced with
  | nothing blank => simp
  | word blank isWord apart more ih => exact List.forall_mem_cons.mpr ⟨isWord, ih⟩

theorem Spaced.cons_blank (spaced : Spaced ws cs) (blank : isBlank c = true) : Spaced ws (c :: cs) := by
  cases spaced with
  | nothing blanks => exact .nothing (List.forall_mem_cons.mpr ⟨blank, blanks⟩)
  | word blanks isWord apart more =>
    exact .word (List.forall_mem_cons.mpr ⟨blank, blanks⟩) isWord apart more

private theorem Spaced.of_run (inky : isBlank c = false) (more : ∀ d ∈ run, isBlank d = false)
    (apart : ∀ d ∈ rest.head?, isBlank d = true) (spaced : Spaced ws rest) :
    Spaced (String.ofList (c :: run) :: ws) (c :: run ++ rest) := by
  have isWord : IsWord (String.ofList (c :: run)) := by
    refine ⟨fun none => by simpa using congrArg String.toList none, ?_⟩
    rw [String.toList_ofList]
    exact List.forall_mem_cons.mpr ⟨inky, more⟩
  have written := Spaced.word (fun d isIn => absurd isIn List.not_mem_nil) isWord apart spaced
  rwa [String.toList_ofList] at written

private theorem Spaced.cons_inky (spaced : Spaced ws cs) (inky : isBlank c = false) : ∃ ws', Spaced ws' (c :: cs) := by
  by_cases apart : ∀ d ∈ cs.head?, isBlank d = true
  · exact ⟨_, .of_run inky (fun d isIn => absurd isIn List.not_mem_nil) apart spaced⟩
  · cases spaced with
    | nothing blank => exact absurd (fun d isHead => blank d (List.mem_of_head? isHead)) apart
    | @word blanks rest w ws blank isWord apart' more =>
      cases blanks with
      | cons b blanks =>
        refine absurd (fun d isHead => ?_) apart
        cases isHead
        exact blank _ List.mem_cons_self
      | nil =>
        have longer := Spaced.of_run inky isWord.inky apart' more
        exact ⟨_, longer⟩

/-- Every text is written with some words. -/
theorem exists_spaced (cs : List Char) : ∃ ws, Spaced ws cs := by
  induction cs with
  | nil => exact ⟨[], spaced_nil_iff.mpr (by simp)⟩
  | cons c cs ih =>
    obtain ⟨ws, spaced⟩ := ih
    cases blank : isBlank c with
    | true => exact ⟨ws, spaced.cons_blank blank⟩
    | false => exact spaced.cons_inky blank

/-! ### Cutting -/

theorem wordRuns_cons_blank (blank : isBlank c = true) : wordRuns (c :: cs) = wordRuns cs := by
  rw [wordRuns.eq_def]
  exact if_pos blank

theorem wordRuns_append_of_blank (blank : ∀ c ∈ blanks, isBlank c = true) :
    wordRuns (blanks ++ rest) = wordRuns rest := by
  induction blanks with
  | nil => rfl
  | cons c blanks ih =>
    obtain ⟨isBlank, blank⟩ := List.forall_mem_cons.mp blank
    rw [List.cons_append, wordRuns_cons_blank isBlank, ih blank]

theorem wordRuns_append_of_inky (some : run ≠ []) (inky : ∀ c ∈ run, isBlank c = false)
    (apart : ∀ c ∈ rest.head?, isBlank c = true) : wordRuns (run ++ rest) = run :: wordRuns rest := by
  induction run with
  | nil => exact absurd rfl some
  | cons c run ih =>
    obtain ⟨isInky, inky⟩ := List.forall_mem_cons.mp inky
    cases run with
    | nil =>
      cases rest with
      | nil => simp [wordRuns, isInky]
      | cons d rest =>
        have blank : isBlank d = true := apart d rfl
        rw [List.singleton_append, wordRuns.eq_def]
        dsimp only
        rw [if_neg (by simp [isInky])]
        split
        · rename_i same words
          cases same
          rw [if_pos blank, words]
        · rfl
    | cons d run =>
      have next : isBlank d = false := inky d List.mem_cons_self
      have words := ih (List.cons_ne_nil d run) inky
      rw [List.cons_append] at words
      rw [List.cons_append, List.cons_append, wordRuns.eq_def]
      dsimp only
      rw [if_neg (by simp [isInky]), words]
      exact if_neg (by simp [next])

theorem wordRuns_of_spaced (spaced : Spaced ws cs) : wordRuns cs = ws.map String.toList := by
  induction spaced with
  | @nothing blanks blank =>
    rw [← List.append_nil blanks, wordRuns_append_of_blank blank]
    rfl
  | word blank isWord apart more ih =>
    have some : _ ≠ [] := fun none => isWord.some (String.toList_inj.mp none)
    rw [wordRuns_append_of_blank blank, wordRuns_append_of_inky some isWord.inky apart, ih, List.map_cons]

theorem words_of_spaced (spaced : Spaced ws s.toList) : words s = ws := by
  rw [words, wordRuns_of_spaced spaced, List.map_map]
  simp [Function.comp_def]

/-- A text is cut into the words that it is written with. -/
theorem words_eq_iff : words s = ws ↔ Spaced ws s.toList := by
  refine ⟨?_, words_of_spaced⟩
  rintro rfl
  obtain ⟨ws, spaced⟩ := exists_spaced s.toList
  rwa [words_of_spaced spaced]

theorem words_eq_nil_iff (s : String) : words s = [] ↔ ∀ c ∈ s.toList, isBlank c = true :=
  words_eq_iff.trans spaced_nil_iff

end

end LintBridge.Text

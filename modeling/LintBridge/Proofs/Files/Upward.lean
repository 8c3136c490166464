import LintBridge.Files.Upward
import LintBridge.Proofs.Path

/-!
Which file is found for a place.

`IsNearest` says it by the paths above the place and by what the tree has there: of all directories that are looked into
it is the one with the most steps in which the name leads to a file.
-/

set_option autoImplicit false
set_option relaxedAutoImplicit false

namespace LintBridge.FileTree

/-- A directory is looked into for a place: one above it, or the place itself if it is a directory. -/
def Searches (t : FileTree) (start d : Path) : Prop := d.IsAbove start ∨ t.isDirectory start = true ∧ d = start

/-- From a directory the name leads to a file; it does not count if it leads to another directory. -/
def HasFile (t : FileTree) (d : Path) (name : String) : Prop :=
  ∃ content executable, t.entry (d.join ⟨name⟩) = .ok (.file content executable)

/-- The deepest of the directories that have a file of the name. -/
structure IsNearest (t : FileTree) (start : Path) (name : String) (d : Path) : Prop where
  searched : t.Searches start d
  hasFile : t.HasFile d name
  deepest : ∀ d', t.Searches start d' → t.HasFile d' name → d'.components.length ≤ d.components.length

section
variable {t : FileTree} {start d d' found : Path} {name : String}

theorem isFile_join_iff : t.isFile (d.join ⟨name⟩) = true ↔ t.HasFile d name := by
  unfold isFile HasFile
  split <;> rename_i entry <;> simp_all

theorem mem_searched_iff (rooted : start.isAbsolute = true) : d ∈ t.searched start ↔ t.Searches start d := by
  unfold searched Searches
  cases isDirectory : t.isDirectory start with
  | true => simp [Path.mem_ancestors_iff rooted, or_comm]
  | false =>
    cases parent : start.parent? with
    | none => simp [Path.not_isAbove_of_parentless rooted parent]
    | some q =>
      have above := (Path.isAbove_of_parent rooted parent).1
      simp [Path.mem_ancestors_iff above.rooted, Path.isAbove_iff_of_parent rooted parent]

theorem pairwise_searched (rooted : start.isAbsolute = true) :
    (t.searched start).Pairwise fun d d' => d'.components.length < d.components.length := by
  unfold searched
  split
  · exact Path.pairwise_ancestors rooted
  · cases parent : start.parent? with
    | none => exact List.Pairwise.nil
    | some q => exact Path.pairwise_ancestors (Path.isAbove_of_parent rooted parent).1.rooted

private theorem find?_eq_some_iff_largest {α : Type} {as : List α} {size : α → Nat} {p : α → Bool}
    (sorted : as.Pairwise fun a b => size b < size a) {a : α} :
    as.find? p = some a ↔ a ∈ as ∧ p a = true ∧ ∀ b ∈ as, p b = true → size b ≤ size a := by
  rw [List.find?_eq_some_iff_append]
  constructor
  · rintro ⟨counts, before, after, rfl, passedOver⟩
    have smaller := (List.pairwise_cons.mp (List.pairwise_append.mp sorted).2.1).1
    refine ⟨List.mem_append_right _ List.mem_cons_self, counts, fun b isIn countsToo => ?_⟩
    rcases List.mem_append.mp isIn with isBefore | isFrom
    · have passed := passedOver b isBefore
      rw [countsToo] at passed
      cases passed
    · rcases List.mem_cons.mp isFrom with rfl | isAfter
      · exact Nat.le_refl _
      · exact (smaller b isAfter).le
  · rintro ⟨isIn, counts, largest⟩
    obtain ⟨before, after, rfl⟩ := List.append_of_mem isIn
    have larger := (List.pairwise_append.mp sorted).2.2
    refine ⟨counts, before, after, rfl, fun b isBefore => ?_⟩
    rw [Bool.not_eq_true', ← Bool.not_eq_true]
    intro countsToo
    exact absurd (larger b isBefore a List.mem_cons_self)
      (Nat.not_lt_of_le (largest b (List.mem_append_left _ isBefore) countsToo))

/-- What is found is the file in the nearest directory. -/
theorem findUpward?_eq_some_iff (rooted : start.isAbsolute = true) :
    t.findUpward? start name = some found ↔ ∃ d, t.IsNearest start name d ∧ found = d.join ⟨name⟩ := by
  rw [findUpward?, List.find?_map, Option.map_eq_some_iff]
  constructor
  · rintro ⟨d, isFound, rfl⟩
    obtain ⟨isIn, hasFile, largest⟩ := (find?_eq_some_iff_largest (pairwise_searched rooted)).mp isFound
    refine ⟨d, ⟨(mem_searched_iff rooted).mp isIn, isFile_join_iff.mp hasFile, fun d' searched hasFile' => ?_⟩, rfl⟩
    exact largest d' ((mem_searched_iff rooted).mpr searched) (isFile_join_iff.mpr hasFile')
  · rintro ⟨d, nearest, rfl⟩
    refine ⟨d, (find?_eq_some_iff_largest (pairwise_searched rooted)).mpr ⟨?_, ?_, fun d' isIn hasFile' => ?_⟩, rfl⟩
    · exact (mem_searched_iff rooted).mpr nearest.searched
    · exact isFile_join_iff.mpr nearest.hasFile
    · exact nearest.deepest d' ((mem_searched_iff rooted).mp isIn) (isFile_join_iff.mp hasFile')

theorem findUpward?_eq_none_iff (rooted : start.isAbsolute = true) :
    t.findUpward? start name = none ↔ ∀ d, t.Searches start d → ¬ t.HasFile d name := by
  rw [findUpward?, List.find?_eq_none]
  constructor
  · intro none d searched hasFile
    exact none _ (List.mem_map.mpr ⟨d, (mem_searched_iff rooted).mpr searched, rfl⟩) (isFile_join_iff.mpr hasFile)
  · rintro none _ isIn isFile
    obtain ⟨d, searched, rfl⟩ := List.mem_map.mp isIn
    exact none d ((mem_searched_iff rooted).mp searched) (isFile_join_iff.mp isFile)

theorem Searches.rooted (rooted : start.isAbsolute = true) (searched : t.Searches start d) : d.isAbsolute = true := by
  rcases searched with above | ⟨-, rfl⟩
  · exact above.rooted
  · exact rooted

theorem eq_of_join_eq (rooted : start.isAbsolute = true) (plain : Path.IsPlainName name)
    (searched : t.Searches start d) (searched' : t.Searches start d') (same : d.join ⟨name⟩ = d'.join ⟨name⟩) :
    d = d' := by
  have steps := congrArg Path.components same
  rw [Path.components_join plain (searched.rooted rooted),
    Path.components_join plain (searched'.rooted rooted)] at steps
  have length := congrArg List.length (List.append_cancel_right steps)
  rcases searched with above | ⟨-, rfl⟩ <;> rcases searched' with above' | ⟨-, rfl⟩
  · exact above.eq_of_length above' length
  · exact absurd above.fewer (by omega)
  · exact absurd above'.fewer (by omega)
  · rfl

theorem findUpward?_eq_join_iff (rooted : start.isAbsolute = true) (plain : Path.IsPlainName name)
    (searched : t.Searches start d) :
    t.findUpward? start name = some (d.join ⟨name⟩) ↔ t.IsNearest start name d := by
  rw [findUpward?_eq_some_iff rooted]
  constructor
  · rintro ⟨d', nearest, same⟩
    rwa [eq_of_join_eq rooted plain searched nearest.searched same]
  · intro nearest
    exact ⟨d, nearest, rfl⟩

end

end LintBridge.FileTree

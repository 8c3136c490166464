import LintBridge.Server.Step

/-!
Which documents have edits that are not saved.

A message changes the open documents by itself, whatever work it gives rise to; the work only changes what is
shown for them. So the edits of a document can be read off the messages: it has some exactly if it was edited
after it was last opened, saved or closed.
-/

set_option autoImplicit false
set_option relaxedAutoImplicit false

namespace LintBridge

namespace Documents

/-- Whether an open document is marked as modified. -/
def isModified (u : Url) (ds : Documents) : Bool := (ds.find? u).any OpenDocument.modified

def isOpen (u : Url) (ds : Documents) : Bool := (ds.find? u).isSome

/-- The open documents have the same texts, versions and marks, whatever is shown for them. -/
def Same (ds ds' : Documents) : Prop :=
  ∀ u, (ds'.find? u).map (fun d => { d with shown := [] }) = (ds.find? u).map fun d => { d with shown := [] }

variable {ds ds' ds'' : Documents}

theorem Same.refl (ds : Documents) : Same ds ds := fun _ => rfl

theorem Same.trans (first : Same ds ds') (second : Same ds' ds'') : Same ds ds'' := fun u =>
  (second u).trans (first u)

theorem same_showing (u : Url) (shown : List Diagnostic) (ds : Documents) : Same ds (ds.showing u shown) := by
  intro v
  rw [find?_showing]
  split
  · rename_i same
    rw [same, Option.map_map]
    rfl
  · rfl

theorem Same.isModified_eq (same : Same ds ds') (u : Url) : ds'.isModified u = ds.isModified u := by
  have read : ∀ all : Documents, all.isModified u =
      ((all.find? u).map fun d => { d with shown := [] }).any OpenDocument.modified := by
    intro all
    rw [Option.any_map]
    rfl
  rw [read, read, same u]

theorem Same.isOpen_eq (same : Same ds ds') (u : Url) : ds'.isOpen u = ds.isOpen u := by
  have both := congrArg Option.isSome (same u)
  rwa [Option.isSome_map, Option.isSome_map] at both

theorem Same.buffer?_eq (same : Same ds ds') (u : Url) : ds'.buffer? u = ds.buffer? u := by
  have read : ∀ all : Documents, all.buffer? u = u.filePath?.bind fun path =>
      ((all.find? u).map fun d => { d with shown := [] }).map fun d => ⟨some path, d.text, d.modified⟩ := by
    intro all
    unfold buffer?
    cases u.filePath? with
    | none => rfl
    | some path => cases all.find? u <;> rfl
  rw [read, read, same u]

theorem file_of_buffer? {u : Url} {b : Buffer} (stored : ds.buffer? u = some b) :
    ∃ file, u.filePath? = some file ∧ b.path = some file ∧ b.modified = ds.isModified u := by
  unfold buffer? at stored
  unfold isModified
  cases located : u.filePath? with
  | none =>
    rw [located] at stored
    cases stored
  | some path =>
    rw [located] at stored
    cases found : ds.find? u with
    | none =>
      rw [found] at stored
      cases stored
    | some d =>
      rw [found] at stored
      cases stored
      exact ⟨path, rfl, rfl, rfl⟩

theorem isOpen_of_buffer? {u : Url} {b : Buffer} (stored : ds.buffer? u = some b) : ds.isOpen u = true := by
  unfold buffer? at stored
  unfold isOpen
  cases located : u.filePath? with
  | none =>
    rw [located] at stored
    cases stored
  | some path =>
    rw [located] at stored
    cases found : ds.find? u with
    | none =>
      rw [found] at stored
      cases stored
    | some d => rfl

theorem buffer?_of_find? {u : Url} {file : Path} {d : OpenDocument} (located : u.filePath? = some file)
    (found : ds.find? u = some d) : ds.buffer? u = some ⟨some file, d.text, d.modified⟩ := by
  rw [buffer?, located, found]
  rfl

theorem exists_buffer? {u : Url} {file : Path} (located : u.filePath? = some file) (isOpen : ds.isOpen u = true) :
    ∃ b, ds.buffer? u = some b ∧ b.path = some file := by
  obtain ⟨d, found⟩ := Option.isSome_iff_exists.mp isOpen
  exact ⟨_, buffer?_of_find? located found, rfl⟩

theorem isModified_of_no_buffer {u : Url} {path : Path} (unstored : ds.buffer? u = none)
    (located : u.filePath? = some path) : ds.isModified u = false := by
  unfold buffer? at unstored
  unfold isModified
  rw [located] at unstored
  cases found : ds.find? u with
  | none => rfl
  | some d =>
    rw [found] at unstored
    cases unstored

end Documents

namespace Server

/-- The open documents after what a message asks for. -/
def Demand.amend (ds : Documents) : Demand → Documents
  | .opened d => ds.opened d.url d.version d.text
  | .edited e => ds.edited e.url e.version e.texts
  | .saved u text => ds.saved u text
  | .closed u => ds.closed u
  | _ => ds

/-- Whether a document has edits after what a message asks for, if it is said whether it had before. -/
def Demand.marks (u : Url) (before : Bool) : Demand → Bool
  | .opened d => if d.url = u then false else before
  | .edited e => if e.url = u ∧ e.texts ≠ [] then true else before
  | .saved v _ => if v = u then false else before
  | .closed v => if v = u then false else before
  | _ => before

/-- Whether a document has edits after all that messages have asked for, if it had none before. -/
def hasEdits (u : Url) (demands : List Demand) : Bool := demands.foldl (Demand.marks u) false

theorem isModified_amend (d : Demand) (u : Url) (ds : Documents) :
    (d.amend ds).isModified u = d.marks u (ds.isModified u) := by
  cases d with
  | opened d =>
    simp only [Demand.amend, Demand.marks, Documents.isModified, Documents.find?_opened]
    split <;> rfl
  | edited e =>
    cases last : e.texts.getLast? with
    | none =>
      have none : e.texts = [] := List.getLast?_eq_none_iff.mp last
      simp [Demand.amend, Demand.marks, Documents.isModified, Documents.edited, none]
    | some text =>
      have some : e.texts ≠ [] := List.ne_nil_of_mem (List.mem_of_getLast? last)
      simp only [Demand.amend, Demand.marks, Documents.isModified, Documents.find?_edited _ _ _ _ _ _ last]
      by_cases same : e.url = u <;> simp [same, some]
  | saved v text =>
    simp only [Demand.amend, Demand.marks, Documents.isModified, Documents.find?_saved]
    split
    · cases ds.find? v <;> rfl
    · rfl
  | closed v =>
    simp only [Demand.amend, Demand.marks, Documents.isModified, Documents.find?_closed]
    split <;> rfl
  | _ => rfl

end Server
end LintBridge

import LintBridge.Buffer
import LintBridge.Diagnostic.Basic
import LintBridge.Keyed
import LintBridge.Url.FilePath

/-!
The documents that the client has open, as the server has last heard of them.

Each event changes one document; `find?_opened` and its sisters say what is found under every address after
it.
-/

set_option autoImplicit false
set_option relaxedAutoImplicit false

namespace LintBridge

structure OpenDocument where
  text : String
  version : Int
  /-- Whether there has been an edit since the document was last opened or saved. -/
  modified : Bool
  /-- The diagnostics that the client has been shown. -/
  shown : List Diagnostic
  deriving DecidableEq, Repr

abbrev Documents := List (Url × OpenDocument)

namespace Documents

def find? (u : Url) (ds : Documents) : Option OpenDocument := Keyed.get? u ds

def opened (u : Url) (version : Int) (text : String) (ds : Documents) : Documents :=
  Keyed.put u ⟨text, version, false, []⟩ ds

/-- A document is edited; of several texts the last one counts, and without one nothing has happened. A
document that is not open is opened. -/
def edited (u : Url) (version : Int) (texts : List String) (ds : Documents) : Documents :=
  match texts.getLast? with
  | none => ds
  | some text => Keyed.put u ⟨text, version, true, ((ds.find? u).map OpenDocument.shown).getD []⟩ ds

def saved (u : Url) (text : Option String) (ds : Documents) : Documents :=
  match ds.find? u with
  | none => ds
  | some d => Keyed.put u { d with text := text.getD d.text, modified := false } ds

def closed (u : Url) (ds : Documents) : Documents := Keyed.erase u ds

/-- Whether a version is the latest one of an open document. -/
def isLatest (u : Url) (version : Int) (ds : Documents) : Bool :=
  (ds.find? u).any fun d => d.version == version

/-- Notes the diagnostics that are shown for an open document. -/
def showing (u : Url) (shown : List Diagnostic) (ds : Documents) : Documents :=
  match ds.find? u with
  | none => ds
  | some d => Keyed.put u { d with shown := shown } ds

def buffer? (u : Url) (ds : Documents) : Option Buffer := do
  let path ← u.filePath?
  let d ← ds.find? u
  pure ⟨some path, d.text, d.modified⟩

/-! ### What is found afterwards -/

theorem find?_opened (u v : Url) (version : Int) (text : String) (ds : Documents) :
    find? v (opened u version text ds) = if u = v then some ⟨text, version, false, []⟩ else find? v ds :=
  Keyed.get?_put u v _ ds

theorem find?_edited (u v : Url) (version : Int) (texts : List String) (text : String) (ds : Documents)
    (h : texts.getLast? = some text) :
    find? v (edited u version texts ds) =
      if u = v then some ⟨text, version, true, ((find? u ds).map OpenDocument.shown).getD []⟩
      else find? v ds := by
  unfold edited
  rw [h]
  exact Keyed.get?_put u v _ ds

theorem find?_saved (u v : Url) (text : Option String) (ds : Documents) :
    find? v (saved u text ds) =
      if u = v then (find? u ds).map fun d => { d with text := text.getD d.text, modified := false }
      else find? v ds := by
  unfold saved
  cases h : find? u ds with
  | none =>
    by_cases huv : u = v
    · subst huv
      simpa using h
    · simp [huv]
  | some d =>
    simp only [Option.map_some]
    exact Keyed.get?_put u v _ ds

theorem find?_closed (u v : Url) (ds : Documents) :
    find? v (closed u ds) = if u = v then none else find? v ds :=
  Keyed.get?_erase u v ds

theorem find?_showing (u v : Url) (shown : List Diagnostic) (ds : Documents) :
    find? v (showing u shown ds) =
      if u = v then (find? u ds).map fun d => { d with shown := shown } else find? v ds := by
  unfold showing
  cases h : find? u ds with
  | none =>
    by_cases huv : u = v
    · subst huv
      simpa using h
    · simp [huv]
  | some d =>
    simp only [Option.map_some]
    exact Keyed.get?_put u v _ ds

end Documents
end LintBridge

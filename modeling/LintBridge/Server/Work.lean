import LintBridge.Server.Present
import LintBridge.Server.State

/-!
The steps of the server's work: lints, corrections and hovers, from where they begin to where they are done.

A step goes on until the work has to wait. Between two steps of one piece of work, messages are taken and
other work is done; what has been decided before the wait stays.
-/

set_option autoImplicit false
set_option relaxedAutoImplicit false

namespace LintBridge.Server

open StyleGuide (Reader)

/-! ### Lints -/

/-- Shows what a lint has found. A lint without a result leaves what is shown, and for a document that is no
longer open nothing is shown. -/
def present (u : Url) (version : Option Int) (found : Option (List Diagnostic)) (s : Server) : Turn :=
  match found with
  | none => .quiet s
  | some ds =>
    if (s.documents.find? u).isSome then
      announce (.diagnostics u ds version) { s with documents := s.documents.showing u ds }
    else .quiet s

/-- What follows a step of a lint; `goOn` is what comes after the lint. -/
def afterLint (number : Nat) (isRequest : Bool) (u : Url) (version : Option Int) (later : List Url)
    (goOn : Server → Turn) (p : Progress Analysis) (s : Server) : Turn :=
  (perform p.effects { s with linter := p.linter }).andThen fun s =>
    match p.state with
    | .finished found => (present u version found s).andThen goOn
    | a => keep number ⟨isRequest, .linting u version a later⟩ s

def lint (around : Surroundings) (number : Nat) (isRequest : Bool) (u : Url) (version : Option Int)
    (b : Buffer) (later : List Url) (goOn : Server → Turn) (s : Server) : Turn :=
  (afterLint number isRequest u version later goOn (Analysis.start around b s.linter) s).after
    (.lint u version b)

/-- Lints the documents that are still open, one after the other. -/
def lintAll (around : Surroundings) (number : Nat) (isRequest : Bool) : List Url → Server → Turn
  | [], s => conclude number isRequest (.ok .null) s
  | u :: later, s =>
    match s.documents.buffer? u with
    | none => lintAll around number isRequest later s
    | some b => lint around number isRequest u none b later (lintAll around number isRequest later) s

def lintVersion (around : Surroundings) (number : Nat) (u : Url) (version : Int) (s : Server) : Turn :=
  match s.documents.buffer? u with
  | none => conclude number false (.ok .null) s
  | some b => lint around number false u (some version) b [] (conclude number false (.ok .null)) s

/-- Lints the file of a document, whatever edits there are. -/
def lintStored (around : Surroundings) (number : Nat) (isRequest : Bool) (u : Url) (s : Server) : Turn :=
  match s.documents.buffer? u with
  | none => conclude number isRequest (.ok .null) s
  | some b =>
    lint around number isRequest u none { b with modified := false } []
      (conclude number isRequest (.ok .null)) s

/-! ### Corrections -/

def afterFix (around : Surroundings) (number : Nat) (isRequest : Bool) (u : Url) (p : Progress Correction)
    (s : Server) : Turn :=
  (perform p.effects { s with linter := p.linter }).andThen fun s =>
    match p.state with
    | .finished none => conclude number isRequest (.ok .null) s
    | .finished (some _) => lintStored around number isRequest u s
    | c => keep number ⟨isRequest, .fixing u c⟩ s

def fixBuffer (around : Surroundings) (number : Nat) (isRequest : Bool) (u : Url) (trigger : Trigger)
    (b : Buffer) (s : Server) : Turn :=
  (afterFix around number isRequest u (Correction.start around b trigger s.linter) s).after
    (.correct u trigger b)

/-- Corrects the file of a document. One that is not open is read first. -/
def fix (around : Surroundings) (number : Nat) (isRequest : Bool) (u : Url) (trigger : Trigger)
    (s : Server) : Turn :=
  match s.documents.buffer? u with
  | some b => fixBuffer around number isRequest u trigger b s
  | none =>
    match u.filePath? with
    | none => conclude number isRequest (.ok .null) s
    | some path => keep number ⟨isRequest, .reading u path trigger⟩ s

/-! ### Hovers -/

def afterReading (number : Nat) (isRequest : Bool) (d : Diagnostic) (anchor : String) (r : Reader)
    (s : Server) : Turn :=
  match r.answer? with
  | some text => conclude number isRequest (.ok (hoverJson d text)) s
  | none => keep number ⟨isRequest, .hovering d anchor r⟩ s

/-- The diagnostic at a place of a document: the first one that is shown there. -/
def shownAt? (u : Url) (p : Position) (s : Server) : Option Diagnostic :=
  (s.documents.find? u).bind fun d => d.shown.find? fun x => x.range.contains p

def hover (around : Surroundings) (number : Nat) (isRequest : Bool) (u : Url) (p : Position) (s : Server) :
    Turn :=
  match s.shownAt? u p with
  | none => conclude number isRequest (.ok .null) s
  | some d =>
    match d.anchor? with
    | none => conclude number isRequest (.ok (hoverJson d none)) s
    | some anchor =>
      let (r, shelf) := Reader.fresh.advance anchor around.clock none s.shelf
      afterReading number isRequest d anchor r { s with shelf := shelf }

/-! ### Going on -/

/-- The next step of a piece of work, when what it waits for has come. -/
def Job.step (around : Surroundings) (number : Nat) (signal : Signal) (j : Job) (s : Server) : Turn :=
  match j.work, signal with
  | .linting u version a later, signal =>
    afterLint number j.isRequest u version later (lintAll around number j.isRequest later)
      (a.step around signal s.linter) s
  | .fixing u c, signal => afterFix around number j.isRequest u (c.step around signal s.linter) s
  | .reading u path trigger, .arrived =>
    match around.files.readText path with
    | .error _ => conclude number j.isRequest (.ok .null) s
    | .ok text => fixBuffer around number j.isRequest u trigger (.saved path text) s
  | .hovering d anchor r, .arrived =>
    let fetched := if r = .fetching then some (around.fetch s.shelf.url) else none
    let (r, shelf) := r.advance anchor around.clock fetched s.shelf
    afterReading number j.isRequest d anchor r { s with shelf := shelf }
  | _, _ => .quiet s

/-- The signal that a piece of work can go on with at once. -/
def Work.readySignal? (s : Server) : Work → Option Signal
  | .linting _ _ a _ => (Activity.analysis a).readySignal? s.linter
  | .fixing _ c => (Activity.correction c).readySignal? s.linter
  | .reading _ _ _ => some .arrived
  | .hovering _ _ r => if r = .queueing ∧ s.shelf.locked then none else some .arrived

end LintBridge.Server

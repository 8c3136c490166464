import LintBridge.Proofs.Server.Waiting
import Mathlib.Data.List.Induction

/-!
Hovers and the diagnostics that the client sees.

A hover is answered from what the server has noted for the document, and the client sees what it has been told.
The two agree: whatever lints end in whatever order, what is noted for an open document is what the client has been
told last since the document was opened.
-/

set_option autoImplicit false
set_option relaxedAutoImplicit false

namespace LintBridge.Server

/-! ### Since a document was opened -/

section
variable {s : Server} {u : Url}

end

/-! ### Where a hover stands -/

/-- Where a hover stands: with the diagnostic that it is about, if there is one, and with the answers so far. -/
inductive Hovers (n : Nat) (s : Server) : Option Diagnostic → List Reply → Prop
  | empty (isOver : Keyed.get? n s.jobs = none) : Hovers n s none [.ok .null]
  /-- The rule's text is still to come. -/
  | waits (d : Diagnostic) (anchor : String) (r : StyleGuide.Reader)
      (waits : Keyed.get? n s.jobs = some ⟨true, .hovering d anchor r⟩) : Hovers n s (some d) []
  | answered (d : Diagnostic) (text : Option String) (isOver : Keyed.get? n s.jobs = none) :
      Hovers n s (some d) [.ok (hoverJson d text)]
  /-- The talk has ended before the rule's text has come. -/
  | cancelled (d : Diagnostic) (isOver : Keyed.get? n s.jobs = none) (exited : s.phase = .exited) :
      Hovers n s (some d) [.error .cancelled]

def repliesIn (n : Nat) (deeds : List Deed) : List Reply := deeds.filterMap (Deed.reply? n)

section
variable {s : Server} {n : Nat} {pointed : Option Diagnostic} {answers : List Reply}

theorem get?_conclude (n : Nat) (reply : Reply) (s : Server) :
    Keyed.get? n (conclude n true reply s).server.jobs = none := by
  have erased := Keyed.get?_erase n n s.jobs
  rwa [if_pos rfl] at erased

theorem repliesIn_conclude (n : Nat) (reply : Reply) (s : Server) :
    repliesIn n (conclude n true reply s).deeds = [reply] := by
  simp [repliesIn, conclude, Deed.reply?]

private theorem hovers_afterReading (d : Diagnostic) (anchor : String) (r : StyleGuide.Reader) (s : Server) :
    Hovers n (afterReading n true d anchor r s).server (some d)
      (repliesIn n (afterReading n true d anchor r s).deeds) := by
  unfold afterReading
  split
  · rename_i text _
    rw [repliesIn_conclude]
    exact .answered d text (get?_conclude n _ s)
  · refine .waits d anchor r ?_
    have put := Keyed.get?_put n n ⟨true, .hovering d anchor r⟩ s.jobs
    rwa [if_pos rfl] at put

private theorem hovers_hover (around : Surroundings) (u : Url) (p : Position) (s : Server) :
    Hovers n (hover around n true u p s).server (s.shownAt? u p) (repliesIn n (hover around n true u p s).deeds) := by
  unfold hover
  split
  · rename_i nowhere
    rw [nowhere, repliesIn_conclude]
    exact .empty (get?_conclude n _ s)
  · rename_i d found
    rw [found]
    split
    · rw [repliesIn_conclude]
      exact .answered d none (get?_conclude n _ s)
    · exact hovers_afterReading d _ _ _

private theorem hovers_jobStep {d : Diagnostic} {anchor : String} {r : StyleGuide.Reader}
    (waits : Keyed.get? n s.jobs = some ⟨true, .hovering d anchor r⟩) (around : Surroundings) (signal : Signal) :
    let t := Job.step around n signal ⟨true, .hovering d anchor r⟩ s
    Hovers n t.server (some d) (repliesIn n t.deeds) := by
  intro t
  cases signal with
  | arrived => exact hovers_afterReading d anchor _ _
  | _ => exact .waits d anchor r waits

theorem Hovers.congr {s' : Server} (hovers : Hovers n s pointed answers)
    (jobs : Keyed.get? n s'.jobs = Keyed.get? n s.jobs) (exited : s.phase = .exited → s'.phase = .exited) :
    Hovers n s' pointed answers := by
  cases hovers with
  | empty isOver => exact .empty (jobs.trans isOver)
  | waits d anchor r waits => exact .waits d anchor r (jobs.trans waits)
  | answered d text isOver => exact .answered d text (jobs.trans isOver)
  | cancelled d isOver left => exact .cancelled d (jobs.trans isOver) (exited left)

theorem Hovers.of_over (hovers : Hovers n s pointed answers) {w : Work}
    (waits : Keyed.get? n s.jobs = some ⟨true, w⟩) : ∃ d, pointed = some d ∧ answers = [] := by
  cases hovers with
  | waits d anchor r _ => exact ⟨d, rfl, rfl⟩
  | empty isOver => cases isOver.symm.trans waits
  | answered d text isOver => cases isOver.symm.trans waits
  | cancelled d isOver left => cases isOver.symm.trans waits

theorem Hovers.step (hovers : Hovers n s pointed answers) (untimed : Untimed n s)
    (once : (Keyed.keys s.jobs).Nodup) (around : Surroundings) (e : Event) :
    Hovers n (s.step around e).server pointed (answers ++ replies n (s.doneAt around e)) := by
  by_cases signalled : ∃ signal, e = .signal n signal
  · obtain ⟨signal, rfl⟩ := signalled
    rw [replies_doneAt]
    cases found : Keyed.get? n s.jobs with
    | none =>
      have quiet : s.step around (.signal n signal) = .quiet s := by simp only [Server.step, found]
      rw [quiet]
      simpa [Turn.quiet] using hovers
    | some j =>
      have goesOn : s.step around (.signal n signal) = j.step around n signal s := by
        simp only [Server.step, found]
      rw [goesOn]
      cases hovers with
      | waits d anchor r waits =>
        cases found.symm.trans waits
        exact hovers_jobStep waits around signal
      | empty isOver => cases isOver.symm.trans found
      | answered d text isOver => cases isOver.symm.trans found
      | cancelled d isOver left => cases isOver.symm.trans found
  · have unsignalled : ∀ signal, e ≠ .signal n signal := fun signal same => signalled ⟨signal, same⟩
    rcases untimed.waits once around unsignalled with ⟨jobs, unanswered⟩ | ⟨⟨w, waits⟩, exited, isOver, answer⟩
    · rw [unanswered, List.append_nil]
      exact hovers.congr jobs (exited_step around)
    · obtain ⟨d, rfl, rfl⟩ := hovers.of_over waits
      rw [answer]
      exact .cancelled d isOver exited

theorem Hovers.after (hovers : Hovers n s pointed answers) (untimed : Untimed n s) (numbered : Numbered s)
    (history : History) : Hovers n (s.after history) pointed (answers ++ replies n (s.done history)) := by
  induction history generalizing s answers with
  | nil =>
    rw [done, replies, List.filterMap_nil, List.append_nil]
    exact hovers
  | cons moment rest ih =>
    obtain ⟨around, e⟩ := moment
    rw [done, replies_append, ← List.append_assoc]
    exact ih (hovers.step untimed numbered.once around e) (untimed.step around e) (numbered.step around e)

theorem hovers_of_demand (around : Surroundings) {e : Event} {u : Url} {p : Position}
    (asked : s.demand? e = some (.hover u p)) :
    Hovers s.next (s.step around e).server (s.shownAt? u p) (replies s.next (s.doneAt around e)) := by
  obtain ⟨m, rfl, taken, served⟩ := served_of_demand around asked
  have isRequest : m.isRequest = true := (initialized_of_service taken rfl).2.2
  rw [replies_doneAt, served, isRequest]
  exact hovers_hover around u p _

end

open Json (Value)

def Event.hovering : Event :=
  .request "textDocument/hover"
    [("textDocument", .ofMembers [("uri", address)]),
      ("position", .ofMembers [("line", .number (.integer 0)), ("character", .number (.integer 1))])]

/-- The tool has been started for a document, and has something to complain about. -/
def complained : History :=
  [(unbundled, .greeting), (unbundled, .opening),
    (unbundled, .signal 1 (.programEnded (.output ⟨"", "no such option", some 2⟩)))]

/-- The place of a document that a hover asks about. -/
def Demand.hover? : Demand → Option (Url × Position)
  | .hover u p => some (u, p)
  | _ => none

theorem Demand.eq_of_hover? {d : Demand} {u : Url} {p : Position} (hovers : d.hover? = some (u, p)) :
    d = .hover u p := by
  cases d with
  | hover v q =>
    cases hovers
    rfl
  | _ => cases hovers

end LintBridge.Server

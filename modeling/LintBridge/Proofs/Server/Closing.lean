import LintBridge.Proofs.Server.Intake
import LintBridge.Proofs.Server.Lints

/-!
A document that has been closed stays clear.

Diagnostics are only shown for a document that is open at that very step, or because it is closed, and then
there are none. Which documents are open can be read off the messages, so nothing that was under way when a
document was closed has anything to show for it later.
-/

set_option autoImplicit false
set_option relaxedAutoImplicit false

namespace LintBridge.Server

/-- Whether what a message asks for opens a document. An edit opens it too, if it has a text. -/
def Demand.opens (u : Url) : Demand → Bool
  | .opened d => d.url = u
  | .edited e => e.url = u ∧ e.texts ≠ []
  | _ => false

def Demand.closes (u : Url) : Demand → Bool
  | .closed v => v = u
  | _ => false

theorem isOpen_amend (d : Demand) (u : Url) (ds : Documents) :
    (d.amend ds).isOpen u = (d.opens u || ds.isOpen u && !d.closes u) := by
  cases d with
  | opened d =>
    simp only [Demand.amend, Demand.opens, Demand.closes, Documents.isOpen, Documents.find?_opened]
    split <;> simp_all
  | edited e =>
    cases last : e.texts.getLast? with
    | none =>
      have none : e.texts = [] := List.getLast?_eq_none_iff.mp last
      simp [Demand.amend, Demand.opens, Demand.closes, Documents.edited, none]
    | some text =>
      have some : e.texts ≠ [] := List.ne_nil_of_mem (List.mem_of_getLast? last)
      simp only [Demand.amend, Demand.opens, Demand.closes, Documents.isOpen,
        Documents.find?_edited _ _ _ _ _ _ last]
      by_cases same : e.url = u <;> simp [same, some]
  | saved v text =>
    simp only [Demand.amend, Demand.opens, Demand.closes, Documents.isOpen, Documents.find?_saved]
    split
    · rename_i same
      simp [same]
    · simp
  | closed v =>
    simp only [Demand.amend, Demand.opens, Demand.closes, Documents.isOpen, Documents.find?_closed]
    split <;> simp_all
  | _ => simp [Demand.amend, Demand.opens, Demand.closes]

theorem eq_closed_of_closes {d : Demand} {u : Url} (closes : d.closes u = true) : d = .closed u := by
  cases d with
  | closed v =>
    have same : v = u := of_decide_eq_true closes
    rw [same]
  | _ => cases closes

theorem isOpen_step (around : Surroundings) (s : Server) (e : Event) (u : Url) :
    (s.step around e).server.documents.isOpen u =
      match s.demand? e with
      | some d => d.opens u || s.documents.isOpen u && !d.closes u
      | none => s.documents.isOpen u := by
  rw [(frame_step around s e).same.isOpen_eq, amended]
  cases s.demand? e with
  | none => rfl
  | some d => exact isOpen_amend d u s.documents

/-! ### What is shown in one step -/

/-- The diagnostics that a deed shows for a document. -/
def Deed.shown? (u : Url) : Deed → Option (List Diagnostic)
  | .announce (.diagnostics v shown _) => if v = u then some shown else none
  | _ => none

/-- A deed that shows diagnostics for documents that are open only, but that nothing is left of one that the
event closes. -/
def Deed.Clear (s : Server) (e : Event) (d : Deed) : Prop :=
  ∀ u shown version, d = .announce (.diagnostics u shown version) →
    (s.amended e).isOpen u = true ∨ s.demand? e = some (.closed u) ∧ shown = [] ∧ version = none

section
variable {around : Surroundings} {s : Server} {e : Event} {u : Url} {shown : List Diagnostic}
  {version : Option Int}

private theorem mayLint_clear {all : List Deed} {b : Buffer} (isBuffer : (s.amended e).buffer? u = some b)
    (b' : Buffer) : MayLint around all (Deed.Clear s e) (fun _ => True) u b' := by
  have isOpen := Documents.isOpen_of_buffer? isBuffer
  refine fun version => ⟨?_, ?_, fun _ _ _ => ⟨?_, fun _ => trivial⟩⟩
  · rintro v shown version' eq
    cases eq
  · rintro shown v shown' version' eq
    cases eq
    exact .inl isOpen
  · rintro m r isIn v shown version' eq
    cases eq

private theorem mayFix_clear {all : List Deed} (b : Buffer) :
    MayFix around all (Deed.Clear s e) (fun _ => True) u b := by
  refine fun trigger => ⟨?_, fun _ _ => ⟨?_, fun _ => trivial⟩⟩
  · rintro v shown version eq
    cases eq
  · rintro m r isIn v shown version eq
    cases eq

theorem clear_step (around : Surroundings) (s : Server) (e : Event) :
    Moves (Deed.Clear s e) (fun _ => True) s e (s.step around e) := by
  refine moves_step around s e _ _ (fun _ _ _ => trivial) ?_ ?_ ?_ ?_
  · intro _ u b isBuffer
    exact mayLint_clear isBuffer b
  · intro d u _ _
    exact ⟨fun b _ => mayFix_clear b, fun _ _ _ _ => trivial⟩
  · rintro u closes v shown version eq
    cases eq
    exact .inr ⟨closes, rfl, rfl⟩
  · rintro n signal ⟨isRequest, w⟩ rfl found
    cases w with
    | linting v version a later =>
      refine ⟨fun l => ⟨?_, fun _ => trivial⟩, ?_, fun v b isBuffer => mayLint_clear isBuffer b⟩
      · rintro m r isIn v shown version' eq
        cases eq
      · rintro isOpen shown v' shown' version' eq
        cases eq
        exact .inl isOpen
    | fixing v c =>
      refine fun l => ⟨⟨?_, fun _ => trivial⟩, fun _ _ b isBuffer => mayLint_clear isBuffer _⟩
      rintro m r isIn v shown version eq
      cases eq
    | reading v path trigger => exact fun text => mayFix_clear _
    | hovering d anchor r => trivial

theorem closed_of_shown (isClosed : (s.step around e).server.documents.isOpen u = false)
    (isIn : .announce (.diagnostics u shown version) ∈ (s.step around e).deeds) :
    s.demand? e = some (.closed u) ∧ shown = [] ∧ version = none := by
  have clear := clear_step around s e
  rw [clear.same.isOpen_eq] at isClosed
  rcases clear.deeds _ isIn with talk | clear
  · cases talk
  · rcases clear u shown version rfl with isOpen | closes
    · rw [isClosed] at isOpen
      cases isOpen
    · exact closes

end

/-! ### Closing -/

theorem shown_of_closed (around : Surroundings) {s : Server} {e : Event} {u : Url}
    (closes : s.demand? e = some (.closed u)) :
    .announce (.diagnostics u [] none) ∈ (s.step around e).deeds := by
  obtain ⟨m, rfl, taken, served⟩ := served_of_demand around closes
  have speaks : (s.phase.intake m).2.speaks = true := by
    rw [(initialized_of_service taken rfl).2.1]
    rfl
  rw [served]
  simp only [serve, Turn.andThen, announce, speaks, if_true]
  exact List.mem_append_left _ List.mem_cons_self

/-! ### Whole histories -/

/-- The diagnostics that have been shown for a document last. -/
def lastShown? (u : Url) (done : List (Nat × Deed)) : Option (List Diagnostic) :=
  (done.filterMap fun p => p.2.shown? u).getLast?

section
variable {asked : List (Nat × Demand)} {done : List (Nat × Deed)} {s : Server} {u : Url}

private theorem exists_of_mem_filterMap {deeds : List (Nat × Deed)} {shown : List Diagnostic}
    (isIn : shown ∈ deeds.filterMap fun p => p.2.shown? u) :
    ∃ n version, (n, .announce (.diagnostics u shown version)) ∈ deeds := by
  obtain ⟨⟨n, d⟩, isIn, shows⟩ := List.mem_filterMap.mp isIn
  unfold Deed.shown? at shows
  split at shows
  · rename_i v shown' version eq
    dsimp only at eq
    split at shows
    · rename_i same
      cases shows
      rw [same] at eq
      exact ⟨n, version, eq ▸ isIn⟩
    · cases shows
  · cases shows

/-- Of a document that has been open and is not, nothing is shown. -/
def Cleared (asked : List (Nat × Demand)) (done : List (Nat × Deed)) (s : Server) : Prop :=
  ∀ u, (∃ n d, (n, d) ∈ asked ∧ d.opens u = true) → s.documents.isOpen u = false → lastShown? u done = some []

theorem Cleared.step (cleared : Cleared asked done s) (around : Surroundings) (e : Event) :
    Cleared (asked ++ s.asks e) (done ++ s.doneAt around e) (s.step around e).server := by
  intro u wasOpened isClosed
  have shown : ∀ shown ∈ (s.doneAt around e).filterMap fun p => p.2.shown? u,
      s.demand? e = some (.closed u) ∧ shown = [] := by
    intro shown isIn
    obtain ⟨n, version, isIn⟩ := exists_of_mem_filterMap isIn
    obtain ⟨d, isDeed, eq⟩ := List.mem_map.mp isIn
    cases eq
    obtain ⟨closes, empty, -⟩ := closed_of_shown isClosed isDeed
    exact ⟨closes, empty⟩
  by_cases closes : s.demand? e = some (.closed u)
  · have isShown : [] ∈ (s.doneAt around e).filterMap fun p => p.2.shown? u := by
      refine List.mem_filterMap.mpr ⟨(s.worker e, _), List.mem_map_of_mem (shown_of_closed around closes), ?_⟩
      simp [Deed.shown?]
    rw [lastShown?, List.filterMap_append, List.getLast?_append]
    cases last : ((s.doneAt around e).filterMap fun p => p.2.shown? u).getLast? with
    | none =>
      rw [List.getLast?_eq_none_iff.mp last] at isShown
      cases isShown
    | some shown' =>
      have empty := (shown shown' (List.mem_of_getLast? last)).2
      rw [empty, Option.some_or]
  · have nothing : (s.doneAt around e).filterMap (fun p => p.2.shown? u) = [] := by
      apply List.eq_nil_iff_forall_not_mem.mpr
      intro shown' isIn
      exact closes (shown shown' isIn).1
    have after := isOpen_step around s e u
    rw [isClosed] at after
    have wasClosed : s.documents.isOpen u = false := by
      cases asked : s.demand? e with
      | none =>
        rw [asked] at after
        exact after.symm
      | some d =>
        rw [asked] at after closes
        have stays : d.closes u = false := by
          cases closing : d.closes u with
          | false => rfl
          | true => exact absurd (congrArg some (eq_closed_of_closes closing)) closes
        have both := Bool.or_eq_false_iff.mp after.symm
        simpa [stays] using both.2
    obtain ⟨n, d, isIn, opens⟩ := wasOpened
    rw [lastShown?, List.filterMap_append, nothing, List.append_nil]
    refine cleared u ⟨n, d, ?_, opens⟩ wasClosed
    rcases List.mem_append.mp isIn with isIn | isIn
    · exact isIn
    · rw [(mem_asks.mp isIn).1] at after
      simp [opens] at after

theorem cleared_after (history : History) :
    Cleared (fresh.demands history) (fresh.done history) (fresh.after history) := by
  have start : Cleared [] [] fresh := by
    rintro u ⟨n, d, isIn, -⟩
    cases isIn
  exact keeps_after (fun cleared around e => cleared.step around e) history [] start

/-- As long as nothing opens a document that is not open, all that is shown for it is that it is closed. -/
theorem closed_of_unopened (history : History) (isClosed : s.documents.isOpen u = false)
    (unopened : ∀ n d, (n, d) ∈ s.demands history → d.opens u = false) {n : Nat} {shown : List Diagnostic}
    {version : Option Int} (isIn : (n, .announce (.diagnostics u shown version)) ∈ s.done history) :
    shown = [] ∧ version = none ∧ (n, .closed u) ∈ s.demands history := by
  induction history generalizing s with
  | nil => cases isIn
  | cons moment rest ih =>
    obtain ⟨around, e⟩ := moment
    have stillClosed : (s.step around e).server.documents.isOpen u = false := by
      rw [isOpen_step]
      cases asked : s.demand? e with
      | none => exact isClosed
      | some d =>
        have isAsked : (s.next, d) ∈ s.demands ((around, e) :: rest) :=
          List.mem_append_left _ (mem_asks.mpr ⟨asked, rfl⟩)
        simp [isClosed, unopened _ d isAsked]
    rcases List.mem_append.mp isIn with isIn | isIn
    · obtain ⟨d, isDeed, eq⟩ := List.mem_map.mp isIn
      cases eq
      obtain ⟨closes, empty, unversioned⟩ := closed_of_shown stillClosed isDeed
      refine ⟨empty, unversioned, List.mem_append_left _ ?_⟩
      simp [asks, closes]
    · have later := ih stillClosed (fun n d isIn => unopened n d (List.mem_append_right _ isIn)) isIn
      exact ⟨later.1, later.2.1, List.mem_append_right _ later.2.2⟩

end

/-- From the moment at which a document is closed until a message opens it again, all that is shown for it is
that nothing is left, and only messages that close it show that. So whenever a document has been open and is
not, the diagnostics that have been shown for it last are none, whatever was under way when it was closed. -/
theorem closed_document_stays_clear (u : Url) :
    (∀ (front back : History) (around : Surroundings) (e : Event),
      (fresh.after front).demand? e = some (.closed u) →
      (∀ n d, (n, d) ∈ (fresh.after front).demands ((around, e) :: back) → d.opens u = false) →
      ∀ n shown version,
        (n, .announce (.diagnostics u shown version)) ∈ (fresh.after front).done ((around, e) :: back) →
        shown = [] ∧ version = none ∧ (n, .closed u) ∈ (fresh.after front).demands ((around, e) :: back)) ∧
    ∀ history : History, (∃ n d, (n, d) ∈ fresh.demands history ∧ d.opens u = true) →
      (fresh.after history).documents.find? u = none → lastShown? u (fresh.done history) = some [] := by
  constructor
  · intro front back around e closes unopened n shown version isIn
    have isClosed : ((fresh.after front).step around e).server.documents.isOpen u = false := by
      rw [isOpen_step, closes]
      simp [Demand.opens, Demand.closes]
    rcases List.mem_append.mp isIn with isIn | isIn
    · obtain ⟨d, isDeed, eq⟩ := List.mem_map.mp isIn
      cases eq
      obtain ⟨-, empty, unversioned⟩ := closed_of_shown isClosed isDeed
      refine ⟨empty, unversioned, List.mem_append_left _ ?_⟩
      simp [asks, closes]
    · have later := closed_of_unopened back isClosed
        (fun n d isIn => unopened n d (List.mem_append_right _ isIn)) isIn
      exact ⟨later.1, later.2.1, List.mem_append_right _ later.2.2⟩
  · intro history wasOpened isClosed
    exact cleared_after history u wasOpened (by rw [Documents.isOpen, isClosed]; rfl)

/-! ### Closing in the middle of everything -/

def Event.closing : Event :=
  .notification "textDocument/didClose" [("textDocument", .ofMembers [("uri", address)])]

def busy : History := [(unbundled, .greeting), (unbundled, .opening), (unbundled, .fixing), (unbundled, .editing)]

/-- The lint finds something to complain about, the correction is done, and the time of the edit comes. -/
def leftover : History :=
  [(unbundled, .signal 1 (.programEnded (.output ⟨"", "no such option", some 2⟩))), (unbundled, .corrected),
    (unbundled, .elapse 3)]

def Demand.closed? : Demand → Option Url
  | .closed u => some u
  | _ => none

theorem Demand.eq_of_closed? {d : Demand} {u : Url} (closes : d.closed? = some u) : d = .closed u := by
  cases d with
  | closed v =>
    cases closes
    rfl
  | _ => cases closes

private theorem closes_busy :
    ∃ u, (fresh.after busy).demand? .closing = some (.closed u) ∧
      (∀ n d, (n, d) ∈ (fresh.after busy).demands ((unbundled, .closing) :: leftover) → d.opens u = false) ∧
      (∃ n d, (n, d) ∈ fresh.demands (busy ++ (unbundled, .closing) :: leftover) ∧ d.opens u = true) ∧
      (fresh.after (busy ++ (unbundled, .closing) :: leftover)).documents.find? u = none := by
  have all : ((fresh.after busy).demand? .closing).any (fun d => d.closed?.any fun u =>
      ((fresh.after busy).demands ((unbundled, .closing) :: leftover)).all (fun p => !p.2.opens u) &&
        (fresh.demands (busy ++ (unbundled, .closing) :: leftover)).any (fun p => p.2.opens u) &&
        ((fresh.after (busy ++ (unbundled, .closing) :: leftover)).documents.find? u).isNone) = true := by
    decide +kernel
  obtain ⟨d, isDemand, all⟩ := (Option.any_eq_true _ _).mp all
  obtain ⟨u, closes, all⟩ := (Option.any_eq_true _ _).mp all
  obtain rfl := Demand.eq_of_closed? closes
  obtain ⟨both, isClosed⟩ := Bool.and_eq_true_iff.mp all
  obtain ⟨unopened, wasOpened⟩ := Bool.and_eq_true_iff.mp both
  refine ⟨u, isDemand, ?_, ?_, Option.isNone_iff_eq_none.mp isClosed⟩
  · intro n d isIn
    simpa using List.all_eq_true.mp unopened (n, d) isIn
  · obtain ⟨⟨n, d⟩, isIn, opens⟩ := List.any_eq_true.mp wasOpened
    exact ⟨n, d, isIn, opens⟩

theorem closed_document_stays_clear_busy :
    ∃ u, (fresh.after busy).demand? .closing = some (.closed u) ∧
      (∀ n shown version, (n, .announce (.diagnostics u shown version)) ∈
        (fresh.after busy).done ((unbundled, .closing) :: leftover) → shown = []) ∧
      lastShown? u (fresh.done (busy ++ (unbundled, .closing) :: leftover)) = some [] := by
  obtain ⟨u, closes, unopened, wasOpened, isClosed⟩ := closes_busy
  obtain ⟨window, last⟩ := closed_document_stays_clear u
  refine ⟨u, closes, ?_, last _ wasOpened isClosed⟩
  intro n shown version isIn
  exact (window busy leftover unbundled .closing closes unopened n shown version isIn).1

end LintBridge.Server

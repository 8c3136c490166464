import LintBridge.Proofs.Keyed
import LintBridge.Proofs.Linter.Starts
import LintBridge.Proofs.Server.Edits

/-!
What one step of the server can do.

Whatever a piece of work does in a step, it changes nothing about the documents but what is shown for them, and
no work but its own. `Works` says so, and takes two more things along: `may` is what the deeds of the step have
to satisfy, and `left` is what the work has to satisfy that is left behind. Each function of the server hands
these down to the analyses and corrections that it begins or goes on with; `moves_step` is what comes of it for
an event.
-/

set_option autoImplicit false
set_option relaxedAutoImplicit false

namespace LintBridge.Server

/-- Something that only the client hears of, diagnostics apart. -/
def Deed.isTalk : Deed → Bool
  | .announce (.diagnostics _ _ _) => false
  | .announce _ => true
  | .answer _ _ => true
  | _ => false

/-- A step of the work with the number `n`, from a state on. -/
structure Works (n : Nat) (may : Deed → Prop) (left : Work → Prop) (s : Server) (t : Turn) : Prop where
  same : s.documents.Same t.server.documents
  next : t.server.next = s.next
  jobs : ∀ m j, (m, j) ∈ t.server.jobs → (m, j) ∈ s.jobs ∨ m = n ∧ left j.work
  deeds : ∀ d ∈ t.deeds, d.isTalk = true ∨ may d

/-- A part of a step, if all of its deeds are among those of the step. -/
def Does (n : Nat) (all : List Deed) (may : Deed → Prop) (left : Work → Prop) (s : Server) (t : Turn) : Prop :=
  t.deeds ⊆ all → Works n may left s t

/-- What a step of an analysis brings about and leaves behind is allowed. -/
def FineLint (may : Deed → Prop) (left : Work → Prop) (u : Url) (version : Option Int) (later : List Url)
    (p : Progress Analysis) : Prop :=
  (∀ m r, .start m r ∈ p.effects → may (.start m r)) ∧
    (p.state.found? = none → left (.linting u version p.state later))

/-- What a step of a correction brings about and leaves behind is allowed. -/
def FineFix (may : Deed → Prop) (left : Work → Prop) (u : Url) (p : Progress Correction) : Prop :=
  (∀ m r, .start m r ∈ p.effects → may (.start m r)) ∧
    (p.state.summary? = none → left (.fixing u p.state))

section
variable (around : Surroundings) (all : List Deed) (may : Deed → Prop) (left : Work → Prop)

/-- A lint of a buffer may begin, and show what it finds. -/
def MayLint (u : Url) (b : Buffer) : Prop :=
  ∀ version, may (.lint u version b) ∧ (∀ shown, may (.announce (.diagnostics u shown version))) ∧
    (.lint u version b ∈ all → ∀ later l, FineLint may left u version later (Analysis.start around b l))

def MayFix (u : Url) (b : Buffer) : Prop :=
  ∀ trigger, may (.correct u trigger b) ∧
    (.correct u trigger b ∈ all → ∀ l, FineFix may left u (Correction.start around b trigger l))

/-- A correction of a document may begin, or wait for its text. -/
def MayCorrect (ds : Documents) (u : Url) : Prop :=
  (∀ b, ds.buffer? u = some b → MayFix around all may left u b) ∧
    ∀ path trigger, ds.buffer? u = none → u.filePath? = some path → left (.reading u path trigger)

/-- What is found may be shown for a document, if it is open. -/
def MayShow (ds : Documents) (u : Url) (version : Option Int) : Prop :=
  ds.isOpen u = true → ∀ shown, may (.announce (.diagnostics u shown version))

def MayGoOn (ds : Documents) (signal : Signal) : Work → Prop
  | .linting u version a later => (∀ l, FineLint may left u version later (a.step around signal l)) ∧
      MayShow may ds u version ∧ ∀ v b, ds.buffer? v = some b → MayLint around all may left v b
  | .fixing u c => ∀ l, FineFix may left u (c.step around signal l) ∧
      ∀ summary, (c.step around signal l).state = .finished (some summary) →
        ∀ b, ds.buffer? u = some b → MayLint around all may left u { b with modified := false }
  | .reading u path _ => ∀ text, MayFix around all may left u (.saved path text)
  | .hovering _ _ _ => True

end

section
variable {around : Surroundings} {n : Nat} {all : List Deed} {may : Deed → Prop} {left : Work → Prop}
  {s : Server} {isRequest : Bool} {u : Url} {version : Option Int}

/-! ### Parts of steps -/

theorem works_quiet (s : Server) : Works n may left s (.quiet s) where
  same := .refl _
  next := rfl
  jobs _ _ isIn := .inl isIn
  deeds _ isIn := (List.not_mem_nil isIn).elim

theorem Does.andThen {t : Turn} {f : Server → Turn} (first : Does n all may left s t)
    (second : ∀ s', s.documents.Same s'.documents → Does n all may left s' (f s')) :
    Does n all may left s (t.andThen f) := by
  intro within
  have one := first fun d isIn => within (List.mem_append_left _ isIn)
  have two := second t.server one.same fun d isIn => within (List.mem_append_right _ isIn)
  exact
    { same := one.same.trans two.same
      next := two.next.trans one.next
      jobs := by
        intro m j isIn
        rcases two.jobs m j isIn with isIn | own
        · exact one.jobs m j isIn
        · exact .inr own
      deeds := by
        intro d isIn
        rcases List.mem_append.mp isIn with isIn | isIn
        · exact one.deeds d isIn
        · exact two.deeds d isIn }

theorem Does.after {t : Turn} {d : Deed} (allowed : may d) (rest : d ∈ all → Does n all may left s t) :
    Does n all may left s (t.after d) := by
  intro within
  have works := rest (within List.mem_cons_self) fun d isIn => within (List.mem_cons_of_mem _ isIn)
  refine { works with deeds := ?_ }
  intro d' isIn
  rcases List.mem_cons.mp isIn with rfl | isIn
  · exact .inr allowed
  · exact works.deeds d' isIn

theorem does_conclude (n : Nat) (isRequest : Bool) (reply : Reply) (s : Server) :
    Does n all may left s (conclude n isRequest reply s) := fun _ =>
  { same := .refl _
    next := rfl
    jobs := fun m j isIn => .inl (Keyed.mem_of_mem_erase isIn)
    deeds := by
      intro d isIn
      cases isRequest with
      | false => cases isIn
      | true =>
        cases List.mem_singleton.mp isIn
        exact .inl rfl }

theorem does_keep {j : Job} (stays : left j.work) (s : Server) : Does n all may left s (keep n j s) := fun _ =>
  { same := .refl _
    next := rfl
    jobs := by
      intro m j' isIn
      rcases Keyed.mem_put isIn with isIn | ⟨rfl, rfl⟩
      · exact .inl isIn
      · exact .inr ⟨rfl, stays⟩
    deeds := fun d isIn => (List.not_mem_nil isIn).elim }

theorem does_announce {a : Announcement} (allowed : (Deed.announce a).isTalk = true ∨ may (.announce a))
    (s : Server) : Does n all may left s (announce a s) := fun _ =>
  { same := .refl _
    next := rfl
    jobs := fun m j isIn => .inl isIn
    deeds := by
      intro d isIn
      simp only [announce] at isIn
      split at isIn
      · cases List.mem_singleton.mp isIn
        exact allowed
      · cases isIn }

theorem does_perform {effects : List Effect} (allowed : ∀ m r, .start m r ∈ effects → may (.start m r))
    (l : Linter) (s : Server) : Does n all may left s (perform effects { s with linter := l }) := fun _ =>
  { same := .refl _
    next := rfl
    jobs := fun m j isIn => .inl isIn
    deeds := by
      intro d isIn
      obtain ⟨effect, isEffect, isIn⟩ := List.mem_flatMap.mp isIn
      cases effect with
      | start m r =>
        cases List.mem_singleton.mp isIn
        exact .inr (allowed m r isEffect)
      | notify notice =>
        dsimp only at isIn
        split at isIn
        · cases List.mem_singleton.mp isIn
          exact .inl rfl
        · cases isIn }

theorem does_present (found : Option (List Diagnostic)) (shows : MayShow may s.documents u version) :
    Does n all may left s (present u version found s) := by
  unfold present
  split
  · exact fun _ => works_quiet s
  · rename_i ds
    split
    · rename_i isOpen
      intro within
      have works : Works n may left { s with documents := s.documents.showing u ds }
          (announce (.diagnostics u ds version) { s with documents := s.documents.showing u ds }) :=
        does_announce (.inr (shows isOpen ds)) _ within
      exact
        { same := Documents.same_showing u ds s.documents
          next := works.next
          jobs := works.jobs
          deeds := works.deeds }
    · exact fun _ => works_quiet s

/-! ### Lints -/

theorem does_afterLint {later : List Url} {p : Progress Analysis} {goOn : Server → Turn}
    (fine : FineLint may left u version later p) (shows : MayShow may s.documents u version)
    (rest : ∀ s', s.documents.Same s'.documents → Does n all may left s' (goOn s')) :
    Does n all may left s (afterLint n isRequest u version later goOn p s) := by
  unfold afterLint
  refine (does_perform fine.1 p.linter s).andThen ?_
  intro s₁ same₁
  split
  · refine (does_present _ fun isOpen => shows (by rwa [same₁.isOpen_eq] at isOpen)).andThen ?_
    intro s₂ same₂
    exact rest s₂ (same₁.trans same₂)
  · rename_i unfinished
    refine does_keep (fine.2 ?_) s₁
    cases state : p.state with
    | finished found => exact absurd state (unfinished found)
    | _ => rfl

theorem does_lint {later : List Url} {b : Buffer} {goOn : Server → Turn}
    (lint : MayLint around all may left u b)
    (rest : ∀ s', s.documents.Same s'.documents → Does n all may left s' (goOn s')) :
    Does n all may left s (Server.lint around n isRequest u version b later goOn s) :=
  Does.after (lint version).1 fun isDone =>
    does_afterLint ((lint version).2.2 isDone later s.linter) (fun _ => (lint version).2.1) rest

theorem does_lintAll (lints : ∀ u b, s.documents.buffer? u = some b → MayLint around all may left u b)
    (urls : List Url) : Does n all may left s (lintAll around n isRequest urls s) := by
  induction urls generalizing s with
  | nil => exact does_conclude n isRequest _ s
  | cons u later ih =>
    unfold lintAll
    split
    · exact ih lints
    · rename_i b stored
      refine does_lint (lints u b stored) ?_
      intro s' same
      exact ih fun v b' stored' => lints v b' (by rwa [same.buffer?_eq] at stored')

theorem does_lintVersion (lints : ∀ u b, s.documents.buffer? u = some b → MayLint around all may left u b)
    (version : Int) : Does n all may left s (lintVersion around n u version s) := by
  unfold lintVersion
  split
  · exact does_conclude n false _ s
  · rename_i b stored
    exact does_lint (lints u b stored) fun s' _ => does_conclude n false _ s'

theorem does_lintStored
    (lints : ∀ b, s.documents.buffer? u = some b → MayLint around all may left u { b with modified := false }) :
    Does n all may left s (lintStored around n isRequest u s) := by
  unfold lintStored
  split
  · exact does_conclude n isRequest _ s
  · rename_i b stored
    exact does_lint (lints b stored) fun s' _ => does_conclude n isRequest _ s'

/-! ### Corrections -/

theorem does_afterFix {p : Progress Correction} (fine : FineFix may left u p)
    (relints : ∀ summary, p.state = .finished (some summary) → ∀ b, s.documents.buffer? u = some b →
      MayLint around all may left u { b with modified := false }) :
    Does n all may left s (afterFix around n isRequest u p s) := by
  unfold afterFix
  refine (does_perform fine.1 p.linter s).andThen ?_
  intro s₁ same₁
  split
  · exact does_conclude n isRequest _ s₁
  · rename_i summary finished
    refine does_lintStored ?_
    intro b stored
    exact relints summary finished b (by rwa [same₁.buffer?_eq] at stored)
  · rename_i unsuccessful unfinished
    refine does_keep (fine.2 ?_) s₁
    cases state : p.state with
    | finished found =>
      cases found with
      | none => exact absurd state unsuccessful
      | some summary => exact absurd state (unfinished summary)
    | _ => rfl

theorem does_fixBuffer {trigger : Trigger} {b : Buffer} (fix : MayFix around all may left u b) :
    Does n all may left s (fixBuffer around n isRequest u trigger b s) :=
  Does.after (fix trigger).1 fun isDone =>
    does_afterFix ((fix trigger).2 isDone s.linter) fun summary finished =>
      absurd finished (Correction.summary_start around b trigger s.linter summary)

theorem does_fix {trigger : Trigger} (corrects : MayCorrect around all may left s.documents u) :
    Does n all may left s (fix around n isRequest u trigger s) := by
  unfold fix
  split
  · rename_i b stored
    exact does_fixBuffer (corrects.1 b stored)
  · rename_i unstored
    split
    · exact does_conclude n isRequest _ s
    · rename_i path located
      exact does_keep (corrects.2 path trigger unstored located) s

/-! ### Hovers -/

theorem does_afterReading (hovers : ∀ d anchor r, left (.hovering d anchor r)) (d : Diagnostic) (anchor : String)
    (r : StyleGuide.Reader) : Does n all may left s (afterReading n isRequest d anchor r s) := by
  unfold afterReading
  split
  · exact does_conclude n isRequest _ s
  · exact does_keep (hovers d anchor r) s

theorem Does.of_eq {s' : Server} {t : Turn} (does : Does n all may left s' t)
    (documents : s'.documents = s.documents) (next : s'.next = s.next) (jobs : s'.jobs = s.jobs) :
    Does n all may left s t := by
  intro within
  have works := does within
  exact
    { same := documents ▸ works.same
      next := works.next.trans next
      jobs := jobs ▸ works.jobs
      deeds := works.deeds }

theorem does_hover (hovers : ∀ d anchor r, left (.hovering d anchor r)) (p : Position) :
    Does n all may left s (hover around n isRequest u p s) := by
  unfold hover
  split
  · exact does_conclude n isRequest _ s
  · split
    · exact does_conclude n isRequest _ s
    · exact (does_afterReading hovers _ _ _).of_eq rfl rfl rfl

/-! ### Events -/

theorem does_jobStep {signal : Signal} {j : Job} (hovers : ∀ d anchor r, left (.hovering d anchor r))
    (goesOn : MayGoOn around all may left s.documents signal j.work) :
    Does n all may left s (j.step around n signal s) := by
  obtain ⟨isRequest, work⟩ := j
  unfold Job.step
  dsimp only
  split
  · refine does_afterLint (goesOn.1 s.linter) goesOn.2.1 ?_
    intro s' same
    exact does_lintAll (fun v b stored => goesOn.2.2 v b (by rwa [same.buffer?_eq] at stored)) _
  · exact does_afterFix (goesOn s.linter).1 (goesOn s.linter).2
  · split
    · exact does_conclude n isRequest _ s
    · exact does_fixBuffer (goesOn _)
  · exact (does_afterReading hovers _ _ _).of_eq rfl rfl rfl
  · exact fun _ => works_quiet s

theorem configured?_eq {settings : Json.Value} {s' : Server} (changed : s.configured? settings = some s') :
    ∃ l, s' = { s with linter := l } := by
  obtain ⟨c, -, changed⟩ := Option.bind_eq_some_iff.mp changed
  split at changed
  · cases changed
  · cases changed
    exact ⟨_, rfl⟩

theorem greeted_eq (g : Greeting) (s : Server) : ∃ l, s.greeted g = { s with phase := .initialized, linter := l } := by
  have configured : ∀ s₁ : Server, ∃ l,
      (g.options.bind fun options => s₁.configured? options).getD s₁ = { s₁ with linter := l } := by
    intro s₁
    cases changed : g.options.bind fun options => s₁.configured? options with
    | none => exact ⟨_, rfl⟩
    | some s₂ =>
      obtain ⟨options, -, changed⟩ := Option.bind_eq_some_iff.mp changed
      exact configured?_eq changed
  unfold greeted
  dsimp only
  split
  · obtain ⟨l, eq⟩ := configured s
    exact ⟨l, by rw [eq]⟩
  · rename_i root _
    obtain ⟨l, eq⟩ := configured { s with linter := { s.linter with root := some root } }
    exact ⟨l, by rw [eq]⟩

theorem does_leave (s : Server) : Does n all may left s s.leave := fun _ =>
  { same := .refl _
    next := rfl
    jobs := by
      intro m j isIn
      simp only [leave, List.partition_eq_filter_filter] at isIn
      exact .inl (List.mem_filter.mp isIn).1
    deeds := by
      intro d isIn
      obtain ⟨j, -, eq⟩ := List.mem_map.mp isIn
      rw [← eq]
      exact .inl rfl }

/-- The document that a demand is to have corrected, if there are no settings against it. -/
def Demand.fixes? : Demand → Option Url
  | .saved u _ => some u
  | .execute command arguments => fixTarget? command arguments
  | _ => none

theorem does_serve (isRequest : Bool) (d : Demand) (hovers : ∀ d anchor r, left (.hovering d anchor r))
    (lints : ∀ u b, (d.amend s.documents).buffer? u = some b → MayLint around all may left u b)
    (corrects : ∀ u, d.fixes? = some u → MayCorrect around all may left (d.amend s.documents) u)
    (closes : ∀ u, d = .closed u → may (.announce (.diagnostics u [] none))) :
    Does n all may left { s with documents := d.amend s.documents } (serve around n isRequest d s) := by
  cases d with
  | greet g =>
    obtain ⟨l, greeted⟩ := greeted_eq g s
    simp only [serve, greeted]
    exact (does_conclude n isRequest _ _).of_eq rfl rfl rfl
  | welcome => exact (does_announce (.inl rfl) s).andThen fun s' _ => does_conclude n isRequest _ s'
  | rest => exact does_conclude n isRequest _ s
  | exit => exact does_leave s
  | opened d => exact does_lintVersion lints d.version
  | edited e =>
    simp only [serve]
    split
    · rename_i empty
      have none : e.texts = [] := List.isEmpty_iff.mp empty
      refine (does_conclude n isRequest _ s).of_eq ?_ rfl rfl
      simp only [Demand.amend, none]
      rfl
    · exact Does.of_eq (fun _ => works_quiet _) rfl rfl rfl
  | saved u text =>
    simp only [serve]
    split
    · exact does_fix (corrects u rfl)
    · refine does_lintStored ?_
      intro b stored
      have unmarked : b.modified = false := by
        obtain ⟨-, -, -, mark⟩ := Documents.file_of_buffer? stored
        have marks := isModified_amend (.saved u text) u s.documents
        rw [Demand.marks, if_pos rfl] at marks
        exact mark.trans marks
      have same : { b with modified := false } = b := by rw [← unmarked]
      rw [same]
      exact lints u b stored
  | closed u => exact (does_announce (.inr (closes u rfl)) _).andThen fun s' _ => does_conclude n isRequest _ s'
  | configured settings =>
    simp only [serve]
    split
    · exact does_conclude n isRequest _ s
    · rename_i s' changed
      obtain ⟨l, rfl⟩ := configured?_eq changed
      exact (does_lintAll (s := { s with linter := l }) lints _).of_eq rfl rfl rfl
  | hover u p => exact does_hover hovers p
  | actions q => exact does_conclude n isRequest _ s
  | execute command arguments =>
    simp only [serve]
    split
    · exact does_conclude n isRequest _ s
    · rename_i u target
      exact does_fix (corrects u target)
  | other => exact does_conclude n isRequest _ s

end

/-- What the message of an event asks for, if it is taken. -/
def demand? (s : Server) : Event → Option Demand
  | .message m =>
    if s.phase = .exited then none
    else
      match (s.phase.intake m).1 with
      | .taken d => some d
      | _ => none
  | _ => none

theorem taken_of_demand {s : Server} {e : Event} {d : Demand} (asked : s.demand? e = some d) :
    ∃ m, e = .message m ∧ s.phase ≠ .exited ∧ (s.phase.intake m).1 = .taken d := by
  cases e with
  | message m =>
    have talking : s.phase ≠ .exited := by
      intro exited
      rw [demand?, if_pos exited] at asked
      cases asked
    refine ⟨m, rfl, talking, ?_⟩
    rw [demand?, if_neg talking] at asked
    cases intake : (s.phase.intake m).1 with
    | taken d' =>
      rw [intake] at asked
      cases asked
      rfl
    | _ =>
      rw [intake] at asked
      cases asked
  | signal n signal => cases asked
  | elapse n => cases asked

theorem served_of_demand (around : Surroundings) {s : Server} {e : Event} {d : Demand}
    (asked : s.demand? e = some d) :
    ∃ m, e = .message m ∧ (s.phase.intake m).1 = .taken d ∧
      s.step around e = serve around s.next m.isRequest d
        { s with phase := (s.phase.intake m).2, next := s.next + 1 } := by
  obtain ⟨m, rfl, talking, taken⟩ := taken_of_demand asked
  refine ⟨m, rfl, taken, ?_⟩
  simp only [step, receive, if_neg talking, taken, settle]

/-- The number of the work that an event belongs to. -/
def worker (s : Server) : Event → Nat
  | .message _ => s.next
  | .signal n _ => n
  | .elapse n => n

/-- The open documents after what the message of an event asks for. -/
def amended (s : Server) (e : Event) : Documents :=
  match s.demand? e with
  | some d => d.amend s.documents
  | none => s.documents

/-- What an event may bring about, and leave behind. -/
structure Moves (may : Deed → Prop) (left : Work → Prop) (s : Server) (e : Event) (t : Turn) : Prop where
  same : (s.amended e).Same t.server.documents
  /-- The number of a message is not given again. -/
  next : s.next ≤ t.server.next ∧ ∀ d, s.demand? e = some d → s.next < t.server.next
  jobs : ∀ m j, (m, j) ∈ t.server.jobs → (m, j) ∈ s.jobs ∨ m = s.worker e ∧ left j.work
  deeds : ∀ d ∈ t.deeds, d.isTalk = true ∨ may d

section
variable {around : Surroundings} {may : Deed → Prop} {left : Work → Prop} {s : Server}

private theorem moves_of_works {e : Event} {t : Turn} (unasked : s.demand? e = none)
    (works : Works (s.worker e) may left s t) : Moves may left s e t where
  same := by
    rw [amended, unasked]
    exact works.same
  next := by
    refine ⟨Nat.le_of_eq works.next.symm, ?_⟩
    intro d asked
    rw [unasked] at asked
    cases asked
  jobs := works.jobs
  deeds := works.deeds

private theorem does_settle {m : Message} {all : List Deed} (phase : Phase)
    (asked : s.demand? (.message m) = match (s.phase.intake m).1 with
      | .taken d => some d
      | _ => none)
    (hovers : ∀ d anchor r, left (.hovering d anchor r))
    (lints : ∀ u b, (s.amended (.message m)).buffer? u = some b → MayLint around all may left u b)
    (corrects : ∀ d u, s.demand? (.message m) = some d → d.fixes? = some u →
      MayCorrect around all may left (s.amended (.message m)) u)
    (closes : ∀ u, s.demand? (.message m) = some (.closed u) → may (.announce (.diagnostics u [] none))) :
    Does s.next all may left { s with documents := s.amended (.message m), next := s.next + 1 }
      (settle around s.next m.isRequest (s.phase.intake m).1 { s with phase := phase, next := s.next + 1 }) := by
  unfold settle
  cases intake : (s.phase.intake m).1 with
  | dropped =>
    have same : s.amended (.message m) = s.documents := by rw [amended, asked, intake]
    dsimp only
    split
    · exact Does.of_eq (fun _ => works_quiet _) same.symm rfl rfl
    · exact Does.of_eq (fun _ => works_quiet _) same.symm rfl rfl
  | refused r =>
    have same : s.amended (.message m) = s.documents := by rw [amended, asked, intake]
    dsimp only
    split
    · exact (does_conclude _ _ _ _).of_eq same.symm rfl rfl
    · exact (does_conclude _ _ _ _).of_eq same.symm rfl rfl
  | taken d =>
    have isDemand : s.demand? (.message m) = some d := by rw [asked, intake]
    have same : s.amended (.message m) = d.amend s.documents := by rw [amended, isDemand]
    rw [same] at lints corrects ⊢
    have served := does_serve (n := s.next) (s := { s with phase := phase, next := s.next + 1 }) m.isRequest d
      hovers lints (fun u target => corrects d u isDemand target) fun u same => closes u (same ▸ isDemand)
    exact served.of_eq rfl rfl rfl

theorem moves_step (around : Surroundings) (s : Server) (e : Event) (may : Deed → Prop) (left : Work → Prop)
    (hovers : ∀ d anchor r, left (.hovering d anchor r))
    (lints : (∀ n signal, e ≠ .signal n signal) →
      ∀ u b, (s.amended e).buffer? u = some b → MayLint around (s.step around e).deeds may left u b)
    (corrects : ∀ d u, s.demand? e = some d → d.fixes? = some u →
      MayCorrect around (s.step around e).deeds may left (s.amended e) u)
    (closes : ∀ u, s.demand? e = some (.closed u) → may (.announce (.diagnostics u [] none)))
    (goesOn : ∀ n signal j, e = .signal n signal → Keyed.get? n s.jobs = some j →
      MayGoOn around (s.step around e).deeds may left s.documents signal j.work) :
    Moves may left s e (s.step around e) := by
  cases e with
  | message m =>
    by_cases exited : s.phase = .exited
    · have unasked : s.demand? (.message m) = none := by rw [demand?, if_pos exited]
      have stays : s.step around (.message m) = .quiet s := by rw [step, receive, if_pos exited]
      rw [stays]
      exact moves_of_works unasked (works_quiet s)
    · have asked : s.demand? (.message m) = match (s.phase.intake m).1 with
          | .taken d => some d
          | _ => none := by
        rw [demand?, if_neg exited]
      have settled : s.step around (.message m) = settle around s.next m.isRequest (s.phase.intake m).1
          { s with phase := (s.phase.intake m).2, next := s.next + 1 } := by
        rw [step, receive, if_neg exited]
      have lints := lints (by simp)
      rw [settled] at lints corrects ⊢
      have works := does_settle (s.phase.intake m).2 asked hovers lints corrects closes fun _ isIn => isIn
      exact
        { same := works.same
          next := by
            rw [works.next]
            exact ⟨Nat.le_succ _, fun _ _ => Nat.lt_succ_self _⟩
          jobs := works.jobs
          deeds := works.deeds }
  | signal n signal =>
    refine moves_of_works rfl ?_
    have goesOn := fun j => goesOn n signal j rfl
    -- The step is about to be taken apart, but the deeds of the whole step have to stay in sight.
    generalize within : (s.step around (.signal n signal)).deeds = all at goesOn
    have does : Does n all may left s (s.step around (.signal n signal)) := by
      simp only [step]
      split
      · exact fun _ => works_quiet s
      · rename_i j found
        exact does_jobStep hovers (goesOn j found)
    exact does fun _ isIn => within ▸ isIn
  | elapse n =>
    refine moves_of_works rfl ?_
    have lints : ∀ u b, s.documents.buffer? u = some b →
        MayLint around (s.step around (.elapse n)).deeds may left u b := lints (by simp)
    generalize within : (s.step around (.elapse n)).deeds = all at lints
    have does : Does n all may left s (s.step around (.elapse n)) := by
      simp only [step, elapse]
      split
      · exact fun _ => works_quiet s
      · split
        · exact (does_lintVersion (s := { s with timers := Keyed.erase n s.timers }) lints _).of_eq rfl rfl rfl
        · exact Does.of_eq (fun _ => works_quiet _) rfl rfl rfl
    exact does fun _ isIn => within ▸ isIn

end
end LintBridge.Server

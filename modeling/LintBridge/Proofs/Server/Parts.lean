import LintBridge.Proofs.Server.Closing

/-!
What a step of the server leaves to others.

Whatever a piece of work does, it touches no other piece of work and no other timer, and it answers nobody else.
And what it has the client see for a document is just what it notes for that document. `Part` says so for a part
of a step, whatever the linter and its tools do, and `part_step` says so for an event. Only the end of the talk
touches the work of others, and `leave` says all that there is to it.
-/

set_option autoImplicit false
set_option relaxedAutoImplicit false

namespace LintBridge

namespace Documents

/-- The diagnostics that are noted for an open document. -/
def shown? (u : Url) (ds : Documents) : Option (List Diagnostic) := (ds.find? u).map OpenDocument.shown

theorem shown?_showing (u v : Url) (shown : List Diagnostic) (ds : Documents) :
    (ds.showing u shown).shown? v = if u = v then (ds.shown? u).map fun _ => shown else ds.shown? v := by
  unfold shown?
  rw [find?_showing]
  split
  · rw [Option.map_map, Option.map_map]
    rfl
  · rfl

end Documents

namespace Server

/-- The diagnostics that some deeds show for a document last. -/
def shownBy? (u : Url) (deeds : List Deed) : Option (List Diagnostic) := (deeds.filterMap (Deed.shown? u)).getLast?

theorem shownBy?_append (u : Url) (first second : List Deed) :
    shownBy? u (first ++ second) = (shownBy? u second).or (shownBy? u first) := by
  rw [shownBy?, List.filterMap_append, List.getLast?_append]
  rfl

theorem shownBy?_eq_none {u : Url} {deeds : List Deed} (unshown : ∀ d ∈ deeds, d.shown? u = none) :
    shownBy? u deeds = none := by
  rw [shownBy?, List.filterMap_eq_nil_iff.mpr unshown]
  rfl

/-- A part of a step of the work with the number `n`, from a state on, as others see it. -/
structure Part (n : Nat) (s : Server) (t : Turn) : Prop where
  phase : t.server.phase = s.phase ∨ s.phase = .initializing ∧ t.server.phase ≠ .exited
  timers : t.server.timers = s.timers
  jobs : ∀ m, m ≠ n → Keyed.get? m t.server.jobs = Keyed.get? m s.jobs
  once : (Keyed.keys s.jobs).Nodup → (Keyed.keys t.server.jobs).Nodup
  answers : ∀ m reply, .answer m reply ∈ t.deeds → m = n
  /-- While the client may be told, what is noted for a document is what has been shown for it. -/
  shows : s.phase.speaks = true → ∀ u, t.server.documents.shown? u =
    (s.documents.shown? u).map fun shown => (shownBy? u t.deeds).getD shown

section
variable {around : Surroundings} {n : Nat} {s : Server} {isRequest : Bool} {u : Url} {version : Option Int}

/-! ### Parts of steps -/

theorem part_of_silent {deeds : List Deed}
    (silent : ∀ d ∈ deeds, (∀ m reply, d ≠ .answer m reply) ∧ ∀ u, d.shown? u = none) : Part n s ⟨s, deeds⟩ where
  phase := .inl rfl
  timers := rfl
  jobs _ _ := rfl
  once nodup := nodup
  answers m reply isIn := absurd rfl ((silent _ isIn).1 m reply)
  shows _ u := by
    rw [shownBy?_eq_none fun d isIn => (silent d isIn).2 u]
    exact Option.map_id'.symm

theorem part_quiet (s : Server) : Part n s (.quiet s) := part_of_silent fun _ isIn => (List.not_mem_nil isIn).elim

theorem Part.andThen {t : Turn} {f : Server → Turn} (first : Part n s t) (second : Part n t.server (f t.server)) :
    Part n s (t.andThen f) where
  phase := by
    rcases second.phase with same | ⟨greeted, stays⟩
    · rcases first.phase with same' | ⟨greeted, stays⟩
      · exact .inl (same.trans same')
      · exact .inr ⟨greeted, same ▸ stays⟩
    · rcases first.phase with same | ⟨greeted', -⟩
      · exact .inr ⟨same ▸ greeted, stays⟩
      · exact .inr ⟨greeted', stays⟩
  timers := second.timers.trans first.timers
  jobs m other := (second.jobs m other).trans (first.jobs m other)
  once nodup := second.once (first.once nodup)
  answers m reply isIn := by
    rcases List.mem_append.mp isIn with isIn | isIn
    · exact first.answers m reply isIn
    · exact second.answers m reply isIn
  shows speaks u := by
    have speaks' : t.server.phase.speaks = true := by
      rcases first.phase with same | ⟨greeted, -⟩
      · rw [same, speaks]
      · rw [greeted] at speaks
        cases speaks
    refine (second.shows speaks' u).trans ?_
    rw [first.shows speaks u, Option.map_map]
    congr 1
    funext shown
    have both : shownBy? u (t.andThen f).deeds = (shownBy? u (f t.server).deeds).or (shownBy? u t.deeds) :=
      shownBy?_append u t.deeds (f t.server).deeds
    rw [both]
    cases shownBy? u (f t.server).deeds <;> rfl

theorem Part.of_eq {s' : Server} {t : Turn} (part : Part n s' t) (phase : s'.phase = s.phase)
    (documents : s'.documents = s.documents) (jobs : s'.jobs = s.jobs) (timers : s'.timers = s.timers) :
    Part n s t where
  phase := phase ▸ part.phase
  timers := part.timers.trans timers
  jobs := jobs ▸ part.jobs
  once := jobs ▸ part.once
  answers := part.answers
  shows := phase ▸ documents ▸ part.shows

/-- A deed that neither answers anybody nor shows diagnostics, and what follows it. -/
theorem Part.after {d : Deed} {t : Turn} (rest : Part n s t)
    (silent : (∀ m reply, d ≠ .answer m reply) ∧ ∀ u, d.shown? u = none) : Part n s (t.after d) := by
  have first : Part n s ⟨s, [d]⟩ := part_of_silent fun d' isIn => List.mem_singleton.mp isIn ▸ silent
  exact first.andThen (f := fun _ => t) rest

theorem part_conclude (n : Nat) (isRequest : Bool) (reply : Reply) (s : Server) :
    Part n s (conclude n isRequest reply s) where
  phase := .inl rfl
  timers := rfl
  jobs m other := by
    have erased := Keyed.get?_erase n m s.jobs
    rwa [if_neg (Ne.symm other)] at erased
  once nodup := Keyed.nodup_keys_erase n nodup
  answers m reply' isIn := by
    cases isRequest with
    | false => cases isIn
    | true =>
      cases List.mem_singleton.mp isIn
      rfl
  shows _ u := by
    have nothing : shownBy? u (conclude n isRequest reply s).deeds = none := by
      cases isRequest <;> rfl
    rw [nothing]
    exact Option.map_id'.symm

theorem part_keep (j : Job) (s : Server) : Part n s (keep n j s) where
  phase := .inl rfl
  timers := rfl
  jobs m other := by
    have put := Keyed.get?_put n m j s.jobs
    rwa [if_neg (Ne.symm other)] at put
  once nodup := Keyed.nodup_keys_put n j nodup
  answers m reply isIn := (List.not_mem_nil isIn).elim
  shows _ u := Option.map_id'.symm

theorem part_perform (effects : List Effect) (s : Server) : Part n s (perform effects s) := by
  refine part_of_silent ?_
  intro d isIn
  obtain ⟨effect, -, isIn⟩ := List.mem_flatMap.mp isIn
  cases effect with
  | start m r =>
    cases List.mem_singleton.mp isIn
    exact ⟨by simp, fun _ => rfl⟩
  | notify notice =>
    dsimp only at isIn
    split at isIn
    · cases List.mem_singleton.mp isIn
      exact ⟨by simp, fun _ => rfl⟩
    · cases isIn

theorem part_showing (u : Url) (shown : List Diagnostic) (version : Option Int) (s : Server) :
    Part n s (announce (.diagnostics u shown version) { s with documents := s.documents.showing u shown }) where
  phase := .inl rfl
  timers := rfl
  jobs _ _ := rfl
  once nodup := nodup
  answers m reply isIn := by
    simp only [announce] at isIn
    split at isIn
    · cases List.mem_singleton.mp isIn
    · cases isIn
  shows speaks v := by
    simp only [announce, speaks, if_true]
    rw [Documents.shown?_showing]
    by_cases same : u = v
    · subst same
      simp [shownBy?, Deed.shown?]
    · simp [shownBy?, Deed.shown?, same]

theorem part_present (u : Url) (version : Option Int) (found : Option (List Diagnostic)) (s : Server) :
    Part n s (present u version found s) := by
  unfold present
  split
  · exact part_quiet s
  · split
    · exact part_showing u _ version s
    · exact part_quiet s

/-! ### Lints -/

theorem part_afterLint {later : List Url} {goOn : Server → Turn} (rest : ∀ s', Part n s' (goOn s'))
    (p : Progress Analysis) (s : Server) : Part n s (afterLint n isRequest u version later goOn p s) := by
  unfold afterLint
  refine Part.of_eq (?_ : Part n { s with linter := p.linter } _) rfl rfl rfl rfl
  refine (part_perform p.effects _).andThen ?_
  split
  · exact (part_present u version _ _).andThen (rest _)
  · exact part_keep _ _

theorem part_lint {later : List Url} {goOn : Server → Turn} (rest : ∀ s', Part n s' (goOn s')) (b : Buffer)
    (s : Server) : Part n s (lint around n isRequest u version b later goOn s) :=
  (part_afterLint rest _ s).after ⟨by simp, fun _ => rfl⟩

theorem part_lintAll (urls : List Url) (s : Server) : Part n s (lintAll around n isRequest urls s) := by
  induction urls generalizing s with
  | nil => exact part_conclude n isRequest _ s
  | cons u later ih =>
    unfold lintAll
    split
    · exact ih s
    · exact part_lint ih _ s

theorem part_lintVersion (version : Int) (s : Server) : Part n s (lintVersion around n u version s) := by
  unfold lintVersion
  split
  · exact part_conclude n false _ s
  · exact part_lint (part_conclude n false _) _ s

theorem part_lintStored (s : Server) : Part n s (lintStored around n isRequest u s) := by
  unfold lintStored
  split
  · exact part_conclude n isRequest _ s
  · exact part_lint (part_conclude n isRequest _) _ s

/-! ### Corrections -/

theorem part_afterFix (p : Progress Correction) (s : Server) : Part n s (afterFix around n isRequest u p s) := by
  unfold afterFix
  refine Part.of_eq (?_ : Part n { s with linter := p.linter } _) rfl rfl rfl rfl
  refine (part_perform p.effects _).andThen ?_
  split
  · exact part_conclude n isRequest _ _
  · exact part_lintStored _
  · exact part_keep _ _

theorem part_fixBuffer (trigger : Trigger) (b : Buffer) (s : Server) :
    Part n s (fixBuffer around n isRequest u trigger b s) :=
  (part_afterFix _ s).after ⟨by simp, fun _ => rfl⟩

theorem part_fix (trigger : Trigger) (s : Server) : Part n s (fix around n isRequest u trigger s) := by
  unfold fix
  split
  · exact part_fixBuffer trigger _ s
  · split
    · exact part_conclude n isRequest _ s
    · exact part_keep _ s

/-! ### Hovers -/

theorem part_afterReading (d : Diagnostic) (anchor : String) (r : StyleGuide.Reader) (s : Server) :
    Part n s (afterReading n isRequest d anchor r s) := by
  unfold afterReading
  split
  · exact part_conclude n isRequest _ s
  · exact part_keep _ s

theorem part_hover (p : Position) (s : Server) : Part n s (hover around n isRequest u p s) := by
  unfold hover
  split
  · exact part_conclude n isRequest _ s
  · split
    · exact part_conclude n isRequest _ s
    · exact (part_afterReading _ _ _ _).of_eq rfl rfl rfl rfl

/-! ### Events -/

theorem part_jobStep (signal : Signal) (j : Job) (s : Server) : Part n s (j.step around n signal s) := by
  obtain ⟨isRequest, work⟩ := j
  unfold Job.step
  dsimp only
  split
  · exact part_afterLint (part_lintAll _) _ s
  · exact part_afterFix _ s
  · split
    · exact part_conclude n isRequest _ s
    · exact part_fixBuffer _ _ s
  · exact (part_afterReading _ _ _ _).of_eq rfl rfl rfl rfl
  · exact part_quiet s

def Demand.timed (around : Surroundings) (number : Nat) (timers : List (Nat × Timer)) : Demand → List (Nat × Timer)
  | .edited e =>
    if e.texts.isEmpty then timers else timers ++ [(number, ⟨dueAfter around.clock, e.url, e.version⟩)]
  | _ => timers

theorem part_serve (isRequest : Bool) {d : Demand} (stays : d ≠ .exit)
    (greets : ∀ g, d = .greet g → s.phase = .initializing) :
    Part n { s with documents := d.amend s.documents, timers := d.timed around n s.timers }
      (serve around n isRequest d s) := by
  cases d with
  | greet g =>
    obtain ⟨l, greeted⟩ := greeted_eq g s
    simp only [serve, greeted]
    have part := part_conclude n isRequest (.ok introduction) { s with phase := .initialized, linter := l }
    have silent : s.phase.speaks = true → False := by
      rw [greets g rfl]
      intro speaks
      cases speaks
    exact
      { part with
        phase := .inr ⟨greets g rfl, fun exited => Phase.noConfusion exited⟩
        shows := fun speaks => (silent speaks).elim }
  | welcome =>
    refine Part.andThen (part_of_silent ?_) (part_conclude n isRequest _ _)
    intro d isIn
    split at isIn
    · cases List.mem_singleton.mp isIn
      exact ⟨by simp, fun _ => rfl⟩
    · cases isIn
  | rest => exact part_conclude n isRequest _ s
  | exit => exact absurd rfl stays
  | opened d => exact part_lintVersion d.version _
  | edited e =>
    simp only [serve, Demand.timed]
    split
    · rename_i empty
      have none : e.texts = [] := List.isEmpty_iff.mp empty
      refine (part_conclude n isRequest _ s).of_eq rfl ?_ rfl rfl
      simp only [Demand.amend, none]
      rfl
    · exact part_quiet _
  | saved u text =>
    simp only [serve]
    split
    · exact part_fix _ _
    · exact part_lintStored _
  | closed u =>
    have told : Part n { s with documents := s.documents.closed u }
        (announce (.diagnostics u [] none) { s with documents := s.documents.closed u }) := by
      have part := part_showing (n := n) u [] none { s with documents := s.documents.closed u }
      have unnoted : (s.documents.closed u).showing u [] = s.documents.closed u := by
        have isClosed : (s.documents.closed u).find? u = none := by
          rw [Documents.find?_closed, if_pos rfl]
        rw [Documents.showing, isClosed]
      rwa [unnoted] at part
    exact told.andThen (part_conclude n isRequest _ _)
  | configured settings =>
    simp only [serve]
    split
    · exact part_conclude n isRequest _ s
    · rename_i s' changed
      obtain ⟨l, rfl⟩ := configured?_eq changed
      exact (part_lintAll _ { s with linter := l }).of_eq rfl rfl rfl rfl
  | hover u p => exact part_hover p s
  | actions q => exact part_conclude n isRequest _ s
  | execute command arguments =>
    simp only [serve]
    split
    · exact part_conclude n isRequest _ s
    · exact part_fix _ s
  | other => exact part_conclude n isRequest _ s

end

/-- The phase in which what an event asks for is done. -/
def phaseAt (s : Server) : Event → Phase
  | .message m => if s.phase = .exited then .exited else (s.phase.intake m).2
  | _ => s.phase

def timersAt (around : Surroundings) (s : Server) (e : Event) : List (Nat × Timer) :=
  match e with
  | .elapse n => Keyed.erase n s.timers
  | e => (s.demand? e).elim s.timers (Demand.timed around s.next s.timers)

/-- The server when the message of an event has been taken in, or its timer has run out, and nothing has been
done for it yet. -/
def taking (around : Surroundings) (s : Server) (e : Event) : Server :=
  { s with phase := s.phaseAt e, documents := s.amended e, timers := s.timersAt around e }

section
variable {s : Server} {n : Nat}

private theorem part_ungreeted {f : Server → Turn} (part : ∀ s', Part n s' (f s')) (s : Server) :
    Part n s (f (if s.phase = .initializing then { s with phase := .uninitialized } else s)) := by
  split
  · rename_i greeted
    have forgotten := part { s with phase := .uninitialized }
    refine { forgotten with phase := .inr ⟨greeted, ?_⟩, shows := ?_ }
    · rcases forgotten.phase with same | ⟨same, -⟩
      · rw [same]
        exact fun exited => Phase.noConfusion exited
      · cases same
    · intro speaks
      rw [greeted] at speaks
      cases speaks
  · exact part s

private theorem part_settle {m : Message} (around : Surroundings) (talking : s.phase ≠ .exited)
    (stays : s.demand? (.message m) ≠ some .exit) :
    Part s.next (s.taking around (.message m)) (settle around s.next m.isRequest (s.phase.intake m).1
      { s with phase := (s.phase.intake m).2, next := s.next + 1 }) := by
  have phase : s.phaseAt (.message m) = (s.phase.intake m).2 := if_neg talking
  unfold settle
  cases intake : (s.phase.intake m).1 with
  | dropped =>
    have asked : s.demand? (.message m) = none := by rw [demand?, if_neg talking, intake]
    exact (part_ungreeted part_quiet { s with phase := (s.phase.intake m).2, next := s.next + 1 }).of_eq
      phase.symm (by rw [taking, amended, asked]) rfl (by simp only [taking, timersAt, asked, Option.elim_none])
  | refused r =>
    have asked : s.demand? (.message m) = none := by rw [demand?, if_neg talking, intake]
    exact (part_ungreeted (part_conclude s.next m.isRequest (.error r))
      { s with phase := (s.phase.intake m).2, next := s.next + 1 }).of_eq
      phase.symm (by rw [taking, amended, asked]) rfl (by simp only [taking, timersAt, asked, Option.elim_none])
  | taken d =>
    have asked : s.demand? (.message m) = some d := by rw [demand?, if_neg talking, intake]
    have greets : ∀ g, d = .greet g → (s.phase.intake m).2 = .initializing := by
      rintro g rfl
      exact (intake_of_entrance? intake rfl (by decide)).2.1
    exact (part_serve (s := { s with phase := (s.phase.intake m).2, next := s.next + 1 }) m.isRequest
      (fun exit => stays (exit ▸ asked)) greets).of_eq
      phase.symm (by rw [taking, amended, asked]) rfl (by simp only [taking, timersAt, asked, Option.elim_some])

/-- Every event but the end of the talk keeps to its own work. -/
theorem part_step (around : Surroundings) {e : Event} (stays : s.demand? e ≠ some .exit) :
    Part (s.worker e) (s.taking around e) (s.step around e) := by
  cases e with
  | message m =>
    simp only [step, receive]
    split
    · rename_i exited
      have unasked : s.demand? (.message m) = none := if_pos exited
      refine (part_quiet s).of_eq ?_ ?_ rfl ?_
      · exact exited.trans (if_pos exited).symm
      · simp only [taking, amended, unasked]
      · simp only [taking, timersAt, unasked, Option.elim_none]
    · rename_i talking
      exact part_settle around talking stays
  | signal n signal =>
    simp only [step]
    split
    · exact part_quiet s
    · exact part_jobStep signal _ s
  | elapse n =>
    simp only [step, elapse]
    split
    · rename_i untimed
      exact (part_quiet s).of_eq rfl rfl rfl (Keyed.erase_of_get?_eq_none untimed).symm
    · split
      · exact part_lintVersion _ _
      · exact part_quiet _

/-- The end of the talk: what the client waits for is given up, and all other work goes on. -/
theorem step_of_exit (around : Surroundings) {e : Event} (exits : s.demand? e = some .exit) :
    (s.step around e).server.phase = .exited ∧ (s.step around e).server.documents = s.documents ∧
      (s.step around e).server.timers = s.timers ∧
      (s.step around e).server.jobs = s.jobs.filter (fun j => !j.2.isRequest) ∧
      (s.step around e).deeds = (s.jobs.filter fun j => j.2.isRequest).map fun j => .answer j.1 (.error .cancelled) := by
  obtain ⟨m, rfl, -, served⟩ := served_of_demand around exits
  rw [served]
  simp only [serve, leave, List.partition_eq_filter_filter]
  exact ⟨trivial, trivial, trivial, rfl, trivial⟩

end

end Server
end LintBridge

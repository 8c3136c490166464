import LintBridge.Proofs.Linter.Steady
import LintBridge.Proofs.Server.Timers

/-!
Linting all open documents, one after the other.

`Relint` is the work that new settings lead to, in a world that stays as it is. At any moment it has done with some of
the documents and is in the middle of the next one, or it is over: `Relint.Stands` is an account of what it has begun
to lint and published by then. `stands_lintAll` opens the account, `Stands.step` carries it on at each event, and since
every signal brings the work nearer to its end, it can always be brought there (`Stands.exists_end`).
-/

set_option autoImplicit false
set_option relaxedAutoImplicit false

namespace LintBridge

/-- The directories in which the documents are linted that are files. -/
def Documents.dirs (l : Linter) (ds : Documents) (dir : Path) : Prop :=
  ∃ u b file, ds.buffer? u = some b ∧ b.path = some file ∧ l.workingDir file = dir

namespace Server

open World (remaining)

/-! ### What deeds publish and start -/

/-- What a deed publishes: the document, its diagnostics, and the version that they are for. -/
def Deed.publication? : Deed → Option (Url × List Diagnostic × Option Int)
  | .announce (.diagnostics u shown version) => some (u, shown, version)
  | _ => none

def publications (deeds : List Deed) : List (Url × List Diagnostic × Option Int) := deeds.filterMap Deed.publication?

def lastStart? (deeds : List Deed) : Option (Manner × Request) := (deeds.filterMap Deed.start?).getLast?

theorem publications_append (first second : List Deed) :
    publications (first ++ second) = publications first ++ publications second := List.filterMap_append

theorem lastStart?_append_of_none {first second : List Deed} (unstarted : second.filterMap Deed.start? = []) :
    lastStart? (first ++ second) = lastStart? first := by
  rw [lastStart?, List.filterMap_append, unstarted, List.append_nil]
  rfl

theorem lastStart?_snoc (before : List Deed) (m : Manner) (r : Request) :
    lastStart? (before ++ [.start m r]) = some (m, r) := by
  rw [lastStart?, List.filterMap_append]
  exact List.getLast?_concat

theorem publications_notify (notices : List Notice) (s : Server) :
    publications (perform (notices.map .notify) s).deeds = [] := by
  rw [publications, List.filterMap_eq_nil_iff]
  intro d isIn
  obtain ⟨effect, isEffect, isIn⟩ := List.mem_flatMap.mp isIn
  obtain ⟨notice, -, rfl⟩ := List.mem_map.mp isEffect
  dsimp only at isIn
  split at isIn
  · cases List.mem_singleton.mp isIn
    rfl
  · cases isIn

/-! ### Events of others -/

def Work.isHover : Work → Bool
  | .hovering _ _ _ => true
  | _ => false

/-- No edit waits for its time, and all work but that with the number `n` is hovers. -/
structure Alone (n : Nat) (s : Server) : Prop where
  timers : s.timers = []
  hovers : ∀ m j, m ≠ n → Keyed.get? m s.jobs = some j → j.work.isHover = true

/-- What a hover leaves alone: all but the shelf and itself. -/
structure Aside (m : Nat) (s : Server) (t : Turn) : Prop where
  phase : t.server.phase = s.phase
  documents : t.server.documents = s.documents
  linter : t.server.linter = s.linter
  timers : t.server.timers = s.timers
  others : ∀ k, k ≠ m → Keyed.get? k t.server.jobs = Keyed.get? k s.jobs
  itself : ∀ j, Keyed.get? m t.server.jobs = some j → j.work.isHover = true
  answers : ∀ d ∈ t.deeds, ∃ k reply, d = .answer k reply

section
variable {around : Surroundings} {m n : Nat} {s : Server}

theorem aside_quiet (hovers : ∀ j, Keyed.get? m s.jobs = some j → j.work.isHover = true) : Aside m s (.quiet s) :=
  ⟨rfl, rfl, rfl, rfl, fun _ _ => rfl, hovers, fun _ isIn => (List.not_mem_nil isIn).elim⟩

private theorem aside_afterReading (isRequest : Bool) (d : Diagnostic) (anchor : String) (r : StyleGuide.Reader)
    (shelf : StyleGuide.Shelf) : Aside m s (afterReading m isRequest d anchor r { s with shelf := shelf }) := by
  unfold afterReading
  split
  · rename_i text _
    have others := (part_conclude m isRequest (.ok (hoverJson d text)) { s with shelf := shelf }).jobs
    have own := Keyed.get?_erase m m s.jobs
    rw [if_pos rfl] at own
    refine ⟨rfl, rfl, rfl, rfl, others, ?_, ?_⟩
    · intro j found
      cases own.symm.trans found
    · intro d isIn
      cases isRequest with
      | false => cases isIn
      | true => exact ⟨_, _, List.mem_singleton.mp isIn⟩
  · have others := (part_keep (n := m) ⟨isRequest, .hovering d anchor r⟩ { s with shelf := shelf }).jobs
    have own := Keyed.get?_put m m (⟨isRequest, .hovering d anchor r⟩ : Job) s.jobs
    rw [if_pos rfl] at own
    refine ⟨rfl, rfl, rfl, rfl, others, ?_, fun _ isIn => (List.not_mem_nil isIn).elim⟩
    intro j found
    cases own.symm.trans found
    rfl

private theorem aside_jobStep (signal : Signal) {j : Job} (found : Keyed.get? m s.jobs = some j)
    (isHover : j.work.isHover = true) : Aside m s (j.step around m signal s) := by
  obtain ⟨isRequest, work⟩ := j
  cases work with
  | hovering d anchor r =>
    cases signal with
    | arrived => exact aside_afterReading isRequest d anchor _ _
    | _ => exact aside_quiet fun j found' => Option.some.inj (found.symm.trans found') ▸ rfl
  | _ => cases isHover

/-- Any other event than a message or a signal for the work `n` is a step of a hover, or nothing at all. -/
theorem Alone.aside (alone : Alone n s) (around : Surroundings) {e : Event} (noMessage : ∀ msg, e ≠ .message msg)
    (unsignalled : ∀ signal, e ≠ .signal n signal) : ∃ m, m ≠ n ∧ Aside m s (s.step around e) := by
  have quiet : ∃ m, m ≠ n ∧ Aside m s (.quiet s) :=
    ⟨n + 1, Nat.succ_ne_self n, aside_quiet fun j => alone.hovers (n + 1) j (Nat.succ_ne_self n)⟩
  cases e with
  | message msg => exact absurd rfl (noMessage msg)
  | signal m signal =>
    have other : m ≠ n := by
      rintro rfl
      exact unsignalled signal rfl
    simp only [step]
    cases found : Keyed.get? m s.jobs with
    | none => exact quiet
    | some j => exact ⟨m, other, aside_jobStep signal found (alone.hovers m j other found)⟩
  | elapse m =>
    have untimed : Keyed.get? m s.timers = none := by rw [alone.timers]; rfl
    simp only [step, elapse, untimed]
    exact quiet

theorem Alone.of_aside (alone : Alone n s) {t : Turn} (aside : Aside m s t) : Alone n t.server where
  timers := aside.timers.trans alone.timers
  hovers k j away found := by
    by_cases own : k = m
    · exact aside.itself j (own ▸ found)
    · exact alone.hovers k j away ((aside.others k own).symm.trans found)

theorem Alone.of_part (alone : Alone n s) {t : Turn} (part : Part n s t) : Alone n t.server where
  timers := part.timers.trans alone.timers
  hovers k j away found := alone.hovers k j away ((part.jobs k away).symm.trans found)

end

/-! ### The work -/

/-- Work that lints documents as they are, in a world that stays as it is. -/
structure Relint where
  world : World
  /-- The linter when the work begins. -/
  linter : Linter
  documents : Documents
  number : Nat

namespace Relint

variable (r : Relint)

def dirs : Path → Prop := r.documents.dirs r.linter

/-- What is to be published for a document. -/
def worth (u : Url) : List (Url × List Diagnostic × Option Int) :=
  ((r.documents.buffer? u).bind (r.world.finding r.linter)).toList.map fun shown => (u, shown, none)

/-- The lint of a document. -/
def lintOf (u : Url) : List (Url × Option Int × Buffer) := (r.documents.buffer? u).toList.map fun b => (u, none, b)

/-- Another lint may begin. -/
structure Ready (s : Server) : Prop where
  speaks : s.phase.speaks = true
  same : r.documents.Same s.documents
  agrees : r.world.Agrees r.linter r.dirs s.linter

/-- How far the work has come that lints the documents `urls`: what its deeds have begun to lint and published, and
how many programs may have to end before it is over. -/
inductive Stands (urls : List Url) (most : Nat) (deeds : List Deed) (s : Server) : Prop
  | done (isOver : Keyed.get? r.number s.jobs = none) (agrees : r.world.Agrees r.linter r.dirs s.linter)
      (published : publications deeds = urls.flatMap r.worth) (begun : lintsIn deeds = urls.flatMap r.lintOf)
  | underway (done : List Url) (u : Url) (later : List Url) (b : Buffer) (a : Analysis) (x : Manner × Request)
      (speaks : s.phase.speaks = true) (same : r.documents.Same s.documents) (parts : urls = done ++ u :: later)
      (stored : r.documents.buffer? u = some b)
      (found : Keyed.get? r.number s.jobs = some ⟨false, .linting u none a later⟩)
      (awaits : r.world.Awaits r.linter r.dirs (r.world.finding r.linter b) s.linter a x)
      (started : lastStart? deeds = some x) (published : publications deeds = done.flatMap r.worth)
      (begun : lintsIn deeds = (done ++ [u]).flatMap r.lintOf) (few : 2 * later.length + remaining a ≤ most)

section
variable {r : Relint} {urls : List Url} {most few : Nat} {deeds : List Deed} {s : Server} {around : Surroundings}

theorem Stands.mono (stands : r.Stands urls few deeds s) (le : few ≤ most) : r.Stands urls most deeds s := by
  cases stands with
  | done isOver agrees published begun => exact .done isOver agrees published begun
  | underway done u later b a x speaks same parts stored found awaits started published begun few =>
    exact .underway done u later b a x speaks same parts stored found awaits started published begun
      (Nat.le_trans few le)

private theorem publications_present (speaks : s.phase.speaks = true) {u : Url} (isOpen : s.documents.isOpen u = true)
    (found : Option (List Diagnostic)) :
    publications (present u none found s).deeds = found.toList.map fun shown => (u, shown, none) := by
  cases found with
  | none => rfl
  | some shown =>
    have isOpen : (s.documents.find? u).isSome = true := isOpen
    simp [present, isOpen, announce, speaks, publications, Deed.publication?]

private theorem Ready.present (ready : r.Ready s) (u : Url) (version : Option Int) (found : Option (List Diagnostic)) :
    r.Ready (present u version found s).server := by
  unfold Server.present
  split
  · exact ready
  · split
    · exact ⟨ready.speaks, ready.same.trans (Documents.same_showing _ _ _), ready.agrees⟩
    · exact ready

private theorem lintsIn_present (u : Url) (version : Option Int) (found : Option (List Diagnostic)) (s : Server) :
    lintsIn (Server.present u version found s).deeds = [] := by
  unfold Server.present
  split
  · rfl
  · split
    · simp only [announce]
      split <;> rfl
    · rfl

theorem stands_afterLint {done : List Url} {u : Url} {later : List Url} {b : Buffer} {p : Progress Analysis}
    {goOn : Server → Turn} {rest : Nat} (speaks : s.phase.speaks = true) (same : r.documents.Same s.documents)
    (parts : urls = done ++ u :: later) (stored : r.documents.buffer? u = some b)
    (proceeds : r.world.Proceeds r.linter r.dirs (r.world.finding r.linter b) rest p)
    (published : publications deeds = done.flatMap r.worth) (begun : lintsIn deeds = (done ++ [u]).flatMap r.lintOf)
    (goesOn : ∀ s' deeds', r.Ready s' → publications deeds' = (done ++ [u]).flatMap r.worth →
      lintsIn deeds' = (done ++ [u]).flatMap r.lintOf →
      r.Stands urls (2 * later.length) (deeds' ++ (goOn s').deeds) (goOn s').server) :
    let t := afterLint r.number false u none later goOn p s
    r.Stands urls (2 * later.length + rest) (deeds ++ t.deeds) t.server := by
  intro t
  cases proceeds with
  | finished l notices agrees =>
    have ready : r.Ready { s with linter := l } := ⟨speaks, same, agrees⟩
    have isOpen : s.documents.isOpen u = true := by
      rw [same.isOpen_eq]
      exact Documents.isOpen_of_buffer? stored
    let told := perform (notices.map .notify) { s with linter := l }
    let shown := present u none (r.world.finding r.linter b) told.server
    have whole : deeds ++ t.deeds = (deeds ++ told.deeds ++ shown.deeds) ++ (goOn shown.server).deeds := by
      simp only [List.append_assoc]
      rfl
    have worth : publications shown.deeds = r.worth u := by
      rw [publications_present (s := told.server) speaks isOpen, worth, stored]
      rfl
    rw [whole]
    refine (goesOn shown.server _ (ready.present u none _) ?_ ?_).mono (Nat.le_add_right _ _)
    · rw [publications_append, publications_append, publications_notify, worth, published, List.flatMap_append]
      simp
    · rw [lintsIn_append, lintsIn_append, lintsIn_perform, lintsIn_present, begun]
      simp
  | waits l a m req awaits few =>
    have kept : t = ⟨{ s with
        linter := l
        jobs := Keyed.put r.number ⟨false, .linting u none a later⟩ s.jobs }, [.start m req]⟩ := by
      cases awaits <;> rfl
    have found : Keyed.get? r.number t.server.jobs = some ⟨false, .linting u none a later⟩ := by
      rw [kept, Keyed.get?_put, if_pos rfl]
    rw [kept] at found ⊢
    refine .underway done u later b a (m, req) speaks same parts stored found awaits (lastStart?_snoc _ _ _) ?_ ?_
      (Nat.add_le_add_left few _)
    · rw [publications_append, published]
      exact List.append_nil _
    · rw [lintsIn_append, begun]
      exact List.append_nil _

theorem stands_lintAll (alike : r.world.Alike r.linter.bundles r.dirs) (shows : r.world.Shows around)
    {done later : List Url} (ready : r.Ready s) (parts : urls = done ++ later)
    (published : publications deeds = done.flatMap r.worth) (begun : lintsIn deeds = done.flatMap r.lintOf) :
    let t := lintAll around r.number false later s
    r.Stands urls (2 * later.length) (deeds ++ t.deeds) t.server := by
  intro t
  induction later generalizing done deeds s with
  | nil =>
    have erased := Keyed.get?_erase r.number r.number s.jobs
    rw [if_pos rfl] at erased
    rw [List.append_nil] at parts
    have quiet : deeds ++ t.deeds = deeds := List.append_nil _
    rw [quiet, parts]
    exact .done erased ready.agrees published begun
  | cons u later ih =>
    have parts' : urls = (done ++ [u]) ++ later := by rw [parts, List.append_assoc]; rfl
    cases stored : r.documents.buffer? u with
    | none =>
      have unstored : s.documents.buffer? u = none := by rw [ready.same.buffer?_eq, stored]
      have skipped : t = lintAll around r.number false later s := by
        simp only [t, lintAll, unstored]
      have worthless : (done ++ [u]).flatMap r.worth = done.flatMap r.worth := by
        simp [worth, stored]
      have unlinted : (done ++ [u]).flatMap r.lintOf = done.flatMap r.lintOf := by
        simp [lintOf, stored]
      rw [skipped]
      refine (ih ready parts' (worthless ▸ published) (unlinted ▸ begun)).mono ?_
      rw [List.length_cons]
      omega
    | some b =>
      have isBuffer : s.documents.buffer? u = some b := by rw [ready.same.buffer?_eq, stored]
      obtain ⟨file, -, located, -⟩ := Documents.file_of_buffer? stored
      have proceeds := World.proceeds_start ready.agrees alike shows located ⟨u, b, file, stored, located, rfl⟩
      have begins : t = (afterLint r.number false u none later (lintAll around r.number false later)
          (Analysis.start around b s.linter) s).after (.lint u none b) := by
        simp only [t, lintAll, isBuffer, lint]
      have whole (t' : Turn) :
          deeds ++ (t'.after (.lint u none b)).deeds = (deeds ++ [.lint u none b]) ++ t'.deeds := by
        rw [List.append_assoc]
        rfl
      have programs : 2 * (u :: later).length = 2 * later.length + 2 := by rw [List.length_cons]; omega
      rw [begins, whole, programs]
      refine stands_afterLint ready.speaks ready.same parts stored proceeds ?_ ?_ ?_
      · rw [publications_append, published]
        exact List.append_nil _
      · rw [lintsIn_append, begun, List.flatMap_append]
        simp [lintOf, stored, lintsIn, Deed.lint?]
      · exact fun s' deeds' ready' published' begun' => ih ready' parts' published' begun'

theorem stands_opening (alike : r.world.Alike r.linter.bundles r.dirs) (shows : r.world.Shows around)
    (ready : r.Ready s) (urls : List Url) :
    let t := lintAll around r.number false urls s
    r.Stands urls (2 * urls.length) t.deeds t.server := by
  have published : publications [] = ([] : List Url).flatMap r.worth := rfl
  have begun : lintsIn [] = ([] : List Url).flatMap r.lintOf := rfl
  exact stands_lintAll alike shows ready (List.nil_append urls).symm published begun

/-! ### Events -/

theorem Stands.signalled (alike : r.world.Alike r.linter.bundles r.dirs) (shows : r.world.Shows around)
    (stands : r.Stands urls (most + 1) deeds s) {x : Manner × Request} (started : lastStart? deeds = some x) :
    let t := s.step around (.signal r.number (r.world.signal x))
    r.Stands urls most (deeds ++ t.deeds) t.server := by
  intro t
  cases stands with
  | done isOver agrees published begun =>
    have quiet : t = .quiet s := by simp only [t, step, isOver]
    have same : deeds ++ t.deeds = deeds := by rw [quiet]; exact List.append_nil _
    rw [same, quiet]
    exact .done isOver agrees published begun
  | underway done u later b a x' speaks same parts stored found awaits started' published begun few =>
    cases started.symm.trans started'
    have goesOn : t = afterLint r.number false u none later (lintAll around r.number false later)
        (a.step around (r.world.signal x) s.linter) s := by
      simp only [t, step, found, Job.step]
    have parts' : urls = (done ++ [u]) ++ later := by rw [parts, List.append_assoc]; rfl
    have some : 0 < remaining a := by cases awaits <;> exact Nat.succ_pos _
    rw [goesOn]
    refine (stands_afterLint speaks same parts stored (World.proceeds_step awaits shows) published begun ?_).mono ?_
    · exact fun s' deeds' ready' published' begun' => stands_lintAll alike shows ready' parts' published' begun'
    · omega

theorem Stands.of_aside (stands : r.Stands urls most deeds s) {m : Nat} (other : m ≠ r.number) {t : Turn}
    (aside : Aside m s t) : r.Stands urls most (deeds ++ t.deeds) t.server := by
  have silent : publications t.deeds = [] ∧ lintsIn t.deeds = [] ∧ t.deeds.filterMap Deed.start? = [] := by
    simp only [publications, lintsIn, List.filterMap_eq_nil_iff]
    refine ⟨fun d isIn => ?_, fun d isIn => ?_, fun d isIn => ?_⟩
    all_goals
      obtain ⟨k, reply, rfl⟩ := aside.answers d isIn
      rfl
  obtain ⟨unpublished, unlinted, unstarted⟩ := silent
  have published : publications (deeds ++ t.deeds) = publications deeds := by
    rw [publications_append, unpublished, List.append_nil]
  have begun : lintsIn (deeds ++ t.deeds) = lintsIn deeds := by rw [lintsIn_append, unlinted, List.append_nil]
  have job := aside.others r.number (Ne.symm other)
  cases stands with
  | done isOver agrees published' begun' =>
    exact .done (job.trans isOver) (aside.linter ▸ agrees) (published.trans published') (begun.trans begun')
  | underway done u later b a x speaks same parts stored found awaits started published' begun' few =>
    exact .underway done u later b a x (aside.phase ▸ speaks) (aside.documents ▸ same) parts stored (job.trans found)
      (aside.linter ▸ awaits) ((lastStart?_append_of_none unstarted).trans started) (published.trans published')
      (begun.trans begun') few

end
end Relint

/-! ### Histories -/

/-- No message comes, and the work `n` hears of the program that has been started last what the world makes of it;
`deeds` is what has been done before. -/
def Follows (w : World) (n : Nat) : List Deed → Server → History → Prop
  | _, _, [] => True
  | deeds, s, (around, e) :: rest =>
    w.Shows around ∧ (∀ m, e ≠ .message m) ∧
      (∀ signal, e = .signal n signal → ∃ x, lastStart? deeds = some x ∧ signal = w.signal x) ∧
      Follows w n (deeds ++ (s.step around e).deeds) (s.step around e).server rest

def deedsIn (s : Server) (history : History) : List Deed := (s.done history).map Prod.snd

section
variable {w : World} {n : Nat} {deeds : List Deed} {s : Server} {around : Surroundings}

theorem deedsIn_cons (s : Server) (around : Surroundings) (e : Event) (rest : History) :
    s.deedsIn ((around, e) :: rest) = (s.step around e).deeds ++ (s.step around e).server.deedsIn rest := by
  rw [deedsIn, done, doneAt, List.map_append, List.map_map]
  congr 1
  exact List.map_id _

theorem follows_append (front back : History) : Follows w n deeds s (front ++ back) ↔
    Follows w n deeds s front ∧ Follows w n (deeds ++ s.deedsIn front) (s.after front) back := by
  induction front generalizing deeds s with
  | nil =>
    have nothing : deeds ++ s.deedsIn [] = deeds := List.append_nil _
    rw [nothing]
    exact (iff_of_eq (true_and _)).symm
  | cons moment rest ih =>
    obtain ⟨around, e⟩ := moment
    rw [List.cons_append, Follows, ih, Follows, deedsIn_cons, after_cons, List.append_assoc]
    simp only [and_assoc]

namespace Relint

variable {r : Relint} {urls : List Url} {most : Nat}

theorem Stands.step (stands : r.Stands urls most deeds s) (alone : Alone r.number s)
    (alike : r.world.Alike r.linter.bundles r.dirs) (shows : r.world.Shows around) {e : Event}
    (noMessage : ∀ m, e ≠ .message m)
    (truth : ∀ signal, e = .signal r.number signal → ∃ x, lastStart? deeds = some x ∧ signal = r.world.signal x) :
    r.Stands urls most (deeds ++ (s.step around e).deeds) (s.step around e).server ∧
      Alone r.number (s.step around e).server := by
  by_cases signalled : ∃ signal, e = .signal r.number signal
  · obtain ⟨signal, rfl⟩ := signalled
    obtain ⟨x, started, rfl⟩ := truth signal rfl
    have part : Part r.number s (s.step around (.signal r.number (r.world.signal x))) :=
      part_step around (s := s) (e := .signal r.number (r.world.signal x)) (by simp [demand?])
    exact ⟨(stands.mono (Nat.le_succ most)).signalled alike shows started, alone.of_part part⟩
  · obtain ⟨m, other, aside⟩ := alone.aside around noMessage fun signal same => signalled ⟨signal, same⟩
    exact ⟨stands.of_aside other aside, alone.of_aside aside⟩

theorem Stands.after (stands : r.Stands urls most deeds s) (alone : Alone r.number s)
    (alike : r.world.Alike r.linter.bundles r.dirs) {since : History}
    (follows : Follows r.world r.number deeds s since) :
    r.Stands urls most (deeds ++ s.deedsIn since) (s.after since) ∧ Alone r.number (s.after since) := by
  induction since generalizing deeds s with
  | nil =>
    have nothing : deeds ++ s.deedsIn [] = deeds := List.append_nil _
    rw [nothing]
    exact ⟨stands, alone⟩
  | cons moment rest ih =>
    obtain ⟨around, e⟩ := moment
    obtain ⟨shows, noMessage, truth, later⟩ := follows
    obtain ⟨stands', alone'⟩ := stands.step alone alike shows noMessage truth
    rw [deedsIn_cons, after_cons, ← List.append_assoc]
    exact ih stands' alone' later

/-- The work can always be brought to its end. -/
theorem Stands.exists_end (stands : r.Stands urls most deeds s)
    (alike : r.world.Alike r.linter.bundles r.dirs) (shows : r.world.Shows around) :
    ∃ more, Follows r.world r.number deeds s more ∧ Keyed.get? r.number (s.after more).jobs = none := by
  -- The world says how the program ends that has been started last, and after that one less may have to end.
  induction most generalizing deeds s with
  | zero =>
    cases stands with
    | done isOver agrees published begun => exact ⟨[], trivial, isOver⟩
    | underway done u later b a x speaks same parts stored found awaits started published begun few =>
      have some : 0 < remaining a := by cases awaits <;> exact Nat.succ_pos _
      omega
  | succ most ih =>
    have goesOn : ∀ x, lastStart? deeds = some x →
        ∃ more, Follows r.world r.number deeds s more ∧ Keyed.get? r.number (s.after more).jobs = none := by
      intro x started
      obtain ⟨more, follows, isOver⟩ := ih (stands.signalled alike shows started)
      refine ⟨(around, .signal r.number (r.world.signal x)) :: more, ⟨shows, by simp, ?_, follows⟩, isOver⟩
      intro signal same
      cases same
      exact ⟨x, started, rfl⟩
    cases stands with
    | done isOver agrees published begun => exact ⟨[], trivial, isOver⟩
    | underway done u later b a x speaks same parts stored found awaits started => exact goesOn x started

theorem Stands.config (stands : r.Stands urls most deeds s) : s.linter.config = r.linter.config := by
  cases stands with
  | done isOver agrees => exact agrees.config
  | underway done u later b a x speaks same parts stored found awaits =>
    cases awaits with
    | probing p k req agrees => exact agrees.config
    | running file t req agrees => exact agrees.config

end Relint
end
end Server
end LintBridge

import LintBridge.Proofs.Server.Turns

/-!
The server over a whole history of events.

`demands` is what the messages of a history have asked for, under the numbers that the messages were given, and
`done` is what has been done, under the numbers of the work that has done it. `Tracks` is what every history
keeps: the numbers so far have been given, and the marks of the open documents tell of the messages so far.
-/

set_option autoImplicit false
set_option relaxedAutoImplicit false

namespace LintBridge.Server

/-- What happens to a server, each time with what there is around it. -/
abbrev History := List (Surroundings × Event)

def after (s : Server) (history : History) : Server := (s.run history).1

def asks (s : Server) (e : Event) : List (Nat × Demand) := (s.demand? e).toList.map (s.worker e, ·)

/-- What has been asked for in a history. -/
def demands : Server → History → List (Nat × Demand)
  | _, [] => []
  | s, (around, e) :: rest => s.asks e ++ (s.step around e).server.demands rest

/-- What is done at an event, under the number of the work. -/
def doneAt (s : Server) (around : Surroundings) (e : Event) : List (Nat × Deed) :=
  (s.step around e).deeds.map (s.worker e, ·)

/-- What has been done in a history. -/
def done : Server → History → List (Nat × Deed)
  | _, [] => []
  | s, (around, e) :: rest => s.doneAt around e ++ (s.step around e).server.done rest

/-- What has been asked for after the message with a number. -/
def since (n : Nat) (asked : List (Nat × Demand)) : List Demand :=
  (asked.filter fun p => n < p.1).map Prod.snd

section
variable {s : Server} {asked : List (Nat × Demand)} {u : Url}

theorem after_cons (s : Server) (around : Surroundings) (e : Event) (rest : History) :
    s.after ((around, e) :: rest) = (s.step around e).server.after rest := rfl

theorem since_append (n : Nat) (first second : List (Nat × Demand)) :
    since n (first ++ second) = since n first ++ since n second := by
  rw [since, List.filter_append, List.map_append]
  rfl

theorem demands_append (front back : History) :
    s.demands (front ++ back) = s.demands front ++ (s.after front).demands back := by
  induction front generalizing s with
  | nil => rfl
  | cons moment rest ih =>
    obtain ⟨around, e⟩ := moment
    rw [List.cons_append, demands, demands, ih, after_cons, List.append_assoc]

theorem done_append (front back : History) :
    s.done (front ++ back) = s.done front ++ (s.after front).done back := by
  induction front generalizing s with
  | nil => rfl
  | cons moment rest ih =>
    obtain ⟨around, e⟩ := moment
    rw [List.cons_append, done, done, ih, after_cons, List.append_assoc]

theorem after_append (front back : History) : s.after (front ++ back) = (s.after front).after back := by
  induction front generalizing s with
  | nil => rfl
  | cons moment rest ih =>
    obtain ⟨around, e⟩ := moment
    exact ih

theorem keeps_after {P : List (Nat × Demand) → List (Nat × Deed) → Server → Prop}
    (keeps : ∀ {asked done s}, P asked done s → ∀ around e,
      P (asked ++ s.asks e) (done ++ s.doneAt around e) (s.step around e).server)
    (history : History) (done : List (Nat × Deed)) (holds : P asked done s) :
    P (asked ++ s.demands history) (done ++ s.done history) (s.after history) := by
  induction history generalizing s asked done with
  | nil =>
    rw [demands, Server.done, List.append_nil, List.append_nil]
    exact holds
  | cons moment rest ih =>
    obtain ⟨around, e⟩ := moment
    have later := ih _ (keeps holds around e)
    rwa [List.append_assoc, List.append_assoc] at later

theorem stays_after {P : Server → Prop}
    (stays : ∀ {s}, P s → ∀ around e, P (s.step around e).server) (history : History) (holds : P s) :
    P (s.after history) := by
  induction history generalizing s with
  | nil => exact holds
  | cons moment rest ih =>
    obtain ⟨around, e⟩ := moment
    exact ih (stays holds around e)

private theorem mayLint_any (around : Surroundings) (all : List Deed) (u : Url) (b : Buffer) :
    MayLint around all (fun _ => True) (fun _ => True) u b :=
  fun _ => ⟨trivial, fun _ => trivial, fun _ _ _ => ⟨fun _ _ _ => trivial, fun _ => trivial⟩⟩

private theorem mayFix_any (around : Surroundings) (all : List Deed) (u : Url) (b : Buffer) :
    MayFix around all (fun _ => True) (fun _ => True) u b :=
  fun _ => ⟨trivial, fun _ _ => ⟨fun _ _ _ => trivial, fun _ => trivial⟩⟩

theorem frame_step (around : Surroundings) (s : Server) (e : Event) :
    Moves (fun _ => True) (fun _ => True) s e (s.step around e) := by
  refine moves_step around s e _ _ (fun _ _ _ => trivial) ?_ ?_ (fun _ _ => trivial) ?_
  · exact fun _ u b _ => mayLint_any _ _ u b
  · exact fun _ u _ _ => ⟨fun b _ => mayFix_any _ _ u b, fun _ _ _ _ => trivial⟩
  · intro n signal j _ _
    cases j.work with
    | linting v version a later =>
      exact ⟨fun _ => ⟨fun _ _ _ => trivial, fun _ => trivial⟩, fun _ _ => trivial,
        fun u b _ => mayLint_any _ _ u b⟩
    | fixing v c =>
      exact fun _ => ⟨⟨fun _ _ _ => trivial, fun _ => trivial⟩, fun _ _ b _ => mayLint_any _ _ v _⟩
    | reading v path trigger => exact fun text => mayFix_any _ _ v (.saved path text)
    | hovering d anchor r => trivial

theorem mem_asks {e : Event} {n : Nat} {d : Demand} :
    (n, d) ∈ s.asks e ↔ s.demand? e = some d ∧ n = s.next := by
  cases asked : s.demand? e with
  | none => simp [asks, asked]
  | some d' =>
    have isMessage : s.worker e = s.next := by
      cases e with
      | message m => rfl
      | _ => cases asked
    simp [asks, asked, isMessage, eq_comm, and_comm]

theorem next_le_of_mem_demands {history : History} {n : Nat} {d : Demand} (isIn : (n, d) ∈ s.demands history) :
    s.next ≤ n := by
  induction history generalizing s with
  | nil => cases isIn
  | cons moment rest ih =>
    obtain ⟨around, e⟩ := moment
    rcases List.mem_append.mp isIn with isFirst | isLater
    · obtain ⟨-, rfl⟩ := mem_asks.mp isFirst
      exact Nat.le_refl _
    · exact Nat.le_trans (frame_step around s e).next.1 (ih isLater)

theorem mem_demands_append {front : History} {p : Nat × Demand} (isIn : p ∈ s.demands front) (back : History) :
    p ∈ s.demands (front ++ back) := by
  rw [demands_append]
  exact List.mem_append_left _ isIn

theorem pairwise_demands (s : Server) (history : History) : (s.demands history).Pairwise fun p q => p.1 < q.1 := by
  induction history generalizing s with
  | nil => exact .nil
  | cons moment rest ih =>
    obtain ⟨around, e⟩ := moment
    refine List.pairwise_append.mpr ⟨?_, ih _, ?_⟩
    · rw [asks]
      cases s.demand? e with
      | none => exact .nil
      | some d => exact List.pairwise_singleton _ _
    · rintro ⟨n, d⟩ isFirst ⟨m, d'⟩ isLater
      obtain ⟨asked, rfl⟩ := mem_asks.mp isFirst
      exact Nat.lt_of_lt_of_le ((frame_step around s e).next.2 d asked) (next_le_of_mem_demands isLater)

theorem exists_of_mem_demands {history : History} {n : Nat} {d : Demand} (isIn : (n, d) ∈ s.demands history) :
    ∃ front around e back, history = front ++ (around, e) :: back ∧ (s.after front).demand? e = some d ∧
      n = (s.after front).next := by
  induction history generalizing s with
  | nil => cases isIn
  | cons moment rest ih =>
    obtain ⟨around, e⟩ := moment
    rcases List.mem_append.mp isIn with isFirst | isLater
    · obtain ⟨asked, number⟩ := mem_asks.mp isFirst
      exact ⟨[], around, e, rest, rfl, asked, number⟩
    · obtain ⟨front, around', e', back, rfl, asked, number⟩ := ih isLater
      exact ⟨(around, e) :: front, around', e', back, rfl, asked, number⟩

theorem exists_of_mem_done {history : History} {n : Nat} {d : Deed} (isIn : (n, d) ∈ s.done history) :
    ∃ front around e back, history = front ++ (around, e) :: back ∧ n = (s.after front).worker e ∧
      d ∈ ((s.after front).step around e).deeds := by
  induction history generalizing s with
  | nil => cases isIn
  | cons moment rest ih =>
    obtain ⟨around, e⟩ := moment
    rcases List.mem_append.mp isIn with isFirst | isLater
    · obtain ⟨d', isDeed, eq⟩ := List.mem_map.mp isFirst
      cases eq
      exact ⟨[], around, e, rest, rfl, rfl, isDeed⟩
    · obtain ⟨front, around', e', back, rfl, number, isDeed⟩ := ih isLater
      exact ⟨(around, e) :: front, around', e', back, rfl, number, isDeed⟩

/-- What an event asks for decides the marks. -/
theorem isModified_step (around : Surroundings) (s : Server) (e : Event) (u : Url) :
    (s.step around e).server.documents.isModified u =
      ((s.asks e).map Prod.snd).foldl (Demand.marks u) (s.documents.isModified u) := by
  rw [(frame_step around s e).same.isModified_eq, amended, asks]
  cases asked : s.demand? e with
  | none => rfl
  | some d => exact isModified_amend d u s.documents

/-- The numbers and the marks agree with what has been asked for. -/
structure Tracks (asked : List (Nat × Demand)) (s : Server) : Prop where
  numbered : ∀ n d, (n, d) ∈ asked → n < s.next
  marked : ∀ u, s.documents.isModified u = hasEdits u (asked.map Prod.snd)

theorem Tracks.step (tracks : Tracks asked s) (around : Surroundings) (e : Event) :
    Tracks (asked ++ s.asks e) (s.step around e).server where
  numbered := by
    intro n d isIn
    have frame := (frame_step around s e).next
    rcases List.mem_append.mp isIn with isIn | isIn
    · exact Nat.lt_of_lt_of_le (tracks.numbered n d isIn) frame.1
    · obtain ⟨isAsked, rfl⟩ := mem_asks.mp isIn
      exact frame.2 d isAsked
  marked := by
    intro u
    rw [isModified_step, tracks.marked, List.map_append, hasEdits, hasEdits, List.foldl_append]

theorem tracks_fresh : Tracks [] fresh where
  numbered n d isIn := by cases isIn
  marked u := rfl

theorem since_next {front back : History} {around : Surroundings} {e : Event} {d : Demand}
    (asked : (fresh.after front).demand? e = some d) :
    since (fresh.after front).next (fresh.demands (front ++ (around, e) :: back)) =
      (((fresh.after front).step around e).server.demands back).map Prod.snd := by
  let now := fresh.after front
  have tracks : Tracks (fresh.demands front) now :=
    keeps_after (P := fun asked _ s => Tracks asked s) (fun tracks around e => tracks.step around e) front []
      tracks_fresh
  have earlier : since now.next (fresh.demands front) = [] := by
    rw [since, List.map_eq_nil_iff, List.filter_eq_nil_iff]
    rintro ⟨m, d'⟩ isIn
    have below := tracks.numbered m d' isIn
    simp only [decide_eq_true_eq, Nat.not_lt]
    exact Nat.le_of_lt below
  have itself : since now.next (now.asks e) = [] := by
    rw [since, List.map_eq_nil_iff, List.filter_eq_nil_iff]
    rintro ⟨m, d'⟩ isIn
    obtain ⟨-, rfl⟩ := mem_asks.mp isIn
    simp
  have later : since now.next ((now.step around e).server.demands back) =
      ((now.step around e).server.demands back).map Prod.snd := by
    rw [since, List.filter_eq_self.mpr]
    rintro ⟨m, d'⟩ isIn
    have given : now.next < (now.step around e).server.next := (frame_step around now e).next.2 d asked
    exact decide_eq_true (Nat.lt_of_lt_of_le given (next_le_of_mem_demands isIn))
  rw [demands_append, demands, since_append, since_append, earlier, itself, later]
  rfl

/-- Whatever is asked for after a message decides what has become of a document since. -/
theorem hasEdits_since_step {n : Nat} (isOld : n < s.next)
    (since : s.documents.isModified u = hasEdits u (since n asked)) (around : Surroundings) (e : Event) :
    (s.step around e).server.documents.isModified u = hasEdits u (Server.since n (asked ++ s.asks e)) := by
  have later : Server.since n (s.asks e) = (s.asks e).map Prod.snd := by
    rw [Server.since, List.filter_eq_self.mpr]
    rintro ⟨m, d⟩ isIn
    obtain ⟨-, rfl⟩ := mem_asks.mp isIn
    exact decide_eq_true isOld
  rw [isModified_step, since, since_append, later, hasEdits, hasEdits, List.foldl_append]

end
end LintBridge.Server

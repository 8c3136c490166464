import LintBridge.Proofs.StyleGuide.Steps

/-!
Readers at a shelf, step by step and in any order.

A scene is a shelf with its readers, and beside it what a reference would keep: the one document that has been
stored last, with the moment at which that was done. `Sound` ties the shelf to the reference: nobody fetches
before the document has had its time, and every text on the shelf is out of date or the document's own.
-/

set_option autoImplicit false
set_option relaxedAutoImplicit false

namespace LintBridge

namespace StyleGuide

/-- What may happen at a shelf: a reader comes, under a number that nobody has had, or takes a step. -/
inductive Occasion
  | arrival (number : Nat) (anchor : String)
  | act (number now : Nat) (fetched : Option Fetched)

/-- A shelf with its readers, the edition that was stored last, and the moment of the last step. -/
structure Scene where
  readers : Readers
  edition : Option Edition
  clock : Nat

namespace Scene

def opening (url : String) (lifetime : Nat) : Scene := ⟨.ofShelf ⟨url, lifetime, [], none, false⟩, none, 0⟩

def shelf (s : Scene) : Shelf := s.readers.shelf

def reader? (s : Scene) (n : Nat) : Option (String × Reader) := Keyed.get? n s.readers.all

def stored? (s : Scene) (n now : Nat) : Option Edition := (s.reader? n).bind fun p => p.2.edition? now

/-- What happens next, if it can. No clock goes back, and no number is given twice. -/
def meet (s : Scene) : Occasion → Option Scene
  | .arrival n anchor =>
    if (s.reader? n).isNone then some { s with readers := s.readers.enter n anchor } else none
  | .act n now fetched =>
    if s.clock ≤ now then
      (s.readers.step n now fetched).map fun r => ⟨r, (s.stored? n now).or s.edition, now⟩
    else none

/-- Everything that happens, one thing after the other. -/
def play : Scene → List Occasion → Option Scene
  | s, [] => some s
  | s, o :: rest => (s.meet o).bind fun s => s.play rest

theorem play_append (s : Scene) (front back : List Occasion) :
    s.play (front ++ back) = (s.play front).bind fun s => s.play back := by
  induction front generalizing s with
  | nil => rfl
  | cons o rest ih =>
    rw [List.cons_append, play, play]
    cases s.meet o with
    | none => rfl
    | some s => exact ih s

theorem play_preserves (holds : List Occasion → Scene → Prop) {all : List Occasion} {s s' : Scene}
    (step : ∀ {passed : List Occasion} {o : Occasion} {s s' : Scene}, o ∈ all → holds passed s →
      s.meet o = some s' → holds (passed ++ [o]) s')
    (begins : holds [] s) (played : s.play all = some s') : holds all s' := by
  -- The induction is on what is still to come, whatever has passed.
  have run : ∀ rest passed s, (∀ o ∈ rest, o ∈ all) → holds passed s → s.play rest = some s' →
      holds (passed ++ rest) s' := by
    intro rest
    induction rest with
    | nil =>
      intro passed s _ sofar played
      cases played
      rwa [List.append_nil]
    | cons o rest ih =>
      intro passed s isIn sofar played
      obtain ⟨mid, met, played⟩ := Option.bind_eq_some_iff.mp played
      have next := step (isIn o List.mem_cons_self) sofar met
      have := ih _ mid (fun p isLater => isIn p (List.mem_cons_of_mem _ isLater)) next played
      rwa [List.append_assoc] at this
  exact run all [] s (fun _ isIn => isIn) begins played

structure Arrives (s s' : Scene) (n : Nat) (anchor : String) : Prop where
  unknown : s.reader? n = none
  shelf : s'.shelf = s.shelf
  readers : ∀ m, s'.reader? m = if n = m then some (anchor, .fresh) else s.reader? m
  edition : s'.edition = s.edition
  clock : s'.clock = s.clock

theorem arrives_of_meet {s s' : Scene} {n : Nat} {anchor : String}
    (met : s.meet (.arrival n anchor) = some s') : Arrives s s' n anchor := by
  simp only [meet] at met
  split at met
  · rename_i unknown
    cases met
    exact
      { unknown := Option.isNone_iff_eq_none.mp unknown
        shelf := rfl
        readers := fun m => Keyed.get?_put n m _ _
        edition := rfl
        clock := rfl }
  · cases met

structure Acts (s s' : Scene) (n now : Nat) (fetched : Option Fetched) (anchor : String) (r r' : Reader) :
    Prop where
  was : s.reader? n = some (anchor, r)
  onTime : s.clock ≤ now
  steps : r.Steps anchor now fetched s.shelf r' s'.shelf
  readers : ∀ m, s'.reader? m = if n = m then some (anchor, r') else s.reader? m
  edition : s'.edition = (r.edition? now).or s.edition
  clock : s'.clock = now

theorem acts_of_meet {s s' : Scene} {n now : Nat} {fetched : Option Fetched}
    (met : s.meet (.act n now fetched) = some s') : ∃ anchor r r', Acts s s' n now fetched anchor r r' := by
  simp only [meet] at met
  split at met
  · rename_i onTime
    obtain ⟨rs, stepped, eq⟩ := Option.map_eq_some_iff.mp met
    unfold Readers.step at stepped
    split at stepped
    · cases stepped
    · rename_i anchor r was
      obtain ⟨⟨r', shelf⟩, done, eq'⟩ := Option.map_eq_some_iff.mp stepped
      subst eq'
      subst eq
      refine ⟨anchor, r, r', was, onTime, Reader.steps_of_step done, ?_, ?_, rfl⟩
      · exact fun m => Keyed.get?_put n m _ _
      · have known : s.reader? n = some (anchor, r) := was
        rw [stored?, known]
        rfl
  · cases met

theorem meet_act {s : Scene} {n now : Nat} {fetched : Option Fetched} {anchor : String} {r r' : Reader}
    {shelf : Shelf} (is : s.reader? n = some (anchor, r)) (onTime : s.clock ≤ now)
    (done : r.step anchor now fetched s.shelf = some (r', shelf)) :
    ∃ s', s.meet (.act n now fetched) = some s' ∧
      s'.readers = ⟨shelf, Keyed.put n (anchor, r') s.readers.all⟩ ∧ s'.clock = now := by
  have stepped : s.readers.step n now fetched = some ⟨shelf, Keyed.put n (anchor, r') s.readers.all⟩ := by
    have known : Keyed.get? n s.readers.all = some (anchor, r) := is
    have done : r.step anchor now fetched s.readers.shelf = some (r', shelf) := done
    simp [Readers.step, known, done]
  exact ⟨_, by rw [meet, if_pos onTime, stepped]; rfl, rfl, rfl⟩

/-- Whoever takes a step was there before, or else nothing has become of him. -/
theorem Acts.cases {s s' : Scene} {n now m : Nat} {fetched : Option Fetched} {anchor a : String}
    {r r' q : Reader} (acts : Acts s s' n now fetched anchor r r') (is : s'.reader? m = some (a, q)) :
    (m = n ∧ a = anchor ∧ q = r') ∨ m ≠ n ∧ s.reader? m = some (a, q) := by
  rw [acts.readers] at is
  split at is
  · rename_i same
    cases is
    exact .inl ⟨same.symm, rfl, rfl⟩
  · rename_i other
    exact .inr ⟨fun eq => other eq.symm, is⟩

theorem Acts.edition_of_idle {s s' : Scene} {n now : Nat} {fetched : Option Fetched} {anchor : String}
    {r r' : Reader} (acts : Acts s s' n now fetched anchor r r') (idle : ∀ document, r ≠ .storing document) :
    s'.edition = s.edition := by
  rw [acts.edition, Reader.edition?_eq_none idle, Option.none_or]

theorem clock_le_of_meet {s s' : Scene} {o : Occasion} (met : s.meet o = some s') : s.clock ≤ s'.clock := by
  cases o with
  | arrival n anchor => exact Nat.le_of_eq (arrives_of_meet met).clock.symm
  | act n now fetched =>
    obtain ⟨anchor, r, r', acts⟩ := acts_of_meet met
    exact acts.clock ▸ acts.onTime

theorem lifetime_of_meet {s s' : Scene} {o : Occasion} (met : s.meet o = some s') :
    s'.shelf.lifetime = s.shelf.lifetime := by
  cases o with
  | arrival n anchor => exact congrArg Shelf.lifetime (arrives_of_meet met).shelf
  | act n now fetched =>
    obtain ⟨anchor, r, r', acts⟩ := acts_of_meet met
    exact acts.steps.lifetime

theorem lifetime_of_play {s s' : Scene} {all : List Occasion} (played : s.play all = some s') :
    s'.shelf.lifetime = s.shelf.lifetime :=
  play_preserves (fun _ mid => mid.shelf.lifetime = s.shelf.lifetime)
    (fun _ same met => (lifetime_of_meet met).trans same) rfl played

theorem storing_of_stored? {s : Scene} {n now : Nat} {e : Edition} (stores : s.stored? n now = some e) :
    ∃ anchor document, s.reader? n = some (anchor, .storing document) ∧ e = ⟨document, now⟩ := by
  obtain ⟨⟨anchor, r⟩, is, edition⟩ := Option.bind_eq_some_iff.mp stores
  cases r with
  | storing document =>
    cases edition
    exact ⟨anchor, document, is, rfl⟩
  | _ => cases edition

/-! ### What always holds -/

/-- The lock has one holder at most, the shelf knows when the last edition was stored once its storing is done,
nobody fetches before the last edition has had its time, and all leaves are out of date or of the last edition. -/
structure Sound (s : Scene) : Prop where
  alone : ∀ {m n : Nat} {a b : String} {r q : Reader}, s.reader? m = some (a, r) → s.reader? n = some (b, q) →
    r.holds = true → q.holds = true → m = n
  locked : ∀ {n : Nat} {a : String} {r : Reader}, s.reader? n = some (a, r) → r.holds = true →
    s.shelf.locked = true
  stamping : ∀ {n : Nat} {a : String} {t : Nat}, s.reader? n = some (a, .stamping t) →
    s.edition.map Edition.storedAt = some t
  stamped : (∀ n a t, s.reader? n ≠ some (a, .stamping t)) →
    s.shelf.refreshedAt = s.edition.map Edition.storedAt
  past : ∀ {e : Edition}, s.edition = some e → e.storedAt ≤ s.clock
  due : ∀ {n : Nat} {a : String} {r : Reader} {e : Edition}, s.reader? n = some (a, r) → r.fetches = true →
    s.edition = some e → e.storedAt + s.shelf.lifetime ≤ s.clock
  leaves : ∀ {key : String} {leaf : Leaf}, Keyed.get? key s.shelf.leaves = some leaf →
    ∃ e, s.edition = some e ∧ (e.Has s.shelf.lifetime key leaf ∨ leaf.expiresAt ≤ e.storedAt)

theorem sound_opening (url : String) (lifetime : Nat) : Sound (opening url lifetime) where
  alone is := by cases is
  locked is := by cases is
  stamping is := by cases is
  stamped _ := rfl
  past is := by cases is
  due is := by cases is
  leaves found := by cases found

/-- Whoever checks learns whether the last edition has had its time: as nobody else holds the lock, the shelf knows
when that edition was stored. -/
theorem Sound.isRecent_iff {s : Scene} (sound : Sound s) {n now : Nat} {a : String}
    (is : s.reader? n = some (a, .checking)) (onTime : s.clock ≤ now) :
    s.shelf.isRecent now = true ↔ ∃ e, s.edition = some e ∧ now < e.storedAt + s.shelf.lifetime := by
  have known : s.shelf.refreshedAt = s.edition.map Edition.storedAt := by
    refine sound.stamped fun m b t isStamping => ?_
    have same := sound.alone is isStamping rfl rfl
    rw [← same, is] at isStamping
    cases isStamping
  rw [Shelf.isRecent, known]
  cases last : s.edition with
  | none => simp
  | some e =>
    have past := sound.past last
    simp only [Option.map_some, Option.any_some, decide_eq_true_eq, Option.some.injEq, exists_eq_left']
    omega

theorem Sound.good {s : Scene} (sound : Sound s) {now : Nat} {key : String} {leaf : Leaf} (onTime : s.clock ≤ now)
    (found : Keyed.get? key s.shelf.leaves = some leaf) (good : now < leaf.expiresAt) :
    ∃ e, s.edition = some e ∧ e.text? key = some leaf.text ∧ now < e.storedAt + s.shelf.lifetime := by
  obtain ⟨e, last, has | expired⟩ := sound.leaves found
  · exact ⟨e, last, has.1, has.2 ▸ good⟩
  · have past := sound.past last
    omega

theorem Sound.arrives {s s' : Scene} {n : Nat} {anchor : String} (sound : Sound s)
    (arrives : Arrives s s' n anchor) : Sound s' := by
  have before : ∀ {m a r}, s'.reader? m = some (a, r) → r ≠ .fresh → s.reader? m = some (a, r) := by
    intro m a r is notFresh
    rw [arrives.readers] at is
    split at is
    · cases is
      exact absurd rfl notFresh
    · exact is
  have notFresh : ∀ {r : Reader}, r.holds = true → r ≠ .fresh := by
    rintro r holds rfl
    cases holds
  exact
    { alone := fun is is' holds holds' =>
        sound.alone (before is (notFresh holds)) (before is' (notFresh holds')) holds holds'
      locked := fun is holds => arrives.shelf ▸ sound.locked (before is (notFresh holds)) holds
      stamping := fun is => arrives.edition ▸ sound.stamping (before is nofun)
      stamped := by
        intro nobody
        rw [arrives.shelf, arrives.edition]
        refine sound.stamped fun m a t is => ?_
        by_cases same : n = m
        · rw [← same, arrives.unknown] at is
          cases is
        · exact nobody m a t (by rw [arrives.readers, if_neg same, is])
      past := by
        intro e is
        rw [arrives.edition] at is
        exact arrives.clock ▸ sound.past is
      due := by
        intro m a r e is fetches last
        rw [arrives.edition] at last
        rw [arrives.shelf, arrives.clock]
        exact sound.due (before is (notFresh (Reader.holds_of_fetches fetches))) fetches last
      leaves := by
        intro key leaf found
        rw [arrives.shelf] at found ⊢
        rw [arrives.edition]
        exact sound.leaves found }

section
variable {s s' : Scene} {n now : Nat} {fetched : Option Fetched} {anchor : String} {r r' : Reader}

private theorem alone_acts (sound : Sound s) (acts : Acts s s' n now fetched anchor r r') {m : Nat} {a : String}
    {q : Reader} (is : s.reader? m = some (a, q)) (other : m ≠ n) (holds : q.holds = true) :
    r'.holds = false := by
  cases holds' : r'.holds with
  | false => rfl
  | true =>
    rcases acts.steps.holds holds' with held | ⟨free, -⟩
    · exact absurd (sound.alone is acts.was holds held) other
    · rw [sound.locked is holds] at free
      cases free

private theorem edition_acts (sound : Sound s) (acts : Acts s s' n now fetched anchor r r') {m : Nat} {a : String}
    {q : Reader} (is : s.reader? m = some (a, q)) (other : m ≠ n) (holds : q.holds = true) :
    s'.edition = s.edition := by
  refine acts.edition_of_idle ?_
  rintro document rfl
  exact other (sound.alone is acts.was holds rfl)

private theorem stamped_acts (sound : Sound s) (acts : Acts s s' n now fetched anchor r r')
    (nobody : ∀ m a t, s'.reader? m ≠ some (a, .stamping t)) :
    s'.shelf.refreshedAt = s'.edition.map Edition.storedAt := by
  have is : s'.reader? n = some (anchor, r') := by rw [acts.readers, if_pos rfl]
  have before : (∀ t, r ≠ .stamping t) → s.shelf.refreshedAt = s.edition.map Edition.storedAt := by
    intro idle
    refine sound.stamped fun m a t was => ?_
    by_cases same : n = m
    · rw [← same, acts.was] at was
      cases was
      exact idle t rfl
    · exact nobody m a t (by rw [acts.readers, if_neg same, was])
  rw [acts.steps.refreshedAt, acts.edition]
  cases r with
  | storing document =>
    rw [acts.steps.after_storing.1] at is
    exact absurd is (nobody n anchor now)
  | stamping moment => exact (sound.stamping acts.was).symm
  | _ => exact before nofun

private theorem due_acts (sound : Sound s) (acts : Acts s s' n now fetched anchor r r') {m : Nat} {a : String}
    {q : Reader} {e : Edition} (is : s'.reader? m = some (a, q)) (fetches : q.fetches = true)
    (last : s'.edition = some e) : e.storedAt + s'.shelf.lifetime ≤ s'.clock := by
  have onTime := acts.onTime
  rw [acts.clock, acts.steps.lifetime]
  rcases acts.cases is with ⟨rfl, rfl, rfl⟩ | ⟨other, was⟩
  · -- The reader who fetches has already been fetching, or has just seen that it is time.
    obtain ⟨-, rfl | ⟨rfl, notRecent⟩⟩ := acts.steps.of_fetches fetches
    · rw [acts.edition] at last
      have := sound.due acts.was rfl last
      omega
    · rw [acts.edition_of_idle nofun] at last
      refine Nat.le_of_not_lt fun early => ?_
      rw [(sound.isRecent_iff acts.was onTime).mpr ⟨e, last, early⟩] at notRecent
      cases notRecent
  · rw [edition_acts sound acts was other (Reader.holds_of_fetches fetches)] at last
    have := sound.due was fetches last
    omega

private theorem leaves_acts (sound : Sound s) (acts : Acts s s' n now fetched anchor r r') {key : String}
    {leaf : Leaf} (found : Keyed.get? key s'.shelf.leaves = some leaf) :
    ∃ e, s'.edition = some e ∧ (e.Has s'.shelf.lifetime key leaf ∨ leaf.expiresAt ≤ e.storedAt) := by
  rw [acts.steps.lifetime, acts.edition]
  rcases acts.steps.leaves found with old | ⟨document, rfl, has⟩
  · obtain ⟨e, last, old⟩ := sound.leaves old
    have onTime := acts.onTime
    have past := sound.past last
    cases r with
    | storing document =>
      -- The last edition has had its time, so that its leaves are as old as those before it.
      have due := sound.due acts.was rfl last
      refine ⟨_, rfl, .inr ?_⟩
      rcases old with has | expired
      · have := has.2
        show leaf.expiresAt ≤ now
        omega
      · show leaf.expiresAt ≤ now
        omega
    | _ => exact ⟨e, last, old⟩
  · exact ⟨_, rfl, .inl has⟩

theorem Sound.acts (sound : Sound s) (acts : Acts s s' n now fetched anchor r r') : Sound s' where
  alone := by
    intro m k a b q q' is is' holds holds'
    rcases acts.cases is with ⟨rfl, rfl, rfl⟩ | ⟨other, was⟩
    · rcases acts.cases is' with ⟨rfl, -, -⟩ | ⟨other, was⟩
      · rfl
      · rw [alone_acts sound acts was other holds'] at holds
        cases holds
    · rcases acts.cases is' with ⟨rfl, rfl, rfl⟩ | ⟨other', was'⟩
      · rw [alone_acts sound acts was other holds] at holds'
        cases holds'
      · exact sound.alone was was' holds holds'
  locked := by
    intro m a q is holds
    rcases acts.cases is with ⟨rfl, rfl, rfl⟩ | ⟨other, was⟩
    · rcases acts.steps.holds holds with held | ⟨-, locked⟩
      · rcases acts.steps.locked with same | locked | ⟨-, gone⟩
        · rw [same]
          exact sound.locked acts.was held
        · exact locked
        · rw [holds] at gone
          cases gone
      · exact locked
    · rcases acts.steps.locked with same | locked | ⟨held, -⟩
      · rw [same]
        exact sound.locked was holds
      · exact locked
      · exact absurd (sound.alone was acts.was holds held) other
  stamping := by
    intro m a t is
    rcases acts.cases is with ⟨rfl, rfl, rfl⟩ | ⟨other, was⟩
    · obtain ⟨rfl, document, rfl⟩ := acts.steps.of_stamping
      rw [acts.edition]
      rfl
    · rw [edition_acts sound acts was other rfl]
      exact sound.stamping was
  stamped := stamped_acts sound acts
  past := by
    intro e is
    rw [acts.clock]
    rw [acts.edition] at is
    cases r with
    | storing document =>
      cases is
      exact Nat.le_refl now
    | _ => exact Nat.le_trans (sound.past is) acts.onTime
  due := due_acts sound acts
  leaves := leaves_acts sound acts

end

/-! ### Any number of occasions -/

theorem Sound.meet {s s' : Scene} (sound : Sound s) {o : Occasion} (met : s.meet o = some s') : Sound s' := by
  cases o with
  | arrival n anchor => exact sound.arrives (arrives_of_meet met)
  | act n now fetched =>
    obtain ⟨anchor, r, r', acts⟩ := acts_of_meet met
    exact sound.acts acts

theorem Sound.play {s s' : Scene} {occasions : List Occasion} (sound : Sound s)
    (played : s.play occasions = some s') : Sound s' :=
  play_preserves (fun _ s => Sound s) (fun _ sound met => sound.meet met) sound played

end Scene
end StyleGuide
end LintBridge

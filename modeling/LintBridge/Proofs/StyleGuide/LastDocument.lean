import LintBridge.Proofs.StyleGuide.Stints

/-!
Readers who are interrupted only where they wait are served from the last document.

`Turn` says what such a reader would come to if nothing were kept but the last document and its moment. The shelf
does the same: `Settled` holds between stints, and in the middle of one there is an invariant for each of the
three ways that it may go (no document of its own, a document, a fault).
-/

set_option autoImplicit false
set_option relaxedAutoImplicit false

namespace LintBridge

namespace StyleGuide

/-- What a stint comes to where nothing is kept but the last document and its moment. It may end before anything
is known, or with a fetch when the document has had its time, or with an answer from the document when it has
not. A document that is fetched takes the place of the last one and gives the answer, and a fault changes nothing. -/
inductive Turn (lifetime : Nat) (anchor : String) (x : Stint) :
    Option Edition → Reader → Option Edition → Reader → Prop
  | waits (last : Option Edition) : Turn lifetime anchor x last .fresh last .queueing
  | setsOut (last : Option Edition) (r : Reader) (own : r ≠ .fetching)
      (due : ∀ e, last = some e → e.storedAt + lifetime ≤ x.ended) : Turn lifetime anchor x last r last .fetching
  | tells (e : Edition) (r : Reader) (own : r ≠ .fetching) (good : x.decided < e.storedAt + lifetime) :
      Turn lifetime anchor x (some e) r (some e) (.finished (e.text? anchor))
  | brings (last : Option Edition) (document : String) (moment : Nat) (came : x.fetched = some (.ok document))
      (stored : moment ∈ x.later) (good : x.ended < moment + lifetime) :
      Turn lifetime anchor x last .fetching (some ⟨document, moment⟩)
        (.finished (Edition.text? ⟨document, moment⟩ anchor))
  | fails (last : Option Edition) (f : FetchFault) (came : x.fetched = some (.error f)) :
      Turn lifetime anchor x last .fetching last (.finished (some f.placeholder))

namespace Scene

def Lacks (s : Scene) (anchor : String) : Prop :=
  ∀ leaf, Keyed.get? anchor s.shelf.leaves = some leaf → leaf.expiresAt ≤ s.clock

/-- As long as the last document is good, all its rules are on the shelf. -/
def Complete (s : Scene) : Prop :=
  ∀ e, s.edition = some e → s.clock < e.storedAt + s.shelf.lifetime → ∀ anchor text, e.text? anchor = some text →
    Keyed.get? anchor s.shelf.leaves = some ⟨text, e.storedAt + s.shelf.lifetime⟩

/-- The leaves that are still good in the end are those that were there. -/
def Keeps (s s' : Scene) : Prop :=
  ∀ (key : String) (leaf : Leaf), s'.clock < leaf.expiresAt →
    (Keyed.get? key s'.shelf.leaves = some leaf ↔ Keyed.get? key s.shelf.leaves = some leaf)

theorem Complete.text?_eq_none {s : Scene} {anchor : String} (complete : Complete s) (lacks : Lacks s anchor)
    {e : Edition} (last : s.edition = some e) (good : s.clock < e.storedAt + s.shelf.lifetime) :
    e.text? anchor = none := by
  cases has : e.text? anchor with
  | none => rfl
  | some text =>
    have := lacks _ (complete e last good anchor text has)
    have : e.storedAt + s.shelf.lifetime ≤ s.clock := this
    omega

section
variable {s s' : Scene} {n now : Nat} {fetched : Option Fetched} {anchor : String} {r r' : Reader}

theorem Acts.keeps (acts : Acts s s' n now fetched anchor r r') (idle : ∀ document, r ≠ .storing document)
    (drops : ∀ look, r = .dropping look → Lacks s anchor) : Keeps s s' := by
  intro key leaf good
  rw [acts.clock] at good
  rcases acts.steps.get?_leaves idle key with same | ⟨⟨look, is⟩, rfl, gone⟩
  · rw [same]
  · rw [gone]
    constructor
    · nofun
    · intro found
      have onTime := acts.onTime
      have expired := drops look is leaf found
      omega

theorem Acts.complete (acts : Acts s s' n now fetched anchor r r') (complete : Complete s)
    (drops : ∀ look, r = .dropping look → Lacks s anchor) : Complete s' := by
  intro e last good key text has
  have onTime := acts.onTime
  rw [acts.steps.lifetime] at good ⊢
  rw [acts.clock] at good
  by_cases storing : ∃ document, r = .storing document
  · obtain ⟨document, rfl⟩ := storing
    rw [acts.edition] at last
    cases last
    rw [acts.steps.after_storing.2, Shelf.get?_store, has]
    rfl
  · have idle : ∀ document, r ≠ .storing document := fun document is => storing ⟨document, is⟩
    rw [acts.edition_of_idle idle] at last
    have found := complete e last (by omega) key text has
    exact (acts.keeps idle drops key _ (by rw [acts.clock]; exact good)).mpr found

/-- What a look may find: nothing good, or a text of the last document. -/
theorem Acts.look {look : Look} (sound : Sound s) (acts : Acts s s' n now fetched anchor (.looking look) r') :
    (r' = Reader.afterMiss look ∧ Lacks s' anchor) ∨
      (∃ e text, s'.edition = some e ∧ e.text? anchor = some text ∧ now < e.storedAt + s'.shelf.lifetime ∧
        r' = Reader.afterHit text look) ∨
      r' = .dropping look ∧ Lacks s' anchor := by
  obtain ⟨same, found⟩ := acts.steps.after_looking
  rw [Lacks, acts.edition_of_idle nofun, acts.clock, same]
  rcases found with ⟨rfl, absent⟩ | ⟨leaf, found, ⟨rfl, good⟩ | ⟨rfl, expired⟩⟩
  · exact .inl ⟨rfl, fun leaf found => by rw [absent] at found; cases found⟩
  · obtain ⟨e, last, has, good⟩ := sound.good acts.onTime found good
    exact .inr (.inl ⟨e, leaf.text, last, has, good, rfl⟩)
  · refine .inr (.inr ⟨rfl, fun other found' => ?_⟩)
    rw [found] at found'
    cases found'
    exact expired

theorem Acts.lacks_of_drop {look : Look} (acts : Acts s s' n now fetched anchor (.dropping look) r') :
    r' = Reader.afterMiss look ∧ Lacks s' anchor := by
  obtain ⟨rfl, dropped⟩ := acts.steps.after_dropping
  refine ⟨rfl, fun leaf found => ?_⟩
  rw [dropped, Keyed.get?_erase, if_pos rfl] at found
  cases found

end

theorem Keeps.trans {s mid s' : Scene} (first : Keeps s mid) (second : Keeps mid s') (onTime : mid.clock ≤ s'.clock) :
    Keeps s s' := by
  intro key leaf good
  exact (second key leaf good).trans (first key leaf (by omega))

/-! ### The middle of a stint -/

/-- What holds in the middle of every stint: since its start nobody else has done anything. -/
structure Underway (start s : Scene) (x : Stint) (passed : List Nat) (anchor : String) (r : Reader) : Prop where
  sound : Sound s
  complete : Complete s
  is : s.reader? x.number = some (anchor, r)
  others : ∀ m, m ≠ x.number → s.reader? m = start.reader? m
  clock : s.clock = passed.getLastD x.first
  begun : x.first ≤ s.clock
  lifetime : s.shelf.lifetime = start.shelf.lifetime

section
variable {start s s' : Scene} {x : Stint} {passed : List Nat} {now : Nat} {fetched : Option Fetched}
  {anchor : String} {r r' : Reader}

theorem Underway.begin (sound : Sound s) (complete : Complete s)
    (acts : Acts s s' x.number x.first fetched anchor r r') (notDropping : ∀ look, r ≠ .dropping look) :
    Underway s s' x [] anchor r' where
  sound := sound.acts acts
  complete := acts.complete complete fun look is => absurd is (notDropping look)
  is := by rw [acts.readers, if_pos rfl]
  others m other := by rw [acts.readers, if_neg other.symm]
  clock := acts.clock
  begun := Nat.le_of_eq acts.clock.symm
  lifetime := acts.steps.lifetime

theorem Underway.acts (underway : Underway start s x passed anchor r)
    (acts : Acts s s' x.number now fetched anchor r r') (drops : ∀ look, r = .dropping look → Lacks s anchor) :
    Underway start s' x (passed ++ [now]) anchor r' where
  sound := underway.sound.acts acts
  complete := acts.complete underway.complete drops
  is := by rw [acts.readers, if_pos rfl]
  others m other := by rw [acts.readers, if_neg other.symm, underway.others m other]
  clock := by rw [acts.clock, List.getLastD_concat]
  begun := by
    have begun := underway.begun
    have onTime := acts.onTime
    rw [acts.clock]
    omega
  lifetime := acts.steps.lifetime.trans underway.lifetime

theorem Underway.acts_of_meet (underway : Underway start s x passed anchor r)
    (met : s.meet (.act x.number now fetched) = some s') : ∃ r', Acts s s' x.number now fetched anchor r r' := by
  obtain ⟨anchor', q, r', acts⟩ := Scene.acts_of_meet met
  have was := acts.was
  rw [underway.is] at was
  cases was
  exact ⟨r', acts⟩

end

/-! ### A stint without a document of its own -/

/-- How far a reader has come in a stint without a document of his own, and what he has found; `r` is where he
began. -/
def Seeks (s : Scene) (x : Stint) (passed : List Nat) (anchor : String) (r : Reader) : Reader → Prop
  | .looking .withLock => True
  | .queueing => r = .fresh
  | .fetching => True
  | .dropping .first => r = .fresh ∧ Lacks s anchor
  | .dropping .withLock => Lacks s anchor
  | .checking => Lacks s anchor
  | .unlocking answer =>
    ∃ e, s.edition = some e ∧ answer = e.text? anchor ∧ s.clock < e.storedAt + s.shelf.lifetime
  | .finished answer =>
    ∃ e, s.edition = some e ∧ answer = e.text? anchor ∧
      passed.dropLast.getLastD x.first < e.storedAt + s.shelf.lifetime
  | _ => False

/-- The middle of a stint without a document of its own. -/
structure Seeking (start s : Scene) (x : Stint) (passed : List Nat) (anchor : String) (r q : Reader) : Prop where
  underway : Underway start s x passed anchor q
  edition : s.edition = start.edition
  keeps : Keeps start s
  seeks : Seeks s x passed anchor r q

section
variable {start s s' : Scene} {x : Stint} {passed : List Nat} {now : Nat} {fetched : Option Fetched}
  {anchor : String} {r q q' : Reader}

theorem Seeks.drops (seeks : Seeks s x passed anchor r q) {look : Look} (is : q = .dropping look) :
    Lacks s anchor := by
  subst is
  cases look with
  | first => exact seeks.2
  | withLock => exact seeks
  | afterFetch => cases seeks

theorem Seeks.begin (sound : Sound s) (acts : Acts s s' x.number x.first fetched anchor r q)
    (begins : r = .fresh ∨ r = .queueing) : Seeks s' x [] anchor r q := by
  rcases begins with rfl | rfl
  · rcases acts.look sound with ⟨rfl, -⟩ | ⟨e, text, last, has, good, rfl⟩ | ⟨rfl, lacks⟩
    · exact rfl
    · exact ⟨e, last, has.symm, good⟩
    · exact ⟨rfl, lacks⟩
  · obtain rfl := acts.steps.after_queueing
    trivial

theorem Seeks.step (sound : Sound s) (complete : Complete s) (clock : s.clock = passed.getLastD x.first)
    (seeks : Seeks s x passed anchor r q) (acts : Acts s s' x.number now none anchor q q') :
    Seeks s' x (passed ++ [now]) anchor r q' := by
  cases q with
  | looking look =>
    cases look with
    | withLock =>
      rcases acts.look sound with ⟨rfl, lacks⟩ | ⟨e, text, last, has, good, rfl⟩ | ⟨rfl, lacks⟩
      · exact lacks
      · exact ⟨e, last, has.symm, by rw [acts.clock]; exact good⟩
      · exact lacks
    | _ => cases seeks
  | dropping look =>
    obtain ⟨rfl, lacks⟩ := acts.lacks_of_drop
    cases look with
    | first => exact seeks.1
    | withLock => exact lacks
    | afterFetch => cases seeks
  | queueing =>
    obtain rfl := acts.steps.after_queueing
    trivial
  | checking =>
    rcases acts.steps.after_checking with ⟨same, ⟨rfl, isRecent⟩ | ⟨rfl, -⟩⟩
    · have onTime := acts.onTime
      obtain ⟨e, last, good⟩ := (sound.isRecent_iff acts.was onTime).mp isRecent
      have absent := complete.text?_eq_none seeks last (by omega)
      exact ⟨e, (acts.edition_of_idle nofun).trans last, absent.symm, by rw [acts.clock, same]; exact good⟩
    · trivial
  | fetching =>
    rcases acts.steps.after_fetching with ⟨-, ⟨f, came, -⟩ | ⟨document, came, -⟩⟩ <;> cases came
  | unlocking answer =>
    obtain rfl := acts.steps.after_unlocking
    obtain ⟨e, last, eq, good⟩ := seeks
    refine ⟨e, (acts.edition_of_idle nofun).trans last, eq, ?_⟩
    rw [List.dropLast_concat, ← clock, acts.steps.lifetime]
    exact good
  | finished answer => exact absurd acts.steps Reader.Steps.not_finished
  | _ => cases seeks

theorem Seeks.not_storing (seeks : Seeks s x passed anchor r q) : ∀ document, q ≠ .storing document := by
  rintro document rfl
  cases seeks

theorem Seeking.step (seeking : Seeking start s x passed anchor r q)
    (met : s.meet (.act x.number now none) = some s') :
    ∃ q', Seeking start s' x (passed ++ [now]) anchor r q' := by
  obtain ⟨underway, edition, keeps, seeks⟩ := seeking
  obtain ⟨q', acts⟩ := underway.acts_of_meet met
  have idle := seeks.not_storing
  have drops : ∀ look, q = .dropping look → Lacks s anchor := fun look is => seeks.drops is
  have onTime := acts.onTime
  exact
    ⟨q', { underway := underway.acts acts drops
           edition := (acts.edition_of_idle idle).trans edition
           keeps := keeps.trans (acts.keeps idle drops) (by rw [acts.clock]; exact onTime)
           seeks := seeks.step underway.sound underway.complete underway.clock acts }⟩

theorem Seeking.begin (sound : Sound s) (complete : Complete s)
    (acts : Acts s s' x.number x.first fetched anchor r q) (begins : r = .fresh ∨ r = .queueing) :
    Seeking s s' x [] anchor r q := by
  have idle : ∀ document, r ≠ .storing document := by
    rintro document rfl
    rcases begins with is | is <;> cases is
  have drops : ∀ look, r ≠ .dropping look := by
    rintro look rfl
    rcases begins with is | is <;> cases is
  exact
    { underway := .begin sound complete acts drops
      edition := acts.edition_of_idle idle
      keeps := acts.keeps idle fun look is => absurd is (drops look)
      seeks := .begin sound acts begins }

theorem Seeking.turn (seeking : Seeking start s x x.later anchor r q) (own : r ≠ .fetching)
    (rests : q.rests = true) : Turn s.shelf.lifetime anchor x start.edition r s.edition q := by
  obtain ⟨underway, edition, -, seeks⟩ := seeking
  rw [edition]
  cases q with
  | queueing =>
    obtain rfl : r = .fresh := seeks
    exact .waits _
  | fetching =>
    refine .setsOut _ r own fun e last => ?_
    rw [Stint.ended, ← underway.clock]
    exact underway.sound.due underway.is rfl (edition.trans last)
  | finished answer =>
    obtain ⟨e, last, rfl, good⟩ := seeks
    rw [← edition, last]
    exact .tells e r own good
  | _ => cases rests

end

/-! ### A stint with a fault -/

/-- The middle of a stint with a fault. -/
structure Failing (start s : Scene) (x : Stint) (passed : List Nat) (anchor : String) (f : FetchFault) (r : Reader) :
    Prop where
  underway : Underway start s x passed anchor r
  edition : s.edition = start.edition
  keeps : Keeps start s
  fails : r = .unlocking (some f.placeholder) ∨ r = .finished (some f.placeholder)

section
variable {start s s' : Scene} {x : Stint} {passed : List Nat} {now : Nat} {anchor : String} {f : FetchFault}
  {r r' : Reader}

theorem Failing.step (failing : Failing start s x passed anchor f r)
    (met : s.meet (.act x.number now none) = some s') : ∃ r', Failing start s' x (passed ++ [now]) anchor f r' := by
  obtain ⟨underway, edition, keeps, fails⟩ := failing
  obtain ⟨r', acts⟩ := underway.acts_of_meet met
  rcases fails with rfl | rfl
  · obtain rfl := acts.steps.after_unlocking
    have onTime := acts.onTime
    exact
      ⟨_, { underway := underway.acts acts nofun
            edition := (acts.edition_of_idle nofun).trans edition
            keeps := keeps.trans (acts.keeps nofun nofun) (by rw [acts.clock]; exact onTime)
            fails := .inr rfl }⟩
  · exact absurd acts.steps Reader.Steps.not_finished

theorem Failing.begin (sound : Sound s) (complete : Complete s) (came : x.fetched = some (.error f))
    (acts : Acts s s' x.number x.first x.fetched anchor .fetching r') : Failing s s' x [] anchor f r' := by
  rcases acts.steps.after_fetching with ⟨-, ⟨g, came', rfl⟩ | ⟨document, came', -⟩⟩
  · rw [came] at came'
    cases came'
    exact
      { underway := .begin sound complete acts nofun
        edition := acts.edition_of_idle nofun
        keeps := acts.keeps nofun nofun
        fails := .inl rfl }
  · rw [came] at came'
    cases came'

theorem Failing.turn (failing : Failing start s x x.later anchor f r') (came : x.fetched = some (.error f))
    (rests : r'.rests = true) : Turn s.shelf.lifetime anchor x start.edition .fetching s.edition r' := by
  rw [failing.edition]
  rcases failing.fails with rfl | rfl
  · cases rests
  · exact .fails _ f came

end

/-! ### A stint with a document -/

/-- The document has been stored in this stint. -/
structure Brought (s : Scene) (x : Stint) (passed : List Nat) (document : String) (moment : Nat) : Prop where
  stored : moment ∈ passed
  begun : x.first ≤ moment
  edition : s.edition = some ⟨document, moment⟩

/-- How far a reader has come with the document that he has fetched, and what he has found. -/
def Stores (s : Scene) (x : Stint) (passed : List Nat) (anchor document : String) : Reader → Prop
  | .storing other => other = document
  | .stamping _ => ∃ moment, Brought s x passed document moment
  | .looking .afterFetch => ∃ moment, Brought s x passed document moment
  | .dropping .afterFetch => (∃ moment, Brought s x passed document moment) ∧ Lacks s anchor
  | .unlocking answer =>
    ∃ moment, Brought s x passed document moment ∧ answer = Edition.text? ⟨document, moment⟩ anchor
  | .finished answer =>
    ∃ moment, Brought s x passed document moment ∧ answer = Edition.text? ⟨document, moment⟩ anchor
  | _ => False

/-- The middle of a stint with a document. -/
structure Storing (start s : Scene) (x : Stint) (passed : List Nat) (anchor document : String) (r : Reader) :
    Prop where
  underway : Underway start s x passed anchor r
  stores : Stores s x passed anchor document r

section
variable {start s s' : Scene} {x : Stint} {passed : List Nat} {now moment : Nat} {fetched : Option Fetched}
  {anchor document : String} {r r' : Reader}

theorem Brought.acts (brought : Brought s x passed document moment)
    (acts : Acts s s' x.number now fetched anchor r r') (idle : ∀ document, r ≠ .storing document) :
    Brought s' x (passed ++ [now]) document moment where
  stored := List.mem_append_left _ brought.stored
  begun := brought.begun
  edition := (acts.edition_of_idle idle).trans brought.edition

theorem Stores.drops (stores : Stores s x passed anchor document r) {look : Look} (is : r = .dropping look) :
    Lacks s anchor := by
  subst is
  cases look with
  | afterFetch => exact stores.2
  | _ => cases stores

theorem Stores.step (sound : Sound s) (complete : Complete s) (begun : x.first ≤ s.clock)
    (short : now < x.first + s.shelf.lifetime) (stores : Stores s x passed anchor document r)
    (acts : Acts s s' x.number now none anchor r r') (complete' : Complete s') :
    Stores s' x (passed ++ [now]) anchor document r' := by
  have onTime := acts.onTime
  cases r with
  | storing other =>
    obtain rfl : other = document := stores
    obtain rfl := acts.steps.after_storing.1
    exact ⟨now, List.mem_append_right _ List.mem_cons_self, by omega, acts.edition⟩
  | stamping t =>
    obtain rfl := acts.steps.after_stamping
    obtain ⟨moment, brought⟩ := stores
    exact ⟨moment, brought.acts acts nofun⟩
  | looking look =>
    cases look with
    | afterFetch =>
      obtain ⟨moment, brought⟩ := stores
      have begun := brought.begun
      have brought := brought.acts acts nofun
      rcases acts.look sound with ⟨rfl, lacks⟩ | ⟨e, text, last, has, good, rfl⟩ | ⟨rfl, lacks⟩
      · refine ⟨moment, brought, (complete'.text?_eq_none lacks brought.edition ?_).symm⟩
        rw [acts.clock, acts.steps.lifetime]
        show now < moment + s.shelf.lifetime
        omega
      · rw [brought.edition] at last
        cases last
        exact ⟨moment, brought, has.symm⟩
      · exact ⟨⟨moment, brought⟩, lacks⟩
    | _ => cases stores
  | dropping look =>
    cases look with
    | afterFetch =>
      obtain ⟨⟨moment, brought⟩, lacks⟩ := stores
      have begun := brought.begun
      obtain ⟨rfl, -⟩ := acts.lacks_of_drop
      refine ⟨moment, brought.acts acts nofun, (complete.text?_eq_none lacks brought.edition ?_).symm⟩
      show s.clock < moment + s.shelf.lifetime
      omega
    | _ => cases stores
  | unlocking answer =>
    obtain rfl := acts.steps.after_unlocking
    obtain ⟨moment, brought, eq⟩ := stores
    exact ⟨moment, brought.acts acts nofun, eq⟩
  | finished answer => exact absurd acts.steps Reader.Steps.not_finished
  | _ => cases stores

theorem Storing.step (storing : Storing start s x passed anchor document r)
    (short : now < x.first + start.shelf.lifetime) (met : s.meet (.act x.number now none) = some s') :
    ∃ r', Storing start s' x (passed ++ [now]) anchor document r' := by
  obtain ⟨underway, stores⟩ := storing
  obtain ⟨r', acts⟩ := underway.acts_of_meet met
  rw [← underway.lifetime] at short
  have next := underway.acts acts fun look is => stores.drops is
  exact ⟨r', next, stores.step underway.sound underway.complete underway.begun short acts next.complete⟩

theorem Storing.begin (sound : Sound s) (complete : Complete s) (came : x.fetched = some (.ok document))
    (acts : Acts s s' x.number x.first x.fetched anchor .fetching r') : Storing s s' x [] anchor document r' := by
  rcases acts.steps.after_fetching with ⟨-, ⟨f, came', -⟩ | ⟨other, came', rfl⟩⟩
  · rw [came] at came'
    cases came'
  · rw [came] at came'
    cases came'
    exact ⟨.begin sound complete acts nofun, rfl⟩

theorem Storing.turn {last : Option Edition} (storing : Storing start s x x.later anchor document r')
    (came : x.fetched = some (.ok document)) (short : ∀ now ∈ x.later, now < x.first + s.shelf.lifetime)
    (rests : r'.rests = true) : Turn s.shelf.lifetime anchor x last .fetching s.edition r' := by
  obtain ⟨underway, stores⟩ := storing
  cases r' with
  | finished answer =>
    obtain ⟨moment, brought, rfl⟩ := stores
    rw [brought.edition]
    have stored := brought.stored
    have good : x.ended < x.first + s.shelf.lifetime := by
      rcases List.eq_nil_or_concat x.later with none | ⟨rest, last, all⟩
      · rw [none] at stored
        cases stored
      · rw [Stint.ended, all, List.concat_eq_append, List.getLastD_concat]
        exact short last (by simp [all])
    have begun := brought.begun
    exact .brings _ document moment came brought.stored (by omega)
  | queueing => cases stores
  | fetching => cases stores
  | _ => cases rests

end

/-! ### Stint after stint -/

/-- What holds between stints. -/
structure Settled (s : Scene) : Prop where
  sound : Sound s
  complete : Complete s
  rests : ∀ {n : Nat} {a : String} {r : Reader}, s.reader? n = some (a, r) → r = .fresh ∨ r.rests = true

/-- What a stint comes to, and what it leaves behind. -/
structure Outcome (s s' : Scene) (x : Stint) (anchor : String) (r r' : Reader) : Prop where
  was : s.reader? x.number = some (anchor, r)
  underway : Underway s s' x x.later anchor r'
  turn : Turn s'.shelf.lifetime anchor x s.edition r s'.edition r'
  keeps : Keeps s s' ∨ r = .fetching ∧ ∃ document, x.fetched = some (.ok document)

theorem Settled.stays {s s' : Scene} {x : Stint} (settled : Settled s) (stays : Stays s s' x) :
    ∃ anchor r r', Outcome s s' x anchor r r' := by
  obtain ⟨mid, met, played⟩ := stays.steps
  obtain ⟨anchor, r, r', acts⟩ := acts_of_meet met
  obtain ⟨sound, complete, rests⟩ := settled
  have short := stays.short
  -- One who has come, or has waited for the lock, seeks; one who has fetched has a document or a fault.
  have seeks : r = .fresh ∨ r = .queueing → r ≠ .fetching → ∃ anchor r r', Outcome s s' x anchor r r' := by
    intro begins own
    obtain ⟨q, seeking⟩ := play_later (fun passed s q => Seeking _ s x passed anchor r q)
      (fun _ seeking met => seeking.step met) (Seeking.begin sound complete acts begins) played
    exact
      ⟨anchor, r, q, { was := acts.was
                       underway := seeking.underway
                       turn := seeking.turn own (stays.rests_of_is seeking.underway.is)
                       keeps := .inl seeking.keeps }⟩
  cases r with
  | queueing => exact seeks (.inr rfl) nofun
  | fetching =>
    cases came : x.fetched with
    | none =>
      rcases acts.steps.after_fetching with ⟨-, ⟨f, came', -⟩ | ⟨document, came', -⟩⟩ <;>
        · rw [came] at came'
          cases came'
    | some fetched =>
      cases fetched with
      | error f =>
        obtain ⟨q, failing⟩ := play_later (fun passed s r => Failing _ s x passed anchor f r)
          (fun _ failing met => failing.step met) (Failing.begin sound complete came acts) played
        exact
          ⟨anchor, .fetching, q, { was := acts.was
                                   underway := failing.underway
                                   turn := failing.turn came (stays.rests_of_is failing.underway.is)
                                   keeps := .inl failing.keeps }⟩
      | ok document =>
        obtain ⟨q, storing⟩ := play_later (fun passed s r => Storing _ s x passed anchor document r)
          (fun isIn storing met => storing.step (short _ isIn) met) (Storing.begin sound complete came acts) played
        have lifetime := storing.underway.lifetime
        exact
          ⟨anchor, .fetching, q, { was := acts.was
                                   underway := storing.underway
                                   turn := storing.turn came (by rwa [lifetime]) (stays.rests_of_is storing.underway.is)
                                   keeps := .inr ⟨rfl, document, came⟩ }⟩
  | finished answer => exact absurd acts.steps Reader.Steps.not_finished
  | looking look =>
    rcases rests acts.was with fresh | rests
    · exact seeks (.inl fresh) nofun
    · cases rests
  | _ =>
    rcases rests acts.was with fresh | rests
    · cases fresh
    · cases rests

theorem settled_opening (url : String) (lifetime : Nat) : Settled (opening url lifetime) where
  sound := sound_opening url lifetime
  complete e last := by cases last
  rests is := by cases is

theorem Settled.arrives {s s' : Scene} {n : Nat} {anchor : String} (settled : Settled s)
    (arrives : Arrives s s' n anchor) : Settled s' where
  sound := settled.sound.arrives arrives
  complete := by
    intro e last good key text has
    rw [arrives.edition] at last
    rw [arrives.shelf, arrives.clock] at good
    rw [arrives.shelf]
    exact settled.complete e last good key text has
  rests := by
    intro m a r is
    rw [arrives.readers] at is
    split at is
    · cases is
      exact .inl rfl
    · exact settled.rests is

theorem Settled.visit {s s' : Scene} {v : Visit} (settled : Settled s) (visited : s.visit v = some s') :
    Settled s' ∧ s'.shelf.lifetime = s.shelf.lifetime := by
  cases v with
  | arrival n anchor =>
    have arrives := arrives_of_meet visited
    exact ⟨settled.arrives arrives, congrArg Shelf.lifetime arrives.shelf⟩
  | stint x =>
    have stays := visit_stint_eq_some_iff.mp visited
    obtain ⟨anchor, r, r', outcome⟩ := settled.stays stays
    have underway := outcome.underway
    refine ⟨⟨underway.sound, underway.complete, fun {m a q} is => ?_⟩, underway.lifetime⟩
    by_cases same : m = x.number
    · rw [same] at is
      exact .inr (stays.rests_of_is is)
    · rw [underway.others m same] at is
      exact settled.rests is

theorem Settled.visits {s s' : Scene} {all : List Visit} (settled : Settled s) (visited : s.visits all = some s') :
    Settled s' ∧ s'.shelf.lifetime = s.shelf.lifetime := by
  induction all generalizing s with
  | nil =>
    cases visited
    exact ⟨settled, rfl⟩
  | cons v rest ih =>
    obtain ⟨mid, first, visited⟩ := Option.bind_eq_some_iff.mp visited
    obtain ⟨settled, same⟩ := settled.visit first
    obtain ⟨settled, same'⟩ := ih settled visited
    exact ⟨settled, same'.trans same⟩

/-- Readers who are interrupted only where they wait, whatever their number and their order, are served from the
last document and nothing else: never two of them fetch, each stint is a turn of the reference, changes nothing
about other readers, and leaves all leaves that are good as they are unless it stores a document. And whoever can
go on does. -/
theorem served_from_last_document {url : String} {lifetime : Nat} {all : List Visit} {s : Scene}
    (came : (opening url lifetime).visits all = some s) :
    (∀ m n a b, s.reader? m = some (a, .fetching) → s.reader? n = some (b, .fetching) → m = n) ∧
    (∀ x s', s.visit (.stint x) = some s' →
      (∃ anchor r r', s.reader? x.number = some (anchor, r) ∧ s'.reader? x.number = some (anchor, r') ∧
        Turn lifetime anchor x s.edition r s'.edition r' ∧
        (Keeps s s' ∨ r = .fetching ∧ ∃ document, x.fetched = some (.ok document))) ∧
      ∀ m, m ≠ x.number → s'.reader? m = s.reader? m) ∧
    ∀ n anchor r now fetched, s.reader? n = some (anchor, r) → r.mayGoOn fetched s.shelf.locked = true →
      s.clock ≤ now → 0 < lifetime →
      ∃ x s', x.number = n ∧ x.first = now ∧ x.fetched = fetched ∧ s.visit (.stint x) = some s' ∧
        s'.readers = s.readers.advance n now fetched := by
  obtain ⟨settled, same⟩ := (settled_opening url lifetime).visits came
  have same : s.shelf.lifetime = lifetime := same
  refine ⟨fun m n a b is is' => settled.sound.alone is is' rfl rfl, fun x s' visited => ?_, ?_⟩
  · obtain ⟨anchor, r, r', outcome⟩ := settled.stays (visit_stint_eq_some_iff.mp visited)
    have underway := outcome.underway
    have turn := outcome.turn
    rw [underway.lifetime, same] at turn
    exact ⟨⟨anchor, r, r', outcome.was, underway.is, turn, outcome.keeps⟩, underway.others⟩
  · intro n anchor r now fetched is may onTime positive
    rw [← same] at positive
    exact exists_stint is may onTime positive

/-! ### Two readers and one fetch -/

/-- Two readers come, the one who gets the lock fetches, and both have queued for it. -/
def sharing : List Visit :=
  [.arrival 0 "tabs", .arrival 1 "tabs", .stint ⟨0, 0, [], none⟩, .stint ⟨1, 0, [], none⟩,
    .stint ⟨0, 1, [1, 2], none⟩, .stint ⟨0, 5, [5, 5, 6, 6], some (.ok guide)⟩]

theorem served_from_last_document_sharing :
    ∃ s s', (opening guideUrl 10).visits sharing = some s ∧ s.visit (.stint ⟨1, 13, [14, 14], none⟩) = some s' ∧
      s.reader? 0 = some ("tabs", .finished (some "use spaces")) ∧
      s'.reader? 1 = some ("tabs", .finished (some "use spaces")) ∧
      Turn 10 "tabs" ⟨1, 13, [14, 14], none⟩ s.edition .queueing s'.edition (.finished (some "use spaces")) ∧
      ∃ x s', x.number = 1 ∧ s.visit (.stint x) = some s' ∧ s'.readers = s.readers.advance 1 13 none := by
  have run : ((opening guideUrl 10).visits sharing).any (fun s =>
      s.reader? 0 = some ("tabs", .finished (some "use spaces")) ∧ s.reader? 1 = some ("tabs", .queueing) ∧
        s.shelf.locked = false ∧ s.clock = 6 ∧
        (s.visit (.stint ⟨1, 13, [14, 14], none⟩)).any fun s' =>
          s'.reader? 1 = some ("tabs", .finished (some "use spaces"))) = true := by decide +kernel
  obtain ⟨s, came, all⟩ := (Option.any_eq_true _ _).mp run
  obtain ⟨zero, one, free, clock, rest⟩ := of_decide_eq_true all
  obtain ⟨s', visited, last⟩ := (Option.any_eq_true _ _).mp rest
  have one' := of_decide_eq_true last
  obtain ⟨-, turns, goes⟩ := served_from_last_document came
  obtain ⟨⟨anchor, r, r', was, is, turn, -⟩, -⟩ := turns _ s' visited
  obtain ⟨x, s'', number, -, -, visited', same⟩ :=
    goes 1 "tabs" .queueing 13 none one (by rw [free]; rfl) (by omega) (by decide)
  rw [one] at was
  rw [one'] at is
  cases was
  cases is
  exact ⟨s, s', came, visited, zero, one', turn, x, s'', number, visited', same⟩

end Scene
end StyleGuide
end LintBridge

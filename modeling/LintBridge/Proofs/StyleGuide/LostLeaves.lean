import LintBridge.Proofs.StyleGuide.Scenes

/-!
Leaves that are lost.

A reader who sees that a leaf is out of date takes it out in another step, and if that was his first look, without
the lock. When a document is stored between the two steps, he takes out a leaf of that document, and nobody fetches
another one before it has had its time. `leaf_of_last_document` says that this is the only way in which a leaf is
lost.
-/

set_option autoImplicit false
set_option relaxedAutoImplicit false

namespace LintBridge

namespace StyleGuide

namespace Scene

/-- Somebody who was about to drop the leaf of an anchor has done it. -/
def Dropped (before : Scene) (anchor : String) (since : List Occasion) : Prop :=
  ∃ n now fetched look, .act n now fetched ∈ since ∧ before.reader? n = some (anchor, .dropping look)

/-- What holds from the moment at which an edition is stored, as long as it has not had its time: the leaf of an
anchor that it has is good until it is dropped, and nobody begins to drop it. -/
structure Since (before : Scene) (e : Edition) (anchor text : String) (since : List Occasion) (s : Scene) :
    Prop where
  sound : Sound s
  lifetime : s.shelf.lifetime = before.shelf.lifetime
  edition : s.edition = some e
  dropping : ∀ n look, s.reader? n = some (anchor, .dropping look) ↔
    before.reader? n = some (anchor, .dropping look) ∧ ∀ now fetched, .act n now fetched ∉ since
  kept : ¬ Dropped before anchor since →
    Keyed.get? anchor s.shelf.leaves = some ⟨text, e.storedAt + s.shelf.lifetime⟩
  lost : Dropped before anchor since → Keyed.get? anchor s.shelf.leaves = none

section
variable {before s s' : Scene} {e : Edition} {anchor a text document : String} {since : List Occasion}
  {n now : Nat} {fetched : Option Fetched} {r r' : Reader}

theorem Since.begin (sound : Sound before) (acts : Acts before s n now fetched a (.storing document) r')
    (has : Edition.text? ⟨document, now⟩ anchor = some text) : Since before ⟨document, now⟩ anchor text [] s := by
  obtain ⟨is, stored⟩ := acts.steps.after_storing
  refine
    { sound := sound.acts acts
      lifetime := acts.steps.lifetime
      edition := acts.edition
      dropping := fun m look => ?_
      kept := fun _ => ?_
      lost := ?_ }
  · rw [acts.readers]
    by_cases same : n = m
    · rw [if_pos same, ← same, acts.was, is]
      simp
    · rw [if_neg same]
      simp
  · rw [stored, Shelf.get?_store, has]
    rfl
  · rintro ⟨m, now, fetched, look, isIn, -⟩
    cases isIn

theorem Dropped.append (dropped : Dropped before anchor since) (more : List Occasion) :
    Dropped before anchor (since ++ more) := by
  obtain ⟨m, now, fetched, look, isIn, was⟩ := dropped
  exact ⟨m, now, fetched, look, List.mem_append_left _ isIn, was⟩

theorem dropped_arrival : Dropped before anchor (since ++ [.arrival n a]) ↔ Dropped before anchor since := by
  simp [Dropped]

theorem Since.arrives (sofar : Since before e anchor text since s) (arrives : Arrives s s' n a) :
    Since before e anchor text (since ++ [.arrival n a]) s' where
  sound := sofar.sound.arrives arrives
  lifetime := arrives.shelf ▸ sofar.lifetime
  edition := arrives.edition.trans sofar.edition
  dropping m look := by
    have before := sofar.dropping m look
    rw [arrives.readers]
    by_cases same : n = m
    · subst same
      rw [arrives.unknown] at before
      simpa [Reader.fresh] using before
    · simpa [same] using before
  kept notDropped := by
    rw [arrives.shelf]
    exact sofar.kept fun dropped => notDropped (dropped_arrival.mpr dropped)
  lost dropped := by
    rw [arrives.shelf]
    exact sofar.lost (dropped_arrival.mp dropped)

theorem Since.expiresAt (sofar : Since before e anchor text since s) {leaf : Leaf}
    (found : Keyed.get? anchor s.shelf.leaves = some leaf) : leaf.expiresAt = e.storedAt + s.shelf.lifetime := by
  by_cases dropped : Dropped before anchor since
  · rw [sofar.lost dropped] at found
    cases found
  · rw [sofar.kept dropped] at found
    cases found
    rfl

theorem Since.idle (sofar : Since before e anchor text since s) (good : s.clock < e.storedAt + s.shelf.lifetime)
    (is : s.reader? n = some (a, r)) : ∀ document, r ≠ .storing document := by
  rintro document rfl
  have := sofar.sound.due is rfl sofar.edition
  omega

/-- A reader who takes a step drops the leaf now, or is not one of those who were about to, or has done it. -/
theorem Since.dropped_act (sofar : Since before e anchor text since s) (is : s.reader? n = some (a, r)) :
    Dropped before anchor (since ++ [.act n now fetched]) ↔
      Dropped before anchor since ∨ a = anchor ∧ ∃ look, r = .dropping look := by
  constructor
  · rintro ⟨m, t, f, look, isIn, was⟩
    rcases List.mem_append.mp isIn with isIn | isLast
    · exact .inl ⟨m, t, f, look, isIn, was⟩
    · cases List.mem_singleton.mp isLast
      by_cases acted : ∃ t f, .act n t f ∈ since
      · obtain ⟨t, f, isIn⟩ := acted
        exact .inl ⟨n, t, f, look, isIn, was⟩
      · have still := (sofar.dropping n look).mpr ⟨was, fun t f isIn => acted ⟨t, f, isIn⟩⟩
        rw [is] at still
        cases still
        exact .inr ⟨rfl, look, rfl⟩
  · rintro (⟨m, t, f, look, isIn, was⟩ | ⟨rfl, look, rfl⟩)
    · exact ⟨m, t, f, look, List.mem_append_left _ isIn, was⟩
    · exact ⟨n, now, fetched, look, by simp, ((sofar.dropping n look).mp is).1⟩

theorem Since.acts (sofar : Since before e anchor text since s) (acts : Acts s s' n now fetched a r r')
    (good : now < e.storedAt + s.shelf.lifetime) : Since before e anchor text (since ++ [.act n now fetched]) s' := by
  have onTime := acts.onTime
  have idle := sofar.idle (by omega) acts.was
  have leaf := acts.steps.get?_leaves idle anchor
  have droppedNow : Dropped before anchor (since ++ [.act n now fetched]) ↔ _ := sofar.dropped_act acts.was
  refine
    { sound := sofar.sound.acts acts
      lifetime := acts.steps.lifetime.trans sofar.lifetime
      edition := (acts.edition_of_idle idle).trans sofar.edition
      dropping := fun m look => ?_
      kept := fun notDropped => ?_
      lost := fun dropped => ?_ }
  · have before := sofar.dropping m look
    rw [acts.readers]
    by_cases same : n = m
    · subst same
      rw [if_pos rfl]
      constructor
      · intro is
        cases is
        obtain ⟨leaf, found, expired⟩ := acts.steps.of_dropping
        have := sofar.expiresAt found
        omega
      · rintro ⟨-, never⟩
        exact absurd (List.mem_append_right _ List.mem_cons_self) (never now fetched)
    · rw [if_neg same, before]
      simp [Ne.symm same]
  · have before : ¬ Dropped before anchor since := fun dropped => notDropped (droppedNow.mpr (.inl dropped))
    rcases leaf with same | ⟨drops, rfl, -⟩
    · rw [same, acts.steps.lifetime]
      exact sofar.kept before
    · exact absurd (droppedNow.mpr (.inr ⟨rfl, drops⟩)) notDropped
  · rcases droppedNow.mp dropped with before | ⟨rfl, look, rfl⟩
    · rcases leaf with same | ⟨-, -, gone⟩
      · rw [same]
        exact sofar.lost before
      · exact gone
    · rw [acts.steps.after_dropping.2, Keyed.get?_erase, if_pos rfl]

theorem Since.meet {o : Occasion} (sofar : Since before e anchor text since s) (met : s.meet o = some s')
    (good : s'.clock < e.storedAt + s.shelf.lifetime) : Since before e anchor text (since ++ [o]) s' := by
  cases o with
  | arrival n a => exact sofar.arrives (arrives_of_meet met)
  | act n now fetched =>
    obtain ⟨a, r, r', acts⟩ := acts_of_meet met
    rw [acts.clock] at good
    exact sofar.acts acts good

theorem Since.play {back : List Occasion} (sofar : Since before e anchor text since s)
    (played : s.play back = some s') (good : s'.clock < e.storedAt + before.shelf.lifetime) :
    Since before e anchor text (since ++ back) s' := by
  refine play_preserves (fun passed s => s.clock < e.storedAt + before.shelf.lifetime →
    Since before e anchor text (since ++ passed) s) (fun _ sofar met good => ?_) (fun _ => ?_) played good
  · have earlier := clock_le_of_meet met
    have sofar := sofar (by omega)
    rw [← List.append_assoc]
    exact sofar.meet met (by rw [sofar.lifetime]; exact good)
  · rwa [List.append_nil]

end

/-! ### Readers who come later -/

/-- How far a reader can come who finds nothing and must not fetch. -/
def Fruitless : Reader → Prop
  | .looking .first => True
  | .queueing => True
  | .looking .withLock => True
  | .checking => True
  | .unlocking answer => answer = none
  | .finished answer => answer = none
  | _ => False

section
variable {before s s' : Scene} {e : Edition} {anchor text : String} {since : List Occasion} {n now : Nat}
  {fetched : Option Fetched} {r r' : Reader}

theorem Since.fruitless (sofar : Since before e anchor text since s) (dropped : Dropped before anchor since)
    (acts : Acts s s' n now fetched anchor r r') (good : now < e.storedAt + s.shelf.lifetime)
    (fruitless : Fruitless r) : Fruitless r' := by
  have absent := sofar.lost dropped
  cases r with
  | looking look =>
    obtain ⟨-, ⟨rfl, -⟩ | ⟨leaf, found, -⟩⟩ := acts.steps.after_looking
    · cases look with
      | afterFetch => cases fruitless
      | _ => trivial
    · rw [absent] at found
      cases found
  | queueing =>
    obtain rfl := acts.steps.after_queueing
    trivial
  | checking =>
    obtain ⟨-, ⟨rfl, -⟩ | ⟨-, notRecent⟩⟩ := acts.steps.after_checking
    · exact rfl
    · rw [(sofar.sound.isRecent_iff acts.was acts.onTime).mpr ⟨e, sofar.edition, good⟩] at notRecent
      cases notRecent
  | unlocking answer =>
    obtain rfl := acts.steps.after_unlocking
    exact fruitless
  | finished answer => exact absurd acts.steps Reader.Steps.not_finished
  | _ => cases fruitless

end

theorem learns_at_once {s : Scene} {n now : Nat} {anchor : String} {leaf : Leaf}
    (found : Keyed.get? anchor s.shelf.leaves = some leaf) (good : now < leaf.expiresAt)
    (unknown : s.reader? n = none) (onTime : s.clock ≤ now) :
    ∃ s', s.play [.arrival n anchor, .act n now none] = some s' ∧
      s'.reader? n = some (anchor, .finished (some leaf.text)) := by
  obtain ⟨mid, met⟩ : ∃ mid, s.meet (.arrival n anchor) = some mid := by
    rw [meet, unknown]
    exact ⟨_, rfl⟩
  have arrives := arrives_of_meet met
  have is : mid.reader? n = some (anchor, .fresh) := by rw [arrives.readers, if_pos rfl]
  have done : Reader.fresh.step anchor now none mid.shelf = some (.finished (some leaf.text), mid.shelf) := by
    simp [Reader.fresh, Reader.step, arrives.shelf, found, good, Reader.afterHit]
  obtain ⟨s', acted, readers, -⟩ := meet_act is (arrives.clock ▸ onTime) done
  refine ⟨s', by simp only [play, met, acted, Option.bind_some], ?_⟩
  rw [reader?, readers, Keyed.get?_put, if_pos rfl]

/-- Who comes when the leaf has been dropped learns nothing for the rest of the lifetime. -/
theorem Since.learns_nothing {before s s' : Scene} {e : Edition} {anchor text : String} {since rest : List Occasion}
    {n : Nat} (sofar : Since before e anchor text since s) (dropped : Dropped before anchor since)
    (played : s.play (.arrival n anchor :: rest) = some s') (good : s'.clock < e.storedAt + before.shelf.lifetime) :
    ∃ r, s'.reader? n = some (anchor, r) ∧ Fruitless r := by
  obtain ⟨mid, met, played⟩ := Option.bind_eq_some_iff.mp played
  have arrives := arrives_of_meet met
  have begins : ∃ r, mid.reader? n = some (anchor, r) ∧ Fruitless r ∧
      Since before e anchor text (since ++ [.arrival n anchor]) mid :=
    ⟨.fresh, by rw [arrives.readers, if_pos rfl], trivial, sofar.arrives arrives⟩
  have run : ∃ r, s'.reader? n = some (anchor, r) ∧ Fruitless r ∧
      Since before e anchor text (since ++ [.arrival n anchor] ++ rest) s' := by
    refine play_preserves (fun passed s => s.clock < e.storedAt + before.shelf.lifetime →
      ∃ r, s.reader? n = some (anchor, r) ∧ Fruitless r ∧
        Since before e anchor text (since ++ [.arrival n anchor] ++ passed) s)
      (fun {passed o s s'} _ sofar met good => ?_) (fun _ => ?_) played good
    · have earlier := clock_le_of_meet met
      obtain ⟨r, is, fruitless, sofar⟩ := sofar (by omega)
      rw [← sofar.lifetime] at good
      have next := sofar.meet met good
      rw [List.append_assoc _ passed] at next
      cases o with
      | arrival m a =>
        have arrives := arrives_of_meet met
        refine ⟨r, ?_, fruitless, next⟩
        rw [arrives.readers]
        by_cases same : m = n
        · have unknown := arrives.unknown
          rw [same, is] at unknown
          cases unknown
        · rw [if_neg same, is]
      | act m now fetched =>
        obtain ⟨a, q, q', acts⟩ := acts_of_meet met
        by_cases same : m = n
        · subst same
          have was := acts.was
          rw [is] at was
          cases was
          rw [acts.clock] at good
          have dropped := (dropped.append [.arrival m anchor]).append passed
          exact ⟨q', by rw [acts.readers, if_pos rfl], sofar.fruitless dropped acts good fruitless, next⟩
        · exact ⟨r, by rw [acts.readers, if_neg same, is], fruitless, next⟩
    · rw [List.append_nil]
      exact begins
  obtain ⟨r, is, fruitless, -⟩ := run
  exact ⟨r, is, fruitless⟩

/-- From the moment at which an edition is stored until it has had its time, a rule that it has is on the shelf,
and whoever comes learns it at once, until a reader goes on who was about to drop the leaf of its anchor when the
edition was stored. From then on the rule is not on the shelf, and nobody who comes learns it. -/
theorem leaf_of_last_document {url : String} {lifetime : Nat} {front back : List Occasion} {before stored s : Scene}
    {n now : Nat} {fetched : Option Fetched} {e : Edition} {anchor text : String}
    (came : (opening url lifetime).play front = some before)
    (met : before.meet (.act n now fetched) = some stored) (stores : before.stored? n now = some e)
    (since : stored.play back = some s) (good : s.clock < e.storedAt + lifetime)
    (has : e.text? anchor = some text) :
    (¬ Dropped before anchor back →
      Keyed.get? anchor s.shelf.leaves = some ⟨text, e.storedAt + lifetime⟩ ∧
        ∀ m now, s.reader? m = none → s.clock ≤ now → now < e.storedAt + lifetime →
          ∃ s', s.play [.arrival m anchor, .act m now none] = some s' ∧
            s'.reader? m = some (anchor, .finished (some text))) ∧
    (Dropped before anchor back →
      Keyed.get? anchor s.shelf.leaves = none ∧
        ∀ m rest s' answer, s.play (.arrival m anchor :: rest) = some s' → s'.clock < e.storedAt + lifetime →
          s'.reader? m = some (anchor, .finished answer) → answer = none) := by
  obtain ⟨a, document, isStoring, rfl⟩ := storing_of_stored? stores
  obtain ⟨b, r, r', acts⟩ := acts_of_meet met
  have was := acts.was
  rw [isStoring] at was
  cases was
  have lifetimes : before.shelf.lifetime = lifetime := lifetime_of_play came
  have sound : Sound before := (sound_opening url lifetime).play came
  have sofar := (Since.begin sound acts has).play since (by rw [lifetimes]; exact good)
  rw [List.nil_append] at sofar
  have same : s.shelf.lifetime = lifetime := sofar.lifetime.trans lifetimes
  constructor
  · intro notDropped
    have kept := sofar.kept notDropped
    rw [same] at kept
    refine ⟨kept, fun m t unknown onTime good => ?_⟩
    exact learns_at_once kept good unknown onTime
  · intro dropped
    refine ⟨sofar.lost dropped, fun m rest s' answer played good is => ?_⟩
    obtain ⟨q, is', fruitless⟩ := sofar.learns_nothing dropped played (by rw [lifetimes]; exact good)
    rw [is] at is'
    cases is'
    exact fruitless

/-! ### A leaf that is dropped too late -/

def fetching (n now : Nat) : List Occasion :=
  List.replicate 4 (.act n now none) ++ [.act n now (some (.ok guide))]

/-- A reader has fetched the guide. A lifetime later two readers find its leaf out of date, one after the other, and
the second one fetches the guide again. -/
def overtaking : List Occasion :=
  .arrival 0 "tabs" :: fetching 0 0 ++ List.replicate 4 (.act 0 0 none) ++
    [.arrival 1 "tabs", .act 1 12 none, .arrival 2 "tabs", .act 2 12 none] ++ fetching 2 12

/-- The second reader has stored the guide, and is done. -/
def served : List Occasion := List.replicate 3 (.act 2 12 none)

def late : List Occasion := served ++ [.act 1 12 none]

def newcomer : List Occasion := .arrival 3 "tabs" :: List.replicate 5 (.act 3 13 none)

private theorem overtaken :
    ∃ before stored s s' s'', (opening guideUrl 10).play overtaking = some before ∧
      before.meet (.act 2 12 none) = some stored ∧ stored.play served = some s ∧ stored.play late = some s' ∧
      s'.play newcomer = some s'' ∧ before.reader? 1 = some ("tabs", .dropping .first) ∧
      before.reader? 2 = some ("tabs", .storing guide) ∧ s.clock = 12 ∧ s'.clock = 12 ∧
      s'.edition = some ⟨guide, 12⟩ ∧ s'.shelf.refreshedAt = some 12 ∧
      Keyed.get? "tabs" s'.shelf.leaves = none ∧ s''.clock = 13 ∧ s''.reader? 3 = some ("tabs", .finished none) := by
  have run : ((opening guideUrl 10).play overtaking).any (fun before =>
      (before.meet (.act 2 12 none)).any fun stored => (stored.play served).any fun s =>
        (stored.play late).any fun s' => (s'.play newcomer).any fun s'' =>
          before.reader? 1 = some ("tabs", .dropping .first) ∧ before.reader? 2 = some ("tabs", .storing guide) ∧
            s.clock = 12 ∧ s'.clock = 12 ∧ s'.edition = some ⟨guide, 12⟩ ∧ s'.shelf.refreshedAt = some 12 ∧
            Keyed.get? "tabs" s'.shelf.leaves = none ∧ s''.clock = 13 ∧
            s''.reader? 3 = some ("tabs", .finished none)) = true := by decide +kernel
  obtain ⟨before, came, run⟩ := (Option.any_eq_true _ _).mp run
  obtain ⟨stored, met, run⟩ := (Option.any_eq_true _ _).mp run
  obtain ⟨s, since, run⟩ := (Option.any_eq_true _ _).mp run
  obtain ⟨s', since', run⟩ := (Option.any_eq_true _ _).mp run
  obtain ⟨s'', after, run⟩ := (Option.any_eq_true _ _).mp run
  exact ⟨before, stored, s, s', s'', came, met, since, since', after, of_decide_eq_true run⟩

/-- The leaf is there as long as the first reader waits, and is lost when he goes on. -/
theorem leaf_of_last_document_overtaken :
    ∃ before stored s s', (opening guideUrl 10).play overtaking = some before ∧
      before.meet (.act 2 12 none) = some stored ∧ stored.play served = some s ∧ stored.play late = some s' ∧
      Keyed.get? "tabs" s.shelf.leaves = some ⟨"use spaces", 22⟩ ∧ Keyed.get? "tabs" s'.shelf.leaves = none := by
  obtain ⟨before, stored, s, s', s'', came, met, since, since', -, isDropping, isStoring, clock, clock', -⟩ :=
    overtaken
  have stores : before.stored? 2 12 = some ⟨guide, 12⟩ := by
    rw [stored?, isStoring]
    rfl
  have has : Edition.text? ⟨guide, 12⟩ "tabs" = some "use spaces" := by decide
  refine ⟨before, stored, s, s', came, met, since, since', ?_, ?_⟩
  · have notDropped : ¬ Dropped before "tabs" served := by
      rintro ⟨m, t, f, look, isIn, was⟩
      cases List.eq_of_mem_replicate isIn
      rw [isStoring] at was
      cases was
    exact ((leaf_of_last_document came met stores since (by rw [clock]; decide) has).1 notDropped).1
  · have dropped : Dropped before "tabs" late :=
      ⟨1, 12, none, .first, List.mem_append_right _ List.mem_cons_self, isDropping⟩
    exact ((leaf_of_last_document came met stores since' (by rw [clock']; decide) has).2 dropped).1

/-- A rule of the last document can be lost from the shelf before the document has had its time, and a reader who
asks for it then is told that there is none. -/
theorem fresh_leaf_may_be_lost :
    (¬ ∀ (url : String) (lifetime : Nat) (all : List Occasion) (s : Scene) (e : Edition) (anchor text : String),
      (opening url lifetime).play all = some s → s.edition = some e → s.shelf.refreshedAt = some e.storedAt →
      s.clock < e.storedAt + lifetime → e.text? anchor = some text →
      ∃ leaf, Keyed.get? anchor s.shelf.leaves = some leaf ∧ s.clock < leaf.expiresAt) ∧
    ¬ ∀ (url : String) (lifetime : Nat) (all : List Occasion) (s : Scene) (e : Edition) (anchor text : String),
      (opening url lifetime).play all = some s → s.edition = some e → s.shelf.refreshedAt = some e.storedAt →
      s.clock < e.storedAt + lifetime → e.text? anchor = some text →
      ∀ (n : Nat) (rest : List Occasion) (s' : Scene) (answer : Option String),
        s.play (.arrival n anchor :: rest) = some s' → s'.clock < e.storedAt + lifetime →
        s'.reader? n = some (anchor, .finished answer) → answer = some text := by
  obtain ⟨before, stored, -, s', s'', came, met, -, since', after, isDropping, -, -, clock', last, stamped, absent,
    clock'', told⟩ := overtaken
  have has : Edition.text? ⟨guide, 12⟩ "tabs" = some "use spaces" := by decide
  have all : (opening guideUrl 10).play (overtaking ++ .act 2 12 none :: late) = some s' := by
    rw [play_append, came, Option.bind_some, play, met]
    exact since'
  constructor
  · intro always
    obtain ⟨leaf, found, -⟩ := always _ _ _ _ _ _ _ all last stamped (by rw [clock']; decide) has
    rw [absent] at found
    cases found
  · intro always
    have := always _ _ _ _ _ _ _ all last stamped (by rw [clock']; decide) has 3 _ s'' none after
      (by rw [clock'']; decide) told
    cases this

end Scene
end StyleGuide
end LintBridge

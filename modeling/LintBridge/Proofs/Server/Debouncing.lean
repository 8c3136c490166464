import LintBridge.Proofs.Server.Timers

/-!
Which edits are linted.

Many edits in a row are linted once, with the last text: when the timer of an edit runs out, the document is linted
only if it has not been opened, edited or closed since. The server compares nothing but versions then, so what is
opened or edited has to have a version of its own each time.
-/

set_option autoImplicit false
set_option relaxedAutoImplicit false

namespace LintBridge

namespace Documents

variable {ds ds' : Documents} {u : Url}

theorem Same.isLatest_eq (same : Same ds ds') (u : Url) (version : Int) :
    ds'.isLatest u version = ds.isLatest u version := by
  have read : ∀ all : Documents, all.isLatest u version =
      ((all.find? u).map fun d => { d with shown := [] }).any fun d => d.version == version := by
    intro all
    rw [Option.any_map]
    rfl
  rw [read, read, same u]

theorem buffer?_congr (same : ds'.find? u = ds.find? u) : ds'.buffer? u = ds.buffer? u := by
  unfold buffer?
  rw [same]

theorem exists_of_buffer? {b : Buffer} (isBuffer : ds.buffer? u = some b) :
    ∃ file d, u.filePath? = some file ∧ ds.find? u = some d ∧ b = ⟨some file, d.text, d.modified⟩ := by
  obtain ⟨file, located, -⟩ := file_of_buffer? isBuffer
  obtain ⟨d, found⟩ := Option.isSome_iff_exists.mp (isOpen_of_buffer? isBuffer)
  refine ⟨file, d, located, found, ?_⟩
  rw [buffer?_of_find? located found] at isBuffer
  exact (Option.some.inj isBuffer).symm

end Documents

namespace Server

/-! ### What messages do to an edit that waits -/

/-- The version and the text that an edit gives to a document. -/
def Demand.edit? (u : Url) : Demand → Option (Int × String)
  | .edited e => if e.url = u then e.texts.getLast?.map (e.version, ·) else none
  | _ => none

/-- The version with which a document is opened or edited. -/
def Demand.version? (u : Url) : Demand → Option Int
  | .opened d => if d.url = u then some d.version else none
  | .edited e => if e.url = u ∧ e.texts ≠ [] then some e.version else none
  | _ => none

/-- The versions with which a document has been opened and edited. -/
def versionsOf (u : Url) (asked : List (Nat × Demand)) : List Int := asked.filterMap fun p => p.2.version? u

/-- Whether nothing remains of an earlier edit of a document: it is opened, edited or closed. -/
def Demand.overtakes (u : Url) (d : Demand) : Bool := d.opens u || d.closes u

def Demand.saves (u : Url) : Demand → Bool
  | .saved v _ => v = u
  | _ => false

theorem isSome_version? (u : Url) (d : Demand) : (d.version? u).isSome = d.opens u := by
  cases d with
  | opened d =>
    by_cases same : d.url = u <;> simp [Demand.version?, Demand.opens, same]
  | edited e =>
    by_cases same : e.url = u ∧ e.texts ≠ [] <;> simp [Demand.version?, Demand.opens, same]
  | _ => rfl

theorem eq_of_edit? {d : Demand} {u : Url} {version : Int} {text : String} (edits : d.edit? u = some (version, text)) :
    ∃ e, d = .edited e ∧ e.url = u ∧ e.version = version ∧ e.texts.getLast? = some text := by
  cases d with
  | edited e =>
    by_cases same : e.url = u
    · have given : e.texts.getLast?.map (e.version, ·) = some (version, text) := by
        simpa only [Demand.edit?, if_pos same] using edits
      obtain ⟨last, isLast, eq⟩ := Option.map_eq_some_iff.mp given
      cases eq
      exact ⟨e, rfl, same, rfl, isLast⟩
    · simp [Demand.edit?, same] at edits
  | _ => cases edits

theorem version?_of_edit? {d : Demand} {u : Url} {version : Int} {text : String}
    (edits : d.edit? u = some (version, text)) : d.version? u = some version := by
  obtain ⟨e, rfl, same, rfl, last⟩ := eq_of_edit? edits
  have some : e.texts ≠ [] := List.ne_nil_of_mem (List.mem_of_getLast? last)
  exact if_pos ⟨same, some⟩

theorem overtakes_of_edit? {d : Demand} {u : Url} {edit : Int × String} (edits : d.edit? u = some edit) :
    d.overtakes u = true := by
  obtain ⟨version, text⟩ := edit
  have opens : d.opens u = true := by
    rw [← isSome_version?, version?_of_edit? edits]
    rfl
  rw [Demand.overtakes, opens, Bool.true_or]

theorem isLatest_amend (d : Demand) (u : Url) (version : Int) (ds : Documents) :
    (d.amend ds).isLatest u version =
      (d.version? u).elim (ds.isLatest u version && !d.closes u) (· == version) := by
  cases d with
  | opened d =>
    simp only [Demand.amend, Demand.version?, Demand.closes, Documents.isLatest, Documents.find?_opened]
    split <;> simp
  | edited e =>
    cases last : e.texts.getLast? with
    | none =>
      have none : e.texts = [] := List.getLast?_eq_none_iff.mp last
      simp [Demand.amend, Demand.version?, Demand.closes, Documents.isLatest, Documents.edited, none]
    | some text =>
      have some : e.texts ≠ [] := List.ne_nil_of_mem (List.mem_of_getLast? last)
      simp only [Demand.amend, Demand.version?, Demand.closes, Documents.isLatest,
        Documents.find?_edited _ _ _ _ _ _ last]
      by_cases same : e.url = u <;> simp [same, some]
  | saved v text =>
    simp only [Demand.amend, Demand.version?, Demand.closes, Documents.isLatest, Documents.find?_saved]
    split
    · rename_i same
      rw [same, Option.any_map]
      simp
    · simp
  | closed v =>
    simp only [Demand.amend, Demand.version?, Demand.closes, Documents.isLatest, Documents.find?_closed]
    split <;> simp_all
  | _ => simp [Demand.amend, Demand.version?, Demand.closes]

theorem find?_amend {d : Demand} {u : Url} (ds : Documents) (kept : d.overtakes u = false)
    (unsaved : d.saves u = false) : (d.amend ds).find? u = ds.find? u := by
  obtain ⟨unopened, unclosed⟩ := Bool.or_eq_false_iff.mp kept
  cases d with
  | opened d =>
    have other : d.url ≠ u := of_decide_eq_false unopened
    rw [Demand.amend, Documents.find?_opened, if_neg other]
  | edited e =>
    cases last : e.texts.getLast? with
    | none => simp only [Demand.amend, Documents.edited, last]
    | some text =>
      have other : e.url ≠ u := by
        intro same
        have none : e.texts = [] := by simpa [Demand.opens, same] using unopened
        rw [none] at last
        cases last
      rw [Demand.amend, Documents.find?_edited _ _ _ _ _ _ last, if_neg other]
  | saved v text =>
    have other : v ≠ u := of_decide_eq_false unsaved
    rw [Demand.amend, Documents.find?_saved, if_neg other]
  | closed v =>
    have other : v ≠ u := of_decide_eq_false unclosed
    rw [Demand.amend, Documents.find?_closed, if_neg other]
  | _ => rfl

theorem buffer?_amend {d : Demand} {u : Url} {ds : Documents} {b : Buffer} (kept : d.overtakes u = false)
    (isBuffer : ds.buffer? u = some b) :
    ∃ b', (d.amend ds).buffer? u = some b' ∧ b'.path = b.path ∧
      if d.saves u then b'.modified = false else b' = b := by
  cases saves : d.saves u with
  | false => exact ⟨b, (Documents.buffer?_congr (find?_amend ds kept saves)).trans isBuffer, rfl, rfl⟩
  | true =>
    obtain ⟨file, document, located, found, rfl⟩ := Documents.exists_of_buffer? isBuffer
    cases d with
    | saved v text =>
      obtain rfl : v = u := of_decide_eq_true saves
      have found' : ((Demand.saved v text).amend ds).find? v =
          some { document with text := text.getD document.text, modified := false } := by
        rw [Demand.amend, Documents.find?_saved, if_pos rfl, found, Option.map_some]
      exact ⟨_, Documents.buffer?_of_find? located found', rfl, rfl⟩
    | _ => cases saves

/-! ### Steps and histories -/

section
variable {s : Server} {u : Url} {version : Int} {text : String} {file : Path} {done : List (Nat × Deed)}

theorem isLatest_step (around : Surroundings) (e : Event)
    (others : ∀ d, s.demand? e = some d → d.version? u ≠ some version) :
    (s.step around e).server.documents.isLatest u version =
      (s.documents.isLatest u version && !(s.asks e).any fun p => p.2.overtakes u) := by
  rw [(frame_step around s e).same.isLatest_eq, amended, asks]
  cases asked : s.demand? e with
  | none => simp
  | some d =>
    have other := others d asked
    have opens := isSome_version? u d
    simp only [isLatest_amend, Option.toList_some, List.map_cons, List.map_nil, List.any_cons, List.any_nil,
      Demand.overtakes, ← opens]
    cases given : d.version? u with
    | none => simp
    | some v =>
      have different : v ≠ version := fun same => other (given.trans (congrArg some same))
      simp [different]

theorem isLatest_after (history : History)
    (others : ∀ m d, (m, d) ∈ s.demands history → d.version? u ≠ some version) :
    (s.after history).documents.isLatest u version =
      (s.documents.isLatest u version && !(s.demands history).any fun p => p.2.overtakes u) := by
  induction history generalizing s with
  | nil => simp [after, run, demands]
  | cons moment rest ih =>
    obtain ⟨around, e⟩ := moment
    have now := isLatest_step (s := s) around e fun d asked =>
      others s.next d (List.mem_append_left _ (mem_asks.mpr ⟨asked, rfl⟩))
    have later := ih fun m d isIn => others m d (List.mem_append_right _ isIn)
    rw [after_cons, later, now, demands, List.any_append, Bool.not_or, Bool.and_assoc]

/-- As long as nothing overtakes an edit, the document keeps its text, and its mark until it is saved. -/
theorem buffer?_after (history : History) {b : Buffer} (isBuffer : s.documents.buffer? u = some b)
    (kept : ((s.demands history).any fun p => p.2.overtakes u) = false) :
    ∃ b', (s.after history).documents.buffer? u = some b' ∧ b'.path = b.path ∧
      if (s.demands history).any (fun p => p.2.saves u) then b'.modified = false else b' = b := by
  induction history generalizing s b with
  | nil => exact ⟨b, isBuffer, rfl, rfl⟩
  | cons moment rest ih =>
    obtain ⟨around, e⟩ := moment
    rw [demands, List.any_append] at kept ⊢
    obtain ⟨keptNow, keptLater⟩ := Bool.or_eq_false_iff.mp kept
    have same := (frame_step around s e).same.buffer?_eq u
    have now : ∃ b', (s.step around e).server.documents.buffer? u = some b' ∧ b'.path = b.path ∧
        if (s.asks e).any (fun p => p.2.saves u) then b'.modified = false else b' = b := by
      rw [same, amended]
      rw [asks] at keptNow ⊢
      cases asked : s.demand? e with
      | none => exact ⟨b, isBuffer, rfl, rfl⟩
      | some d =>
        simp only [asked, Option.toList_some, List.map_cons, List.map_nil, List.any_cons, List.any_nil,
          Bool.or_false] at keptNow ⊢
        exact buffer?_amend keptNow isBuffer
    obtain ⟨b', isBuffer', path, mark⟩ := now
    obtain ⟨b'', isBuffer'', path', mark'⟩ := ih isBuffer' keptLater
    refine ⟨b'', isBuffer'', path'.trans path, ?_⟩
    cases savedLater : (s.step around e).server.demands rest |>.any fun p => p.2.saves u with
    | true =>
      rw [savedLater, if_pos rfl] at mark'
      rw [Bool.or_true, if_pos rfl]
      exact mark'
    | false =>
      rw [savedLater, if_neg (by simp)] at mark'
      rw [Bool.or_false, mark']
      exact mark

theorem awaits_of_edit (registered : Registered done s) (around : Surroundings) {e : Event} {d : Demand}
    (asked : s.demand? e = some d) (edits : d.edit? u = some (version, text)) (located : u.filePath? = some file) :
    let t := s.step around e
    (∃ due, Awaits s.next ⟨due, u, version⟩ t.server) ∧ lintsOf s.next (s.doneAt around e) = [] ∧
      t.server.documents.isLatest u version = true ∧ t.server.documents.buffer? u = some ⟨some file, text, true⟩ := by
  intro t
  obtain ⟨edit, rfl, rfl, rfl, last⟩ := eq_of_edit? edits
  have some : edit.texts.isEmpty = false :=
    List.isEmpty_eq_false_iff.mpr (List.ne_nil_of_mem (List.mem_of_getLast? last))
  obtain ⟨m, rfl, -, served⟩ := served_of_demand around asked
  have found := Documents.find?_edited edit.url edit.url edit.version edit.texts text s.documents last
  rw [if_pos rfl] at found
  simp only [t, doneAt, served, serve, some, Turn.quiet]
  refine ⟨⟨dueAfter around.clock, Nat.lt_succ_self _, ?_, registered.unstarted⟩, rfl, ?_,
    Documents.buffer?_of_find? located found⟩
  · change Keyed.get? s.next (s.timers ++ [(s.next, ⟨dueAfter around.clock, edit.url, edit.version⟩)]) = _
    rw [Keyed.get?_append, registered.untimed, Option.none_or, Keyed.get?, if_pos rfl]
  · change Documents.isLatest edit.url edit.version (s.documents.edited edit.url edit.version edit.texts) = true
    rw [Documents.isLatest, found]
    simp

end

/-! ### The lint of an edit -/

theorem versionsOf_append (u : Url) (first second : List (Nat × Demand)) :
    versionsOf u (first ++ second) = versionsOf u first ++ versionsOf u second := List.filterMap_append

theorem nodup_versionsOf {s : Server} {u : Url} {front back : History}
    (distinct : (versionsOf u (s.demands (front ++ back))).Nodup) : (versionsOf u (s.demands front)).Nodup := by
  rw [demands_append, versionsOf_append] at distinct
  exact (List.nodup_append.mp distinct).1

theorem mem_since {asked : List (Nat × Demand)} {n m : Nat} {d : Demand} (isIn : (m, d) ∈ asked) (later : n < m) :
    d ∈ since n asked :=
  List.mem_map.mpr ⟨(m, d), List.mem_filter.mpr ⟨isIn, decide_eq_true later⟩, rfl⟩

/-- What has been linted for the edits of a document among some messages. -/
def editLints (u : Url) (asked : List (Nat × Demand)) (done : List (Nat × Deed)) :
    List (Url × Option Int × Buffer) :=
  asked.flatMap fun p => if (p.2.edit? u).isSome then lintsOf p.1 done else []

section
variable {u : Url} {file : Path} {n : Nat} {d : Demand} {version : Int} {text : String}

/-- The buffer that an edit is linted with: the edit's text, or the file, if the document has been saved since. -/
def ReadsEdit (u : Url) (file : Path) (text : String) (meanwhile : List Demand) (b : Buffer) : Prop :=
  b.path = some file ∧
    if meanwhile.any (Demand.saves u) then b.modified = false else b.text = text ∧ b.modified = true

private theorem others_of_distinct {s : Server} {front back : History} {around : Surroundings} {e : Event}
    (asked : (s.after front).demand? e = some d) (given : d.version? u = some version)
    (distinct : (versionsOf u (s.demands (front ++ (around, e) :: back))).Nodup) :
    ∀ m d', (m, d') ∈ ((s.after front).step around e).server.demands back → d'.version? u ≠ some version := by
  intro m d' isIn same
  have own : versionsOf u ((s.after front).asks e) = [version] := by simp [versionsOf, asks, asked, given]
  rw [demands_append, demands, versionsOf_append, versionsOf_append, own] at distinct
  have fromHere := (List.nodup_append.mp distinct).2.1
  exact (List.nodup_cons.mp fromHere).1 (List.mem_filterMap.mpr ⟨(m, d'), isIn, same⟩)

private theorem any_map_snd (test : Demand → Bool) (asked : List (Nat × Demand)) :
    (asked.map Prod.snd).any test = asked.any fun p => test p.2 := List.any_map

/-- As long as its timer runs, an edit is not linted; its version is the latest one until something overtakes it, and
until then the document has its text, or has been saved. -/
private theorem stands {before : History} (isIn : (n, d) ∈ fresh.demands before)
    (edits : d.edit? u = some (version, text)) (located : u.filePath? = some file)
    (distinct : (versionsOf u (fresh.demands before)).Nodup) (unfired : ∀ p ∈ before, p.2 ≠ .elapse n) :
    let now := fresh.after before
    let meanwhile := since n (fresh.demands before)
    (∃ due, Awaits n ⟨due, u, version⟩ now) ∧ lintsOf n (fresh.done before) = [] ∧
      now.documents.isLatest u version = !meanwhile.any (Demand.overtakes u) ∧
      (meanwhile.any (Demand.overtakes u) = false →
        ∃ b, now.documents.buffer? u = some b ∧ ReadsEdit u file text meanwhile b) := by
  obtain ⟨front, around, e, between, rfl, asked, rfl⟩ := exists_of_mem_demands isIn
  intro now meanwhile
  let begun := ((fresh.after front).step around e).server
  have registered := registered_after front
  have numbered' : Numbered begun := registered.numbered.step around e
  obtain ⟨⟨due, awaits⟩, noLint, latest, isBuffer⟩ := awaits_of_edit registered around asked edits located
  have unfiredLater : ∀ p ∈ between, p.2 ≠ .elapse (fresh.after front).next := fun p isIn =>
    unfired p (List.mem_append_right _ (List.mem_cons_of_mem _ isIn))
  obtain ⟨awaits', noLints⟩ := awaits.after numbered' between unfiredLater
  have latest' := isLatest_after between (others_of_distinct asked (version?_of_edit? edits) distinct)
  have since' : meanwhile = (begun.demands between).map Prod.snd := since_next asked
  rw [since', any_map_snd]
  have after' : now = begun.after between := after_append front _
  refine ⟨⟨due, after' ▸ awaits'⟩, ?_, ?_, ?_⟩
  · rw [done_append, done, lintsOf_append, lintsOf_append, registered.undone, noLint, noLints]
    rfl
  · rw [after', latest', latest, Bool.true_and]
  · intro kept
    obtain ⟨b, isBuffer', path, mark⟩ := buffer?_after between isBuffer kept
    refine ⟨b, after' ▸ isBuffer', path, ?_⟩
    rw [any_map_snd]
    cases saved : (begun.demands between).any fun p => p.2.saves u with
    | true =>
      rw [saved, if_pos rfl] at mark
      rw [if_pos rfl]
      exact mark
    | false =>
      rw [saved, if_neg (by simp)] at mark
      rw [if_neg (by simp), mark]
      exact ⟨rfl, rfl⟩

private theorem lintsOf_fired {before : History} (isIn : (n, d) ∈ fresh.demands before)
    (edits : d.edit? u = some (version, text)) (located : u.filePath? = some file)
    (distinct : (versionsOf u (fresh.demands before)).Nodup) (unfired : ∀ p ∈ before, p.2 ≠ .elapse n)
    (around : Surroundings) (rest : History) :
    let lints := lintsOf n (fresh.done (before ++ (around, .elapse n) :: rest))
    let meanwhile := since n (fresh.demands before)
    if meanwhile.any (Demand.overtakes u) then lints = []
    else ∃ b, lints = [(u, some version, b)] ∧ ReadsEdit u file text meanwhile b := by
  intro lints meanwhile
  obtain ⟨⟨due, awaits⟩, noLint, latest, kept⟩ := stands isIn edits located distinct unfired
  have numbered := numbered_after before
  have split : lints = lintsOf n ((fresh.after before).done ((around, .elapse n) :: rest)) := by
    simp only [lints, done_append, lintsOf_append, noLint, List.nil_append]
  rw [split]
  cases overtaken : meanwhile.any (Demand.overtakes u) with
  | true =>
    rw [if_pos rfl]
    have outdated : (fresh.after before).documents.isLatest u version = false := by rw [latest, overtaken]; rfl
    rw [awaits.elapse numbered (b := ⟨none, "", false⟩) (fun isLatest => by simp [outdated] at isLatest), outdated]
    rfl
  | false =>
    rw [if_neg (by simp)]
    have isLatest : (fresh.after before).documents.isLatest u version = true := by rw [latest, overtaken]; rfl
    obtain ⟨b, isBuffer, reads⟩ := kept overtaken
    refine ⟨b, ?_, reads⟩
    rw [awaits.elapse numbered (fun _ => isBuffer), isLatest]
    rfl

private theorem lints_of_started {history : History} {b : Buffer} {r : Request}
    (lints : lintsOf n (fresh.done history) = [(u, some version, b)])
    (started : (n, .start .awaited r) ∈ fresh.done history) : r.Lints b := by
  obtain ⟨b', ⟨v, version', begun⟩, lintsOther⟩ := begun_of_started started
  have isLint : (v, version', b') ∈ lintsOf n (fresh.done history) :=
    List.mem_filterMap.mpr ⟨(n, .lint v version' b'), begun, if_pos rfl⟩
  rw [lints] at isLint
  cases List.mem_singleton.mp isLint
  exact lintsOther

private theorem first_elapse (n : Nat) (history : History) :
    (∀ p ∈ history, p.2 ≠ .elapse n) ∨
      ∃ front around back, history = front ++ (around, .elapse n) :: back ∧ ∀ p ∈ front, p.2 ≠ .elapse n := by
  induction history with
  | nil => exact .inl fun p isIn => (List.not_mem_nil isIn).elim
  | cons moment rest ih =>
    obtain ⟨around, e⟩ := moment
    by_cases fires : e = .elapse n
    · subst fires
      exact .inr ⟨[], around, rest, rfl, fun p isIn => (List.not_mem_nil isIn).elim⟩
    · rcases ih with unfired | ⟨front, around', back, rfl, unfired⟩
      · exact .inl (List.forall_mem_cons.mpr ⟨fires, unfired⟩)
      · exact .inr ⟨(around, e) :: front, around', back, rfl, List.forall_mem_cons.mpr ⟨fires, unfired⟩⟩

private theorem lintsOf_overtaken {before rest : History} {m : Nat} {d' : Demand}
    (isIn : (n, d) ∈ fresh.demands before) (edits : d.edit? u = some (version, text))
    (located : u.filePath? = some file) (distinct : (versionsOf u (fresh.demands (before ++ rest))).Nodup)
    (unfired : ∀ p ∈ before, p.2 ≠ .elapse n) (isLater : (m, d') ∈ fresh.demands before) (later : n < m)
    (overtakes : d'.overtakes u = true) : lintsOf n (fresh.done (before ++ rest)) = [] := by
  rcases first_elapse n rest with never | ⟨front, around, back, rfl, unfiredLater⟩
  · -- The timer may still run in the end.
    have unfired' : ∀ p ∈ before ++ rest, p.2 ≠ .elapse n := List.forall_mem_append.mpr ⟨unfired, never⟩
    exact (stands (mem_demands_append isIn rest) edits located distinct unfired').2.1
  · have unfired' : ∀ p ∈ before ++ front, p.2 ≠ .elapse n := List.forall_mem_append.mpr ⟨unfired, unfiredLater⟩
    rw [← List.append_assoc] at distinct ⊢
    have lints := lintsOf_fired (mem_demands_append isIn front) edits located (nodup_versionsOf distinct) unfired'
      around back
    have isOvertaken : (since n (fresh.demands (before ++ front))).any (Demand.overtakes u) = true :=
      List.any_eq_true.mpr ⟨d', mem_since (mem_demands_append isLater front) later, overtakes⟩
    dsimp only at lints
    rwa [isOvertaken, if_pos rfl] at lints

theorem editLints_of_last {asked : List (Nat × Demand)} {done : List (Nat × Deed)}
    (increasing : asked.Pairwise fun p q => p.1 < q.1) (isIn : (n, d) ∈ asked)
    (edits : (d.edit? u).isSome = true) (last : ∀ m d', (m, d') ∈ asked → n < m → d'.edit? u = none)
    (unlinted : ∀ m d', (m, d') ∈ asked → (d'.edit? u).isSome = true → m < n → lintsOf m done = []) :
    editLints u asked done = lintsOf n done := by
  obtain ⟨earlier, later, rfl⟩ := List.append_of_mem isIn
  obtain ⟨-, fromHere, across⟩ := List.pairwise_append.mp increasing
  have before : editLints u earlier done = [] := by
    refine List.flatMap_eq_nil_iff.mpr ?_
    rintro ⟨m, d'⟩ isEarlier
    split
    · rename_i isEdit
      exact unlinted m d' (List.mem_append_left _ isEarlier) isEdit (across _ isEarlier _ List.mem_cons_self)
    · rfl
  have after : editLints u later done = [] := by
    refine List.flatMap_eq_nil_iff.mpr ?_
    rintro ⟨m, d'⟩ isLater
    have noEdit := last m d' (List.mem_append_right _ (List.mem_cons_of_mem _ isLater))
      ((List.pairwise_cons.mp fromHere).1 _ isLater)
    simp [noEdit]
  have itself : editLints u ((n, d) :: later) done = lintsOf n done ++ editLints u later done := by
    rw [editLints, List.flatMap_cons, if_pos edits]
    rfl
  have split : editLints u (earlier ++ (n, d) :: later) done =
      editLints u earlier done ++ editLints u ((n, d) :: later) done := List.flatMap_append
  rw [split, before, itself, after, List.append_nil, List.nil_append]

private theorem editLints_burst {front burst tail rest : History} {around : Surroundings}
    (isIn : (n, d) ∈ (fresh.after front).demands burst) (edits : d.edit? u = some (version, text))
    (located : u.filePath? = some file)
    (distinct : (versionsOf u (fresh.demands (front ++ burst ++ tail ++ (around, .elapse n) :: rest))).Nodup)
    (unfired : ∀ m d', (m, d') ∈ (fresh.after front).demands burst → (d'.edit? u).isSome = true →
      ∀ p ∈ front ++ burst, p.2 ≠ .elapse m)
    (unfiredTail : ∀ p ∈ tail, p.2 ≠ .elapse n)
    (quiet : ∀ d' ∈ since n (fresh.demands (front ++ burst ++ tail)), d'.overtakes u = false ∧ d'.saves u = false) :
    ∃ b, editLints u ((fresh.after front).demands burst)
          (fresh.done (front ++ burst ++ tail ++ (around, .elapse n) :: rest)) = [(u, some version, b)] ∧
        lintsOf n (fresh.done (front ++ burst ++ tail ++ (around, .elapse n) :: rest)) = [(u, some version, b)] ∧
        b.path = some file ∧ b.text = text ∧ b.modified = true := by
  have isEdit : (d.edit? u).isSome = true := by rw [edits, Option.isSome_some]
  have isAsked : ∀ {p}, p ∈ (fresh.after front).demands burst → p ∈ fresh.demands (front ++ burst) := by
    intro p isIn
    rw [demands_append]
    exact List.mem_append_right _ isIn
  have unlinted : ∀ m d', (m, d') ∈ (fresh.after front).demands burst → (d'.edit? u).isSome = true → m < n →
      lintsOf m (fresh.done (front ++ burst ++ tail ++ (around, .elapse n) :: rest)) = [] := by
    intro m d' isEarlier isEdit' earlier
    obtain ⟨⟨version', text'⟩, edits'⟩ := Option.isSome_iff_exists.mp isEdit'
    rw [List.append_assoc (front ++ burst)] at distinct ⊢
    exact lintsOf_overtaken (isAsked isEarlier) edits' located distinct (unfired m d' isEarlier isEdit')
      (isAsked isIn) earlier (overtakes_of_edit? edits)
  have last : ∀ m d', (m, d') ∈ (fresh.after front).demands burst → n < m → d'.edit? u = none := by
    intro m d' isLater later
    cases edits' : d'.edit? u with
    | none => rfl
    | some edit =>
      have kept := (quiet d' (mem_since (mem_demands_append (isAsked isLater) tail) later)).1
      cases kept.symm.trans (overtakes_of_edit? edits')
  have noneOf : ∀ test : Demand → Bool, (∀ d' ∈ since n (fresh.demands (front ++ burst ++ tail)), test d' = false) →
      (since n (fresh.demands (front ++ burst ++ tail))).any test = false := by
    intro test fails
    exact List.any_eq_false.mpr fun d' isSince => by rw [fails d' isSince]; exact Bool.false_ne_true
  have lints := lintsOf_fired (mem_demands_append (isAsked isIn) tail) edits located (nodup_versionsOf distinct)
    (List.forall_mem_append.mpr ⟨unfired n d isIn isEdit, unfiredTail⟩) around rest
  dsimp only at lints
  rw [noneOf _ fun d' isSince => (quiet d' isSince).1, if_neg Bool.false_ne_true] at lints
  obtain ⟨b, once, path, reads⟩ := lints
  rw [noneOf _ fun d' isSince => (quiet d' isSince).2, if_neg Bool.false_ne_true] at reads
  refine ⟨b, ?_, once, path, reads⟩
  rw [editLints_of_last (pairwise_demands _ burst) isIn isEdit last unlinted]
  exact once

end

/-- Let a document that is a file be opened and edited with another version each time. An edit of it is not linted
before its timer runs out. Then it is linted, once, and with its version, if the document has not been opened,
edited or closed since, and else never; the lint is for the edit's text, or for the file, if the document has been
saved since. So of many edits, all before the first of their timers runs out, only the last one is linted. -/
theorem edit_linted_unless_overtaken (u : Url) (file : Path) (located : u.filePath? = some file) :
    (∀ (before : History) (n : Nat) (d : Demand) (version : Int) (text : String),
      (n, d) ∈ fresh.demands before → d.edit? u = some (version, text) →
      (versionsOf u (fresh.demands before)).Nodup → (∀ p ∈ before, p.2 ≠ .elapse n) →
      lintsOf n (fresh.done before) = [] ∧
      ∀ (around : Surroundings) (rest : History),
        let meanwhile := since n (fresh.demands before)
        let done := fresh.done (before ++ (around, .elapse n) :: rest)
        if meanwhile.any (Demand.overtakes u) then lintsOf n done = []
        else ∃ b, lintsOf n done = [(u, some version, b)] ∧ ReadsEdit u file text meanwhile b ∧
          ∀ r, (n, .start .awaited r) ∈ done → r.Lints b) ∧
    ∀ (front burst tail rest : History) (around : Surroundings) (n : Nat) (d : Demand) (version : Int)
        (text : String),
      let asked := (fresh.after front).demands burst
      let before := front ++ burst ++ tail
      let whole := before ++ (around, .elapse n) :: rest
      (n, d) ∈ asked → d.edit? u = some (version, text) → (versionsOf u (fresh.demands whole)).Nodup →
      (∀ m d', (m, d') ∈ asked → (d'.edit? u).isSome = true → ∀ p ∈ front ++ burst, p.2 ≠ .elapse m) →
      (∀ p ∈ tail, p.2 ≠ .elapse n) →
      (∀ d' ∈ since n (fresh.demands before), d'.overtakes u = false ∧ d'.saves u = false) →
      ∃ b, editLints u asked (fresh.done whole) = [(u, some version, b)] ∧ b.path = some file ∧ b.text = text ∧
        b.modified = true ∧ ∀ r, (n, .start .awaited r) ∈ fresh.done whole → r.Lints b := by
  constructor
  · intro before n d version text isIn edits distinct unfired
    refine ⟨(stands isIn edits located distinct unfired).2.1, ?_⟩
    intro around rest meanwhile done
    have lints := lintsOf_fired isIn edits located distinct unfired around rest
    dsimp only at lints
    split
    · rename_i overtaken
      rwa [if_pos overtaken] at lints
    · rename_i kept
      rw [if_neg kept] at lints
      obtain ⟨b, once, reads⟩ := lints
      exact ⟨b, once, reads, fun r started => lints_of_started once started⟩
  · intro front burst tail rest around n d version text asked before whole isIn edits distinct unfired unfiredTail
      quiet
    obtain ⟨b, lints, own, path, reads, mark⟩ :=
      editLints_burst isIn edits located distinct unfired unfiredTail quiet
    exact ⟨b, lints, path, reads, mark, fun r started => lints_of_started own started⟩

/-! ### Two edits in a row -/

def Event.editingAgain : Event :=
  .notification "textDocument/didChange"
    [("textDocument", .ofMembers [("uri", address), ("version", .number (.integer 3))]),
      ("contentChanges", .array [.ofMembers [("text", .text "z")]])]

def openedFile : History := [(unbundled, .greeting), (unbundled, .opening)]

def editedTwice : History := [(unbundled, .editing), (unbundled, .editingAgain)]

def bothElapsed : History := openedFile ++ editedTwice ++ [(unbundled, .elapse 2)] ++ [(unbundled, .elapse 3)]

/-- The document is a file, which is edited twice; the second edit overtakes the first one, and nothing the
second. -/
def isEditedTwice (u : Url) : Bool :=
  let asked := (fresh.after openedFile).demands editedTwice
  let before := openedFile ++ editedTwice ++ [(unbundled, .elapse 2)]
  u.filePath?.isSome && asked.any (fun p => p.1 = 2 && p.2.edit? u = some (2, "y")) &&
    asked.any (fun p => p.1 = 3 && p.2.edit? u = some (3, "z")) &&
    versionsOf u (fresh.demands bothElapsed) = [1, 2, 3] &&
    (since 2 (fresh.demands (openedFile ++ editedTwice))).any (Demand.overtakes u) &&
    (since 3 (fresh.demands before)).all fun d => !d.overtakes u && !d.saves u

private theorem exists_edit {u : Url} {asked : List (Nat × Demand)} {n : Nat} {edit : Int × String}
    (edited : (asked.any fun p => p.1 = n && p.2.edit? u = some edit) = true) :
    ∃ d, (n, d) ∈ asked ∧ d.edit? u = some edit := by
  obtain ⟨⟨m, d⟩, isIn, both⟩ := List.any_eq_true.mp edited
  obtain ⟨same, edits⟩ := Bool.and_eq_true_iff.mp both
  obtain rfl : m = n := of_decide_eq_true same
  exact ⟨d, isIn, of_decide_eq_true edits⟩

private theorem started_bothElapsed : (3, .start .awaited (lintingEdit "z")) ∈ fresh.done bothElapsed := by
  have started : .start .awaited (lintingEdit "z") ∈
      ((fresh.after (openedFile ++ editedTwice ++ [(unbundled, .elapse 2)])).step unbundled (.elapse 3)).deeds :=
    mem_of_starts (by decide +kernel)
  rw [bothElapsed, done_append, done, done, List.append_nil]
  exact List.mem_append_right _ (List.mem_map_of_mem started)

/-- Of the two edits only the second one is linted, once. -/
theorem edit_linted_unless_overtaken_twice :
    ∃ u b, lintsOf 2 (fresh.done bothElapsed) = [] ∧
      editLints u ((fresh.after openedFile).demands editedTwice) (fresh.done bothElapsed) = [(u, some 3, b)] ∧
      b.text = "z" ∧ b.modified = true ∧ (3, .start .awaited (lintingEdit "z")) ∈ fresh.done bothElapsed ∧
      (lintingEdit "z").Lints b := by
  have twice : ((Url.parse "file:///a.rb").toOption.any isEditedTwice) = true := by decide +kernel
  obtain ⟨u, -, twice⟩ := (Option.any_eq_true _ _).mp twice
  simp only [isEditedTwice, Bool.and_eq_true, decide_eq_true_eq] at twice
  obtain ⟨⟨⟨⟨⟨located, first⟩, second⟩, versions⟩, overtaken⟩, quiet⟩ := twice
  obtain ⟨file, located⟩ := Option.isSome_iff_exists.mp located
  obtain ⟨d, isIn, edits⟩ := exists_edit (by simpa using first)
  obtain ⟨d', isIn', edits'⟩ := exists_edit (by simpa using second)
  have distinct : (versionsOf u (fresh.demands bothElapsed)).Nodup := by
    rw [versions]
    decide
  have unfired : ∀ m, ∀ p ∈ openedFile ++ editedTwice, p.2 ≠ .elapse m := by
    intro m
    simp [openedFile, editedTwice, Event.greeting, Event.opening, Event.editing, Event.editingAgain, Event.request,
      Event.notification]
  have known : ∀ p ∈ (fresh.after openedFile).demands editedTwice, p ∈ fresh.demands (openedFile ++ editedTwice) := by
    intro p isIn
    rw [demands_append]
    exact List.mem_append_right _ isIn
  obtain ⟨each, burst⟩ := edit_linted_unless_overtaken u file located
  have distinct' : (versionsOf u (fresh.demands (openedFile ++ editedTwice))).Nodup :=
    nodup_versionsOf (nodup_versionsOf distinct)
  obtain ⟨-, fired⟩ := each (openedFile ++ editedTwice) 2 d 2 "y" (known _ isIn) edits distinct' (unfired 2)
  have unlinted := fired unbundled [(unbundled, .elapse 3)]
  dsimp only at unlinted
  rw [overtaken, if_pos rfl] at unlinted
  obtain ⟨b, once, -, text, modified, runs⟩ := burst openedFile editedTwice [(unbundled, .elapse 2)] [] unbundled 3 d' 3
    "z" isIn' edits' distinct (fun m _ _ _ => unfired m) (by simp) (by simpa using quiet)
  refine ⟨u, b, ?_, once, text, modified, started_bothElapsed, runs _ started_bothElapsed⟩
  rw [bothElapsed, List.append_assoc (openedFile ++ editedTwice)]
  exact unlinted

end Server
end LintBridge

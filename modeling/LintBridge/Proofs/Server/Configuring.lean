import LintBridge.Proofs.Server.Records
import LintBridge.Proofs.Server.Relinting
import LintBridge.Proofs.Server.Seeking
import LintBridge.Proofs.Server.Settings

/-!
New settings change everything or nothing.

Settings without a section for the server, with one that is no configuration, or with the configuration that holds
already, change nothing at all. Others put theirs in the place of the old one, and every open document that is a file
is linted once, in the order in which the documents happen to be listed. The lints share what is looked up and the keys
of their runs, and still what is published for a document does not depend on the order
(`settings_change_all_or_nothing`): it is what the tool finds in that document under the new configuration.
-/

set_option autoImplicit false
set_option relaxedAutoImplicit false

namespace LintBridge.Server

open Json (lookupMember)

section
variable {s : Server} {around : Surroundings} {e : Event} {settings : Json.Value}

/-- No lint and no correction is under way, and no edit waits for its time. A correction counts as a lint, since it
goes on to one. -/
def Idle (s : Server) : Prop := s.timers = [] ∧ ∀ n j, Keyed.get? n s.jobs = some j → j.work.isHover = true

def relint (s : Server) (w : World) (c : Config) : Relint :=
  ⟨w, { s.linter with config := c }, s.documents, s.next⟩

private theorem configIn?_eq_some_iff {c : Config} : configIn? settings = some c ↔
    ∃ v, settings.get? settingsSection = some v ∧ Config.shape.fromValue v = .ok c := by
  have read : ∀ v, (Config.shape.fromValue v).toOption = some c ↔ Config.shape.fromValue v = .ok c := by
    intro v
    cases Config.shape.fromValue v <;> simp [Except.toOption]
  rw [configIn?, Option.bind_eq_some_iff]
  simp only [read]

private theorem served_of_configured (around : Surroundings) (asked : s.demand? e = some (.configured settings)) :
    s.phase = .initialized ∧
      s.step around e = serve around s.next false (.configured settings) { s with next := s.next + 1 } := by
  obtain ⟨m, rfl, taken, served⟩ := served_of_demand around asked
  obtain ⟨phase, phase', notification⟩ := initialized_of_service taken rfl
  refine ⟨phase, ?_⟩
  rw [served, phase', notification, ← phase]

private theorem step_of_unchanged (around : Surroundings) (asked : s.demand? e = some (.configured settings))
    (unstarted : Keyed.get? s.next s.jobs = none)
    (same : ∀ c, configIn? settings = some c → c = s.linter.config) :
    s.step around e = .quiet { s with next := s.next + 1 } := by
  have unchanged : { s with next := s.next + 1 }.configured? settings = none := by
    refine Option.eq_none_iff_forall_ne_some.mpr fun s' changed => ?_
    obtain ⟨c, given, other, -⟩ := configured?_eq_some_iff.mp changed
    exact other (same c given)
  rw [(served_of_configured around asked).2]
  simp only [serve, unchanged, conclude, Keyed.erase_of_get?_eq_none unstarted]
  rfl

private theorem step_of_changed (around : Surroundings) (asked : s.demand? e = some (.configured settings)) {c : Config}
    (given : configIn? settings = some c) (other : c ≠ s.linter.config) :
    s.step around e = lintAll around s.next false (Keyed.keys s.documents)
      { s with linter := { s.linter with config := c }, next := s.next + 1 } := by
  have changed : { s with next := s.next + 1 }.configured? settings =
      some { s with linter := { s.linter with config := c }, next := s.next + 1 } :=
    configured?_eq_some_iff.mpr ⟨c, given, other, rfl⟩
  rw [(served_of_configured around asked).2]
  simp only [serve, changed]

/-! ### The configuration -/

private theorem config_afterLint {n : Nat} {u : Url} {version : Option Int} {later : List Url} {goOn : Server → Turn}
    {p : Progress Analysis} {c : Config} (config : p.linter.config = c)
    (rest : ∀ s' : Server, s'.linter.config = c → (goOn s').server.linter.config = c) (s : Server) :
    (afterLint n false u version later goOn p s).server.linter.config = c := by
  simp only [afterLint, Turn.andThen, perform]
  split
  · refine rest _ ?_
    unfold present
    split
    · exact config
    · split
      · exact config
      · exact config
  · exact config

private theorem config_lintAll (around : Surroundings) (n : Nat) (urls : List Url) (s : Server) :
    (lintAll around n false urls s).server.linter.config = s.linter.config := by
  have rest : ∀ (c : Config) (s : Server), s.linter.config = c →
      (lintAll around n false urls s).server.linter.config = c := by
    intro c
    induction urls with
    | nil => exact fun _ config => config
    | cons u later ih =>
      intro s config
      unfold lintAll
      split
      · exact ih s config
      · exact config_afterLint ((Analysis.becomes_start around _ s.linter).config.trans config) ih s
  exact rest _ s rfl

/-! ### What becomes of the documents -/

private theorem filter_flatMap {β : Type} {make : Url → List (Url × β)} (own : ∀ v, ∀ p ∈ make v, p.1 = v)
    {urls : List Url} (nodup : urls.Nodup) (u : Url) :
    (urls.flatMap make).filter (fun p => p.1 = u) = if u ∈ urls then make u else [] := by
  induction urls with
  | nil => rfl
  | cons v later ih =>
    obtain ⟨absent, nodup⟩ := List.nodup_cons.mp nodup
    rw [List.flatMap_cons, List.filter_append, ih nodup]
    by_cases same : v = u
    · subst same
      have all : (make v).filter (fun p => p.1 = v) = make v :=
        List.filter_eq_self.mpr fun p isIn => decide_eq_true (own v p isIn)
      rw [all, if_neg absent, if_pos List.mem_cons_self, List.append_nil]
    · have nothing : (make v).filter (fun p => p.1 = u) = [] := by
        refine List.filter_eq_nil_iff.mpr fun p isIn => ?_
        rw [own v p isIn]
        simp [same]
      rw [nothing, List.nil_append]
      simp [Ne.symm same]

private theorem once_of_done {r : Relint} {order : Documents} {deeds : List Deed}
    (distinct : (Keyed.keys r.documents).Nodup) (perm : order.Perm r.documents)
    (published : publications deeds = (Keyed.keys order).flatMap r.worth)
    (begun : lintsIn deeds = (Keyed.keys order).flatMap r.lintOf) (u : Url) :
    (lintsIn deeds).filter (fun l => l.1 = u) = r.lintOf u ∧
      (publications deeds).filter (fun p => p.1 = u) = r.worth u := by
  have nodup : (Keyed.keys order).Nodup := (perm.map Prod.fst).nodup_iff.mpr distinct
  have lintOf : ∀ v, ∀ p ∈ r.lintOf v, p.1 = v := by
    intro v p isIn
    obtain ⟨b, -, rfl⟩ := List.mem_map.mp isIn
    rfl
  have worth : ∀ v, ∀ p ∈ r.worth v, p.1 = v := by
    intro v p isIn
    obtain ⟨shown, -, rfl⟩ := List.mem_map.mp isIn
    rfl
  rw [begun, published, filter_flatMap lintOf nodup, filter_flatMap worth nodup]
  by_cases isIn : u ∈ Keyed.keys order
  · rw [if_pos isIn, if_pos isIn]
    exact ⟨rfl, rfl⟩
  · -- A document that is not listed is not open.
    have unfound : r.documents.find? u = none := by
      have same := Keyed.get?_perm perm nodup u
      rw [Keyed.get?_eq_none_of_not_mem_keys isIn] at same
      exact same.symm
    have unstored : r.documents.buffer? u = none := by
      cases stored : r.documents.buffer? u with
      | none => rfl
      | some b =>
        have isOpen := Documents.isOpen_of_buffer? stored
        rw [Documents.isOpen, unfound] at isOpen
        cases isOpen
    rw [if_neg isIn, if_neg isIn]
    simp [Relint.lintOf, Relint.worth, unstored]

private theorem stands_of_changed (seeks : Seeks s) (idle : s.Idle) {w : World} (shows : w.Shows around)
    (alike : w.Alike s.linter.bundles (s.documents.dirs s.linter)) (asked : s.demand? e = some (.configured settings))
    {c : Config} (given : configIn? settings = some c) (other : c ≠ s.linter.config) {order : Documents}
    (perm : order.Perm s.documents) :
    let t := { s with documents := order }.step around e
    (s.relint w c).Stands (Keyed.keys order) (2 * (Keyed.keys order).length) t.deeds t.server ∧
      Alone s.next t.server := by
  intro t
  have begins : t = lintAll around s.next false (Keyed.keys order)
      { s with documents := order, linter := { s.linter with config := c }, next := s.next + 1 } :=
    step_of_changed (s := { s with documents := order }) around asked given other
  have nodup : (Keyed.keys order).Nodup := (perm.map Prod.fst).nodup_iff.mpr seeks.distinct
  have speaks : s.phase.speaks = true := by
    rw [(served_of_configured around asked).1]
    rfl
  have same : s.documents.Same order := by
    intro u
    rw [Documents.find?, Keyed.get?_perm perm nodup u]
    rfl
  -- A hover looks no directory up, so every answer that has been sought is known by now.
  have unsought : ∀ k, s.linter.bundles.answer k ≠ .sought := by
    refine seeks.unsought fun m => ?_
    cases found : Keyed.get? m s.jobs with
    | none => rw [inquiryOf?, found]; rfl
    | some j =>
      have isHover := idle.2 m j found
      rw [inquiryOf?, found, Option.bind_some]
      obtain ⟨isRequest, work⟩ := j
      cases work <;> first | rfl | cases isHover
  have alike' : (s.relint w c).world.Alike (s.relint w c).linter.bundles (s.relint w c).dirs := alike
  rw [begins]
  generalize amended :
    ({ s with documents := order, linter := { s.linter with config := c }, next := s.next + 1 } : Server) = s'
  have alone : Alone s.next s' := amended ▸ ⟨idle.1, fun m j _ found => idle.2 m j found⟩
  have ready : (s.relint w c).Ready s' := amended ▸ ⟨speaks, same, rfl, rfl, seeks.sound, unsought, fun _ _ => rfl⟩
  exact ⟨Relint.stands_opening alike' shows ready (Keyed.keys order), alone.of_part (part_lintAll _ _)⟩

end

/-! ### All or nothing -/

/-- Settings without a section, with one that cannot be read or with the configuration that holds already change
nothing, start nothing and publish nothing. From others the configuration is what their section says, and the default
where it says nothing.

If nothing else is under way and no message comes, in a world that stays as it is, then the order in which the documents
are listed makes no difference: the work comes to its end, and by then every document that is a file has been linted
once, and what the tool finds in it under the new configuration has been published for it, once. -/
theorem settings_change_all_or_nothing (front : History) (around : Surroundings) (e : Event) (settings : Json.Value)
    (asked : (fresh.after front).demand? e = some (.configured settings)) :
    let s := fresh.after front
    ((∀ v c, settings.get? settingsSection = some v → Config.shape.fromValue v = .ok c → c = s.linter.config) →
      s.step around e = .quiet { s with next := s.next + 1 }) ∧
    ∀ v c, settings.get? settingsSection = some v → Config.shape.fromValue v = .ok c → c ≠ s.linter.config →
      (s.step around e).server.linter.config = c ∧
      (∀ key, c.toJson.get? key = (Config.default.toJson.get? key).map fun d =>
        (lookupMember key (Config.sectionMembers v).reverse).getD d) ∧
      ∀ w : World, s.Idle → w.Shows around → w.Alike s.linter.bundles (s.documents.dirs s.linter) →
        ∀ order : Documents, order.Perm s.documents →
          let begun := { s with documents := order }.step around e
          ∀ since, Follows w s.next begun.deeds begun.server since →
            let now := begun.server.after since
            let deeds := begun.deeds ++ begun.server.deedsIn since
            now.linter.config = c ∧
            (∃ more, Follows w s.next begun.deeds begun.server (since ++ more) ∧
              Keyed.get? s.next (begun.server.after (since ++ more)).jobs = none) ∧
            (Keyed.get? s.next now.jobs = none → ∀ u,
              (lintsIn deeds).filter (fun l => l.1 = u) = (s.documents.buffer? u).toList.map (fun b => (u, none, b)) ∧
              (publications deeds).filter (fun p => p.1 = u) =
                ((s.documents.buffer? u).bind (w.finding { s.linter with config := c })).toList.map
                  fun shown => (u, shown, none)) := by
  intro s
  have orderly := orderly_after front
  have unstarted := orderly.registered.unstarted
  have seeks : Seeks s := by
    refine orderly.seeks fun exited => ?_
    rw [(served_of_configured around asked).1] at exited
    cases exited
  refine ⟨fun same => ?_, fun v c inSection decoded other => ?_⟩
  · refine step_of_unchanged around asked unstarted fun c given => ?_
    obtain ⟨v, inSection, decoded⟩ := configIn?_eq_some_iff.mp given
    exact same v c inSection decoded
  have given : configIn? settings = some c := configIn?_eq_some_iff.mpr ⟨v, inSection, decoded⟩
  refine ⟨?_, Config.get?_toJson_of_read decoded, ?_⟩
  · rw [step_of_changed around asked given other, config_lintAll]
  intro w idle shows alike order perm begun since follows now deeds
  obtain ⟨atFirst, alone⟩ := stands_of_changed seeks idle shows alike asked given other perm
  obtain ⟨stands, -⟩ := atFirst.after alone alike follows
  refine ⟨stands.config, ?_, fun isOver u => ?_⟩
  · obtain ⟨more, goesOn, isOver⟩ := stands.exists_end alike shows
    refine ⟨more, (follows_append since more).mpr ⟨follows, goesOn⟩, ?_⟩
    rw [after_append]
    exact isOver
  · cases stands with
    | done _ _ published begun => exact once_of_done seeks.distinct perm published begun u
    | underway _ _ _ _ _ _ _ _ _ _ found => cases isOver.symm.trans found

/-! ### New settings for two documents -/

def bothOpened : History :=
  complained ++ [(unbundled, .openingOther),
    (unbundled, .signal 2 (.programEnded (.output ⟨"", "no such option", some 2⟩)))]

def Event.configuring (v : Json.Value) : Event :=
  .notification "workspace/didChangeConfiguration" [("settings", .ofMembers [(settingsSection, v)])]

/-- The tool goes on to complain, and there is no Gemfile. -/
def complaining : World where
  files := unbundled.files
  startFault := unbundled.startFault
  probe _ := false
  ending _ := .output ⟨"", "no such option", some 2⟩
  unstopped _ := by simp

def Demand.settings? : Demand → Option Json.Value
  | .configured settings => some settings
  | _ => none

private theorem exists_settings {s : Server} {e : Event} {found : Option Config}
    (finds : ((s.demand? e).any fun d => d.settings?.any fun settings => configIn? settings = found) = true) :
    ∃ settings, s.demand? e = some (.configured settings) ∧ configIn? settings = found := by
  obtain ⟨d, isDemand, finds⟩ := (Option.any_eq_true _ _).mp finds
  obtain ⟨settings, configures, finds⟩ := (Option.any_eq_true _ _).mp finds
  cases d with
  | configured given =>
    cases configures
    exact ⟨settings, isDemand, of_decide_eq_true finds⟩
  | _ => cases configures

private theorem idle_bothOpened : (fresh.after bothOpened).Idle := by
  have jobless : (fresh.after bothOpened).jobs.isEmpty = true := by decide +kernel
  have untimed : (fresh.after bothOpened).timers.isEmpty = true := by decide +kernel
  refine ⟨List.isEmpty_iff.mp untimed, fun n j found => ?_⟩
  rw [List.isEmpty_iff.mp jobless] at found
  cases found

/-- A section that is no configuration changes nothing. One that says how long to wait has both documents linted once,
in either order, and each of them has its complaint published once. -/
theorem settings_change_all_or_nothing_bothOpened :
    let s := fresh.after bothOpened
    let c := { Config.default with timeoutMs := 500 }
    s.step unbundled (.configuring (.number (.integer 500))) = .quiet { s with next := s.next + 1 } ∧
    s.documents.length = 2 ∧ ∀ order, order.Perm s.documents →
      let begun := { s with documents := order }.step unbundled
        (.configuring (.ofMembers [("timeoutMs", .number (.integer 500))]))
      ∃ since,
        let deeds := begun.deeds ++ begun.server.deedsIn since
        (begun.server.after since).linter.config = c ∧
        ∀ u ∈ Keyed.keys s.documents, ∃ b shown, shown ≠ [] ∧
          (lintsIn deeds).filter (fun l => l.1 = u) = [(u, none, b)] ∧
          (publications deeds).filter (fun p => p.1 = u) = [(u, shown, none)] := by
  intro s c
  refine ⟨?_, by decide +kernel, fun order perm => ?_⟩
  · obtain ⟨settings, asked, unread⟩ :=
      @exists_settings s (.configuring (.number (.integer 500))) none (by decide +kernel)
    refine (settings_change_all_or_nothing bothOpened unbundled _ settings asked).1 fun v c inSection decoded => ?_
    cases unread.symm.trans (configIn?_eq_some_iff.mpr ⟨v, inSection, decoded⟩)
  obtain ⟨settings, asked, given⟩ :=
    @exists_settings s (.configuring (.ofMembers [("timeoutMs", .number (.integer 500))])) (some c) (by decide +kernel)
  obtain ⟨v, inSection, decoded⟩ := configIn?_eq_some_iff.mp given
  have other : c ≠ s.linter.config := by decide +kernel
  have alike : complaining.Alike s.linter.bundles (s.documents.dirs s.linter) := by
    intro _ _ _ _ _
    simp [World.bundled, complaining]
  have both := settings_change_all_or_nothing bothOpened unbundled _ settings asked
  obtain ⟨-, -, changes⟩ := both.2 v c inSection decoded other
  have each := changes complaining idle_bothOpened ⟨rfl, rfl⟩ alike order perm
  obtain ⟨-, ⟨more, follows, isOver⟩, -⟩ := each [] trivial
  obtain ⟨config, -, once⟩ := each more follows
  refine ⟨more, config, fun u isIn => ?_⟩
  have found : (Keyed.keys s.documents).all (fun u => (s.documents.buffer? u).any fun b =>
      (complaining.finding { s.linter with config := c } b).any fun shown => !shown.isEmpty) = true := by
    decide +kernel
  obtain ⟨b, stored, found⟩ := (Option.any_eq_true _ _).mp (List.all_eq_true.mp found u isIn)
  obtain ⟨shown, worth, some⟩ := (Option.any_eq_true _ _).mp found
  obtain ⟨lints, published⟩ := once isOver u
  refine ⟨b, shown, by simpa using some, ?_, ?_⟩
  · rw [lints, stored]
    rfl
  · rw [published, stored, Option.bind_some, worth]
    rfl

end LintBridge.Server

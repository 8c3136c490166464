import LintBridge.Proofs.Linter.Tickets
import LintBridge.Proofs.Process.Mirrored

/-!
What the runs of one key notice of all others: nothing.

A schedule from which the steps of all other runs are taken out goes through as well, and the runs of the key
fare there as they did. A run without a key goes its way without the registry. Analyses of different files have
different keys.
-/

set_option autoImplicit false
set_option relaxedAutoImplicit false

namespace LintBridge
namespace Crowd

section
variable {keys : List (Option String)} {c c' d : Crowd} {n : Nat} {m : Move} {sent : List Notice}

private def Keep (keys : List (Option String)) (c : Crowd) : Prop := ∀ n, (c.run? n).map Prod.fst = keys[n]?

private theorem Keep.step (keep : Keep keys c) (h : c.step n m = some (c', sent)) : Keep keys c' := by
  obtain ⟨key, stage, stage', found, -, put⟩ := step_cases h
  intro k
  have before := keep k
  rw [run?_put put]
  split
  · rename_i same
    rw [same] at found
    rw [found] at before
    exact before
  · exact before

private theorem keep_ofKeys (keys : List (Option String)) : Keep keys (ofKeys keys) := by
  intro n
  rw [run?_ofKeys]
  cases keys[n]? <;> rfl

private theorem Keep.found {key : Option String} (keep : Keep keys c) (keyed : keys[n]? = some key) :
    ∃ stage, c.run? n = some (key, stage) := by
  have has := keep n
  rw [keyed] at has
  obtain ⟨⟨key', stage⟩, found, rfl⟩ := Option.map_eq_some_iff.mp has
  exact ⟨stage, found⟩

private theorem advance_keyless {r r' : Registry} {stage stage' : Stage} (fits : stage.Fits none)
    (h : stage.advance none r m = some (stage', r', sent)) :
    r' = r ∧ ∀ q, stage.advance none q m = some (stage', q, sent) := by
  cases stage with
  | fresh =>
    cases m <;> cases h
    exact ⟨rfl, fun q => rfl⟩
  | underway ticket =>
    cases ticket with
    | some t => cases fits
    | none =>
      cases m with
      | proceed => cases h
      | finish e =>
        simp only [Stage.advance] at h ⊢
        split at h
        · cases h
        · rename_i allowed
          cases h
          exact ⟨rfl, fun q => if_neg allowed⟩
  | returned result => cases m <;> cases h
  | drawn token => cases fits
  | entered token previous => cases fits
  | ended t e => cases fits
  | judged t result => cases fits

private def Paired (n : Nat) (c d : Crowd) : Prop :=
  ∃ stage, stage.Fits none ∧ c.run? n = some (none, stage) ∧ d.run? n = some (none, stage)

private theorem Paired.step (paired : Paired n c d) (h : c.step n m = some (c', sent)) :
    c'.registry = c.registry ∧ ∃ d', d.step n m = some (d', sent) ∧ Paired n c' d' := by
  obtain ⟨stage, fits, found, found'⟩ := paired
  obtain ⟨key₁, stage₁, stage', found₁, advanced, put⟩ := advance_of_step h
  rw [found] at found₁
  cases found₁
  obtain ⟨same, anywhere⟩ := advance_keyless fits advanced
  refine ⟨same, _, step_of_advance found' (anywhere d.registry), stage',
    (Stage.advance_cases advanced).fits fits, ?_, ?_⟩
  · rw [run?_put put, if_pos rfl]
  · rw [run?_put rfl, if_pos rfl]

private theorem Paired.stays {k : Nat} (paired : Paired n c d) (other : k ≠ n) (h : c.step k m = some (c', sent)) :
    Paired n c' d := by
  obtain ⟨stage, fits, found, found'⟩ := paired
  obtain ⟨key₁, stage₁, stage', -, -, put⟩ := step_cases h
  exact ⟨stage, fits, by rw [run?_put put, if_neg other, found], found'⟩

private theorem result?_eq_of_run? {key : Option String} {stage stage' : Stage} (found : c.run? n = some (key, stage))
    (found' : d.run? n = some (key, stage'))
    (same : ∀ result, stage' = .returned result ↔ stage = .returned result) : d.result? n = c.result? n := by
  have found : Keyed.get? n c.runs = some (key, stage) := found
  have found' : Keyed.get? n d.runs = some (key, stage') := found'
  rw [result?, result?, found, found']
  cases stage with
  | returned result => rw [(same result).mpr rfl]
  | _ =>
    cases stage' with
    | returned result => cases (same result).mp rfl
    | _ => rfl

end

def hasKey (keys : List (Option String)) (key : String) (n : Nat) : Bool := keys[n]? == some (some key)

def Owns (c : Crowd) (n : Nat) (key : String) : Prop :=
  ∃ token, c.drawn? n = some token ∧ c.registry.owner? key = some token

/-- Without the steps of all runs but the chosen ones, the schedule goes through to `d`: the chosen runs send the
notices and have the results that they send and have in `c`, where the whole schedule leads. -/
def SameWithout (keys : List (Option String)) (schedule : List (Nat × Move)) (chosen : Nat → Bool) (c : Crowd)
    (notices : List (Nat × Notice)) (d : Crowd) : Prop :=
  (ofKeys keys).play (schedule.filter fun p => chosen p.1) = some (d, notices.filter fun p => chosen p.1) ∧
    ∀ n, chosen n = true → d.result? n = c.result? n

section
variable {keys : List (Option String)} {schedule : List (Nat × Move)} {c : Crowd} {notices : List (Nat × Notice)}

private theorem mirrored_without (few : keys.countP Option.isSome < UInt64.size)
    (played : (ofKeys keys).play schedule = some (c, notices)) (key : String) :
    ∃ d mine f, SameWithout keys schedule (hasKey keys key) c notices d ∧ Mirrored key mine f c d ∧ Keep keys c := by
  obtain ⟨d, played', ⟨mine, f, mirrored⟩, keep⟩ := play_filter (hasKey keys key)
    (fun c d => (∃ mine f, Mirrored key mine f c d) ∧ Keep keys c)
    (by
      rintro c d c' n m sent ⟨⟨mine, f, mirrored⟩, keep⟩ own stepped
      obtain ⟨stage, found⟩ := keep.found (by simpa [hasKey] using own)
      obtain ⟨d', stepped', mirrored'⟩ := mirrored.step_own found stepped
      exact ⟨d', stepped', mirrored', keep.step stepped⟩)
    (by
      rintro c d c' n m sent ⟨⟨mine, f, mirrored⟩, keep⟩ foreign stepped
      obtain ⟨k, stage, stage', found, -⟩ := step_cases stepped
      have keyed := keep n
      rw [found] at keyed
      have other : k ≠ some key := by
        rintro rfl
        simp [hasKey, ← keyed] at foreign
      exact ⟨⟨mine, f, mirrored.step_other found other stepped⟩, keep.step stepped⟩)
    ⟨⟨_, _, Mirrored.ofKeys key few⟩, keep_ofKeys keys⟩ played
  refine ⟨d, mine, f, ⟨played', ?_⟩, mirrored, keep⟩
  intro n own
  obtain ⟨stage, found⟩ := keep.found (by simpa [hasKey] using own)
  refine result?_eq_of_run? found (mirrored.runs n stage found) ?_
  intro result
  cases stage <;> simp [Stage.renumber]

private theorem keyless_without (played : (ofKeys keys).play schedule = some (c, notices)) {n : Nat}
    (keyless : keys[n]? = some none) : ∃ d, SameWithout keys schedule (· == n) c notices d ∧ Paired n c d := by
  have fresh : (ofKeys keys).run? n = some (none, .fresh) := by rw [run?_ofKeys, keyless, Option.map_some]
  obtain ⟨d, played', paired⟩ := play_filter (· == n) (Paired n)
    (by
      intro c d c' k m sent paired own stepped
      obtain rfl : k = n := by simpa using own
      exact (paired.step stepped).2)
    (by
      intro c d c' k m sent paired foreign stepped
      exact paired.stays (by simpa using foreign) stepped)
    ⟨.fresh, trivial, fresh, fresh⟩ played
  refine ⟨d, ⟨played', ?_⟩, paired⟩
  obtain ⟨stage, -, found, found'⟩ := paired
  intro k own
  obtain rfl : k = n := by simpa using own
  exact result?_eq_of_run? found found' fun _ => Iff.rfl

end

end Crowd

namespace Analysis

theorem key_injective {file file' : Path} (same : key file = key file') : file = file' := by
  obtain ⟨text⟩ := file
  obtain ⟨text'⟩ := file'
  have chars : "linter-rubocop::".toList ++ text.toList = "linter-rubocop::".toList ++ text'.toList := by
    rw [← String.toList_append, ← String.toList_append]
    exact congrArg String.toList same
  rw [String.toList_injective (List.append_cancel_left chars)]

/-- The analysis is one of the file, and if its tool runs, then with the key of the file. -/
def IsOf (file : Path) : Analysis → Prop
  | asking p _ => p.file = file
  | running file' t => file' = file ∧ t.key = key file
  | finished _ => True

private theorem Sets.isOf {file : Path} {r r' : Registry} {a : Analysis} {keys : List String}
    (sets : Sets file r a r' keys) : a.IsOf file := by
  cases sets with
  | asks p i same => exact same
  | spares ds => trivial
  | fails => trivial
  | runs => exact ⟨rfl, rfl⟩

theorem isOf_start (s : Surroundings) {b : Buffer} {file : Path} (l : Linter) (stored : b.path = some file) :
    (start s b l).state.IsOf file := by
  obtain ⟨keys, sets⟩ := sets_start s b l file stored
  exact sets.isOf

theorem isOf_step (s : Surroundings) (signal : Signal) {a : Analysis} {file : Path} (l : Linter)
    (isOf : a.IsOf file) : (a.step s signal l).state.IsOf file := by
  obtain ⟨keys, advance⟩ := advance_step s signal a l
  generalize (a.step s signal l).state = a' at advance ⊢
  generalize (a.step s signal l).linter.registry = r' at advance
  cases advance with
  | idle => exact isOf
  | sets p i a' r' keys asked set =>
    have same : p.file = file := isOf
    exact same ▸ set.isOf
  | ends file' t e ended told => trivial

end Analysis

namespace Crowd

/-- Different keys do not interfere. Take out of a schedule all steps of runs that have not the key: what is left
is a schedule, and each run with the key sends the same notices, has the same result, and owns the key if it has
owned it; the tokens of these runs have other numbers in the same order. A run without a key does what it does
alone, and leaves the registry alone. And since analyses of different files take different keys, those of one
file do what they do without all others. -/
theorem keys_do_not_interfere (keys : List (Option String)) (schedule : List (Nat × Move)) (c : Crowd)
    (notices : List (Nat × Notice)) (played : (ofKeys keys).play schedule = some (c, notices)) :
    (keys.countP Option.isSome < UInt64.size → ∀ key : String, ∃ (d : Crowd) (renumber : UInt64 → UInt64),
      SameWithout keys schedule (hasKey keys key) c notices d ∧
      d.registry.owner? key = (c.registry.owner? key).map renumber ∧
      (∀ n, hasKey keys key n = true → d.drawn? n = (c.drawn? n).map renumber ∧ (d.Owns n key ↔ c.Owns n key)) ∧
      ∀ m n s t, hasKey keys key m = true → hasKey keys key n = true → c.drawn? m = some s →
        c.drawn? n = some t → (renumber s < renumber t ↔ s < t)) ∧
    (∀ n, keys[n]? = some none →
      (∃ d, SameWithout keys schedule (· == n) c notices d) ∧
      ∀ before m after c₀ notices₀ c₁ sent, schedule = before ++ (n, m) :: after →
        (ofKeys keys).play before = some (c₀, notices₀) → c₀.step n m = some (c₁, sent) →
        c₁.registry = c₀.registry) ∧
    (∀ files : List Path, keys = files.map (fun file => some (Analysis.key file)) →
      files.length < UInt64.size →
      ∀ file, ∃ d, SameWithout keys schedule (fun n => files[n]? == some file) c notices d) ∧
    (∀ file file', Analysis.key file = Analysis.key file' → file = file') ∧
    ∀ file around, (∀ buffer l, buffer.path = some file → (Analysis.start around buffer l).state.IsOf file) ∧
      ∀ signal a l, a.IsOf file → (Analysis.step around signal a l).state.IsOf file := by
  refine ⟨?_, ?_, ?_, fun _ _ => Analysis.key_injective, ?_⟩
  · intro few key
    obtain ⟨d, mine, f, same, mirrored, keep⟩ := mirrored_without few played key
    have drawn : ∀ n, hasKey keys key n = true → d.drawn? n = (c.drawn? n).map f := by
      intro n own
      obtain ⟨stage, found⟩ := keep.found (by simpa [hasKey] using own)
      rw [drawn?_of_run? found, drawn?_of_run? (mirrored.runs n stage found), Stage.drawn?_renumber]
    have hers : ∀ n token, hasKey keys key n = true → c.drawn? n = some token → mine token := by
      intro n token own drew
      obtain ⟨stage, found⟩ := keep.found (by simpa [hasKey] using own)
      rw [drawn?_of_run? found] at drew
      exact (mirrored.known n _ stage found token (Stage.mem_tokens_of_drawn? drew)).2.mpr rfl
    refine ⟨d, f, same, mirrored.registry.owner, fun n own => ⟨drawn n own, ?_⟩, ?_⟩
    · rw [Owns, Owns, drawn n own, mirrored.registry.owner]
      constructor
      · rintro ⟨token, drawn', owned'⟩
        obtain ⟨s, drew, rfl⟩ := Option.map_eq_some_iff.mp drawn'
        obtain ⟨t, owned, eq⟩ := Option.map_eq_some_iff.mp owned'
        have ownerHers := (mirrored.registry.owners key t owned).2.mpr rfl
        have one := mirrored.registry.injective ownerHers (hers n s own drew) eq
        exact ⟨s, drew, one ▸ owned⟩
      · rintro ⟨token, drew, owned⟩
        exact ⟨f token, by rw [drew, Option.map_some], by rw [owned, Option.map_some]⟩
    · intro m n s t own own' drew drew'
      exact mirrored.registry.lt_iff (hers m s own drew) (hers n t own' drew')
  · intro n keyless
    obtain ⟨d, same, -⟩ := keyless_without played keyless
    refine ⟨⟨d, same⟩, ?_⟩
    intro before m after c₀ notices₀ c₁ sent _ reached stepped
    obtain ⟨d₀, -, paired⟩ := keyless_without reached keyless
    exact (paired.step stepped).1
  · rintro files rfl few file
    have few' : (files.map fun file => some (Analysis.key file)).countP Option.isSome < UInt64.size :=
      Nat.lt_of_le_of_lt List.countP_le_length (by simpa using few)
    obtain ⟨d, -, -, same, -⟩ := mirrored_without few' played (Analysis.key file)
    have chosen : hasKey (files.map fun file => some (Analysis.key file)) (Analysis.key file) =
        fun n => files[n]? == some file := by
      funext n
      rw [Bool.eq_iff_iff]
      cases found : files[n]? with
      | none => simp [hasKey, found]
      | some file' =>
        have inj : Analysis.key file' = Analysis.key file ↔ file' = file :=
          ⟨Analysis.key_injective, fun eq => by rw [eq]⟩
        simp [hasKey, found, inj]
    rw [chosen] at same
    exact ⟨d, same⟩
  · intro file around
    exact ⟨fun buffer l stored => Analysis.isOf_start around l stored,
      fun signal a l isOf => Analysis.isOf_step around signal l isOf⟩

/-- Two runs for a key, one for another key, and one for none. The first run for the key is replaced and told to
stop while the others are under way. -/
def mixed : List (Nat × Move) :=
  [(0, .proceed), (1, .proceed), (2, .proceed), (3, .proceed), (0, .proceed), (1, .proceed), (3, .proceed),
    (3, .proceed), (0, .proceed), (1, .proceed), (1, .finish .stopped), (2, .finish .timedOut)]

def mixedKeys : List (Option String) := [some "j", some "k", none, some "k"]

theorem keys_do_not_interfere_mixed :
    ∃ c notices, (ofKeys mixedKeys).play mixed = some (c, notices) ∧ mixedKeys.countP Option.isSome < UInt64.size ∧
      (∃ (d : Crowd) (renumber : UInt64 → UInt64), SameWithout mixedKeys mixed (hasKey mixedKeys "k") c notices d ∧ d.Owns 3 "k" ∧
        c.drawn? 3 = some 2 ∧ d.drawn? 3 = some (renumber 2)) ∧
      ∃ d, SameWithout mixedKeys mixed (· == 2) c notices d := by
  obtain ⟨c, notices, played, drew, owned⟩ : ∃ c notices, (ofKeys mixedKeys).play mixed = some (c, notices) ∧
      c.drawn? 3 = some 2 ∧ c.registry.owner? "k" = some 2 := ⟨_, _, rfl, rfl, rfl⟩
  obtain ⟨ofKey, ofNone, -⟩ := keys_do_not_interfere mixedKeys mixed c notices played
  obtain ⟨d, renumber, same, -, own, -⟩ := ofKey (by decide) "k"
  obtain ⟨drawn, owns⟩ := own 3 rfl
  refine ⟨c, notices, played, by decide, ⟨d, renumber, same, ?_, drew, ?_⟩, (ofNone 2 rfl).1⟩
  · exact owns.mpr ⟨2, drew, owned⟩
  · rw [drawn, drew, Option.map_some]

end Crowd
end LintBridge

import LintBridge.Proofs.Process.Crowd

/-!
Which runs have a result of their own.

A run with a key looks once whether its ticket still counts, after its program has come to its end. What it
returns is decided by that look, and the look by the order of the entries alone: not by the order in which
tokens were drawn, nor by when those who were replaced have been told.
-/

set_option autoImplicit false
set_option relaxedAutoImplicit false

namespace LintBridge.Crowd

/-- Run `n` has returned the result, or returns it with its next step. -/
def Returns (c : Crowd) (n : Nat) (result : RunResult) : Prop :=
  c.result? n = some result ∨ ∃ c', c.step n .proceed = some (c', []) ∧ c'.result? n = some result

/-- At the end of a schedule, run `n` is about to look whether its ticket for the key still counts, after its
program has come to the ending. -/
def Looks (keys : List (Option String)) (schedule : List (Nat × Move)) (n : Nat) (key : String)
    (e : Ending) : Prop :=
  ∃ c notices t, (ofKeys keys).play schedule = some (c, notices) ∧
    c.run? n = some (some key, .ended t e)

/-- In a schedule, another run enters for the key after run `n` has. -/
def Overtaken (keys : List (Option String)) (schedule : List (Nat × Move)) (n : Nat) (key : String) : Prop :=
  ∃ m, Keyed.Later key n m ((ofKeys keys).entries schedule)

/-- What a program of a run that has not been told to stop brings it with its ending: its output, its error, or
nothing because it took too long. -/
inductive Brings : Ending → RunResult → Prop
  | output (o : Output) : Brings (.output o) (.ok (some o))
  | failed (p : Problem) : Brings (.failed p) (.error p)
  | timedOut : Brings .timedOut (.ok none)

private def Decided (c : Crowd) (n : Nat) (key : String) (result : RunResult) : Prop :=
  c.run? n = some (some key, .returned result) ∨ ∃ t, c.run? n = some (some key, .judged t result)

section
variable {c c' : Crowd} {n : Nat} {key : String} {result : RunResult} {keys : List (Option String)}
  {schedule : List (Nat × Move)} {notices : List (Nat × Notice)}

private theorem returns_of_decided (decided : c.Decided n key result) : c.Returns n result := by
  rcases decided with found | ⟨t, found⟩
  · left
    have found : Keyed.get? n c.runs = some (some key, .returned result) := found
    rw [result?, found]
  · right
    have found : Keyed.get? n c.runs = some (some key, .judged t result) := found
    refine ⟨⟨c.registry.release t, Keyed.put n (some key, .returned result) c.runs⟩, ?_, ?_⟩
    · rw [step, found]
      rfl
    · rw [result?, Keyed.get?_put, if_pos rfl]

private theorem decided_step {k : Nat} {m : Move} {sent : List Notice} (decided : c.Decided n key result)
    (h : c.step k m = some (c', sent)) : c'.Decided n key result := by
  obtain ⟨key', stage, stage', found, advance, put⟩ := step_cases h
  by_cases same : k = n
  · subst same
    rcases decided with found' | ⟨t, found'⟩
    · rw [found'] at found
      cases found
      obtain ⟨registry', runs'⟩ := c'
      cases advance
    · rw [found'] at found
      cases found
      obtain ⟨registry', runs'⟩ := c'
      cases advance with
      | release t result =>
        left
        rw [run?_put put, if_pos rfl]
  · rcases decided with found' | ⟨t, found'⟩
    · left
      rw [run?_put put, if_neg same, found']
    · right
      exact ⟨t, by rw [run?_put put, if_neg same, found']⟩

private theorem decided_play (decided : c.Decided n key result)
    (played : c.play schedule = some (c', notices)) : c'.Decided n key result := by
  induction schedule generalizing c notices with
  | nil =>
    cases played
    exact decided
  | cons head rest ih =>
    obtain ⟨k, m⟩ := head
    obtain ⟨c₁, notices₁, notices₂, stepped, played⟩ := play_cons played
    exact ih (decided_step decided stepped) played

private theorem key_play {key' : Option String} {stage : Stage} (played : c.play schedule = some (c', notices))
    (found : c'.run? n = some (key', stage)) : ∃ stage', c.run? n = some (key', stage') := by
  induction schedule generalizing c notices with
  | nil =>
    cases played
    exact ⟨stage, found⟩
  | cons head rest ih =>
    obtain ⟨k, m⟩ := head
    obtain ⟨c₁, notices₁, notices₂, stepped, played⟩ := play_cons played
    obtain ⟨stage₁, found₁⟩ := ih played
    obtain ⟨key₂, stage₂, stage₃, found₂, -, put⟩ := step_cases stepped
    rw [run?_put put] at found₁
    split at found₁
    · rename_i same
      cases found₁
      exact ⟨stage₂, same ▸ found₂⟩
    · exact ⟨stage₁, found₁⟩

private theorem finish_mem {key' : Option String} {t : Ticket} {e : Ending}
    (played : c.play schedule = some (c', notices)) (found : c'.run? n = some (key', .ended t e)) :
    (n, .finish e) ∈ schedule ∨ c.run? n = some (key', .ended t e) := by
  induction schedule generalizing c notices with
  | nil =>
    cases played
    exact .inr found
  | cons head rest ih =>
    obtain ⟨k, m⟩ := head
    obtain ⟨c₁, notices₁, notices₂, stepped, played⟩ := play_cons played
    rcases ih played with isIn | found₁
    · exact .inl (List.mem_cons_of_mem _ isIn)
    · obtain ⟨key₂, stage₂, stage₃, found₂, advance, put⟩ := step_cases stepped
      rw [run?_put put] at found₁
      split at found₁
      · rename_i same
        subst same
        cases found₁
        obtain ⟨registry', runs'⟩ := c₁
        cases advance with
        | finish t e told => exact .inl List.mem_cons_self
      · exact .inr found₁

private theorem looks_of_decided_step {total : Nat} {log : List (String × Nat)} {k : Nat} {m : Move}
    {sent : List Notice} (orderly : Orderly total log c) (h : c.step k m = some (c', sent))
    (undecided : ∀ result, ¬ c.Decided n key result) (decided : c'.Decided n key result) :
    k = n ∧ m = .proceed ∧ ∃ t e, c.run? n = some (some key, .ended t e) := by
  obtain ⟨key', stage, stage', found, advance, put⟩ := step_cases h
  by_cases same : k = n
  · subst same
    have fits := orderly.fits k key' stage found
    refine ⟨rfl, ?_⟩
    rcases decided with found' | ⟨t, found'⟩
    · rw [run?_put put, if_pos rfl] at found'
      cases found'
      obtain ⟨registry', runs'⟩ := c'
      cases advance with
      | leave e => cases fits
      | release t result => exact absurd (.inr ⟨t, found⟩) (undecided result)
    · rw [run?_put put, if_pos rfl] at found'
      cases found'
      obtain ⟨registry', runs'⟩ := c'
      cases advance with
      | judge t e => exact ⟨rfl, t, e, found⟩
  · exfalso
    rcases decided with found' | ⟨t, found'⟩
    · rw [run?_put put, if_neg same] at found'
      exact undecided result (.inl found')
    · rw [run?_put put, if_neg same] at found'
      exact undecided result (.inr ⟨t, found'⟩)

private theorem looks_of_decided_play {total : Nat} {log : List (String × Nat)}
    (orderly : Orderly total log c) (few : total < UInt64.size)
    (undecided : ∀ result, ¬ c.Decided n key result) (played : c.play schedule = some (c', notices))
    (decided : c'.Decided n key result) :
    ∃ before after c₁ notices₁ t e, schedule = before ++ (n, .proceed) :: after ∧
      c.play before = some (c₁, notices₁) ∧ c₁.run? n = some (some key, .ended t e) := by
  induction schedule generalizing c log notices with
  | nil =>
    cases played
    exact absurd decided (undecided result)
  | cons head rest ih =>
    obtain ⟨k, m⟩ := head
    obtain ⟨c₁, notices₁, notices₂, stepped, played⟩ := play_cons played
    by_cases early : ∃ result', c₁.Decided n key result'
    · obtain ⟨result', decided'⟩ := early
      obtain ⟨rfl, rfl, t, e, found⟩ := looks_of_decided_step orderly stepped undecided decided'
      exact ⟨[], rest, c, [], t, e, rfl, rfl, found⟩
    · have undecided' : ∀ result', ¬ c₁.Decided n key result' := fun result' h => early ⟨result', h⟩
      obtain ⟨before, after, c₂, notices₃, t, e, split, reached, found⟩ :=
        ih (orderly.step few stepped) undecided' played
      refine ⟨(k, m) :: before, after, c₂, notices₁.map (k, ·) ++ notices₃, t, e, ?_, ?_, found⟩
      · rw [split, List.cons_append]
      · simp only [play, stepped, reached, Option.map_some]

private theorem brings_result {e : Ending} (told : e ≠ .stopped) : Brings e e.result := by
  cases e with
  | output o => exact .output o
  | failed p => exact .failed p
  | timedOut => exact .timedOut
  | stopped => exact absurd rfl told

/-- What a run is going to return is settled by its look at its ticket. -/
private theorem decided_of_look {t : Ticket} {e : Ending} (found : c.run? n = some (some key, .ended t e)) :
    ∃ c', c.step n .proceed = some (c', []) ∧
      c'.Decided n key (RunResult.judged (c.registry.isCurrent t) e) := by
  have found : Keyed.get? n c.runs = some (some key, .ended t e) := found
  refine ⟨⟨c.registry,
    Keyed.put n (some key, .judged t (RunResult.judged (c.registry.isCurrent t) e)) c.runs⟩, ?_, ?_⟩
  · rw [step, found]
    rfl
  · right
    refine ⟨t, ?_⟩
    rw [run?, Keyed.get?_put, if_pos rfl]

private theorem isCurrent_iff_not_overtaken {t : Ticket} {e : Ending} (few : keys.length < UInt64.size)
    (played : (ofKeys keys).play schedule = some (c, notices))
    (found : c.run? n = some (some key, .ended t e)) :
    (key, n) ∈ (ofKeys keys).entries schedule ∧
      (c.registry.isCurrent t = true ↔ ¬ Overtaken keys schedule n key) := by
  have orderly := (orderly_ofKeys keys).play few played
  rw [List.append_nil] at orderly
  have holds : c.held? n = some t := held?_of_run? found
  have sameKey : some t.key = some key := orderly.fits n (some key) _ found
  cases sameKey
  have logged := orderly.logged n t holds
  refine ⟨List.mem_reverse.mp logged, ?_⟩
  rw [orderly.ledger.isCurrent_iff_last orderly.once holds logged, Overtaken, not_exists]

private theorem overtaken_of_stopped {t : Ticket} (few : keys.length < UInt64.size)
    (played : (ofKeys keys).play schedule = some (c, notices))
    (found : c.run? n = some (some key, .ended t .stopped)) : Overtaken keys schedule n key := by
  have orderly := (orderly_ofKeys keys).play few played
  have holds : c.held? n = some t := held?_of_run? found
  obtain ⟨s, holds', notNewest⟩ := orderly.stopped n (some key) t found
  rw [holds] at holds'
  cases holds'
  refine Classical.byContradiction fun notOvertaken => ?_
  have current := (isCurrent_iff_not_overtaken few played found).2.mpr notOvertaken
  exact notNewest ((orderly.ledger.isCurrent_iff_newest holds).mp current)

end

/-- Supersession is exact, for fewer runs than there are tokens and every order of their steps. The look of a
run at its ticket comes after its program's ending, can always be taken, and settles what the run returns:
nothing, if another run has entered for its key after it, and otherwise what its own program has brought, which
then has not been told to stop. And no run with a key returns without that look. -/
theorem supersession_exact (keys : List (Option String)) (few : keys.length < UInt64.size) (n : Nat) (key : String)
    (keyed : keys[n]? = some (some key)) :
    (∀ before e, Looks keys before n key e →
      (n, .finish e) ∈ before ∧
      (key, n) ∈ (ofKeys keys).entries before ∧
      (∃ c notices, (ofKeys keys).play (before ++ [(n, .proceed)]) = some (c, notices)) ∧
      ∀ after c notices, (ofKeys keys).play (before ++ (n, .proceed) :: after) = some (c, notices) →
        (Overtaken keys before n key → c.Returns n (.ok none)) ∧
        (¬ Overtaken keys before n key → ∃ result, Brings e result ∧ c.Returns n result)) ∧
    ∀ schedule c notices result, (ofKeys keys).play schedule = some (c, notices) →
      c.result? n = some result →
      ∃ before after e, schedule = before ++ (n, .proceed) :: after ∧ Looks keys before n key e := by
  have fresh : (ofKeys keys).run? n = some (some key, .fresh) := by
    rw [run?_ofKeys, keyed, Option.map_some]
  constructor
  · rintro before e ⟨c₀, notices₀, t, reached, found⟩
    obtain ⟨entered, current⟩ := isCurrent_iff_not_overtaken few reached found
    obtain ⟨c₁, looked, decided⟩ := decided_of_look found
    refine ⟨?_, entered, ⟨c₁, notices₀, ?_⟩, ?_⟩
    · rcases finish_mem reached found with isIn | early
      · exact isIn
      · rw [fresh] at early
        cases early
    · simp only [play_append, reached, play, looked, Option.bind_some, Option.map_some, List.map_nil,
        List.append_nil]
    · intro after c notices played
      simp only [play_append, reached, Option.bind_some, Option.map_eq_some_iff] at played
      obtain ⟨⟨c', notices'⟩, played, eq⟩ := played
      cases eq
      obtain ⟨c₂, notices₁, notices₂, stepped, played⟩ := play_cons played
      rw [looked] at stepped
      cases stepped
      have returns := returns_of_decided (decided_play decided played)
      constructor
      · intro overtaken
        have stale : c₀.registry.isCurrent t = false := by
          cases isCurrent : c₀.registry.isCurrent t with
          | false => rfl
          | true => exact absurd overtaken (current.mp isCurrent)
        rwa [stale] at returns
      · intro notOvertaken
        rw [current.mpr notOvertaken] at returns
        have told : e ≠ .stopped := by
          rintro rfl
          exact notOvertaken (overtaken_of_stopped few reached found)
        exact ⟨e.result, brings_result told, returns⟩
  · intro schedule c notices result played returned
    have undecided : ∀ result, ¬ (ofKeys keys).Decided n key result := by
      rintro result (found | ⟨t, found⟩)
      · rw [fresh] at found
        cases found
      · rw [fresh] at found
        cases found
    have decided : c.Decided n key result := by
      unfold result? at returned
      split at returned
      · rename_i key' result' found
        cases returned
        obtain ⟨stage, found'⟩ := key_play played found
        rw [fresh] at found'
        cases found'
        exact .inl found
      · cases returned
    obtain ⟨before, after, c₁, notices₁, t, e, split, reached, found⟩ :=
      looks_of_decided_play (orderly_ofKeys keys) few undecided played decided
    exact ⟨before, after, e, split, c₁, notices₁, t, reached, found⟩

/-- Two runs for one key that enter in the other order than they have drawn. The first to enter is told to
stop, and both programs bring an output all the same. -/
def crossing : List (Nat × Move) :=
  [(0, .proceed), (1, .proceed), (1, .proceed), (1, .proceed), (0, .proceed), (0, .proceed),
    (1, .finish (.output ⟨"late", "", some 0⟩)), (0, .finish (.output ⟨"new", "", some 1⟩))]

theorem supersession_exact_crossing :
    [some "k", some "k"].length < UInt64.size ∧ [some "k", some "k"][0]? = some (some "k") ∧
      [some "k", some "k"][1]? = some (some "k") ∧
      Looks [some "k", some "k"] crossing 1 "k" (.output ⟨"late", "", some 0⟩) ∧
      Overtaken [some "k", some "k"] crossing 1 "k" ∧
      (∃ c notices, (ofKeys [some "k", some "k"]).play (crossing ++ [(1, .proceed)]) = some (c, notices) ∧
        c.Returns 1 (.ok none)) ∧
      Looks [some "k", some "k"] crossing 0 "k" (.output ⟨"new", "", some 1⟩) ∧
      ¬ Overtaken [some "k", some "k"] crossing 0 "k" ∧
      ∃ c notices, (ofKeys [some "k", some "k"]).play (crossing ++ [(0, .proceed)]) = some (c, notices) ∧
        c.Returns 0 (.ok (some ⟨"new", "", some 1⟩)) := by
  have few : [some "k", some "k"].length < UInt64.size := by decide
  have looks : Looks [some "k", some "k"] crossing 1 "k" (.output ⟨"late", "", some 0⟩) :=
    ⟨_, _, ⟨"k", 1⟩, rfl, rfl⟩
  have overtaken : Overtaken [some "k", some "k"] crossing 1 "k" :=
    ⟨0, [], [("k", 0)], rfl, by decide⟩
  obtain ⟨-, -, ⟨c, notices, played⟩, decided⟩ :=
    (supersession_exact [some "k", some "k"] few 1 "k" rfl).1 crossing _ looks
  have looks' : Looks [some "k", some "k"] crossing 0 "k" (.output ⟨"new", "", some 1⟩) :=
    ⟨_, _, ⟨"k", 0⟩, rfl, rfl⟩
  have newest : Keyed.get? "k" ((ofKeys [some "k", some "k"]).entries crossing).reverse = some 0 := rfl
  have notOvertaken : ¬ Overtaken [some "k", some "k"] crossing 0 "k" := by
    rintro ⟨m, later⟩
    exact (Keyed.get?_reverse_eq_some_iff (by decide) (by decide)).mp newest m later
  obtain ⟨-, -, ⟨c', notices', played'⟩, decided'⟩ :=
    (supersession_exact [some "k", some "k"] few 0 "k" rfl).1 crossing _ looks'
  obtain ⟨result, brings, returns⟩ := (decided' [] c' notices' played').2 notOvertaken
  cases brings
  exact ⟨few, rfl, rfl, looks, overtaken, ⟨c, notices, played, (decided [] c notices played).1 overtaken⟩,
    looks', notOvertaken, c', notices', played', returns⟩

end LintBridge.Crowd

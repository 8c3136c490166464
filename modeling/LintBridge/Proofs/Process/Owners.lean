import LintBridge.Proofs.Process.Crowd
import Mathlib.Data.Finset.Card

/-!
Which keys are owned, and by whom.

A key belongs to the run that has entered last for it, until that run returns. Nobody else can give it up: a run
that has been replaced leaves the registry as it is, however its program has come to its end. So the owned keys
can be counted by the runs that have not returned.
-/

set_option autoImplicit false
set_option relaxedAutoImplicit false

namespace LintBridge

namespace Registry

theorem release_of_stale {r : Registry} {t : Ticket} (stale : ¬ r.isCurrent t = true) : r.release t = r := by
  rw [release, if_neg stale]

theorem nodup_keys_release {r : Registry} (nodup : (Keyed.keys r.owners).Nodup) (t : Ticket) :
    (Keyed.keys (r.release t).owners).Nodup := by
  unfold release
  split
  · exact Keyed.nodup_keys_erase t.key nodup
  · exact nodup

end Registry

def Stage.isUnfinished : Stage → Bool
  | fresh => false
  | returned _ => false
  | _ => true

namespace Crowd

/-- The run that has entered last for a key in a schedule. -/
def newest? (keys : List (Option String)) (schedule : List (Nat × Move)) (key : String) : Option Nat :=
  Keyed.get? key ((ofKeys keys).entries schedule).reverse

/-- The number of runs that have begun and not returned. -/
def unfinished (c : Crowd) : Nat := c.runs.countP fun p => p.2.2.isUnfinished

section
variable {c c' : Crowd} {n : Nat} {key : String} {schedule : List (Nat × Move)} {notices : List (Nat × Notice)}
  {total : Nat} {log : List (String × Nat)}

theorem result?_eq_none_iff {key' : Option String} {stage : Stage} (found : c.run? n = some (key', stage)) :
    c.result? n = none ↔ ∀ result, stage ≠ .returned result := by
  have found : Keyed.get? n c.runs = some (key', stage) := found
  rw [result?, found]
  cases stage <;> simp

theorem run?_step {k : Nat} {m : Move} {sent : List Notice} {key' : Option String} {stage : Stage}
    (stepped : c.step k m = some (c', sent)) (found : c.run? n = some (key', stage)) :
    ∃ stage', c'.run? n = some (key', stage') := by
  obtain ⟨key₂, stage₂, stage₃, found₂, -, put⟩ := step_cases stepped
  rw [run?_put put]
  by_cases same : k = n
  · rw [same, found] at found₂
    cases found₂
    exact ⟨stage₃, if_pos same⟩
  · exact ⟨stage, by rw [if_neg same, found]⟩

theorem run?_play {key' : Option String} {stage : Stage} (played : c.play schedule = some (c', notices))
    (found : c.run? n = some (key', stage)) : ∃ stage', c'.run? n = some (key', stage') := by
  induction schedule generalizing c notices stage with
  | nil =>
    cases played
    exact ⟨stage, found⟩
  | cons head rest ih =>
    obtain ⟨k, m⟩ := head
    obtain ⟨c₁, notices₁, notices₂, stepped, played⟩ := play_cons played
    obtain ⟨stage₁, found₁⟩ := run?_step stepped found
    exact ih played found₁

theorem run?_of_mem_entries (played : c.play schedule = some (c', notices))
    (entered : (key, n) ∈ c.entries schedule) : ∃ stage, c'.run? n = some (some key, stage) := by
  induction schedule generalizing c notices with
  | nil => cases entered
  | cons head rest ih =>
    obtain ⟨k, m⟩ := head
    have whole := played
    obtain ⟨c₁, notices₁, notices₂, stepped, played⟩ := play_cons played
    simp only [entries, stepped] at entered
    rcases List.mem_append.mp entered with now | later
    · unfold entry at now
      split at now
      · rename_i key' token found
        cases List.mem_singleton.mp now
        exact run?_play whole found
      · cases now
    · exact ih played later

theorem nodup_keys_step {m : Move} {sent : List Notice} (nodup : (Keyed.keys c.registry.owners).Nodup)
    (stepped : c.step n m = some (c', sent)) : (Keyed.keys c'.registry.owners).Nodup := by
  obtain ⟨key', stage, stage', -, advance, -⟩ := step_cases stepped
  obtain ⟨registry', runs'⟩ := c'
  cases advance with
  | enter k token keyed => exact Keyed.nodup_keys_put k token nodup
  | dismiss k token previous keyed => cases previous <;> exact nodup
  | release t result => exact Registry.nodup_keys_release nodup t
  | _ => exact nodup

theorem nodup_keys_play (nodup : (Keyed.keys c.registry.owners).Nodup)
    (played : c.play schedule = some (c', notices)) : (Keyed.keys c'.registry.owners).Nodup := by
  induction schedule generalizing c notices with
  | nil =>
    cases played
    exact nodup
  | cons head rest ih =>
    obtain ⟨k, m⟩ := head
    obtain ⟨c₁, notices₁, notices₂, stepped, played⟩ := play_cons played
    exact ih (nodup_keys_step nodup stepped) played

theorem held?_of_unreturned {stage : Stage} (orderly : Orderly total log c) (logged : (key, n) ∈ log)
    (found : c.run? n = some (some key, stage)) (unreturned : c.result? n = none) :
    ∃ token, c.held? n = some ⟨key, token⟩ := by
  have fits := orderly.fits n (some key) stage found
  have notReturned := (result?_eq_none_iff found).mp unreturned
  have inside : stage.isOutside = false := by
    cases out : stage.isOutside with
    | false => rfl
    | true => exact absurd (List.mem_map_of_mem logged) (orderly.outside n (some key) stage found out)
  have named : ∀ t : Ticket, t.key = key → some t = some ⟨key, t.token⟩ := by
    rintro ⟨k, token⟩ rfl
    rfl
  rw [held?_of_run? found]
  cases stage with
  | fresh => cases inside
  | drawn token => cases inside
  | entered token previous => exact ⟨token, rfl⟩
  | underway ticket =>
    obtain ⟨t, rfl, sameKey⟩ := Option.map_eq_some_iff.mp fits
    exact ⟨t.token, named t sameKey⟩
  | ended t e => exact ⟨t.token, named t (Option.some.inj fits)⟩
  | judged t result => exact ⟨t.token, named t (Option.some.inj fits)⟩
  | returned result => exact absurd rfl (notReturned result)

theorem unreturned_of_held? {t : Ticket} (holds : c.held? n = some t) : c.result? n = none := by
  obtain ⟨⟨key', stage⟩, found, held⟩ := Option.bind_eq_some_iff.mp holds
  rw [result?_eq_none_iff found]
  rintro result rfl
  cases held

/-- A run that returns without being the last to have entered for its key leaves the registry alone. -/
theorem registry_of_returning {m : Move} {sent : List Notice} (orderly : Orderly total log c)
    (stepped : c.step n m = some (c', sent)) (returned : c'.result? n ≠ none)
    (older : ∀ key, Keyed.get? key log ≠ some n) : c'.registry = c.registry := by
  obtain ⟨key', stage, stage', found, advance, put⟩ := step_cases stepped
  have found' : c'.run? n = some (key', stage') := by rw [run?_put put, if_pos rfl]
  have isReturned : ∃ result, stage' = .returned result := by
    refine Classical.byContradiction fun never => returned ?_
    exact (result?_eq_none_iff found').mpr fun result same => never ⟨result, same⟩
  obtain ⟨result, rfl⟩ := isReturned
  have stays : ∀ r', Stage.Advance key' c.registry stage m (.returned result) r' → r' = c.registry := by
    intro r' advance
    cases advance with
    | leave e => rfl
    | release t result =>
      have holds : c.held? n = some t := held?_of_run? found
      exact Registry.release_of_stale fun current =>
        older t.key ((orderly.ledger.isCurrent_iff_newest holds).mp current)
  exact stays _ advance

/-- If every key has somebody who holds a ticket for it, there are no more keys than runs that have not
returned. -/
theorem card_le_unfinished (busy : Finset String)
    (held : ∀ key ∈ busy, ∃ n token, c.held? n = some ⟨key, token⟩) : busy.card ≤ c.unfinished := by
  choose! holder token holds using held
  let numbers := ((c.runs.filter fun p => p.2.2.isUnfinished).map Prod.fst).toFinset
  have isNumber : ∀ key ∈ busy, holder key ∈ numbers := by
    intro key isIn
    obtain ⟨⟨key', stage⟩, found, held⟩ := Option.bind_eq_some_iff.mp (holds key isIn)
    have unfinished : stage.isUnfinished = true := by cases stage <;> first | rfl | cases held
    exact List.mem_toFinset.mpr
      (List.mem_map_of_mem (List.mem_filter.mpr ⟨Keyed.mem_of_get? found, unfinished⟩))
  have apart : Set.InjOn holder busy := by
    intro key isIn key' isIn' same
    have holdsBoth := holds key isIn
    rw [same, holds key' isIn'] at holdsBoth
    cases holdsBoth
    rfl
  calc busy.card ≤ numbers.card := Finset.card_le_card_of_injOn holder isNumber apart
    _ ≤ ((c.runs.filter fun p => p.2.2.isUnfinished).map Prod.fst).length := List.toFinset_card_le _
    _ = c.unfinished := by rw [List.length_map, unfinished, List.countP_eq_length_filter]

end

/-- In every order of the steps of fewer runs than there are tokens, a key is owned exactly by the token of the
run that has entered last for it, as long as that run has not returned; and a run that returns without being the
last for its key changes nothing about that, whatever its result. So the owned keys are those whose last run has
not returned. There are no more of them than runs that have begun and not returned, and none when all have
returned. -/
theorem owner_is_newest_unfinished (keys : List (Option String)) (few : keys.length < UInt64.size)
    (schedule : List (Nat × Move)) (c : Crowd) (notices : List (Nat × Notice))
    (played : (ofKeys keys).play schedule = some (c, notices)) :
    (∀ key token, c.registry.owner? key = some token ↔
      ∃ n, newest? keys schedule key = some n ∧ c.result? n = none ∧ c.drawn? n = some token) ∧
    (∀ n m c' sent, c.step n m = some (c', sent) → c'.result? n ≠ none →
      (∀ key, newest? keys schedule key ≠ some n) → c'.registry = c.registry) ∧
    (∃ busy : Finset String,
      (∀ key, key ∈ busy ↔ ∃ n, newest? keys schedule key = some n ∧ c.result? n = none) ∧
      c.registry.inFlight = busy.card) ∧
    c.registry.inFlight ≤ c.unfinished ∧
    ((∀ n run, c.run? n = some run → c.result? n ≠ none) → c.registry.inFlight = 0) := by
  have orderly : Orderly keys.length ((ofKeys keys).entries schedule).reverse c := by
    have orderly := (orderly_ofKeys keys).play few played
    rwa [List.append_nil] at orderly
  have holder : ∀ {key n}, newest? keys schedule key = some n → c.result? n = none →
      ∃ token, c.held? n = some ⟨key, token⟩ := by
    intro key n newest unreturned
    have logged := Keyed.mem_of_get? newest
    obtain ⟨stage, found⟩ := run?_of_mem_entries played (List.mem_reverse.mp logged)
    exact held?_of_unreturned orderly logged found unreturned
  have owns : ∀ key token, c.registry.owner? key = some token ↔
      ∃ n, newest? keys schedule key = some n ∧ c.result? n = none ∧ c.drawn? n = some token := by
    intro key token
    constructor
    · intro owned
      obtain ⟨n, newest, holds⟩ := orderly.ledger.owner_newest key token owned
      exact ⟨n, newest, unreturned_of_held? holds, orderly.ledger.held_drawn n _ holds⟩
    · rintro ⟨n, newest, unreturned, drawn⟩
      obtain ⟨token', holds⟩ := holder newest unreturned
      rw [orderly.ledger.held_drawn n _ holds] at drawn
      cases drawn
      exact orderly.ledger.newest_owner n _ holds newest
  have isBusy : ∀ key, key ∈ (Keyed.keys c.registry.owners).toFinset ↔
      ∃ n, newest? keys schedule key = some n ∧ c.result? n = none := by
    intro key
    rw [List.mem_toFinset, Keyed.mem_keys_iff]
    constructor
    · rintro ⟨token, owned⟩
      obtain ⟨n, newest, unreturned, -⟩ := (owns key token).mp owned
      exact ⟨n, newest, unreturned⟩
    · rintro ⟨n, newest, unreturned⟩
      obtain ⟨token, holds⟩ := holder newest unreturned
      exact ⟨token, (owns key token).mpr ⟨n, newest, unreturned, orderly.ledger.held_drawn n _ holds⟩⟩
  have counted : c.registry.inFlight = (Keyed.keys c.registry.owners).toFinset.card := by
    have nodup := nodup_keys_play (c := ofKeys keys) List.nodup_nil played
    rw [List.toFinset_card_of_nodup nodup, Keyed.keys, List.length_map, Registry.inFlight]
  refine ⟨owns, ?_, ⟨_, isBusy, counted⟩, ?_, ?_⟩
  · intro n m c' sent stepped returned older
    exact registry_of_returning orderly stepped returned older
  · rw [counted]
    refine card_le_unfinished _ ?_
    intro key isIn
    obtain ⟨n, newest, unreturned⟩ := (isBusy key).mp isIn
    exact ⟨n, holder newest unreturned⟩
  · intro returned
    rw [counted, Finset.card_eq_zero, Finset.eq_empty_iff_forall_notMem]
    intro key isIn
    obtain ⟨n, newest, unreturned⟩ := (isBusy key).mp isIn
    obtain ⟨token, holds⟩ := holder newest unreturned
    obtain ⟨run, found, -⟩ := Option.bind_eq_some_iff.mp holds
    exact returned n run found unreturned

/-- Two runs for one key that enter in the other order than they have drawn. The program of the one that is
replaced cannot be started, and its run has looked at its ticket. -/
def replacedAndFailed : List (Nat × Move) :=
  [(0, .proceed), (1, .proceed), (1, .proceed), (1, .proceed), (0, .proceed), (0, .proceed),
    (1, .finish (.failed (.spawn "rubocop" "No such file or directory (os error 2)"))), (1, .proceed)]

theorem owner_is_newest_unfinished_replacedAndFailed :
    [some "k", some "k"].length < UInt64.size ∧
      ∃ c notices, (ofKeys [some "k", some "k"]).play replacedAndFailed = some (c, notices) ∧
        c.registry.owner? "k" = some 0 ∧ c.registry.inFlight ≤ c.unfinished ∧
        ∃ c', c.step 1 .proceed = some (c', []) ∧ c'.registry = c.registry := by
  have newest : ∀ key, newest? [some "k", some "k"] replacedAndFailed key =
      if "k" = key then some 0 else if "k" = key then some 1 else none := fun _ => rfl
  have reached : ∃ c notices, (ofKeys [some "k", some "k"]).play replacedAndFailed = some (c, notices) ∧
      c.result? 0 = none ∧ c.drawn? 0 = some 0 ∧
      ∃ c', c.step 1 .proceed = some (c', []) ∧ c'.result? 1 ≠ none :=
    ⟨_, _, rfl, rfl, rfl, _, rfl, Option.some_ne_none _⟩
  obtain ⟨c, notices, played, unreturned, drawn, c', stepped, returned⟩ := reached
  obtain ⟨owns, returning, -, bounded, -⟩ :=
    owner_is_newest_unfinished [some "k", some "k"] (by decide) replacedAndFailed c notices played
  refine ⟨by decide, c, notices, played, ?_, bounded, c', stepped, ?_⟩
  · exact (owns "k" 0).mpr ⟨0, newest "k", unreturned, drawn⟩
  · refine returning 1 .proceed c' [] stepped returned ?_
    intro key
    rw [newest]
    split <;> simp

end Crowd
end LintBridge

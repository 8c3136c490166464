import LintBridge.Process.Run
import LintBridge.Proofs.Keyed
import LintBridge.Proofs.Process.Ledger

/-!
The steps of many runs, in any order.

`Stage.Advance` lists what one step of one run can be. `Crowd.entries` is the order in which a schedule makes
runs enter for their keys. `Crowd.Orderly` is what every schedule keeps: the registry, the runs and that
order agree.
-/

set_option autoImplicit false
set_option relaxedAutoImplicit false

namespace LintBridge

namespace Stage

/-- The token that a run has drawn and not given up. -/
def drawn? : Stage → Option UInt64
  | fresh => none
  | drawn token => some token
  | entered token _ => some token
  | underway ticket => ticket.map Ticket.token
  | ended t _ => some t.token
  | judged t _ => some t.token
  | returned _ => none

/-- The ticket that a run with the given key has entered and not given up. -/
def held? (key : Option String) : Stage → Option Ticket
  | entered token _ => key.map (⟨·, token⟩)
  | underway ticket => ticket
  | ended t _ => some t
  | judged t _ => some t
  | _ => none

/-- The token of a run that this one has replaced and still has to dismiss. -/
def due? : Stage → Option UInt64
  | entered _ previous => previous
  | _ => none

def isFresh : Stage → Bool
  | fresh => true
  | _ => false

/-- Whether a run with a key has yet to enter for it. -/
def isOutside : Stage → Bool
  | fresh => true
  | drawn _ => true
  | _ => false

/-- A stage that a run with the given key can be in. -/
def Fits (key : Option String) : Stage → Prop
  | fresh => True
  | drawn _ => key.isSome
  | entered _ _ => key.isSome
  | underway ticket => ticket.map Ticket.key = key
  | ended t _ => some t.key = key
  | judged t _ => some t.key = key
  | returned _ => True

/-- What one step of a run with the given key can be. -/
inductive Advance (key : Option String) (r : Registry) : Stage → Move → Stage → Registry → Prop
  | begin (keyless : key = none) : Advance key r fresh .proceed (underway none) r
  | draw (keyed : key.isSome) : Advance key r fresh .proceed (drawn r.next) r.draw.2
  | enter (k : String) (token : UInt64) (keyed : key = some k) :
      Advance key r (drawn token) .proceed (entered token (r.owner? k)) (r.enter ⟨k, token⟩).2
  | dismiss (k : String) (token : UInt64) (previous : Option UInt64) (keyed : key = some k) :
      Advance key r (entered token previous) .proceed (underway (some ⟨k, token⟩)) (r.dismiss previous)
  | leave (e : Ending) : Advance key r (underway none) (.finish e) (returned e.result) r
  | finish (t : Ticket) (e : Ending) (told : e = .stopped → r.isDismissed t = true) :
      Advance key r (underway (some t)) (.finish e) (ended t e) r
  | judge (t : Ticket) (e : Ending) :
      Advance key r (ended t e) .proceed (judged t (RunResult.judged (r.isCurrent t) e)) r
  | release (t : Ticket) (result : RunResult) :
      Advance key r (judged t result) .proceed (returned result) (r.release t)

theorem advance_cases {key : Option String} {r r' : Registry} {stage stage' : Stage} {m : Move}
    {notices : List Notice} (h : stage.advance key r m = some (stage', r', notices)) :
    Advance key r stage m stage' r' := by
  cases stage with
  | fresh =>
    cases m with
    | proceed =>
      cases key <;> cases h
      · exact .begin rfl
      · exact .draw rfl
    | finish e => cases h
  | drawn token =>
    cases m with
    | proceed =>
      cases key <;> cases h
      exact .enter _ token rfl
    | finish e => cases h
  | entered token previous =>
    cases m with
    | proceed =>
      cases key <;> cases h
      exact .dismiss _ token previous rfl
    | finish e => cases h
  | underway ticket =>
    cases m with
    | proceed => cases ticket <;> cases h
    | finish e =>
      cases ticket with
      | none =>
        simp only [advance] at h
        split at h <;> cases h
        exact .leave e
      | some t =>
        simp only [advance] at h
        split at h
        · cases h
        · rename_i allowed
          cases h
          refine .finish t e fun stopped => ?_
          cases told : r.isDismissed t with
          | true => rfl
          | false => exact absurd ⟨stopped, told⟩ allowed
  | ended t e =>
    cases m <;> cases h
    exact .judge t e
  | judged t result =>
    cases m <;> cases h
    exact .release t result
  | returned result => cases m <;> cases h

theorem Advance.fits {key : Option String} {r r' : Registry} {stage stage' : Stage} {m : Move}
    (advance : Advance key r stage m stage' r') (fits : stage.Fits key) : stage'.Fits key := by
  cases advance with
  | begin keyless => exact keyless.symm
  | draw keyed => exact keyed
  | enter k token keyed => exact fits
  | dismiss k token previous keyed => exact keyed.symm
  | leave e => trivial
  | finish t e told => exact fits
  | judge t e => exact fits
  | release t result => trivial

end Stage

namespace Crowd

def run? (c : Crowd) (n : Nat) : Option (Option String × Stage) := Keyed.get? n c.runs

def drawn? (c : Crowd) (n : Nat) : Option UInt64 := (c.run? n).bind fun run => run.2.drawn?

def held? (c : Crowd) (n : Nat) : Option Ticket := (c.run? n).bind fun run => run.2.held? run.1

/-- A token whose run has been replaced, and has yet to be told so. -/
def IsDue (c : Crowd) (token : UInt64) : Prop := ∃ n run, c.run? n = some run ∧ run.2.due? = some token

def untouched (c : Crowd) : Nat := c.runs.countP fun p => p.2.2.isFresh

/-- The entry that the next step of run `n` makes, if it makes one. -/
def entry (c : Crowd) (n : Nat) : List (String × Nat) :=
  match c.run? n with
  | some (some key, .drawn _) => [(key, n)]
  | _ => []

/-- The entries that a schedule makes, in their order: the key and the run. -/
def entries : Crowd → List (Nat × Move) → List (String × Nat)
  | _, [] => []
  | c, (n, m) :: rest =>
    match c.step n m with
    | none => []
    | some (c', _) => c.entry n ++ c'.entries rest

theorem step_cases {c c' : Crowd} {n : Nat} {m : Move} {notices : List Notice}
    (h : c.step n m = some (c', notices)) :
    ∃ key stage stage', c.run? n = some (key, stage) ∧
      Stage.Advance key c.registry stage m stage' c'.registry ∧
      c'.runs = Keyed.put n (key, stage') c.runs := by
  unfold step at h
  split at h
  · cases h
  · rename_i key stage found
    split at h
    · cases h
    · rename_i stage' registry' notices' advanced
      cases h
      exact ⟨key, stage, stage', found, Stage.advance_cases advanced, rfl⟩

/-! ### One run after a step -/

section
variable {c c' : Crowd} {n m : Nat} {key : Option String} {stage stage' : Stage} {token : UInt64}

theorem run?_put (put : c'.runs = Keyed.put n (key, stage') c.runs) (m : Nat) :
    c'.run? m = if n = m then some (key, stage') else c.run? m := by
  rw [run?, put]
  exact Keyed.get?_put n m _ c.runs

theorem drawn?_put (put : c'.runs = Keyed.put n (key, stage') c.runs) (m : Nat) :
    c'.drawn? m = if n = m then stage'.drawn? else c.drawn? m := by
  rw [drawn?, run?_put put]
  split <;> rfl

theorem held?_put (put : c'.runs = Keyed.put n (key, stage') c.runs) (m : Nat) :
    c'.held? m = if n = m then stage'.held? key else c.held? m := by
  rw [held?, run?_put put]
  split <;> rfl

theorem isDue_put (put : c'.runs = Keyed.put n (key, stage') c.runs) (due : c'.IsDue token) :
    stage'.due? = some token ∨ c.IsDue token := by
  obtain ⟨m, run, found, isDue⟩ := due
  rw [run?_put put] at found
  split at found
  · cases found
    exact .inl isDue
  · exact .inr ⟨m, run, found, isDue⟩

theorem untouched_put (put : c'.runs = Keyed.put n (key, stage') c.runs)
    (found : c.run? n = some (key, stage)) :
    c'.untouched + (if stage.isFresh then 1 else 0) =
      c.untouched + (if stage'.isFresh then 1 else 0) := by
  rw [untouched, put]
  exact Keyed.countP_put (fun run : Option String × Stage => run.2.isFresh) (key, stage') found

theorem fits_put {move : Move} (fits : ∀ n k stage, c.run? n = some (k, stage) → stage.Fits k)
    (found : c.run? n = some (key, stage)) (advance : Stage.Advance key c.registry stage move stage' c'.registry)
    (put : c'.runs = Keyed.put n (key, stage') c.runs) :
    ∀ n' k' stage'', c'.run? n' = some (k', stage'') → stage''.Fits k' := by
  intro n' k' stage'' found'
  rw [run?_put put] at found'
  split at found'
  · cases found'
    exact advance.fits (fits n key stage found)
  · exact fits n' k' stage'' found'

theorem drawn?_of_run? (found : c.run? n = some (key, stage)) : c.drawn? n = stage.drawn? := by
  rw [drawn?, found]
  rfl

theorem held?_of_run? (found : c.run? n = some (key, stage)) : c.held? n = stage.held? key := by
  rw [held?, found]
  rfl

end

/-! ### What every schedule keeps -/

open Registry (Ledger Replaced)

/-- The registry, the runs and the entries so far, the newest first, agree. -/
structure Orderly (total : Nat) (log : List (String × Nat)) (c : Crowd) : Prop where
  ledger : Ledger c.drawn? c.held? c.IsDue log c.registry
  /-- There is a token left for every run that has not begun. -/
  room : c.registry.next.toNat + c.untouched ≤ total
  fits : ∀ n key stage, c.run? n = some (key, stage) → stage.Fits key
  logged : ∀ n t, c.held? n = some t → (t.key, n) ∈ log
  once : (log.map Prod.snd).Nodup
  outside : ∀ n key stage, c.run? n = some (key, stage) → stage.isOutside = true → n ∉ log.map Prod.snd
  /-- Only a run that has been replaced stops because it is told to. -/
  stopped : ∀ n key t, c.run? n = some (key, .ended t .stopped) → Replaced c.held? log n

namespace Orderly

variable {total : Nat} {log : List (String × Nat)} {c c' : Crowd} {n : Nat} {m : Move}
  {key : Option String} {stage stage' : Stage}

private theorem entry_eq_nil (found : c.run? n = some (key, stage))
    (other : ∀ token, stage ≠ .drawn token) : c.entry n = [] := by
  unfold entry
  rw [found]
  cases key <;> cases stage <;> first | rfl | exact absurd rfl (other _)

private theorem entry_eq (k : String) (token : UInt64) (found : c.run? n = some (some k, .drawn token)) :
    c.entry n = [(k, n)] := by
  unfold entry
  rw [found]

private theorem ledger_step (orderly : Orderly total log c) (few : total < UInt64.size)
    (found : c.run? n = some (key, stage))
    (advance : Stage.Advance key c.registry stage m stage' c'.registry)
    (put : c'.runs = Keyed.put n (key, stage') c.runs) :
    Ledger c'.drawn? c'.held? c'.IsDue (c.entry n ++ log) c'.registry := by
  have drawn := drawn?_of_run? found
  have held := held?_of_run? found
  have drawn' := drawn?_put put
  have held' := held?_put put
  have due' : ∀ token, c'.IsDue token → stage'.due? = some token ∨ c.IsDue token :=
    fun _ => isDue_put put
  have keepsDrawn : stage'.drawn? = stage.drawn? → ∀ k, c'.drawn? k = c.drawn? k := by
    intro same k
    rw [drawn', same, ← drawn]
    split
    · rename_i eq
      rw [eq]
    · rfl
  have keepsHeld : stage'.held? key = stage.held? key → ∀ k, c'.held? k = c.held? k := by
    intro same k
    rw [held', same, ← held]
    split
    · rename_i eq
      rw [eq]
    · rfl
  have noDue : stage'.due? = none → ∀ token, c'.IsDue token → c.IsDue token := by
    intro none token isDue
    rcases due' token isDue with h | h
    · rw [none] at h
      cases h
    · exact h
  obtain ⟨registry', runs'⟩ := c'
  cases advance with
  | begin keyless =>
    rw [entry_eq_nil found (by simp)]
    exact orderly.ledger.congr (keepsDrawn rfl) (keepsHeld rfl) (noDue rfl)
  | draw keyed =>
    have room := orderly.room
    have count : _ + 1 = c.untouched + 0 := untouched_put put found
    rw [entry_eq_nil found (by simp)]
    exact (orderly.ledger.draw (by omega) drawn drawn').congr (fun _ => rfl) (keepsHeld rfl)
      (noDue rfl)
  | enter k token keyed =>
    subst keyed
    rw [entry_eq k token found]
    have entered := orderly.ledger.enter (t := ⟨k, token⟩) held drawn held'
      fun former isDue => (due' former isDue).symm
    exact entered.congr (keepsDrawn rfl) (fun _ => rfl) (fun _ h => h)
  | dismiss k token previous keyed =>
    subst keyed
    rw [entry_eq_nil found (by simp)]
    have wasDue : ∀ former, previous = some former → c.IsDue former :=
      fun former h => ⟨n, _, found, h⟩
    exact (orderly.ledger.dismiss previous wasDue (noDue rfl)).congr (keepsDrawn rfl) (keepsHeld rfl)
      (fun _ h => h)
  | leave e =>
    rw [entry_eq_nil found (by simp)]
    exact orderly.ledger.congr (keepsDrawn rfl) (keepsHeld rfl) (noDue rfl)
  | finish t e told =>
    rw [entry_eq_nil found (by simp)]
    exact orderly.ledger.congr (keepsDrawn rfl) (keepsHeld rfl) (noDue rfl)
  | judge t e =>
    rw [entry_eq_nil found (by simp)]
    exact orderly.ledger.congr (keepsDrawn rfl) (keepsHeld rfl) (noDue rfl)
  | release t result =>
    rw [entry_eq_nil found (by simp)]
    exact (orderly.ledger.release held drawn' held').congr (fun _ => rfl) (fun _ => rfl) (noDue rfl)

private theorem room_step (orderly : Orderly total log c)
    (found : c.run? n = some (key, stage))
    (advance : Stage.Advance key c.registry stage m stage' c'.registry)
    (put : c'.runs = Keyed.put n (key, stage') c.runs) :
    c'.registry.next.toNat + c'.untouched ≤ total := by
  have room := orderly.room
  have count := untouched_put put found
  have keeps : c'.registry.next = c.registry.next → stage.isFresh = false → stage'.isFresh = false →
      c'.registry.next.toNat + c'.untouched ≤ total := by
    intro same begun begun'
    simp only [begun, begun', Bool.false_eq_true, if_false, Nat.add_zero] at count
    rw [same, count]
    exact room
  have begins : c'.registry.next.toNat ≤ c.registry.next.toNat + 1 → stage.isFresh = true →
      stage'.isFresh = false → c'.registry.next.toNat + c'.untouched ≤ total := by
    intro next untouched begun
    simp only [untouched, begun, Bool.false_eq_true, if_false, if_true, Nat.add_zero] at count
    omega
  obtain ⟨registry', runs'⟩ := c'
  cases advance with
  | begin keyless => exact begins (Nat.le_succ _) rfl rfl
  | draw keyed =>
    refine begins ?_ rfl rfl
    simp only [UInt64.toNat_add, UInt64.reduceToNat]
    omega
  | dismiss k token previous keyed => cases previous <;> exact keeps rfl rfl rfl
  | release t result => exact keeps (Registry.next_release c.registry t) rfl rfl
  | _ => exact keeps rfl rfl rfl

private theorem logged_step (orderly : Orderly total log c) (found : c.run? n = some (key, stage))
    (advance : Stage.Advance key c.registry stage m stage' c'.registry)
    (put : c'.runs = Keyed.put n (key, stage') c.runs) :
    ∀ k t, c'.held? k = some t → (t.key, k) ∈ c.entry n ++ log := by
  intro k t holds
  rw [held?_put put] at holds
  split at holds
  · rename_i same
    subst same
    have before := orderly.logged n
    rw [held?_of_run? found] at before
    obtain ⟨registry', runs'⟩ := c'
    cases advance with
    | enter k token keyed =>
      subst keyed
      cases holds
      rw [entry_eq k token found]
      exact List.mem_cons_self
    | begin keyless => cases holds
    | draw keyed => cases holds
    | leave e => cases holds
    | release t result => cases holds
    | dismiss k token previous keyed =>
      subst keyed
      exact List.mem_append_right _ (before t holds)
    | finish t e told => exact List.mem_append_right _ (before _ holds)
    | judge t e => exact List.mem_append_right _ (before _ holds)
  · exact List.mem_append_right _ (orderly.logged k t holds)

private theorem entry_outside (c : Crowd) (n : Nat) :
    c.entry n = [] ∨ ∃ k token, c.run? n = some (some k, .drawn token) ∧ c.entry n = [(k, n)] := by
  unfold entry
  split
  · rename_i k token found
    exact .inr ⟨k, token, found, rfl⟩
  · exact .inl rfl

private theorem once_step (orderly : Orderly total log c) :
    ((c.entry n ++ log).map Prod.snd).Nodup := by
  rcases entry_outside c n with none | ⟨k, token, found, one⟩
  · rw [none]
    exact orderly.once
  · rw [one]
    exact List.nodup_cons.mpr ⟨orderly.outside n _ _ found rfl, orderly.once⟩

private theorem outside_step (orderly : Orderly total log c) (found : c.run? n = some (key, stage))
    (advance : Stage.Advance key c.registry stage m stage' c'.registry)
    (put : c'.runs = Keyed.put n (key, stage') c.runs) :
    ∀ k key' stage'', c'.run? k = some (key', stage'') → stage''.isOutside = true →
      k ∉ (c.entry n ++ log).map Prod.snd := by
  intro k key' stage'' found' out
  rw [run?_put put] at found'
  split at found'
  · rename_i same
    subst same
    cases found'
    obtain ⟨registry', runs'⟩ := c'
    cases advance with
    | draw keyed =>
      rw [entry_eq_nil found (by simp)]
      exact orderly.outside n _ _ found rfl
    | _ => cases out
  · rename_i other
    have notLogged := orderly.outside k key' stage'' found' out
    rcases entry_outside c n with none | ⟨_, _, _, one⟩
    · rw [none]
      exact notLogged
    · rw [one]
      intro isIn
      rcases List.mem_cons.mp isIn with same | isIn
      · exact other same.symm
      · exact notLogged isIn

private theorem replaced_step (found : c.run? n = some (key, stage))
    (advance : Stage.Advance key c.registry stage m stage' c'.registry)
    (put : c'.runs = Keyed.put n (key, stage') c.runs) {k : Nat} (other : n ≠ k)
    (replaced : Replaced c.held? log k) : Replaced c'.held? (c.entry n ++ log) k := by
  rcases entry_outside c n with none | ⟨key', token, found', one⟩
  · obtain ⟨t, holds, notNewest⟩ := replaced
    rw [none]
    exact ⟨t, by rw [held?_put put, if_neg other, holds], notNewest⟩
  · rw [found'] at found
    cases found
    obtain ⟨registry', runs'⟩ := c'
    cases advance with
    | enter k' token' keyed =>
      cases keyed
      rw [one]
      exact replaced.enter (held?_of_run? found') (held?_put put)

private theorem stopped_step (orderly : Orderly total log c) (found : c.run? n = some (key, stage))
    (advance : Stage.Advance key c.registry stage m stage' c'.registry)
    (put : c'.runs = Keyed.put n (key, stage') c.runs) :
    ∀ k key' t, c'.run? k = some (key', .ended t .stopped) → Replaced c'.held? (c.entry n ++ log) k := by
  intro k key' t found'
  rw [run?_put put] at found'
  split at found'
  · rename_i same
    subst same
    have held := held?_of_run? found
    have held' := held?_put put n
    obtain ⟨registry', runs'⟩ := c'
    cases advance with
    | finish t' e told =>
      cases found'
      obtain ⟨s, holds, notNewest⟩ := orderly.ledger.replaced_of_dismissed held (told rfl)
      rw [entry_eq_nil found (by simp)]
      rw [held] at holds
      rw [if_pos rfl] at held'
      exact ⟨s, held'.trans holds, notNewest⟩
    | _ => cases found'
  · rename_i other
    exact replaced_step found advance put other (orderly.stopped k key' t found')

theorem step (orderly : Orderly total log c) (few : total < UInt64.size) {notices : List Notice}
    (h : c.step n m = some (c', notices)) : Orderly total (c.entry n ++ log) c' := by
  obtain ⟨key, stage, stage', found, advance, put⟩ := step_cases h
  exact
    { ledger := ledger_step orderly few found advance put
      room := room_step orderly found advance put
      fits := fits_put orderly.fits found advance put
      logged := logged_step orderly found advance put
      once := once_step orderly
      outside := outside_step orderly found advance put
      stopped := stopped_step orderly found advance put }

end Orderly

/-! ### Whole schedules -/

theorem play_cons {c c' : Crowd} {n : Nat} {m : Move} {rest : List (Nat × Move)}
    {notices : List (Nat × Notice)} (h : c.play ((n, m) :: rest) = some (c', notices)) :
    ∃ c₁ notices₁ notices₂, c.step n m = some (c₁, notices₁) ∧ c₁.play rest = some (c', notices₂) := by
  simp only [play] at h
  split at h
  · cases h
  · rename_i c₁ notices₁ stepped
    obtain ⟨r, played, eq⟩ := Option.map_eq_some_iff.mp h
    cases eq
    exact ⟨c₁, notices₁, r.2, stepped, played⟩

theorem play_append (c : Crowd) (front back : List (Nat × Move)) :
    c.play (front ++ back) =
      (c.play front).bind fun r => (r.1.play back).map fun q => (q.1, r.2 ++ q.2) := by
  induction front generalizing c with
  | nil =>
    simp only [List.nil_append, play, Option.bind_some]
    cases c.play back <;> rfl
  | cons head rest ih =>
    obtain ⟨n, m⟩ := head
    simp only [List.cons_append, play]
    cases stepped : c.step n m with
    | none => rfl
    | some r =>
      obtain ⟨c₁, notices⟩ := r
      simp only [ih, Option.map_bind, Option.bind_map, Option.map_map, Function.comp_def,
        List.append_assoc]

/-- A schedule keeps the runs in order. -/
theorem Orderly.play {total : Nat} {log : List (String × Nat)} {c c' : Crowd}
    {schedule : List (Nat × Move)} {notices : List (Nat × Notice)} (orderly : Orderly total log c)
    (few : total < UInt64.size) (played : c.play schedule = some (c', notices)) :
    Orderly total ((c.entries schedule).reverse ++ log) c' := by
  induction schedule generalizing c log notices with
  | nil =>
    cases played
    exact orderly
  | cons head rest ih =>
    obtain ⟨n, m⟩ := head
    obtain ⟨c₁, notices₁, notices₂, stepped, played⟩ := play_cons played
    have after := ih (orderly.step few stepped) played
    have reversed : (c.entry n).reverse = c.entry n := by
      rcases Orderly.entry_outside c n with none | ⟨_, _, _, one⟩
      · rw [none]
        rfl
      · rw [one]
        rfl
    simp only [entries, stepped, List.reverse_append, reversed, List.append_assoc]
    exact after

private theorem run?_ofKeys_zipIdx (keys : List (Option String)) (start n : Nat) :
    Keyed.get? (start + n) ((keys.zipIdx start).map fun (key, n) => (n, key, Stage.fresh)) =
      keys[n]?.map fun key => (key, Stage.fresh) := by
  induction keys generalizing start n with
  | nil => rfl
  | cons key rest ih =>
    rw [List.zipIdx_cons, List.map_cons, Keyed.get?]
    cases n with
    | zero => simp
    | succ n =>
      rw [if_neg (by omega), List.getElem?_cons_succ, ← ih (start + 1) n]
      congr 1
      omega

theorem run?_ofKeys (keys : List (Option String)) (n : Nat) :
    (ofKeys keys).run? n = keys[n]?.map fun key => (key, Stage.fresh) := by
  have found := run?_ofKeys_zipIdx keys 0 n
  rwa [Nat.zero_add] at found

theorem isFresh_ofKeys {keys : List (Option String)} {n : Nat} {key : Option String} {stage : Stage}
    (found : (ofKeys keys).run? n = some (key, stage)) : stage = .fresh := by
  have isIn := Keyed.mem_of_get? found
  obtain ⟨p, -, eq⟩ := List.mem_map.mp isIn
  cases eq
  rfl

theorem orderly_ofKeys (keys : List (Option String)) : Orderly keys.length [] (ofKeys keys) where
  ledger := by
    have drawn : ∀ n, (ofKeys keys).drawn? n = none := by
      intro n
      cases found : (ofKeys keys).run? n with
      | none => rw [drawn?, found]; rfl
      | some run => rw [drawn?_of_run? found, isFresh_ofKeys found]; rfl
    have held : ∀ n, (ofKeys keys).held? n = none := by
      intro n
      cases found : (ofKeys keys).run? n with
      | none => rw [held?, found]; rfl
      | some run => rw [held?_of_run? found, isFresh_ofKeys found]; rfl
    refine Ledger.empty.congr drawn held ?_
    rintro token ⟨n, run, found, due⟩
    rw [isFresh_ofKeys found] at due
    cases due
  room := by
    have all := List.countP_le_length (p := fun p => p.2.2.isFresh) (l := (ofKeys keys).runs)
    simp only [ofKeys, List.length_map, List.length_zipIdx] at all
    simpa [untouched, ofKeys, Registry.empty] using all
  fits n key stage found := by
    rw [isFresh_ofKeys found]
    trivial
  logged n t holds := by
    obtain ⟨run, found, held⟩ := Option.bind_eq_some_iff.mp holds
    rw [isFresh_ofKeys found] at held
    cases held
  once := List.nodup_nil
  outside n key stage found out := List.not_mem_nil
  stopped n key t found := by cases isFresh_ofKeys found

end Crowd
end LintBridge

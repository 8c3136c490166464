import LintBridge.Proofs.Keyed
import LintBridge.Proofs.Linter.Tickets

/-!
Who has taken which key, over a whole history of a session.

A call may take its key with any of its steps, or with none. `Session.entries` is the order in which the calls
of a history do. `Session.Orderly` is what every proper history keeps: the registry, the calls and that order
agree, and a call takes no key but its own.
-/

set_option autoImplicit false
set_option relaxedAutoImplicit false

namespace LintBridge.Session

open Registry (Deals Ledger tokens)

/-- What happens to a session, each time with what there is around it. -/
abbrev History := List (Surroundings × SessionEvent)

def after : Session → History → Session
  | s, [] => s
  | s, (around, e) :: rest => (s.step around e).1.after rest

def begun : SessionEvent → List (Nat × Task)
  | .call n task => [(n, task)]
  | _ => []

/-- The calls that a history begins, in their order. -/
def allBegun (history : History) : List (Nat × Task) := history.flatMap fun moment => begun moment.2

def ticketOf? (s : Session) (n : Nat) : Option Ticket := (s.call? n).bind Activity.ticket?

def keyOf? (s : Session) (n : Nat) : Option String := (s.call? n).bind Activity.key?

def fileOf? (s : Session) (n : Nat) : Option Path := (s.call? n).bind Activity.file?

/-- The key that an event may have a call take, and the call. -/
def claim? (s : Session) : SessionEvent → Option (String × Nat)
  | .call n task => task.key?.map (·, n)
  | .signal n _ => (s.keyOf? n).map (·, n)
  | _ => none

/-- The key that is taken with an event, and the call that takes it. A token is drawn only for that. -/
def entry (s : Session) (around : Surroundings) (e : SessionEvent) : List (String × Nat) :=
  if (s.step around e).1.linter.registry.next = s.linter.registry.next then [] else (s.claim? e).toList

/-- The keys that are taken in a history, in their order, with the calls that take them. -/
def entries : Session → History → List (String × Nat)
  | _, [] => []
  | s, (around, e) :: rest => s.entry around e ++ (s.step around e).1.entries rest

/-- An event that fits the calls so far: a call has a new number, and only what is over is forgotten. -/
def Allows (s : Session) (known : List (Nat × Task)) : SessionEvent → Prop
  | .call n _ => n ∉ known.map Prod.fst
  | .forget n => ∀ a, s.call? n = some a → a.isOver = true
  | _ => True

def IsOver (s : Session) (n : Nat) : Prop := ∀ a, s.call? n = some a → a.isOver = true

def Proper : Session → List (Nat × Task) → History → Prop
  | _, _, [] => True
  | s, known, (around, e) :: rest =>
    s.Allows known e ∧ (s.step around e).1.Proper (begun e ++ known) rest

/-- The registry, the calls and the order in which keys have been taken, the newest first, agree. -/
structure Orderly (known : List (Nat × Task)) (log : List (String × Nat)) (s : Session) : Prop where
  ledger : Ledger (tokens s.ticketOf?) s.ticketOf? (fun _ => False) log s.linter.registry
  counted : s.linter.registry.next.toNat = log.length
  once : (log.map Prod.snd).Nodup
  logged : ∀ n t, s.ticketOf? n = some t → (t.key, n) ∈ log
  /-- A call that may still take a key has not taken one. -/
  unlogged : ∀ n key, s.keyOf? n = some key → n ∉ log.map Prod.snd
  sealed : ∀ n t file, s.ticketOf? n = some t → s.fileOf? n = some file → t.key = Analysis.key file
  filed : ∀ n file, s.fileOf? n = some file → ∃ b, (n, .analyze b) ∈ known ∧ b.path = some file
  keyed : ∀ key n, (key, n) ∈ log → ∃ task, (n, task) ∈ known ∧ task.key? = some key
  called : ∀ n a, s.call? n = some a → n ∈ known.map Prod.fst
  distinct : (known.map Prod.fst).Nodup

/-! ### Histories in two parts -/

section
variable {s : Session} {known : List (Nat × Task)}

theorem proper_append (front back : History) :
    s.Proper known (front ++ back) ↔
      s.Proper known front ∧ (s.after front).Proper ((allBegun front).reverse ++ known) back := by
  induction front generalizing s known with
  | nil => simp [Proper, after, allBegun]
  | cons moment rest ih =>
    obtain ⟨around, e⟩ := moment
    have reversed : (begun e).reverse = begun e := by cases e <;> rfl
    simp only [List.cons_append, Proper, after, allBegun, List.flatMap_cons, List.reverse_append, reversed,
      List.append_assoc, ih, and_assoc]

theorem after_append (front back : History) : s.after (front ++ back) = (s.after front).after back := by
  induction front generalizing s with
  | nil => rfl
  | cons moment rest ih => exact ih

theorem entries_append (front back : History) :
    s.entries (front ++ back) = s.entries front ++ (s.after front).entries back := by
  induction front generalizing s with
  | nil => rfl
  | cons moment rest ih =>
    obtain ⟨around, e⟩ := moment
    simp only [List.cons_append, entries, after, ih, List.append_assoc]

theorem length_allBegun_cons (around : Surroundings) (e : SessionEvent) (rest : History) :
    (allBegun ((around, e) :: rest)).length = (begun e).length + (allBegun rest).length := by
  simp only [allBegun, List.flatMap_cons, List.length_append]

theorem allBegun_append (front back : History) : allBegun (front ++ back) = allBegun front ++ allBegun back :=
  List.flatMap_append

end

/-! ### One call after a step -/

theorem call?_settle (s : Session) (n m : Nat) (p : Progress Activity) :
    (s.settle n p).1.call? m = if n = m then some p.state else s.call? m :=
  Keyed.get?_put n m p.state s.calls

theorem absent_of_called {s : Session} {known : List (Nat × Task)} {n : Nat}
    (called : ∀ n a, s.call? n = some a → n ∈ known.map Prod.fst) (isNew : n ∉ known.map Prod.fst) :
    s.call? n = none := by
  cases found : s.call? n with
  | none => rfl
  | some a => exact absurd (called n a found) isNew

theorem ticketOf?_settle (s : Session) (n m : Nat) (p : Progress Activity) :
    (s.settle n p).1.ticketOf? m = if n = m then p.state.ticket? else s.ticketOf? m := by
  rw [ticketOf?, call?_settle]
  split <;> rfl

theorem keyOf?_settle (s : Session) (n m : Nat) (p : Progress Activity) :
    (s.settle n p).1.keyOf? m = if n = m then p.state.key? else s.keyOf? m := by
  rw [keyOf?, call?_settle]
  split <;> rfl

theorem fileOf?_settle (s : Session) (n m : Nat) (p : Progress Activity) :
    (s.settle n p).1.fileOf? m = if n = m then p.state.file? else s.fileOf? m := by
  rw [fileOf?, call?_settle]
  split <;> rfl

theorem ticket?_of_isOver {a : Activity} (isOver : a.isOver = true) : a.ticket? = none := by
  cases a with
  | running t => cases isOver
  | analysis x => cases x <;> first | rfl | cases isOver
  | _ => rfl

theorem call?_forget (s : Session) (around : Surroundings) (n m : Nat) :
    (s.step around (.forget n)).1.call? m = if n = m then none else s.call? m :=
  Keyed.get?_erase n m s.calls

private theorem entry_of_follows {r r' : Registry} {ticket : Option Ticket} {key : Option String}
    {file : Option Path} {a : Activity} {keys : List String}
    (follows : Activity.Follows r ticket key file a r' keys) (n : Nat) :
    (if r'.next = r.next then [] else (key.map (·, n)).toList) = keys.map (·, n) := by
  rcases follows.deals.next_eq with ⟨rfl, same⟩ | ⟨k, rfl, next⟩
  · rw [if_pos same]
    rfl
  · have drawn : r'.next ≠ r.next := by
      rw [next]
      intro same
      have values := congrArg UInt64.toNat same
      have small := r.next.toNat_lt
      simp only [UInt64.toNat_add, UInt64.reduceToNat] at values
      omega
    rw [if_neg drawn, follows.keyed k List.mem_cons_self]
    rfl

theorem entry_call {s : Session} {around : Surroundings} {n : Nat} {task : Task} {file : Option Path}
    {keys : List String}
    (follows : Activity.Follows s.linter.registry none task.key? file (Activity.start around task s.linter).state
      (Activity.start around task s.linter).linter.registry keys) :
    s.entry around (.call n task) = keys.map (·, n) :=
  entry_of_follows follows n

theorem entry_signal {s : Session} {around : Surroundings} {n : Nat} {signal : Signal} {a : Activity}
    {keys : List String} (found : s.call? n = some a)
    (follows : Activity.Follows s.linter.registry a.ticket? a.key? a.file? (a.step around signal s.linter).state
      (a.step around signal s.linter).linter.registry keys) :
    s.entry around (.signal n signal) = keys.map (·, n) := by
  have key : s.keyOf? n = a.key? := by rw [keyOf?, found, Option.bind_some]
  have found : Keyed.get? n s.calls = some a := found
  have stepped : (s.step around (.signal n signal)).1 = (s.settle n (a.step around signal s.linter)).1 := by
    rw [step, found]
  rw [← entry_of_follows follows n, ← key, entry, stepped]
  rfl

namespace Orderly

variable {known known' : List (Nat × Task)} {log : List (String × Nat)} {s : Session}

private theorem room (orderly : Orderly known log s) (grows : known ⊆ known') (few : known'.length < UInt64.size)
    {n : Nat} (isKnown : n ∈ known'.map Prod.fst) (unlogged : n ∉ log.map Prod.snd) :
    s.linter.registry.next.toNat + 1 < UInt64.size := by
  -- As many tokens have been drawn as keys have been taken, and no call takes two.
  have once : (n :: log.map Prod.snd).Nodup := List.nodup_cons.mpr ⟨unlogged, orderly.once⟩
  have within : n :: log.map Prod.snd ⊆ known'.map Prod.fst := by
    intro m isIn
    rcases List.mem_cons.mp isIn with rfl | isIn
    · exact isKnown
    · obtain ⟨⟨key, m⟩, logged, rfl⟩ := List.mem_map.mp isIn
      obtain ⟨task, isKnown, -⟩ := orderly.keyed key m logged
      exact List.mem_map_of_mem (grows isKnown)
  have bound := List.Nodup.length_le_of_subset once within
  simp only [List.length_cons, List.length_map] at bound
  rw [orderly.counted]
  omega

private theorem settle (orderly : Orderly known log s) (grows : known ⊆ known') (few : known'.length < UInt64.size)
    {n : Nat} {p : Progress Activity} {key : Option String} {file : Option Path} {keys : List String}
    (follows : Activity.Follows s.linter.registry (s.ticketOf? n) key file p.state p.linter.registry keys)
    (distinct : (known'.map Prod.fst).Nodup) (isKnown : n ∈ known'.map Prod.fst) (unlogged : ∀ k, key = some k → n ∉ log.map Prod.snd)
    (filed : ∀ f, file = some f → ∃ b, (n, .analyze b) ∈ known' ∧ b.path = some f)
    (keyed : ∀ k, key = some k → ∃ task, (n, task) ∈ known' ∧ task.key? = some k)
    (sealed : ∀ t f, s.ticketOf? n = some t → file = some f → t.key = Analysis.key f) :
    Orderly known' (keys.map (·, n) ++ log) (s.settle n p).1 := by
  have isOne := follows.deals.next_eq
  have notLogged : keys ≠ [] → n ∉ log.map Prod.snd := by
    intro some
    obtain ⟨k, isIn⟩ := List.exists_mem_of_ne_nil keys some
    exact unlogged k (follows.keyed k isIn)
  have room : keys ≠ [] → s.linter.registry.next.toNat + 1 < UInt64.size := fun some =>
    orderly.room grows few isKnown (notLogged some)
  have ledger := orderly.ledger.deals follows.deals room (ticketOf?_settle s n · p)
  have mem_entry : ∀ {k m}, (k, m) ∈ keys.map (·, n) → k ∈ keys ∧ m = n := by
    intro k m isIn
    obtain ⟨k', isKey, eq⟩ := List.mem_map.mp isIn
    cases eq
    exact ⟨isKey, rfl⟩
  exact
    { ledger := ledger
      counted := by
        rcases isOne with ⟨rfl, next⟩ | ⟨k, rfl, next⟩
        · simpa [Session.settle, next] using orderly.counted
        · have numbered := Registry.toNat_next (room (by simp))
          simp only [Session.settle, next, numbered, orderly.counted, List.map_cons, List.map_nil,
            List.singleton_append, List.length_cons]
      once := by
        rcases isOne with ⟨rfl, -⟩ | ⟨k, rfl, -⟩
        · exact orderly.once
        · exact List.nodup_cons.mpr ⟨notLogged (by simp), orderly.once⟩
      logged := by
        intro m t holds
        rw [ticketOf?_settle] at holds
        split at holds
        · rename_i same
          subst same
          have deals := follows.deals
          rw [holds] at deals
          rcases deals.of_some with held | taken
          · exact List.mem_append_right _ (orderly.logged n t held)
          · rw [taken]
            exact List.mem_cons_self
        · exact List.mem_append_right _ (orderly.logged m t holds)
      unlogged := by
        intro m k may
        rw [keyOf?_settle] at may
        split at may
        · rename_i same
          subst same
          obtain ⟨none, was⟩ := follows.asks k may
          rw [none]
          exact unlogged k was
        · rename_i other
          intro isIn
          rw [List.map_append, List.mem_append] at isIn
          rcases isIn with isIn | isIn
          · obtain ⟨⟨k', m'⟩, isEntry, rfl⟩ := List.mem_map.mp isIn
            exact other (mem_entry isEntry).2.symm
          · exact orderly.unlogged m k may isIn
      sealed := by
        intro m t f holds has
        rw [ticketOf?_settle] at holds
        rw [fileOf?_settle] at has
        split at holds
        · rename_i same
          rw [if_pos same] at has
          rcases follows.sealed t f holds has with eq | held
          · exact eq
          · exact sealed t f held (follows.keeps f has)
        · rename_i other
          rw [if_neg other] at has
          exact orderly.sealed m t f holds has
      filed := by
        intro m f has
        rw [fileOf?_settle] at has
        split at has
        · rename_i same
          subst same
          exact filed f (follows.keeps f has)
        · obtain ⟨b, isIn, stored⟩ := orderly.filed m f has
          exact ⟨b, grows isIn, stored⟩
      keyed := by
        intro k m isIn
        rcases List.mem_append.mp isIn with isIn | isIn
        · obtain ⟨isKey, rfl⟩ := mem_entry isIn
          exact keyed k (follows.keyed k isKey)
        · obtain ⟨task, isKnown, has⟩ := orderly.keyed k m isIn
          exact ⟨task, grows isKnown, has⟩
      called := by
        intro m a found
        rw [call?_settle] at found
        split at found
        · rename_i same
          rw [← same]
          exact isKnown
        · obtain ⟨p, isIn, rfl⟩ := List.mem_map.mp (orderly.called m a found)
          exact List.mem_map_of_mem (grows isIn)
      distinct := distinct }

theorem task_of_keyOf? (orderly : Orderly known log s) {n : Nat} {key : String} (may : s.keyOf? n = some key) :
    ∃ task, (n, task) ∈ known ∧ task.key? = some key := by
  obtain ⟨a, found, may⟩ := Option.bind_eq_some_iff.mp may
  cases a with
  | analysis x =>
    cases x with
    | asking p i =>
      cases may
      obtain ⟨b, isKnown, stored⟩ := orderly.filed n p.file (by rw [fileOf?, found]; rfl)
      exact ⟨.analyze b, isKnown, by rw [Task.key?, stored, Option.map_some]⟩
    | _ => cases may
  | _ => cases may

private theorem call (orderly : Orderly known log s) (around : Surroundings) {n : Nat} (task : Task)
    (few : known.length + 1 < UInt64.size) (isNew : n ∉ known.map Prod.fst) :
    Orderly ((n, task) :: known) (s.entry around (.call n task) ++ log) (s.step around (.call n task)).1 := by
  obtain ⟨keys, follows⟩ := Activity.follows_start around task s.linter
  have idle : s.ticketOf? n = none := by rw [ticketOf?, absent_of_called orderly.called isNew, Option.bind_none]
  have unlogged : n ∉ log.map Prod.snd := by
    intro isIn
    obtain ⟨⟨key, m⟩, logged, rfl⟩ := List.mem_map.mp isIn
    obtain ⟨task', isKnown, -⟩ := orderly.keyed key m logged
    exact isNew (List.mem_map_of_mem isKnown)
  rw [entry_call follows]
  rw [← idle] at follows
  refine orderly.settle (List.subset_cons_self _ _) ?_ follows ?_ ?_ ?_ ?_ ?_ ?_
  · rw [List.length_cons]
    exact few
  · exact List.nodup_cons.mpr ⟨isNew, orderly.distinct⟩
  · exact List.mem_cons_self
  · exact fun k _ => unlogged
  · intro f has
    cases task with
    | analyze b => exact ⟨b, List.mem_cons_self, has⟩
    | _ => cases has
  · exact fun k has => ⟨task, List.mem_cons_self, has⟩
  · intro t f holds
    rw [idle] at holds
    cases holds

private theorem signal (orderly : Orderly known log s) (around : Surroundings) (n : Nat) (signal : Signal)
    (few : known.length < UInt64.size) :
    Orderly known (s.entry around (.signal n signal) ++ log) (s.step around (.signal n signal)).1 := by
  cases found : s.call? n with
  | none =>
    have found : Keyed.get? n s.calls = none := found
    have stays : (s.step around (.signal n signal)).1 = s := by rw [step, found]
    rw [entry, stays, if_pos rfl]
    exact orderly
  | some a =>
    obtain ⟨keys, follows⟩ := Activity.follows_step around signal a s.linter
    have ticket : s.ticketOf? n = a.ticket? := by rw [ticketOf?, found, Option.bind_some]
    have key : s.keyOf? n = a.key? := by rw [keyOf?, found, Option.bind_some]
    have file : s.fileOf? n = a.file? := by rw [fileOf?, found, Option.bind_some]
    have stepped : (s.step around (.signal n signal)).1 = (s.settle n (a.step around signal s.linter)).1 := by
      have found : Keyed.get? n s.calls = some a := found
      rw [step, found]
    rw [entry_signal found follows, stepped]
    rw [← ticket, ← key, ← file] at follows
    refine orderly.settle (List.Subset.refl _) few follows orderly.distinct ?_ ?_ ?_ ?_ ?_
    · exact orderly.called n a found
    · exact orderly.unlogged n
    · exact orderly.filed n
    · exact fun k may => orderly.task_of_keyOf? may
    · exact orderly.sealed n

private theorem forget (orderly : Orderly known log s) (around : Surroundings) (n : Nat)
    (isOver : ∀ a, s.call? n = some a → a.isOver = true) :
    Orderly known log (s.step around (.forget n)).1 := by
  have kept : ∀ m a, (s.step around (.forget n)).1.call? m = some a → s.call? m = some a := by
    intro m a found
    rw [call?_forget] at found
    split at found
    · cases found
    · exact found
  have keptOf : ∀ {α : Type} (f : Activity → Option α) m x,
      ((s.step around (.forget n)).1.call? m).bind f = some x → (s.call? m).bind f = some x := by
    intro α f m x has
    obtain ⟨a, found, eq⟩ := Option.bind_eq_some_iff.mp has
    rw [kept m a found, Option.bind_some, eq]
  have sameTickets : ∀ m, (s.step around (.forget n)).1.ticketOf? m = s.ticketOf? m := by
    intro m
    rw [ticketOf?, ticketOf?, call?_forget]
    split
    · rename_i same
      subst same
      cases found : s.call? n with
      | none => rfl
      | some a => rw [Option.bind_some, ticket?_of_isOver (isOver a found), Option.bind_none]
    · rfl
  exact
    { ledger := orderly.ledger.congr (fun m => by rw [tokens, sameTickets]) sameTickets fun _ h => h
      counted := orderly.counted
      once := orderly.once
      logged := fun m t holds => orderly.logged m t (by rwa [sameTickets] at holds)
      unlogged := fun m key may => orderly.unlogged m key (keptOf _ m key may)
      sealed := fun m t file holds has =>
        orderly.sealed m t file (by rwa [sameTickets] at holds) (keptOf _ m file has)
      filed := fun m file has => orderly.filed m file (keptOf _ m file has)
      keyed := orderly.keyed
      called := fun m a found => orderly.called m a (kept m a found)
      distinct := orderly.distinct }

theorem step (orderly : Orderly known log s) (around : Surroundings) (e : SessionEvent)
    (few : (begun e ++ known).length < UInt64.size) (fits : s.Allows known e) :
    Orderly (begun e ++ known) (s.entry around e ++ log) (s.step around e).1 := by
  have quiet : (s.step around e).1.linter.registry = s.linter.registry → s.entry around e = [] := by
    intro same
    rw [entry, same, if_pos rfl]
  cases e with
  | call n task => exact orderly.call around task few fits
  | signal n signal => exact orderly.signal around n signal few
  | forget n =>
    rw [quiet rfl]
    exact orderly.forget around n fits
  | configure c =>
    rw [quiet rfl]
    exact { orderly with }
  | setRoot root =>
    rw [quiet rfl]
    exact { orderly with }
  | remember dir bundled =>
    rw [quiet rfl]
    exact { orderly with }

/-- A proper history keeps the calls in order. -/
theorem after {history : History} (orderly : Orderly known log s) (proper : s.Proper known history)
    (few : (allBegun history).length + known.length < UInt64.size) :
    Orderly ((allBegun history).reverse ++ known) ((s.entries history).reverse ++ log) (s.after history) := by
  induction history generalizing s known log with
  | nil => exact orderly
  | cons moment rest ih =>
    obtain ⟨around, e⟩ := moment
    obtain ⟨fits, proper⟩ := proper
    rw [length_allBegun_cons] at few
    have reversed : (begun e).reverse = begun e := by cases e <;> rfl
    have reversedEntry : (s.entry around e).reverse = s.entry around e := by
      unfold entry
      split
      · rfl
      · cases s.claim? e <;> rfl
    have next := orderly.step around e (by rw [List.length_append]; omega) fits
    have final := ih next proper (by rw [List.length_append]; omega)
    simp only [allBegun, List.flatMap_cons, List.reverse_append, reversed, entries, reversedEntry,
      List.append_assoc]
    exact final

end Orderly

theorem orderly_ofLinter (config : Config) (root : Option Path) (bundles : Bundler.Memo) :
    Orderly [] [] (ofLinter ⟨config, root, bundles, .empty⟩) where
  ledger := Ledger.empty
  counted := rfl
  once := List.nodup_nil
  logged n t holds := by cases holds
  unlogged n key may := by cases may
  sealed n t file holds := by cases holds
  filed n file has := by cases has
  keyed key n isIn := by cases isIn
  called n a found := by cases found
  distinct := List.nodup_nil

end LintBridge.Session

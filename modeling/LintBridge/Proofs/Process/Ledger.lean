import LintBridge.Process.Registry
import LintBridge.Proofs.Keyed

/-!
What those who have a token may rely on.

The registry only knows tokens. A ledger knows whose they are: `drawn` gives the token that somebody has
drawn and not given up, `held` the ticket that somebody has entered and not given up, and `log` names
everybody who has entered for a key, the newest first. `due` says which tokens are still to be told to stop.
Each thing that happens to a registry keeps all this in step; `isCurrent_iff_newest` is what follows for a
holder that asks whether its ticket still counts.
-/

set_option autoImplicit false
set_option relaxedAutoImplicit false

namespace LintBridge.Registry

variable {drawn drawn' : Nat → Option UInt64} {held held' : Nat → Option Ticket}
  {due due' : UInt64 → Prop} {log : List (String × Nat)} {r : Registry} {m n : Nat} {t : Ticket}

theorem isDismissed_iff (r : Registry) (t : Ticket) : r.isDismissed t = true ↔ t.token ∈ r.dismissed := by
  simp [isDismissed]

theorem next_release (r : Registry) (t : Ticket) : (r.release t).next = r.next := by
  unfold release
  split <;> rfl

theorem dismissed_release (r : Registry) (t : Ticket) : (r.release t).dismissed = r.dismissed := by
  unfold release
  split <;> rfl

theorem toNat_next {token : UInt64} (room : token.toNat + 1 < UInt64.size) :
    (token + 1).toNat = token.toNat + 1 := by
  rw [UInt64.toNat_add]
  exact Nat.mod_eq_of_lt room

theorem lt_next_draw (r : Registry) (room : r.next.toNat + 1 < UInt64.size) : r.next < r.draw.2.next := by
  rw [UInt64.lt_iff_toNat_lt, draw, toNat_next room]
  exact Nat.lt_succ_self _

/-- Somebody holds a ticket, but another one has entered last for its key. -/
def Replaced (held : Nat → Option Ticket) (log : List (String × Nat)) (n : Nat) : Prop :=
  ∃ t, held n = some t ∧ Keyed.get? t.key log ≠ some n

/-- Once replaced, one stays so: another entry does not bring the key back. -/
theorem Replaced.enter (replaced : Replaced held log m) (idle : held n = none)
    (entered : ∀ k, held' k = if n = k then some t else held k) :
    Replaced held' ((t.key, n) :: log) m := by
  obtain ⟨s, holds, notNewest⟩ := replaced
  have other : n ≠ m := by
    rintro rfl
    rw [idle] at holds
    cases holds
  refine ⟨s, by rw [entered, if_neg other, holds], ?_⟩
  intro newest
  by_cases hkey : t.key = s.key
  · simp [Keyed.get?, hkey, other] at newest
  · exact notNewest (by simpa [Keyed.get?, hkey] using newest)

/-- The registry, the tokens, the tickets and the order of the entries agree. -/
structure Ledger (drawn : Nat → Option UInt64) (held : Nat → Option Ticket) (due : UInt64 → Prop)
    (log : List (String × Nat)) (r : Registry) : Prop where
  drawn_below : ∀ n token, drawn n = some token → token < r.next
  drawn_distinct : ∀ m n token, drawn m = some token → drawn n = some token → m = n
  held_drawn : ∀ n t, held n = some t → drawn n = some t.token
  /-- The owner of a key has entered last for it, and still holds its ticket. -/
  owner_newest : ∀ key token, r.owner? key = some token →
    ∃ n, Keyed.get? key log = some n ∧ held n = some ⟨key, token⟩
  /-- Who has entered last for a key owns it until it gives its ticket up. -/
  newest_owner : ∀ n t, held n = some t → Keyed.get? t.key log = some n →
    r.owner? t.key = some t.token
  /-- Only those are told to stop that have been replaced. -/
  outdated : ∀ token, token ∈ r.dismissed ∨ due token →
    token < r.next ∧ ∀ n, drawn n = some token → Replaced held log n

namespace Ledger

theorem empty : Ledger (fun _ => none) (fun _ => none) (fun _ => False) [] Registry.empty where
  drawn_below n token h := by cases h
  drawn_distinct m n token h := by cases h
  held_drawn n t h := by cases h
  owner_newest key token owned := by simp [owner?, Registry.empty, Keyed.get?] at owned
  newest_owner n t h := by cases h
  outdated token h := by simp [Registry.empty] at h

theorem congr (ledger : Ledger drawn held due log r) (sameDrawn : ∀ m, drawn' m = drawn m)
    (sameHeld : ∀ m, held' m = held m) (dues : ∀ token, due' token → due token) :
    Ledger drawn' held' due' log r := by
  rw [funext sameDrawn, funext sameHeld]
  exact
    { ledger with outdated := fun token h => ledger.outdated token (h.imp_right (dues token)) }

/-- A ticket still counts exactly as long as nobody else has entered for its key. -/
theorem isCurrent_iff_newest (ledger : Ledger drawn held due log r) (holds : held n = some t) :
    r.isCurrent t = true ↔ Keyed.get? t.key log = some n := by
  rw [isCurrent_iff]
  constructor
  · intro owned
    obtain ⟨m, newest, holds'⟩ := ledger.owner_newest t.key t.token owned
    have same : m = n :=
      ledger.drawn_distinct m n t.token (ledger.held_drawn m _ holds') (ledger.held_drawn n t holds)
    rw [← same]
    exact newest
  · intro newest
    exact ledger.newest_owner n t holds newest

/-- A ticket still counts exactly as long as nobody enters for its key later. -/
theorem isCurrent_iff_last {entries : List (String × Nat)} (ledger : Ledger drawn held due entries.reverse r)
    (once : (entries.reverse.map Prod.snd).Nodup) (holds : held n = some t)
    (logged : (t.key, n) ∈ entries.reverse) :
    r.isCurrent t = true ↔ ∀ m, ¬ Keyed.Later t.key n m entries := by
  rw [List.map_reverse, (List.reverse_perm _).nodup_iff] at once
  rw [ledger.isCurrent_iff_newest holds, Keyed.get?_reverse_eq_some_iff once (List.mem_reverse.mp logged)]

theorem replaced_of_dismissed (ledger : Ledger drawn held due log r) (holds : held n = some t)
    (told : r.isDismissed t = true) : Replaced held log n :=
  (ledger.outdated t.token (.inl ((isDismissed_iff r t).mp told))).2 n (ledger.held_drawn n t holds)

theorem draw (ledger : Ledger drawn held due log r) (room : r.next.toNat + 1 < UInt64.size)
    (idle : drawn n = none) (draws : ∀ m, drawn' m = if n = m then some r.next else drawn m) :
    Ledger drawn' held due log r.draw.2 where
  drawn_below := by
    intro m token h
    rw [draws] at h
    split at h
    · cases h
      exact lt_next_draw r room
    · exact UInt64.lt_trans (ledger.drawn_below m token h) (lt_next_draw r room)
  drawn_distinct := by
    intro m k token hm hk
    rw [draws] at hm hk
    split at hm <;> split at hk
    · rename_i eqm eqk
      exact eqm.symm.trans eqk
    · cases hm
      exact absurd (ledger.drawn_below k _ hk) (UInt64.lt_irrefl _)
    · cases hk
      exact absurd (ledger.drawn_below m _ hm) (UInt64.lt_irrefl _)
    · exact ledger.drawn_distinct m k token hm hk
  held_drawn := by
    intro m t holds
    have has := ledger.held_drawn m t holds
    have other : n ≠ m := by
      rintro rfl
      rw [idle] at has
      cases has
    rw [draws, if_neg other, has]
  owner_newest := ledger.owner_newest
  newest_owner := ledger.newest_owner
  outdated := by
    intro token h
    obtain ⟨below, replaced⟩ := ledger.outdated token h
    refine ⟨UInt64.lt_trans below (lt_next_draw r room), ?_⟩
    intro m hm
    rw [draws] at hm
    split at hm
    · cases hm
      exact absurd below (UInt64.lt_irrefl _)
    · exact replaced m hm

theorem enter (ledger : Ledger drawn held due log r) (idle : held n = none)
    (has : drawn n = some t.token) (entered : ∀ m, held' m = if n = m then some t else held m)
    (dues : ∀ token, due' token → due token ∨ r.owner? t.key = some token) :
    Ledger drawn held' due' ((t.key, n) :: log) (r.enter t).2 where
  drawn_below := ledger.drawn_below
  drawn_distinct := ledger.drawn_distinct
  held_drawn := by
    intro m s holds
    rw [entered] at holds
    split at holds
    · rename_i same
      cases holds
      rw [← same]
      exact has
    · exact ledger.held_drawn m s holds
  owner_newest := by
    intro key token owned
    rw [owner?_enter] at owned
    by_cases hkey : t.key = key
    · rw [if_pos hkey] at owned
      cases owned
      refine ⟨n, by simp [Keyed.get?, hkey], ?_⟩
      rw [entered, if_pos rfl, ← hkey]
    · rw [if_neg hkey] at owned
      obtain ⟨m, newest, holds⟩ := ledger.owner_newest key token owned
      have other : n ≠ m := by
        rintro rfl
        rw [idle] at holds
        cases holds
      refine ⟨m, by simp [Keyed.get?, hkey, newest], ?_⟩
      rw [entered, if_neg other]
      exact holds
  newest_owner := by
    intro m s holds newest
    rw [owner?_enter]
    rw [entered] at holds
    by_cases hm : n = m
    · rw [if_pos hm] at holds
      cases holds
      rw [if_pos rfl]
    · rw [if_neg hm] at holds
      by_cases hkey : t.key = s.key
      · simp [Keyed.get?, hkey, hm] at newest
      · rw [if_neg hkey]
        exact ledger.newest_owner m s holds (by simpa [Keyed.get?, hkey] using newest)
  outdated := by
    intro token h
    have old : (token ∈ r.dismissed ∨ due token) ∨ r.owner? t.key = some token := by
      rcases h with h | h
      · exact .inl (.inl h)
      · rcases dues token h with h | h
        · exact .inl (.inr h)
        · exact .inr h
    rcases old with old | owned
    · obtain ⟨below, replaced⟩ := ledger.outdated token old
      exact ⟨below, fun m hm => (replaced m hm).enter idle entered⟩
    · obtain ⟨m, newest, holds⟩ := ledger.owner_newest t.key token owned
      have hasIt := ledger.held_drawn m _ holds
      have other : n ≠ m := by
        rintro rfl
        rw [idle] at holds
        cases holds
      refine ⟨ledger.drawn_below m token hasIt, ?_⟩
      intro k hk
      have same : m = k := ledger.drawn_distinct m k token hasIt hk
      refine ⟨⟨t.key, token⟩, ?_, ?_⟩
      · rw [← same, entered, if_neg other, holds]
      · simp [Keyed.get?, ← same, other]

theorem dismiss (ledger : Ledger drawn held due log r) (previous : Option UInt64)
    (wasDue : ∀ token, previous = some token → due token) (dues : ∀ token, due' token → due token) :
    Ledger drawn held due' log (r.dismiss previous) where
  drawn_below := by
    cases previous <;> exact ledger.drawn_below
  drawn_distinct := ledger.drawn_distinct
  held_drawn := ledger.held_drawn
  owner_newest key token owned := ledger.owner_newest key token (by rwa [owner?_dismiss] at owned)
  newest_owner n t holds newest := by
    rw [owner?_dismiss]
    exact ledger.newest_owner n t holds newest
  outdated := by
    intro token h
    cases previous with
    | none => exact ledger.outdated token (h.imp_right (dues token))
    | some former =>
      rcases h with h | h
      · rcases List.mem_cons.mp h with rfl | h
        · exact ledger.outdated token (.inr (wasDue token rfl))
        · exact ledger.outdated token (.inl h)
      · exact ledger.outdated token (.inr (dues token h))

theorem release (ledger : Ledger drawn held due log r) (holds : held n = some t)
    (undrawn : ∀ m, drawn' m = if n = m then none else drawn m)
    (released : ∀ m, held' m = if n = m then none else held m) :
    Ledger drawn' held' due log (r.release t) where
  drawn_below := by
    intro m token h
    rw [undrawn] at h
    rw [next_release]
    split at h
    · cases h
    · exact ledger.drawn_below m token h
  drawn_distinct := by
    intro m k token hm hk
    rw [undrawn] at hm hk
    split at hm
    · cases hm
    · split at hk
      · cases hk
      · exact ledger.drawn_distinct m k token hm hk
  held_drawn := by
    intro m s hs
    rw [released] at hs
    split at hs
    · cases hs
    · rename_i other
      rw [undrawn, if_neg other]
      exact ledger.held_drawn m s hs
  owner_newest := by
    intro key token owned
    rw [owner?_release] at owned
    split at owned
    · cases owned
    · rename_i kept
      obtain ⟨m, newest, holds'⟩ := ledger.owner_newest key token owned
      have other : n ≠ m := by
        rintro rfl
        rw [holds] at holds'
        cases holds'
        exact kept ⟨rfl, (ledger.isCurrent_iff_newest holds).mpr newest⟩
      refine ⟨m, newest, ?_⟩
      rw [released, if_neg other]
      exact holds'
  newest_owner := by
    intro m s holds' newest
    rw [released] at holds'
    split at holds'
    · cases holds'
    · rename_i other
      rw [owner?_release, if_neg]
      · exact ledger.newest_owner m s holds' newest
      · rintro ⟨sameKey, current⟩
        have newest' := (ledger.isCurrent_iff_newest holds).mp current
        rw [sameKey, newest] at newest'
        cases newest'
        exact other rfl
  outdated := by
    intro token h
    rw [dismissed_release] at h
    rw [next_release]
    obtain ⟨below, replaced⟩ := ledger.outdated token h
    refine ⟨below, ?_⟩
    intro m hm
    rw [undrawn] at hm
    split at hm
    · cases hm
    · rename_i other
      obtain ⟨s, hs, notNewest⟩ := replaced m hm
      exact ⟨s, by rw [released, if_neg other, hs], notNewest⟩

theorem take (ledger : Ledger drawn held due log r) (room : r.next.toNat + 1 < UInt64.size) (key : String)
    (idle : drawn n = none) (draws : ∀ m, drawn' m = if n = m then some r.next else drawn m)
    (entered : ∀ m, held' m = if n = m then some ⟨key, r.next⟩ else held m) :
    Ledger drawn' held' due ((key, n) :: log) (r.take key).2 := by
  have empty : held n = none := by
    cases holds : held n with
    | none => rfl
    | some t =>
      rw [ledger.held_drawn n t holds] at idle
      cases idle
  have hasDrawn := ledger.draw room idle draws
  have hasEntered : Ledger drawn' held' (fun token => due token ∨ r.draw.2.owner? key = some token)
      ((key, n) :: log) (r.draw.2.enter ⟨key, r.next⟩).2 :=
    hasDrawn.enter empty (by rw [draws, if_pos rfl]) entered (fun _ h => h)
  exact hasEntered.dismiss (r.draw.2.owner? key) (fun _ h => .inr h) (fun _ h => .inl h)

end Ledger
end LintBridge.Registry

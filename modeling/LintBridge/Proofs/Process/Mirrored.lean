import LintBridge.Proofs.Process.Crowd
import Mathlib.Logic.Function.Basic

/-!
Two crowds that are one for the runs of a key.

All runs draw from one counter and enter into one registry. Where some runs take no steps, the others draw
smaller tokens. `Registry.Mirrors` says when two registries agree on a key, up to the numbers of its tokens, and
`Crowd.Mirrored` when two crowds do; a run of the key takes its steps in both, and a step of any other run is
taken in one of them only.
-/

set_option autoImplicit false
set_option relaxedAutoImplicit false

namespace LintBridge

def Ticket.renumber (f : UInt64 → UInt64) (t : Ticket) : Ticket := ⟨t.key, f t.token⟩

namespace Stage

def renumber (f : UInt64 → UInt64) : Stage → Stage
  | fresh => fresh
  | drawn token => drawn (f token)
  | entered token previous => entered (f token) (previous.map f)
  | underway ticket => underway (ticket.map (Ticket.renumber f))
  | ended t e => ended (t.renumber f) e
  | judged t result => judged (t.renumber f) result
  | returned result => returned result

/-- The tokens that a run knows: its own, and that of the run that it has replaced. -/
def tokens : Stage → List UInt64
  | fresh => []
  | drawn token => [token]
  | entered token previous => token :: previous.toList
  | underway ticket => (ticket.map Ticket.token).toList
  | ended t _ => [t.token]
  | judged t _ => [t.token]
  | returned _ => []

def isToDraw (run : Option String × Stage) : Bool := run.1.isSome && run.2.isFresh

variable {f g : UInt64 → UInt64} {key : Option String} {r r' : Registry} {stage stage' : Stage} {m : Move}

theorem renumber_congr (same : ∀ token ∈ stage.tokens, f token = g token) :
    stage.renumber f = stage.renumber g := by
  cases stage with
  | entered token previous => cases previous <;> simp_all [renumber, tokens]
  | underway ticket => cases ticket <;> simp_all [renumber, tokens, Ticket.renumber]
  | _ => simp_all [renumber, tokens, Ticket.renumber]

theorem drawn?_renumber (f : UInt64 → UInt64) (stage : Stage) : (stage.renumber f).drawn? = stage.drawn?.map f := by
  cases stage with
  | underway ticket => cases ticket <;> rfl
  | _ => rfl

theorem mem_tokens_of_drawn? {token : UInt64} (drawn : stage.drawn? = some token) : token ∈ stage.tokens := by
  cases stage with
  | underway ticket => cases ticket <;> simp_all [drawn?, tokens]
  | _ => simp_all [drawn?, tokens]

theorem Advance.tokens {token : UInt64} (advance : Advance key r stage m stage' r') (knows : token ∈ stage'.tokens) :
    token ∈ stage.tokens ∨ (stage = fresh ∧ key.isSome ∧ token = r.next) ∨
      ∃ k, key = some k ∧ r.owner? k = some token := by
  cases advance with
  | draw keyed =>
    have new : token = r.next := by simpa [Stage.tokens] using knows
    exact .inr (.inl ⟨rfl, keyed, new⟩)
  | enter k own keyed =>
    have either : token = own ∨ r.owner? k = some token := by simpa [Stage.tokens] using knows
    rcases either with same | owner
    · exact .inl (by simp [Stage.tokens, same])
    · exact .inr (.inr ⟨k, keyed, owner⟩)
  | dismiss k own previous keyed =>
    have same : token = own := by simpa [Stage.tokens] using knows
    exact .inl (by simp [Stage.tokens, same])
  | begin keyless => cases knows
  | leave e => cases knows
  | release t result => cases knows
  | finish t e told => exact .inl knows
  | judge t e => exact .inl knows

theorem Advance.next (advance : Advance key r stage m stage' r') :
    isToDraw (key, stage') = false ∧
      (isToDraw (key, stage) = false ∧ r'.next = r.next ∨ isToDraw (key, stage) = true ∧ r' = r.draw.2) := by
  cases advance with
  | begin keyless => simp [isToDraw, isFresh, keyless]
  | draw keyed => simp [isToDraw, isFresh, keyed]
  | dismiss k token previous keyed => cases previous <;> simp [isToDraw, isFresh, Registry.dismiss]
  | release t result => simp [isToDraw, isFresh, Registry.next_release]
  | _ => simp [isToDraw, isFresh, Registry.enter]

end Stage

/-! ### Two registries -/

namespace Registry

/-- What the registry `r` says of one key, and of the tokens drawn for it, `q` says of their new numbers. -/
structure Mirrors (key : String) (mine : UInt64 → Prop) (f : UInt64 → UInt64) (r q : Registry) : Prop where
  owner : q.owner? key = (r.owner? key).map f
  owners : ∀ k token, r.owner? k = some token → token < r.next ∧ (mine token ↔ k = key)
  told : ∀ token, mine token → (token ∈ r.dismissed ↔ f token ∈ q.dismissed)
  toldBelow : (∀ token ∈ r.dismissed, token < r.next) ∧ ∀ token ∈ q.dismissed, token < q.next
  below : ∀ token, mine token → token < r.next ∧ f token < q.next
  ordered : ∀ s t, mine s → mine t → s < t → f s < f t
  fewer : q.next ≤ r.next

namespace Mirrors

variable {key k : String} {mine : UInt64 → Prop} {f : UInt64 → UInt64} {r q : Registry} {s t token : UInt64}
  {previous : Option UInt64}

theorem injective (mirrors : Mirrors key mine f r q) (hs : mine s) (ht : mine t) (same : f s = f t) : s = t := by
  have less := mirrors.ordered s t hs ht
  have greater := mirrors.ordered t s ht hs
  grind

theorem lt_iff (mirrors : Mirrors key mine f r q) (hs : mine s) (ht : mine t) : f s < f t ↔ s < t := by
  have less := mirrors.ordered s t hs ht
  have greater := mirrors.ordered t s ht hs
  grind

private theorem update_of_lt {next number : UInt64} (below : token < next) :
    Function.update f next number token = f token := by
  have other : token ≠ next := by grind
  exact Function.update_of_ne other _ _

/-! #### The run belongs to another key -/

theorem draw_other (mirrors : Mirrors key mine f r q) (room : r.next.toNat + 1 < UInt64.size) :
    Mirrors key mine f r.draw.2 q := by
  have grows := lt_next_draw r room
  exact
    { mirrors with
      owners := fun k token owned => ⟨UInt64.lt_trans (mirrors.owners k token owned).1 grows,
        (mirrors.owners k token owned).2⟩
      toldBelow := ⟨fun token told => UInt64.lt_trans (mirrors.toldBelow.1 token told) grows, mirrors.toldBelow.2⟩
      below := fun token h => ⟨UInt64.lt_trans (mirrors.below token h).1 grows, (mirrors.below token h).2⟩
      fewer := by
        have fewer := mirrors.fewer
        grind }

theorem enter_other (mirrors : Mirrors key mine f r q) (other : k ≠ key) (below : token < r.next)
    (foreign : ¬ mine token) : Mirrors key mine f (r.enter ⟨k, token⟩).2 q where
  owner := by rw [owner?_enter, if_neg other, mirrors.owner]
  owners := by
    intro k' token' owned
    rw [owner?_enter] at owned
    split at owned
    · rename_i same
      cases owned
      have notKey : k' ≠ key := fun eq => other (same.trans eq)
      exact ⟨below, by simp [foreign, notKey]⟩
    · exact mirrors.owners k' token' owned
  told := mirrors.told
  toldBelow := mirrors.toldBelow
  below := mirrors.below
  ordered := mirrors.ordered
  fewer := mirrors.fewer

theorem dismiss_other (mirrors : Mirrors key mine f r q)
    (foreign : ∀ token, previous = some token → token < r.next ∧ ¬ mine token) :
    Mirrors key mine f (r.dismiss previous) q := by
  cases previous with
  | none => exact mirrors
  | some former =>
    obtain ⟨below, notMine⟩ := foreign former rfl
    refine { mirrors with told := ?_, toldBelow := ⟨?_, mirrors.toldBelow.2⟩ }
    · intro token h
      have other : token ≠ former := fun same => notMine (same ▸ h)
      have before := mirrors.told token h
      simpa [dismiss, other] using before
    · intro token told
      rcases List.mem_cons.mp told with rfl | told
      · exact below
      · exact mirrors.toldBelow.1 token told

private theorem release_left (mirrors : Mirrors key mine f r q) (t : Ticket) {q' : Registry}
    (owner : q'.owner? key = ((r.release t).owner? key).map f) (dismissed : q'.dismissed = q.dismissed)
    (next : q'.next = q.next) : Mirrors key mine f (r.release t) q' where
  owner := owner
  owners := by
    intro k token owned
    rw [owner?_release] at owned
    split at owned
    · cases owned
    · rw [next_release]
      exact mirrors.owners k token owned
  told := by
    rw [dismissed_release, dismissed]
    exact mirrors.told
  toldBelow := by
    rw [dismissed_release, next_release, dismissed, next]
    exact mirrors.toldBelow
  below := by
    rw [next_release, next]
    exact mirrors.below
  ordered := mirrors.ordered
  fewer := by
    rw [next_release, next]
    exact mirrors.fewer

theorem release_other (mirrors : Mirrors key mine f r q) {t : Ticket} (other : t.key ≠ key) :
    Mirrors key mine f (r.release t) q := by
  refine mirrors.release_left t ?_ rfl rfl
  rw [owner?_release, if_neg fun both => other both.1, mirrors.owner]

/-! #### The run belongs to the key -/

theorem draw_own (mirrors : Mirrors key mine f r q) (room : r.next.toNat + 1 < UInt64.size) :
    Mirrors key (fun token => mine token ∨ token = r.next) (Function.update f r.next q.next)
      r.draw.2 q.draw.2 := by
  have fewer : q.next.toNat ≤ r.next.toNat := UInt64.le_iff_toNat_le.mp mirrors.fewer
  have grows := lt_next_draw r room
  have grows' := lt_next_draw q (by omega)
  have old : ∀ token, token < r.next → Function.update f r.next q.next token = f token := fun _ => update_of_lt
  have new : Function.update f r.next q.next r.next = q.next := Function.update_self _ _ _
  constructor
  · rw [owner?_draw, owner?_draw, mirrors.owner]
    cases owned : r.owner? key with
    | none => rfl
    | some token => simp [old token (mirrors.owners key token owned).1]
  · intro k token owned
    obtain ⟨below, iff⟩ := mirrors.owners k token owned
    have other : token ≠ r.next := by grind
    exact ⟨UInt64.lt_trans below grows, by simp [iff, other]⟩
  · rintro token (h | rfl)
    · rw [old token (mirrors.below token h).1]
      exact mirrors.told token h
    · rw [new]
      have notTold : r.next ∉ r.dismissed := fun told => UInt64.lt_irrefl _ (mirrors.toldBelow.1 _ told)
      have notTold' : q.next ∉ q.dismissed := fun told => UInt64.lt_irrefl _ (mirrors.toldBelow.2 _ told)
      exact ⟨fun told => absurd told notTold, fun told => absurd told notTold'⟩
  · exact ⟨fun token told => UInt64.lt_trans (mirrors.toldBelow.1 token told) grows,
      fun token told => UInt64.lt_trans (mirrors.toldBelow.2 token told) grows'⟩
  · rintro token (h | rfl)
    · obtain ⟨below, below'⟩ := mirrors.below token h
      rw [old token below]
      exact ⟨UInt64.lt_trans below grows, UInt64.lt_trans below' grows'⟩
    · rw [new]
      exact ⟨grows, grows'⟩
  · rintro s t (hs | rfl) (ht | rfl) less
    · rw [old s (mirrors.below s hs).1, old t (mirrors.below t ht).1]
      exact mirrors.ordered s t hs ht less
    · rw [old s less, new]
      exact (mirrors.below s hs).2
    · exact absurd (UInt64.lt_trans (mirrors.below t ht).1 less) (UInt64.lt_irrefl _)
    · exact absurd less (UInt64.lt_irrefl _)
  · -- Fewer tokens have been drawn on this side, so there is room for one more as well.
    have room' : q.next.toNat + 1 < UInt64.size := by omega
    rw [UInt64.le_iff_toNat_le, draw, draw, toNat_next room, toNat_next room']
    omega

theorem enter_own (mirrors : Mirrors key mine f r q) (own : mine token) :
    Mirrors key mine f (r.enter ⟨key, token⟩).2 (q.enter ⟨key, f token⟩).2 where
  owner := by simp [owner?_enter]
  owners := by
    intro k token' owned
    rw [owner?_enter] at owned
    split at owned
    · rename_i same
      cases owned
      exact ⟨(mirrors.below token own).1, by simp [own, ← same]⟩
    · exact mirrors.owners k token' owned
  told := mirrors.told
  toldBelow := mirrors.toldBelow
  below := mirrors.below
  ordered := mirrors.ordered
  fewer := mirrors.fewer

theorem dismiss_own (mirrors : Mirrors key mine f r q) (own : ∀ token, previous = some token → mine token) :
    Mirrors key mine f (r.dismiss previous) (q.dismiss (previous.map f)) := by
  cases previous with
  | none => exact mirrors
  | some former =>
    have hers := own former rfl
    refine { mirrors with told := ?_, toldBelow := ⟨?_, ?_⟩ }
    · intro token h
      have before := mirrors.told token h
      have same : f token = f former ↔ token = former := ⟨mirrors.injective h hers, fun eq => by rw [eq]⟩
      simp [dismiss, before, same]
    · intro token told
      rcases List.mem_cons.mp told with rfl | told
      · exact (mirrors.below token hers).1
      · exact mirrors.toldBelow.1 token told
    · intro token told
      rcases List.mem_cons.mp told with rfl | told
      · exact (mirrors.below former hers).2
      · exact mirrors.toldBelow.2 token told

theorem isCurrent_renumber (mirrors : Mirrors key mine f r q) {t : Ticket} (keyed : t.key = key)
    (own : mine t.token) : q.isCurrent (t.renumber f) = r.isCurrent t := by
  have iff : q.isCurrent (t.renumber f) = true ↔ r.isCurrent t = true := by
    rw [isCurrent_iff, isCurrent_iff, Ticket.renumber, keyed, mirrors.owner]
    cases owned : r.owner? key with
    | none => simp
    | some token =>
      have hers : mine token := (mirrors.owners key token owned).2.mpr rfl
      simp only [Option.map_some, Option.some.injEq]
      exact ⟨mirrors.injective hers own, fun eq => by rw [eq]⟩
  exact Bool.eq_iff_iff.mpr iff

theorem isDismissed_renumber (mirrors : Mirrors key mine f r q) {t : Ticket} (own : mine t.token) :
    q.isDismissed (t.renumber f) = r.isDismissed t := by
  have iff := mirrors.told t.token own
  exact Bool.eq_iff_iff.mpr (by simpa [isDismissed, Ticket.renumber] using iff.symm)

theorem release_own (mirrors : Mirrors key mine f r q) {t : Ticket} (keyed : t.key = key) (own : mine t.token) :
    Mirrors key mine f (r.release t) (q.release (t.renumber f)) := by
  have current := mirrors.isCurrent_renumber keyed own
  refine mirrors.release_left t ?_ (dismissed_release q _) (next_release q _)
  rw [owner?_release, owner?_release, current, mirrors.owner, Ticket.renumber]
  split <;> rfl

end Mirrors
end Registry

/-! ### Two crowds -/

namespace Stage

open Registry (Mirrors)

variable {key : String} {mine : UInt64 → Prop} {f : UInt64 → UInt64} {r r' q : Registry} {stage stage' : Stage}
  {m : Move} {sent : List Notice}

theorem advance_own (mirrors : Mirrors key mine f r q) (begun : stage.isFresh = false)
    (fits : stage.Fits (some key)) (own : ∀ token ∈ stage.tokens, mine token)
    (h : stage.advance (some key) r m = some (stage', r', sent)) :
    ∃ q', (stage.renumber f).advance (some key) q m = some (stage'.renumber f, q', sent) ∧
      Mirrors key mine f r' q' := by
  cases stage with
  | fresh => cases begun
  | drawn token =>
    cases m <;> cases h
    have hers := own token (by simp [tokens])
    refine ⟨(q.enter ⟨key, f token⟩).2, ?_, mirrors.enter_own hers⟩
    simp [renumber, advance, Registry.enter, mirrors.owner]
  | entered token previous =>
    cases m <;> cases h
    exact ⟨q.dismiss (previous.map f), rfl, mirrors.dismiss_own fun former h => own former (by simp [tokens, h])⟩
  | underway ticket =>
    cases ticket with
    | none => cases fits
    | some t =>
      cases m with
      | proceed => cases h
      | finish e =>
        have told := mirrors.isDismissed_renumber (t := t) (own t.token (by simp [tokens]))
        simp only [advance] at h
        split at h
        · cases h
        · rename_i allowed
          cases h
          refine ⟨q, ?_, mirrors⟩
          simp only [renumber, Option.map_some, advance, told]
          rw [if_neg allowed]
  | ended t e =>
    cases m <;> cases h
    have current := mirrors.isCurrent_renumber (Option.some.inj fits) (own t.token (by simp [tokens]))
    refine ⟨q, ?_, mirrors⟩
    simp [renumber, advance, current]
  | judged t result =>
    cases m <;> cases h
    exact ⟨q.release (t.renumber f), rfl,
      mirrors.release_own (Option.some.inj fits) (own t.token (by simp [tokens]))⟩
  | returned result => cases m <;> cases h

theorem Advance.other {k : Option String} (advance : Advance k r stage m stage' r')
    (mirrors : Mirrors key mine f r q) (fits : stage.Fits k) (other : k ≠ some key)
    (foreign : ∀ token ∈ stage.tokens, token < r.next ∧ ¬ mine token)
    (room : isToDraw (k, stage) = true → r.next.toNat + 1 < UInt64.size) : Mirrors key mine f r' q := by
  have apart : ∀ k', some k' = k → k' ≠ key := by
    rintro k' rfl same
    exact other (same ▸ rfl)
  cases advance with
  | draw keyed => exact mirrors.draw_other (room (by simp [isToDraw, isFresh, keyed]))
  | enter k' token keyed =>
    obtain ⟨below, notMine⟩ := foreign token (by simp [Stage.tokens])
    exact mirrors.enter_other (apart k' keyed.symm) below notMine
  | dismiss k' token previous keyed =>
    exact mirrors.dismiss_other fun former h => foreign former (by simp [Stage.tokens, h])
  | release t result => exact mirrors.release_other (apart t.key fits)
  | begin keyless => exact mirrors
  | leave e => exact mirrors
  | finish t e told => exact mirrors
  | judge t e => exact mirrors

end Stage

namespace Crowd

open Registry (Mirrors)
open Stage (isToDraw)

theorem advance_of_step {c c' : Crowd} {n : Nat} {m : Move} {sent : List Notice}
    (h : c.step n m = some (c', sent)) :
    ∃ key stage stage', c.run? n = some (key, stage) ∧
      stage.advance key c.registry m = some (stage', c'.registry, sent) ∧
      c'.runs = Keyed.put n (key, stage') c.runs := by
  unfold step at h
  split at h
  · cases h
  · rename_i key stage found
    split at h
    · cases h
    · rename_i stage' registry' notices advanced
      cases h
      exact ⟨key, stage, stage', found, advanced, rfl⟩

theorem step_of_advance {c : Crowd} {n : Nat} {m : Move} {key : Option String} {stage stage' : Stage} {r : Registry}
    {sent : List Notice} (found : c.run? n = some (key, stage))
    (advanced : stage.advance key c.registry m = some (stage', r, sent)) :
    c.step n m = some (⟨r, Keyed.put n (key, stage') c.runs⟩, sent) := by
  have found : Keyed.get? n c.runs = some (key, stage) := found
  simp only [step, found, advanced]

/-- Where the chosen runs take their steps in both crowds, and the other crowd stands still when another run
takes its step, a schedule goes through with the steps of the chosen runs alone. -/
theorem play_filter (own : Nat → Bool) (Same : Crowd → Crowd → Prop)
    (chosen : ∀ c d c' n m sent, Same c d → own n = true → c.step n m = some (c', sent) →
      ∃ d', d.step n m = some (d', sent) ∧ Same c' d')
    (passedOver : ∀ c d c' n m sent, Same c d → own n = false → c.step n m = some (c', sent) → Same c' d)
    {c d c' : Crowd} {schedule : List (Nat × Move)} {notices : List (Nat × Notice)} (same : Same c d)
    (played : c.play schedule = some (c', notices)) :
    ∃ d', d.play (schedule.filter fun p => own p.1) = some (d', notices.filter fun p => own p.1) ∧
      Same c' d' := by
  induction schedule generalizing c d notices with
  | nil =>
    cases played
    exact ⟨d, rfl, same⟩
  | cons head rest ih =>
    obtain ⟨n, m⟩ := head
    simp only [play] at played
    split at played
    · cases played
    · rename_i c₁ sent stepped
      obtain ⟨⟨c₂, later⟩, goesOn, eq⟩ := Option.map_eq_some_iff.mp played
      cases eq
      cases isOwn : own n with
      | true =>
        obtain ⟨d₁, stepped', same₁⟩ := chosen c d c₁ n m sent same isOwn stepped
        obtain ⟨d₂, played', same₂⟩ := ih same₁ goesOn
        refine ⟨d₂, ?_, same₂⟩
        have hers : (sent.map (n, ·)).filter (fun p => own p.1) = sent.map (n, ·) := by simp [isOwn]
        simp [isOwn, play, stepped', played', hers]
      | false =>
        obtain ⟨d₂, played', same₂⟩ := ih (passedOver c d c₁ n m sent same isOwn stepped) goesOn
        refine ⟨d₂, ?_, same₂⟩
        have none : (sent.map (n, ·)).filter (fun p => own p.1) = [] := by simp [isOwn]
        simp [isOwn, played', none]

/-- The runs of a key are as far in one crowd as in the other, with other tokens. Every run knows tokens of its
own key only, and there are tokens left for those who have yet to draw. -/
structure Mirrored (key : String) (mine : UInt64 → Prop) (f : UInt64 → UInt64) (c d : Crowd) : Prop where
  registry : Mirrors key mine f c.registry d.registry
  runs : ∀ n stage, c.run? n = some (some key, stage) → d.run? n = some (some key, stage.renumber f)
  known : ∀ n k stage, c.run? n = some (k, stage) → ∀ token ∈ stage.tokens,
    token < c.registry.next ∧ (mine token ↔ k = some key)
  fits : ∀ n k stage, c.run? n = some (k, stage) → stage.Fits k
  room : c.registry.next.toNat + c.runs.countP (fun p => isToDraw p.2) < UInt64.size

namespace Mirrored

variable {key : String} {mine mine' : UInt64 → Prop} {f : UInt64 → UInt64} {c c' d : Crowd} {n : Nat}
  {m : Move} {sent : List Notice} {k : Option String} {stage stage' : Stage}

private theorem room_of_draw (mirrored : Mirrored key mine f c d) (found : c.run? n = some (k, stage))
    (draws : isToDraw (k, stage) = true) : c.registry.next.toNat + 1 < UInt64.size := by
  have room := mirrored.room
  have isIn : (n, k, stage) ∈ c.runs := Keyed.mem_of_get? found
  have some : 0 < c.runs.countP fun p => isToDraw p.2 := List.countP_pos_iff.mpr ⟨_, isIn, draws⟩
  omega

private theorem room_step (mirrored : Mirrored key mine f c d) (found : c.run? n = some (k, stage))
    (advance : Stage.Advance k c.registry stage m stage' c'.registry)
    (put : c'.runs = Keyed.put n (k, stage') c.runs) :
    c'.registry.next.toNat + c'.runs.countP (fun p => isToDraw p.2) < UInt64.size := by
  have room := mirrored.room
  have count := Keyed.countP_put isToDraw (k, stage') found
  obtain ⟨drawn, same | ⟨draws, registry'⟩⟩ := advance.next
  · simp only [drawn, same.1, Bool.false_eq_true, if_false, Nat.add_zero] at count
    rw [put, same.2, count]
    exact room
  · have left := mirrored.room_of_draw found draws
    simp only [drawn, draws, Bool.false_eq_true, if_false, if_true, Nat.add_zero] at count
    rw [put, registry', Registry.draw, Registry.toNat_next left]
    omega

private theorem known_step (mirrored : Mirrored key mine f c d) (found : c.run? n = some (k, stage))
    (advance : Stage.Advance k c.registry stage m stage' c'.registry)
    (put : c'.runs = Keyed.put n (k, stage') c.runs)
    (old : ∀ token, token < c.registry.next → (mine' token ↔ mine token))
    (new : isToDraw (k, stage) = true → (mine' c.registry.next ↔ k = some key)) :
    ∀ n' k' stage'', c'.run? n' = some (k', stage'') → ∀ token ∈ stage''.tokens,
      token < c'.registry.next ∧ (mine' token ↔ k' = some key) := by
  have grows : ∀ token, token < c.registry.next → token < c'.registry.next := by
    intro token below
    obtain ⟨-, ⟨-, same⟩ | ⟨draws, registry'⟩⟩ := advance.next
    · rwa [same]
    · rw [registry']
      exact UInt64.lt_trans below (Registry.lt_next_draw _ (mirrored.room_of_draw found draws))
  have known : ∀ n' k' stage'', c.run? n' = some (k', stage'') → ∀ token ∈ stage''.tokens,
      token < c'.registry.next ∧ (mine' token ↔ k' = some key) := by
    intro n' k' stage'' found' token knows
    obtain ⟨below, iff⟩ := mirrored.known n' k' stage'' found' token knows
    exact ⟨grows token below, (old token below).trans iff⟩
  intro n' k' stage'' found' token knows
  rw [run?_put put] at found'
  split at found'
  · cases found'
    rcases advance.tokens knows with knew | ⟨fresh, keyed, rfl⟩ | ⟨key', rfl, owned⟩
    · exact known n k stage found token knew
    · have draws : isToDraw (k, stage) = true := by simp [isToDraw, fresh, Stage.isFresh, keyed]
      refine ⟨?_, new draws⟩
      obtain ⟨-, ⟨idle, -⟩ | ⟨-, registry'⟩⟩ := advance.next
      · rw [draws] at idle
        cases idle
      · rw [registry']
        exact Registry.lt_next_draw _ (mirrored.room_of_draw found draws)
    · obtain ⟨below, iff⟩ := mirrored.registry.owners key' token owned
      refine ⟨grows token below, ?_⟩
      rw [old token below, iff, Option.some.injEq]
  · exact known n' k' stage'' found' token knows

theorem step_own (mirrored : Mirrored key mine f c d) (found : c.run? n = some (some key, stage))
    (h : c.step n m = some (c', sent)) :
    ∃ d', d.step n m = some (d', sent) ∧ ∃ mine' f', Mirrored key mine' f' c' d' := by
  obtain ⟨k, stage₁, stage', found₁, advanced, put⟩ := advance_of_step h
  rw [found] at found₁
  cases found₁
  have advance := Stage.advance_cases advanced
  have found' := mirrored.runs n stage found
  have known := mirrored.known n (some key) stage found
  cases isFresh : stage.isFresh with
  | true =>
    have draws : isToDraw (some key, stage) = true := by simp [isToDraw, isFresh]
    have room := mirrored.room_of_draw found draws
    have registry := mirrored.registry.draw_own room
    cases stage with
    | fresh =>
      cases m with
      | finish e => cases advanced
      | proceed =>
        simp only [Stage.advance, Option.some.injEq, Prod.mk.injEq] at advanced
        obtain ⟨rfl, registry', rfl⟩ := advanced
        rw [registry'] at registry
        refine ⟨_, step_of_advance found' rfl, _, _, registry, ?_, ?_, fits_put mirrored.fits found advance put,
          mirrored.room_step found advance put⟩
        · intro n' stage' found''
          rw [run?_put put] at found''
          rw [run?_put rfl]
          split at found''
          · rename_i same
            cases found''
            rw [if_pos same]
            simp [Stage.renumber, Registry.draw]
          · rename_i other
            rw [if_neg other, mirrored.runs n' stage' found'']
            have below := fun token knows => (mirrored.known n' (some key) stage' found'' token knows).1
            rw [Stage.renumber_congr fun token knows => Registry.Mirrors.update_of_lt (below token knows)]
        · refine mirrored.known_step found advance put ?_ ?_
          · intro token below
            have other : token ≠ c.registry.next := by grind
            simp [other]
          · intro _
            simp
    | _ => cases isFresh
  | false =>
    have own : ∀ token ∈ stage.tokens, mine token := fun token knows => (known token knows).2.mpr rfl
    obtain ⟨q', advanced', registry⟩ :=
      Stage.advance_own mirrored.registry isFresh (mirrored.fits n _ stage found) own advanced
    refine ⟨_, step_of_advance found' advanced', mine, f, registry, ?_, ?_, fits_put mirrored.fits found advance put,
      mirrored.room_step found advance put⟩
    · intro n' stage'' found''
      rw [run?_put put] at found''
      rw [run?_put rfl]
      split at found''
      · rename_i same
        cases found''
        rw [if_pos same]
      · rename_i other
        rw [if_neg other]
        exact mirrored.runs n' stage'' found''
    · refine mirrored.known_step found advance put (fun _ _ => Iff.rfl) ?_
      intro draws
      simp [isToDraw, isFresh] at draws

theorem step_other (mirrored : Mirrored key mine f c d) (found : c.run? n = some (k, stage))
    (other : k ≠ some key) (h : c.step n m = some (c', sent)) : Mirrored key mine f c' d := by
  obtain ⟨k₁, stage₁, stage', found₁, advance, put⟩ := step_cases h
  rw [found] at found₁
  cases found₁
  have foreign : ∀ token ∈ stage.tokens, token < c.registry.next ∧ ¬ mine token := by
    intro token knows
    obtain ⟨below, iff⟩ := mirrored.known n k stage found token knows
    exact ⟨below, fun h => other (iff.mp h)⟩
  refine ⟨advance.other mirrored.registry (mirrored.fits n k stage found) other foreign
    (mirrored.room_of_draw found), ?_, ?_, fits_put mirrored.fits found advance put,
    mirrored.room_step found advance put⟩
  · intro n' stage'' found'
    rw [run?_put put] at found'
    split at found'
    · cases found'
      exact absurd rfl other
    · exact mirrored.runs n' stage'' found'
  · refine mirrored.known_step found advance put (fun _ _ => Iff.rfl) ?_
    intro _
    have notMine : ¬ mine c.registry.next := fun h => UInt64.lt_irrefl _ (mirrored.registry.below _ h).1
    exact ⟨fun h => absurd h notMine, fun h => absurd h other⟩

theorem ofKeys (key : String) {keys : List (Option String)} (few : keys.countP Option.isSome < UInt64.size) :
    Mirrored key (fun _ => False) id (ofKeys keys) (ofKeys keys) where
  registry :=
    { owner := rfl
      owners := fun k token owned => by cases owned
      told := fun token h => h.elim
      toldBelow := by simp [Crowd.ofKeys, Registry.empty]
      below := fun token h => h.elim
      ordered := fun s t h => h.elim
      fewer := UInt64.le_refl _ }
  runs n stage found := by
    rw [found, isFresh_ofKeys found]
    rfl
  known n k stage found token knows := by
    rw [isFresh_ofKeys found] at knows
    cases knows
  fits n k stage found := by
    rw [isFresh_ofKeys found]
    trivial
  room := by
    have count : (Crowd.ofKeys keys).runs.countP (fun p => isToDraw p.2) = keys.countP Option.isSome := by
      calc (Crowd.ofKeys keys).runs.countP (fun p => isToDraw p.2)
          = keys.zipIdx.countP (Option.isSome ∘ Prod.fst) := by
            rw [Crowd.ofKeys, List.countP_map]
            congr 1
            funext p
            simp [isToDraw, Stage.isFresh]
        _ = keys.countP Option.isSome := by rw [← List.countP_map, List.zipIdx_map_fst]
    rw [count]
    simpa [Crowd.ofKeys, Registry.empty] using few

end Mirrored

end Crowd
end LintBridge

import LintBridge.Linter.Session
import LintBridge.Proofs.Process.Ledger

/-!
How the calls on a linter deal with the registry.

A call takes a ticket, gives its ticket up, does both at once, or leaves the registry alone. `Registry.Deals`
lists these four ways; each function of the linter is given its way once, and the steps of a session follow
from that. An analysis takes its ticket when it starts its tool, which may be long after it was called, and
an analysis that has no use for the tool takes none: `Analysis.Sets` says so.
-/

set_option autoImplicit false
set_option relaxedAutoImplicit false

namespace LintBridge

namespace Registry

/-- How a call that has the first ticket, and then the second, deals with the registry. The list has the key
that the call takes, if it takes one. -/
inductive Deals (r : Registry) : Option Ticket → Option Ticket → Registry → List String → Prop
  | idle (t : Option Ticket) : Deals r t t r []
  | takes (key : String) : Deals r none (some (r.take key).1) (r.take key).2 [key]
  /-- The program cannot be started, and the key is given up at once. -/
  | fails (key : String) : Deals r none none ((r.take key).2.release (r.take key).1) [key]
  | gives (t : Ticket) : Deals r (some t) none (r.release t) []

theorem next_take (r : Registry) (key : String) : (r.take key).2.next = r.next + 1 := by
  unfold take dismiss
  cases h : r.owner? key <;> simp [draw, enter, owner?] at h ⊢ <;> simp [h]

theorem owner?_take (r : Registry) (key k : String) :
    (r.take key).2.owner? k = if key = k then some r.next else r.owner? k := by
  rw [take, owner?_dismiss, owner?_enter, owner?_draw]
  rfl

theorem isCurrent_take (r : Registry) (key : String) : (r.take key).2.isCurrent (r.take key).1 = true := by
  rw [isCurrent_iff, take, owner?_dismiss, ← isCurrent_iff]
  exact isCurrent_enter _ _

theorem Deals.next_eq {r r' : Registry} {before after : Option Ticket} {keys : List String}
    (deals : Deals r before after r' keys) :
    (keys = [] ∧ r'.next = r.next) ∨ ∃ key, keys = [key] ∧ r'.next = r.next + 1 := by
  cases deals with
  | idle => exact .inl ⟨rfl, rfl⟩
  | takes key => exact .inr ⟨key, rfl, next_take r key⟩
  | fails key => exact .inr ⟨key, rfl, by rw [next_release, next_take]⟩
  | gives t => exact .inl ⟨rfl, next_release r t⟩

theorem Deals.of_some {r r' : Registry} {before : Option Ticket} {t : Ticket} {keys : List String}
    (deals : Deals r before (some t) r' keys) : before = some t ∨ keys = [t.key] := by
  cases deals with
  | idle => exact .inl rfl
  | takes key => exact .inr rfl

theorem Deals.owner?_eq {r r' : Registry} {before after : Option Ticket} {keys : List String} {k : String}
    (deals : Deals r before after r' keys) (untaken : k ∉ keys) (unheld : ∀ t, before = some t → t.key ≠ k) :
    r'.owner? k = r.owner? k := by
  cases deals with
  | idle => rfl
  | takes key =>
    have other : key ≠ k := fun same => untaken (same ▸ List.mem_cons_self)
    rw [owner?_take, if_neg other]
  | fails key =>
    have other : key ≠ k := fun same => untaken (same ▸ List.mem_cons_self)
    rw [owner?_release, if_neg fun both => other both.1, owner?_take, if_neg other]
  | gives t => rw [owner?_release, if_neg fun both => unheld t rfl both.1]

/-- The token of a ticket, for a call that draws only with its entry. -/
abbrev tokens (held : Nat → Option Ticket) (n : Nat) : Option UInt64 := (held n).map Ticket.token

/-- Whatever a call does, the ledger is kept. -/
theorem Ledger.deals {held held' : Nat → Option Ticket} {log : List (String × Nat)} {r r' : Registry} {n : Nat}
    {after : Option Ticket} {keys : List String}
    (ledger : Ledger (tokens held) held (fun _ => False) log r) (deals : Deals r (held n) after r' keys)
    (room : keys ≠ [] → r.next.toNat + 1 < UInt64.size) (becomes : ∀ m, held' m = if n = m then after else held m) :
    Ledger (tokens held') held' (fun _ => False) (keys.map (·, n) ++ log) r' := by
  have tokens' : ∀ m, tokens held' m = if n = m then after.map Ticket.token else tokens held m := by
    intro m
    rw [tokens, becomes]
    split <;> rfl
  generalize holds : held n = before at deals
  have has : tokens held n = before.map Ticket.token := by rw [tokens, holds]
  cases deals with
  | idle =>
    refine ledger.congr ?_ ?_ fun _ h => h
    · intro m
      rw [tokens']
      split
      · rename_i same
        rw [← same, has]
      · rfl
    · intro m
      rw [becomes]
      split
      · rename_i same
        rw [← same, holds]
      · rfl
  | takes key => exact ledger.take (room (by simp)) key has tokens' becomes
  | fails key =>
    have taken : Ledger (fun m => if n = m then some r.next else tokens held m)
        (fun m => if n = m then some ⟨key, r.next⟩ else held m) (fun _ => False) ((key, n) :: log)
        (r.take key).2 :=
      ledger.take (room (by simp)) key has (fun _ => rfl) (fun _ => rfl)
    refine taken.release (n := n) (if_pos rfl) ?_ ?_
    · intro m
      rw [tokens']
      split <;> rfl
    · intro m
      rw [becomes]
      split <;> rfl
  | gives t => exact ledger.release holds tokens' becomes

end Registry

open Registry (Deals)

namespace Analysis

/-- The ticket of an analysis whose tool is running. -/
def ticket? : Analysis → Option Ticket
  | running _ t => some t
  | _ => none

def file? : Analysis → Option Path
  | asking p _ => some p.file
  | running file _ => some file
  | finished _ => none

def key? : Analysis → Option String
  | asking p _ => some (key p.file)
  | _ => none

/-- What an analysis of a file comes to before its tool has run: it asks, it has done without the tool, the
tool cannot be started, or it runs. -/
inductive Sets (file : Path) (r : Registry) : Analysis → Registry → List String → Prop
  | asks (p : Plan) (i : Bundler.Inquiry) (same : p.file = file) : Sets file r (asking p i) r []
  | spares (ds : List Diagnostic) : Sets file r (finished (some ds)) r []
  | fails : Sets file r (finished none) ((r.take (key file)).2.release (r.take (key file)).1) [key file]
  | runs : Sets file r (running file (r.take (key file)).1) (r.take (key file)).2 [key file]

/-- What one step of an analysis can be. -/
inductive Advance (r : Registry) (signal : Signal) : Analysis → Analysis → Registry → List String → Prop
  | idle (a : Analysis) : Advance r signal a a r []
  | sets (p : Plan) (i : Bundler.Inquiry) (a : Analysis) (r' : Registry) (keys : List String)
      (asked : ∀ e, signal ≠ .programEnded e) (set : Sets p.file r a r' keys) :
      Advance r signal (asking p i) a r' keys
  | ends (file : Path) (t : Ticket) (e : Ending) (ended : signal = .programEnded e)
      (told : e = .stopped → r.isDismissed t = true) :
      Advance r signal (running file t)
        (finished (ofResult file (RunResult.judged (r.isCurrent t) e)).1) (r.release t) []

private theorem ofResult_failed (file : Path) (current : Bool) (p : Problem) :
    (ofResult file (RunResult.judged current (.failed p))).1 = none := by
  cases current <;> rfl

theorem sets_launch (s : Surroundings) (p : Plan) (useBundler : Bool) (l : Linter) :
    ∃ keys, Sets p.file l.registry (launch s p useBundler l).state
      (launch s p useBundler l).linter.registry keys := by
  unfold launch
  split
  · exact ⟨[], .spares _⟩
  · rename_i request _
    dsimp only
    split
    · rename_i e _
      simp only [conclude, Registry.conclude, ofResult_failed]
      exact ⟨[key p.file], .fails⟩
    · exact ⟨[key p.file], .runs⟩

theorem sets_afterAsking (s : Surroundings) (p : Plan) (i : Bundler.Inquiry) (probe : Option Request)
    (l : Linter) :
    ∃ keys, Sets p.file l.registry (afterAsking s p i probe l).state
      (afterAsking s p i probe l).linter.registry keys := by
  unfold afterAsking
  split
  · exact sets_launch s p _ l
  · exact ⟨[], .asks p i rfl⟩

theorem file_of_plan? {l : Linter} {t : FileTree} {file : Path} {extra : List String}
    {input : Option String} {p : Plan} (planned : l.plan? t file extra input = some p) : p.file = file := by
  simp only [Linter.plan?] at planned
  split at planned <;> cases planned
  rfl

theorem sets_start (s : Surroundings) (b : Buffer) (l : Linter) (file : Path) (stored : b.path = some file) :
    ∃ keys, Sets file l.registry (start s b l).state (start s b l).linter.registry keys := by
  unfold start
  rw [stored]
  dsimp only
  split
  · exact ⟨[], .spares []⟩
  · rename_i p planned
    have same := file_of_plan? planned
    subst same
    split
    · exact sets_launch s p true l
    · split
      · exact sets_afterAsking s p (l.bundles.ask s p.cwd).1 (l.bundles.ask s p.cwd).2.2
          { l with bundles := (l.bundles.ask s p.cwd).2.1 }
      · exact sets_launch s p false l

theorem start_pathless (s : Surroundings) (b : Buffer) (l : Linter) (pathless : b.path = none) :
    start s b l = ⟨l, .finished none, []⟩ := by
  unfold start
  rw [pathless]

theorem advance_step (s : Surroundings) (signal : Signal) (a : Analysis) (l : Linter) :
    ∃ keys, Advance l.registry signal a (a.step s signal l).state (a.step s signal l).linter.registry keys := by
  unfold step
  split
  · rename_i p n ok
    obtain ⟨keys, set⟩ := sets_launch s p ok { l with bundles := l.bundles.probed n ok }
    exact ⟨keys, .sets p _ _ _ keys (by simp) set⟩
  · rename_i p n
    split
    · rename_i bundled _
      obtain ⟨keys, set⟩ := sets_launch s p bundled l
      exact ⟨keys, .sets p _ _ _ keys (by simp) set⟩
    · exact ⟨[], .idle _⟩
  · rename_i file t e
    split
    · exact ⟨[], .idle _⟩
    · rename_i allowed
      refine ⟨[], .ends file t e rfl fun stopped => ?_⟩
      cases told : l.registry.isDismissed t with
      | true => rfl
      | false => exact absurd ⟨stopped, told⟩ allowed
  · exact ⟨[], .idle _⟩

end Analysis

namespace Correction

theorem registry_launch (s : Surroundings) (p : Plan) (trigger : Trigger) (useBundler : Bool) (l : Linter) :
    (launch s p trigger useBundler l).linter.registry = l.registry := by
  unfold launch
  split
  · rfl
  · split <;> rfl

theorem registry_afterAsking (s : Surroundings) (p : Plan) (trigger : Trigger) (i : Bundler.Inquiry)
    (probe : Option Request) (l : Linter) :
    (afterAsking s p trigger i probe l).linter.registry = l.registry := by
  unfold afterAsking
  split
  · exact registry_launch s p trigger _ l
  · rfl

theorem registry_start (s : Surroundings) (b : Buffer) (trigger : Trigger) (l : Linter) :
    (start s b trigger l).linter.registry = l.registry := by
  unfold start
  split
  · rfl
  · split
    · rfl
    · split
      · rfl
      · rename_i p _
        split
        · exact registry_launch s p trigger true l
        · split
          · exact registry_afterAsking s p trigger _ _ _
          · exact registry_launch s p trigger false l

theorem registry_step (s : Surroundings) (signal : Signal) (c : Correction) (l : Linter) :
    (c.step s signal l).linter.registry = l.registry := by
  unfold step
  split
  · exact registry_launch s _ _ _ _
  · split
    · exact registry_launch s _ _ _ l
    · rfl
  · split <;> rfl
  · rfl

end Correction

def Task.key? : Task → Option String
  | run r => r.key
  | analyze b => b.path.map Analysis.key
  | _ => none

def Task.file? : Task → Option Path
  | analyze b => b.path
  | _ => none

namespace Activity

def key? : Activity → Option String
  | analysis a => a.key?
  | _ => none

def file? : Activity → Option Path
  | analysis a => a.file?
  | _ => none

theorem ticket?_analysis (a : Analysis) : (analysis a).ticket? = a.ticket? := by
  cases a <;> rfl

/-- What may become, in one step, of a call that has a ticket, may take a key and analyses a file. -/
structure Follows (r : Registry) (ticket : Option Ticket) (key : Option String) (file : Option Path)
    (a : Activity) (r' : Registry) (keys : List String) : Prop where
  deals : Deals r ticket a.ticket? r' keys
  keyed : ∀ k ∈ keys, key = some k
  /-- A call that may still take a key has not taken one with this step. -/
  asks : ∀ k, a.key? = some k → keys = [] ∧ key = some k
  keeps : ∀ f, a.file? = some f → file = some f
  /-- A running analysis has the key of its file. -/
  sealed : ∀ t f, a.ticket? = some t → a.file? = some f → t.key = Analysis.key f ∨ ticket = some t

section
variable {r r' : Registry} {ticket : Option Ticket} {key : Option String} {file : Option Path} {a : Activity}
  {keys : List String}

theorem Follows.of_deals (deals : Deals r ticket a.ticket? r' keys) (keyed : ∀ k ∈ keys, key = some k)
    (plain : a.key? = none ∧ a.file? = none) : Follows r ticket key file a r' keys where
  deals := deals
  keyed := keyed
  asks k asks := by
    rw [plain.1] at asks
    cases asks
  keeps f has := by
    rw [plain.2] at has
    cases has
  sealed t f _ has := by
    rw [plain.2] at has
    cases has

theorem Follows.of_sets {f : Path} {x : Analysis} (set : Analysis.Sets f r x r' keys) :
    Follows r none (some (Analysis.key f)) (some f) (analysis x) r' keys := by
  cases set with
  | asks p i same =>
    subst same
    exact
      { deals := .idle none
        keyed := fun k isIn => by cases isIn
        asks := fun k asks => ⟨rfl, asks⟩
        keeps := fun f has => has
        sealed := fun t f holds => by cases holds }
  | spares ds => exact .of_deals (.idle none) (fun k isIn => by cases isIn) ⟨rfl, rfl⟩
  | fails =>
    refine .of_deals (.fails _) ?_ ⟨rfl, rfl⟩
    intro k isIn
    rw [List.mem_singleton.mp isIn]
  | runs =>
    exact
      { deals := .takes _
        keyed := fun k isIn => by rw [List.mem_singleton.mp isIn]
        asks := fun k asks => by cases asks
        keeps := fun f has => has
        sealed := fun t f' holds has => by
          cases holds
          cases has
          exact .inl rfl }

theorem Follows.of_advance {signal : Signal} {x x' : Analysis}
    (advance : Analysis.Advance r signal x x' r' keys) :
    Follows r x.ticket? x.key? x.file? (analysis x') r' keys := by
  cases advance with
  | idle =>
    exact
      { deals := by
          rw [ticket?_analysis]
          exact .idle _
        keyed := fun k isIn => by cases isIn
        asks := fun k asks => ⟨rfl, asks⟩
        keeps := fun f has => has
        sealed := fun t f holds has => .inr (by rwa [ticket?_analysis] at holds) }
  | sets p i x' r' keys asked set => exact .of_sets set
  | ends f t e ended told => exact .of_deals (.gives t) (fun k isIn => by cases isIn) ⟨rfl, rfl⟩

end

theorem follows_start (s : Surroundings) (t : Task) (l : Linter) :
    ∃ keys, Follows l.registry none t.key? t.file? (start s t l).state (start s t l).linter.registry keys := by
  cases t with
  | lookUp dir =>
    refine ⟨[], .of_deals ?_ (by simp) ⟨rfl, rfl⟩⟩
    simp only [start]
    cases (l.bundles.ask s dir).1 <;> exact .idle none
  | run r =>
    simp only [start]
    split
    · unfold startRun
      split
      · exact ⟨[], .of_deals (.idle none) (by simp) ⟨rfl, rfl⟩⟩
      · exact ⟨[], .of_deals (.idle none) (by simp) ⟨rfl, rfl⟩⟩
    · rename_i key keyed
      unfold startRun
      split
      · exact ⟨[key], .of_deals (.fails key) (by simp [Task.key?, keyed]) ⟨rfl, rfl⟩⟩
      · exact ⟨[key], .of_deals (.takes key) (by simp [Task.key?, keyed]) ⟨rfl, rfl⟩⟩
  | runBlocking r =>
    simp only [start, startRun]
    split
    · exact ⟨[], .of_deals (.idle none) (by simp) ⟨rfl, rfl⟩⟩
    · exact ⟨[], .of_deals (.idle none) (by simp) ⟨rfl, rfl⟩⟩
  | analyze b =>
    simp only [start, Task.key?, Task.file?]
    cases stored : b.path with
    | none =>
      rw [Analysis.start_pathless s b l stored]
      exact ⟨[], .of_deals (.idle none) (by simp) ⟨rfl, rfl⟩⟩
    | some file =>
      obtain ⟨keys, set⟩ := Analysis.sets_start s b l file stored
      exact ⟨keys, .of_sets set⟩
  | correct b trigger =>
    simp only [start]
    rw [Correction.registry_start]
    exact ⟨[], .of_deals (.idle none) (by simp) ⟨rfl, rfl⟩⟩

theorem follows_step (s : Surroundings) (signal : Signal) (a : Activity) (l : Linter) :
    ∃ keys, Follows l.registry a.ticket? a.key? a.file? (a.step s signal l).state
      (a.step s signal l).linter.registry keys := by
  unfold step
  split
  · exact ⟨[], .of_deals (.idle none) (by simp) ⟨rfl, rfl⟩⟩
  · split
    · exact ⟨[], .of_deals (.idle none) (by simp) ⟨rfl, rfl⟩⟩
    · exact ⟨[], .of_deals (.idle none) (by simp) ⟨rfl, rfl⟩⟩
  · rename_i ticket e
    split
    · exact ⟨[], .of_deals (.idle _) (by simp) ⟨rfl, rfl⟩⟩
    · cases ticket with
      | none => exact ⟨[], .of_deals (.idle none) (by simp) ⟨rfl, rfl⟩⟩
      | some t => exact ⟨[], .of_deals (.gives t) (by simp) ⟨rfl, rfl⟩⟩
  · rename_i x
    obtain ⟨keys, advance⟩ := Analysis.advance_step s signal x l
    rw [ticket?_analysis]
    exact ⟨keys, .of_advance advance⟩
  · dsimp only
    rw [Correction.registry_step]
    exact ⟨[], .of_deals (.idle none) (by simp) ⟨rfl, rfl⟩⟩
  · exact
      ⟨[],
        { deals := .idle _
          keyed := by simp
          asks := fun k asks => ⟨rfl, asks⟩
          keeps := fun f has => has
          sealed := fun t f holds has => .inr holds }⟩

end Activity

end LintBridge

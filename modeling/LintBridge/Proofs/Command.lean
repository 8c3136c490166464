import Mathlib.Logic.ExistsUnique
import LintBridge.Command
import LintBridge.Proofs.Text.Words

/-!
How a command becomes a command line.

The words of a command decide alone (`resolve_of_spaced`). In front of them stands what leads through Bundler, once at
most; behind them stand the fixed arguments, and then what the caller adds.
-/

set_option autoImplicit false
set_option relaxedAutoImplicit false

namespace LintBridge.Command

open Text (IsWord Spaced)

variable {ws line extra : List String} {command : String} {useBundler useCache : Bool} {e : Problem}

/-! ### Through Bundler -/

theorem isWord_bundle : IsWord "bundle" := by decide

theorem isWord_exec : IsWord "exec" := by decide

theorem base_eq (useBundler : Bool) (ws : List String) :
    base useBundler ws = if useBundler = true ∧ ¬ throughBundler <+: ws then throughBundler ++ ws else ws := by
  have decided : throughBundler.isPrefixOf ws = decide (throughBundler <+: ws) := by
    rw [Bool.eq_iff_iff, List.isPrefixOf_iff_prefix, decide_eq_true_iff]
  rw [base, decided]
  cases useBundler <;> by_cases there : throughBundler <+: ws <;> simp [there]

theorem isWord_of_mem_base (words : ∀ w ∈ ws, IsWord w) : ∀ w ∈ base useBundler ws, IsWord w := by
  rw [base_eq]
  split
  · exact List.forall_mem_cons.mpr ⟨isWord_bundle, List.forall_mem_cons.mpr ⟨isWord_exec, words⟩⟩
  · exact words

theorem spaced_throughBundler (spaced : Spaced ws command.toList) :
    Spaced (throughBundler ++ ws) ("bundle exec " ++ command).toList := by
  have apart {rest : List Char} : ∀ c ∈ (' ' :: rest).head?, Text.isBlank c = true := by
    rintro c ⟨⟩
    decide
  have written : ("bundle exec " ++ command).toList =
      [] ++ ("bundle".toList ++ ([' '] ++ ("exec".toList ++ ' ' :: command.toList))) := by
    rw [String.toList_append]
    rfl
  rw [written]
  have one : ∀ c ∈ [' '], Text.isBlank c = true := List.forall_mem_singleton.mpr (by decide)
  exact .word (by simp) isWord_bundle apart (.word one isWord_exec apart (spaced.cons_blank (by decide)))

/-! ### The command line -/

theorem resolve_of_spaced (spaced : Spaced ws command.toList) (some : ws ≠ []) :
    resolve command useBundler useCache extra = .ok (base useBundler ws ++ fixedFlags useCache ++ extra) := by
  rw [resolve, Text.words_of_spaced spaced]
  split
  · exact absurd rfl some
  · rfl

theorem resolve_eq_error_iff : resolve command useBundler useCache extra = .error e ↔
    (∀ c ∈ command.toList, Text.isBlank c = true) ∧ e = .noCommand := by
  rw [← Text.words_eq_nil_iff, resolve]
  split
  · rename_i none
    simp [none, eq_comm]
  · rename_i some
    constructor
    · rintro ⟨⟩
    · rintro ⟨none, -⟩
      exact absurd none some

theorem exists_of_resolve (resolved : resolve command useBundler useCache extra = .ok line) :
    ∃ ws, Spaced ws command.toList ∧ ws ≠ [] ∧ line = base useBundler ws ++ fixedFlags useCache ++ extra := by
  obtain ⟨ws, spaced⟩ := Text.exists_spaced command.toList
  have some : ws ≠ [] := by
    rintro rfl
    rw [resolve_eq_error_iff.mpr ⟨Text.spaced_nil_iff.mp spaced, rfl⟩] at resolved
    cases resolved
  rw [resolve_of_spaced spaced some] at resolved
  cases resolved
  exact ⟨ws, spaced, some, rfl⟩

/-- A command line has a program, and its arguments end with the fixed ones and what the caller adds. -/
theorem exists_cons_of_resolve (resolved : resolve command useBundler useCache extra = .ok line) :
    ∃ program args, line = program :: args ∧ fixedFlags useCache ++ extra <:+ args := by
  obtain ⟨ws, -, some, rfl⟩ := exists_of_resolve resolved
  obtain ⟨program, args, begins⟩ : ∃ program args, base useBundler ws = program :: args := by
    rw [base_eq]
    split
    · exact ⟨_, _, rfl⟩
    · exact List.exists_cons_of_ne_nil some
  rw [begins]
  refine ⟨program, args ++ fixedFlags useCache ++ extra, rfl, ?_⟩
  rw [List.append_assoc]
  exact List.suffix_append _ _

/-- A command line follows the words of its command, and leads through Bundler once.

There is none exactly if the command is blank. A command is written with one list of words only, and only these count,
not the blanks around them. A command line begins with words, then has the fixed arguments, those against the cache
among them if it is not to be used, and then what the caller adds, as it is. A command behind `bundle exec` stands for
the command itself with Bundler wanted, unless that begins so, too. -/
theorem resolve_follows_words (useBundler useCache : Bool) (extra : List String) :
    (∀ command e, resolve command useBundler useCache extra = .error e ↔
      (∀ c ∈ command.toList, Text.isBlank c = true) ∧ e = .config "no rubocop command configured") ∧
    (∀ command : String, ∃! ws : List String, Spaced ws command.toList) ∧
    (∀ ws (command respaced : String), Spaced ws command.toList → Spaced ws respaced.toList →
      resolve command useBundler useCache extra = resolve respaced useBundler useCache extra) ∧
    (∀ command line, resolve command useBundler useCache extra = .ok line →
      ∃ ws front, Spaced ws command.toList ∧
        front = (if useBundler = true ∧ ¬ ["bundle", "exec"] <+: ws then ["bundle", "exec"] ++ ws else ws) ∧
        (∀ w ∈ front, IsWord w) ∧
        line = front ++ (["--force-exclusion", "--format", "json", "--display-style-guide"] ++
          if useCache then [] else ["--cache", "false"]) ++ extra) ∧
    ∀ ws (command : String), Spaced ws command.toList → ws ≠ [] → ¬ ["bundle", "exec"] <+: ws → ∀ through,
      resolve ("bundle exec " ++ command) through useCache extra = resolve command true useCache extra := by
  refine ⟨fun command e => resolve_eq_error_iff, fun command => ?_, ?_, ?_, ?_⟩
  · obtain ⟨ws, spaced⟩ := Text.exists_spaced command.toList
    exact ⟨ws, spaced, fun ws' spaced' => (Text.words_of_spaced spaced').symm.trans (Text.words_of_spaced spaced)⟩
  · intro ws command respaced spaced spaced'
    rw [resolve, resolve, Text.words_of_spaced spaced, Text.words_of_spaced spaced']
  · intro command line resolved
    obtain ⟨ws, spaced, -, rfl⟩ := exists_of_resolve resolved
    exact ⟨ws, base useBundler ws, spaced, base_eq useBundler ws, isWord_of_mem_base spaced.isWord, rfl⟩
  · intro ws command spaced some outside through
    have behind : throughBundler ++ ws ≠ [] := List.cons_ne_nil _ _
    have there : throughBundler <+: throughBundler ++ ws := List.prefix_append _ _
    have kept : base through (throughBundler ++ ws) = throughBundler ++ ws := by
      rw [base_eq, if_neg fun both => both.2 there]
    have led : base true ws = throughBundler ++ ws := by rw [base_eq, if_pos ⟨rfl, outside⟩]
    rw [resolve_of_spaced (spaced_throughBundler spaced) behind, resolve_of_spaced spaced some, kept, led]

/-! ### Half of what leads through Bundler -/

/-- A command that begins with the one word only, and some arguments: an empty one, and one with a blank. -/
theorem resolve_follows_words_halfway :
    Spaced ["bundle", "execute"] "\u00a0bundle \t execute ".toList ∧ ["bundle", "execute"] ≠ [] ∧
      ¬ ["bundle", "exec"] <+: ["bundle", "execute"] ∧
      resolve "bundle exec \u00a0bundle \t execute " false true ["", "a b"] =
        resolve "\u00a0bundle \t execute " true true ["", "a b"] ∧
      resolve "\u00a0bundle \t execute " true true ["", "a b"] = .ok
        ["bundle", "exec", "bundle", "execute", "--force-exclusion", "--format", "json", "--display-style-guide", "",
          "a b"] := by
  have spaced : Spaced ["bundle", "execute"] "\u00a0bundle \t execute ".toList :=
    Text.words_eq_iff.mp (by decide +kernel)
  have outside : ¬ ["bundle", "exec"] <+: ["bundle", "execute"] := by decide
  obtain ⟨-, -, -, -, behind⟩ := resolve_follows_words false true ["", "a b"]
  exact ⟨spaced, List.cons_ne_nil _ _, outside, behind _ _ spaced (List.cons_ne_nil _ _) outside false, rfl⟩

end LintBridge.Command

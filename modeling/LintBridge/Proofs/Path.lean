import Mathlib.Data.List.DropRight
import LintBridge.Path
import LintBridge.Proofs.Text.Trimming

/-!
The steps of an absolute path, and the paths above it.

`IsAbove` says what lies above a path by its text and its steps alone: the shortest beginning of the text that says the
first few steps. For each number of steps there is one such path (`existsUnique_above`), and the chain of parents goes
through all of them, nearest first (`mem_ancestors_iff`, `pairwise_ancestors`).
-/

set_option autoImplicit false
set_option relaxedAutoImplicit false

namespace LintBridge

theorem Component.ofPart_injective : Function.Injective Component.ofPart := by
  intro part part' same
  by_cases up : part = ['.', '.'] <;> by_cases up' : part' = ['.', '.'] <;>
    simp_all [Component.ofPart, String.ofList_inj]

namespace Path

/-! ### What a text says behind the slash in front -/

/-- The steps that parts say; the idle ones say nothing. -/
def said (parts : List (List Char)) : List Component := (parts.filter fun part => !isIdle part).map Component.ofPart

def steps (cs : List Char) : List Component := said (cs.splitOn '/')

section
variable {parts before : List (List Char)} {part last u v w cs rest : List Char}

@[simp] theorem said_nil : said [] = [] := rfl

@[simp] theorem said_append (first second : List (List Char)) : said (first ++ second) = said first ++ said second := by
  simp [said]

theorem said_of_idle (idle : ∀ part ∈ parts, isIdle part = true) : said parts = [] := by
  have none : parts.filter (fun part => !isIdle part) = [] :=
    List.filter_eq_nil_iff.mpr fun part isIn => by simp [idle part isIn]
  rw [said, none, List.map_nil]

theorem said_singleton (part : List Char) : said [part] = if isIdle part then [] else [.ofPart part] := by
  cases idle : isIdle part <;> simp [said, idle]

@[simp] theorem steps_nil : steps [] = [] := rfl

theorem steps_of_not_mem (free : '/' ∉ u) : steps u = if isIdle u then [] else [.ofPart u] := by
  rw [steps, List.splitOn_eq_singleton free, said_singleton]

theorem steps_append_slash (u v : List Char) : steps (u ++ '/' :: v) = steps u ++ steps v := by
  rw [steps, List.splitOn_append_cons_self, said_append, steps, steps]

theorem not_mem_of_mem_splitOn (isIn : part ∈ cs.splitOn '/') : '/' ∉ part := by
  induction cs generalizing part with
  | nil =>
    rw [List.splitOn_nil, List.mem_singleton] at isIn
    simp [isIn]
  | cons c cs ih =>
    rw [List.splitOn_cons_eq_if_modifyHead] at isIn
    split at isIn
    · rcases List.mem_cons.mp isIn with rfl | isIn
      · exact List.not_mem_nil
      · exact ih isIn
    · rename_i other
      rcases parted : cs.splitOn '/' with - | ⟨first, more⟩
      · exact absurd parted (List.splitOn_ne_nil _ _)
      · rw [parted] at isIn ih
        rcases List.mem_cons.mp isIn with rfl | isIn
        · have other : c ≠ '/' := fun same => other (beq_iff_eq.mpr same)
          exact List.not_mem_cons_of_ne_of_not_mem other.symm (ih List.mem_cons_self)
        · exact ih (List.mem_cons_of_mem _ isIn)

theorem steps_joinParts (free : ∀ part ∈ parts, '/' ∉ part) : steps (joinParts parts) = said parts := by
  by_cases none : parts = []
  · rw [none]
    rfl
  · rw [steps, joinParts, List.splitOn_intercalate '/' free none]

theorem isIdle_of_append (idle : isIdle (u ++ v) = true) : isIdle u = true := by
  rcases Bool.or_eq_true_iff.mp idle with nothing | dot
  · rw [(List.append_eq_nil_iff.mp (beq_iff_eq.mp nothing)).1]
    rfl
  · rcases List.append_eq_singleton_iff.mp (beq_iff_eq.mp dot) with ⟨rfl, -⟩ | ⟨rfl, -⟩ <;> rfl

private theorem exists_last_slash (cs : List Char) : '/' ∉ cs ∨ ∃ u v, cs = u ++ '/' :: v ∧ '/' ∉ v := by
  by_cases has : '/' ∈ cs
  · obtain ⟨v, u, reversed, free⟩ := List.eq_append_cons_of_mem (List.mem_reverse.mpr has)
    refine .inr ⟨u.reverse, v.reverse, ?_, fun isIn => free (List.mem_reverse.mp isIn)⟩
    rw [← List.reverse_reverse cs, reversed]
    simp
  · exact .inl has

private theorem length_steps_snoc (cs : List Char) (c : Char) : (steps cs).length ≤ (steps (cs ++ [c])).length := by
  have grows {u : List Char} (free : '/' ∉ u) (other : c ≠ '/') : (steps u).length ≤ (steps (u ++ [c])).length := by
    have free' : '/' ∉ u ++ [c] := by simp [free, other.symm]
    rw [steps_of_not_mem free, steps_of_not_mem free']
    by_cases idle : isIdle (u ++ [c]) = true
    · rw [if_pos idle, if_pos (isIdle_of_append idle)]
    · rw [if_neg idle]
      split <;> simp
  by_cases slash : c = '/'
  · rw [slash, steps_append_slash, steps_nil, List.append_nil]
  · rcases exists_last_slash cs with free | ⟨u, v, rfl, free⟩
    · exact grows free slash
    · rw [List.append_assoc, List.cons_append, steps_append_slash, steps_append_slash, List.length_append,
        List.length_append]
      exact Nat.add_le_add_left (grows free slash) _

theorem length_steps_le (begins : u <+: v) : (steps u).length ≤ (steps v).length := by
  obtain ⟨rest, rfl⟩ := begins
  induction rest using List.reverseRecOn with
  | nil => rw [List.append_nil]
  | append_singleton rest c ih =>
    rw [← List.append_assoc]
    exact ih.trans (length_steps_snoc _ c)

private def lead (before : List (List Char)) : List Char := if before = [] then [] else joinParts before ++ ['/']

private theorem joinParts_snoc (before : List (List Char)) (last : List Char) :
    joinParts (before ++ [last]) = lead before ++ last := by
  induction before with
  | nil => simp [lead, joinParts]
  | cons first more ih =>
    cases more with
    | nil => simp [lead, joinParts]
    | cons second more =>
      have parted : joinParts (first :: second :: more ++ [last]) =
          first ++ '/' :: joinParts (second :: more ++ [last]) := by
        simp [joinParts, List.intercalate_cons_cons]
      rw [parted, ih]
      simp [lead, joinParts, List.intercalate_cons_cons]

private theorem steps_lead (free : ∀ part ∈ before, '/' ∉ part) (u : List Char) :
    steps (lead before ++ u) = said before ++ steps u := by
  unfold lead
  split
  · rename_i none
    rw [none, List.nil_append, said_nil, List.nil_append]
  · rw [List.append_assoc, List.singleton_append, steps_append_slash, steps_joinParts free]

/-- A text that ends with a step is the shortest of its beginnings that say the same. -/
theorem eq_joinParts_of_steps_eq (free : ∀ part ∈ parts, '/' ∉ part)
    (ends : ∀ part ∈ parts.getLast?, isIdle part = false) (begins : u <+: joinParts parts)
    (same : steps u = said parts) : u = joinParts parts := by
  rcases List.eq_nil_or_concat' parts with rfl | ⟨before, last, rfl⟩
  · exact List.prefix_nil.mp begins
  · have inky : isIdle last = false := ends last (by simp)
    have free' : ∀ part ∈ before, '/' ∉ part := fun part isIn => free part (List.mem_append_left _ isIn)
    have freeLast : '/' ∉ last := free last (by simp)
    have step : said [last] = [.ofPart last] := by simp [said_singleton, inky]
    rw [said_append, step] at same
    rw [joinParts_snoc] at begins ⊢
    rcases List.prefix_or_prefix_of_prefix begins (List.prefix_append (lead before) last) with short | ⟨v, rfl⟩
    · -- What stops before the last part says one step less.
      have fewer := length_steps_le short
      have leads := steps_lead free' []
      rw [List.append_nil, steps_nil, List.append_nil] at leads
      rw [same, leads, List.length_append, List.length_singleton] at fewer
      exact absurd fewer (Nat.not_succ_le_self _)
    · have begins : v <+: last := (List.prefix_append_right_inj _).mp begins
      have free : '/' ∉ v := fun isIn => freeLast (begins.subset isIn)
      rw [steps_lead free', List.append_cancel_left_eq, steps_of_not_mem free] at same
      split at same
      · cases same
      · rw [Component.ofPart_injective (List.cons.inj same).1]

theorem joinParts_prefix_append (before after : List (List Char)) :
    joinParts before <+: joinParts (before ++ after) := by
  induction after using List.reverseRecOn with
  | nil => simp
  | append_singleton after last ih =>
    rw [← List.append_assoc, joinParts_snoc]
    refine ih.trans ?_
    unfold lead
    split
    · rename_i none
      rw [none]
      exact List.nil_prefix
    · exact (List.prefix_append _ _).trans (List.prefix_append _ _)

end

/-! ### Absolute paths -/

section
variable {p q d d' : Path} {cs : List Char}

theorem exists_of_isAbsolute (rooted : p.isAbsolute = true) : ∃ cs, p.text.toList = '/' :: cs := by
  rw [isAbsolute, beq_iff_eq, List.head?_eq_some_iff] at rooted
  exact rooted

theorem isAbsolute_of_text (text : p.text.toList = '/' :: cs) : p.isAbsolute = true := by
  rw [isAbsolute, text]
  rfl

theorem eq_of_text (same : p.text.toList = q.text.toList) : p = q := by
  cases p
  cases q
  rw [Path.mk.injEq]
  exact String.toList_inj.mp same

theorem parts_of_text (text : p.text.toList = '/' :: cs) : p.parts = cs.splitOn '/' := by
  rw [parts, text]
  exact Text.splitWhere_eq_splitOnP _ cs

theorem components_of_text (text : p.text.toList = '/' :: cs) : p.components = .root :: steps cs := by
  rw [components, parts_of_text text, text]
  rfl

private theorem dropIdleEnd_append (parts : List (List Char)) :
    ∃ idle, parts = dropIdleEnd parts ++ idle ∧ said parts = said (dropIdleEnd parts) ∧
      ∀ part ∈ (dropIdleEnd parts).getLast?, isIdle part = false := by
  have parted : parts = dropIdleEnd parts ++ parts.rtakeWhile isIdle := List.rdropWhile_append_rtakeWhile.symm
  refine ⟨parts.rtakeWhile isIdle, parted, ?_, fun part isLast => ?_⟩
  · conv_lhs => rw [parted]
    rw [said_append, said_of_idle fun part isIn => List.mem_rtakeWhile_imp isIn, List.append_nil]
  · obtain ⟨some, rfl⟩ := List.mem_getLast?_eq_getLast isLast
    exact Bool.eq_false_iff.mpr (List.rdropWhile_last_not isIdle parts some)

/-- Only the root has no parent; the parent of another path is what is written of it up to its last step but one. -/
theorem parent?_cases (text : p.text.toList = '/' :: cs) :
    (p.parent? = none ∧ steps cs = []) ∨
    ∃ q kept after last, p.parent? = some q ∧ q.text.toList = '/' :: joinParts kept ∧
      cs.splitOn '/' = kept ++ after ∧ (∀ part ∈ kept.getLast?, isIdle part = false) ∧
      steps cs = said kept ++ [.ofPart last] := by
  have head : headChars p.text.toList = ['/'] := by rw [text, headChars]
  rw [steps, ← parts_of_text text]
  obtain ⟨idle, parted, tidied, ends⟩ := dropIdleEnd_append p.parts
  rcases List.eq_nil_or_concat' (dropIdleEnd p.parts) with none | ⟨before, last, tidy⟩
  · refine .inl ⟨?_, by rw [tidied, none, said_nil]⟩
    rw [parent?, none, head]
    rfl
  · obtain ⟨idle', parted', tidied', ends'⟩ := dropIdleEnd_append before
    have inky : isIdle last = false := ends last (by simp [tidy])
    refine .inr ⟨⟨String.ofList ('/' :: joinParts (dropIdleEnd before))⟩, dropIdleEnd before, idle' ++ [last] ++ idle,
      last, ?_, String.toList_ofList, ?_, ends', ?_⟩
    · rw [parent?, tidy, head, List.reverse_append]
      simp
    · calc p.parts = before ++ [last] ++ idle := by rw [← tidy, ← parted]
        _ = dropIdleEnd before ++ idle' ++ [last] ++ idle := by rw [← parted']
        _ = dropIdleEnd before ++ (idle' ++ [last] ++ idle) := by simp
    · rw [tidied, tidy, said_append, tidied', said_singleton, inky]
      rfl

/-! ### What lies above a path -/

/-- An absolute path lies above another one: it is the shortest beginning of what is written there that says the first
few of its steps, and it does not say all of them. -/
structure IsAbove (d p : Path) : Prop where
  rooted : d.isAbsolute = true
  written : d.text.toList <+: p.text.toList
  steps : d.components <+: p.components
  fewer : d.components.length < p.components.length
  shortest : ∀ q : Path, q.text.toList <+: d.text.toList → q.components = d.components → q = d

theorem components_ne_nil (rooted : p.isAbsolute = true) : p.components ≠ [] := by
  obtain ⟨cs, text⟩ := exists_of_isAbsolute rooted
  rw [components_of_text text]
  exact List.cons_ne_nil _ _

theorem length_components_le (rooted : d.isAbsolute = true) (written : d.text.toList <+: p.text.toList) :
    d.components.length ≤ p.components.length := by
  obtain ⟨cs, text⟩ := exists_of_isAbsolute rooted
  obtain ⟨rest, text'⟩ := written
  rw [text, List.cons_append] at text'
  rw [components_of_text text, components_of_text text'.symm, List.length_cons, List.length_cons]
  exact Nat.succ_le_succ (length_steps_le (List.prefix_append cs rest))

theorem components_of_parentless (rooted : p.isAbsolute = true) (parentless : p.parent? = none) :
    p.components = [.root] := by
  obtain ⟨cs, text⟩ := exists_of_isAbsolute rooted
  rcases parent?_cases text with ⟨-, none⟩ | ⟨q, _, _, _, some, -⟩
  · rw [components_of_text text, none]
  · rw [parentless] at some
    cases some

theorem not_isAbove_of_parentless (rooted : p.isAbsolute = true) (parentless : p.parent? = none) : ¬ d.IsAbove p := by
  intro isAbove
  have fewer := isAbove.fewer
  rw [components_of_parentless rooted parentless, List.length_singleton, Nat.lt_one_iff] at fewer
  exact components_ne_nil isAbove.rooted (List.length_eq_zero_iff.mp fewer)

private theorem shortest_of_text {kept : List (List Char)} (text : d.text.toList = '/' :: joinParts kept)
    (free : ∀ part ∈ kept, '/' ∉ part) (ends : ∀ part ∈ kept.getLast?, isIdle part = false)
    (begins : q.text.toList <+: d.text.toList) (same : q.components = d.components) : q = d := by
  rw [components_of_text text, steps_joinParts free] at same
  apply eq_of_text
  rw [text] at begins ⊢
  rcases List.prefix_cons_iff.mp begins with nothing | ⟨u, begun, begins⟩
  · have none : q = ⟨""⟩ := eq_of_text nothing
    rw [none] at same
    cases same
  · rw [components_of_text begun] at same
    rw [begun, eq_joinParts_of_steps_eq free ends begins (List.cons.inj same).2]

theorem isAbove_of_parent (rooted : p.isAbsolute = true) (parent : p.parent? = some q) :
    q.IsAbove p ∧ p.components.length = q.components.length + 1 := by
  obtain ⟨cs, text⟩ := exists_of_isAbsolute rooted
  rcases parent?_cases text with ⟨none, -⟩ | ⟨q', kept, after, last, some, text', parted, ends, tells⟩
  · rw [parent] at none
    cases none
  · rw [parent] at some
    cases some
    have free : ∀ part ∈ kept, '/' ∉ part := fun part isIn =>
      not_mem_of_mem_splitOn (parted ▸ List.mem_append_left after isIn)
    have below : p.components = .root :: (said kept ++ [.ofPart last]) := by rw [components_of_text text, tells]
    have above : q.components = .root :: said kept := by rw [components_of_text text', steps_joinParts free]
    have whole : cs = joinParts (kept ++ after) := by rw [joinParts, ← parted, List.intercalate_splitOn]
    refine ⟨⟨isAbsolute_of_text text', ?_, ?_, ?_, fun _ => shortest_of_text text' free ends⟩, by simp [below, above]⟩
    · rw [text, text', whole]
      exact (List.prefix_cons_inj '/').mpr (joinParts_prefix_append kept after)
    · rw [below, above]
      exact (List.prefix_cons_inj _).mpr (List.prefix_append _ _)
    · simp [below, above]

theorem IsAbove.trans (above : d.IsAbove q) (above' : q.IsAbove p) : d.IsAbove p where
  rooted := above.rooted
  written := above.written.trans above'.written
  steps := above.steps.trans above'.steps
  fewer := above.fewer.trans above'.fewer
  shortest := above.shortest

theorem IsAbove.eq_of_length (above : d.IsAbove p) (above' : d'.IsAbove p)
    (same : d.components.length = d'.components.length) : d = d' := by
  have same : d.components = d'.components := by
    rcases List.prefix_or_prefix_of_prefix above.steps above'.steps with short | short
    · exact short.eq_of_length same
    · exact (short.eq_of_length same.symm).symm
  rcases List.prefix_or_prefix_of_prefix above.written above'.written with short | short
  · exact above'.shortest d short same
  · exact (above.shortest d' short same.symm).symm

theorem isAbove_iff_of_parent (rooted : p.isAbsolute = true) (parent : p.parent? = some q) :
    d.IsAbove p ↔ d = q ∨ d.IsAbove q := by
  obtain ⟨above, more⟩ := isAbove_of_parent rooted parent
  constructor
  · intro isAbove
    have fewer := isAbove.fewer
    rw [more, Nat.lt_succ_iff] at fewer
    rcases Nat.eq_or_lt_of_le fewer with same | fewer
    · exact .inl (isAbove.eq_of_length above same)
    · refine .inr ⟨isAbove.rooted, ?_, ?_, fewer, isAbove.shortest⟩
      · rcases List.prefix_or_prefix_of_prefix isAbove.written above.written with short | long
        · exact short
        · exact absurd fewer (Nat.not_lt_of_le (length_components_le above.rooted long))
      · exact List.prefix_of_prefix_length_le isAbove.steps above.steps fewer.le
  · rintro (rfl | isAbove)
    · exact above
    · exact isAbove.trans above

private theorem exists_above (rooted : p.isAbsolute = true) {k n : Nat} (some : 0 < k) (fewer : k < n)
    (count : p.components.length = n) : ∃ d : Path, d.IsAbove p ∧ d.components = p.components.take k := by
  induction n generalizing p with
  | zero => exact absurd fewer (Nat.not_lt_zero k)
  | succ n ih =>
    cases parent : p.parent? with
    | none =>
      rw [components_of_parentless rooted parent, List.length_singleton] at count
      omega
    | some q =>
      obtain ⟨above, more⟩ := isAbove_of_parent rooted parent
      have count' : q.components.length = n := by omega
      have begins : q.components = p.components.take n := by rw [← count', ← List.prefix_iff_eq_take.mp above.steps]
      rcases Nat.eq_or_lt_of_le (Nat.lt_succ_iff.mp fewer) with rfl | fewer
      · exact ⟨q, above, begins⟩
      · obtain ⟨d, isAbove, first⟩ := ih above.rooted fewer count'
        refine ⟨d, isAbove.trans above, ?_⟩
        rw [first, begins, List.take_take, Nat.min_eq_left fewer.le]

/-- For each number of steps that is less than the path's own there is one path above it. -/
theorem existsUnique_above (rooted : p.isAbsolute = true) {k : Nat} (some : 0 < k) (fewer : k < p.components.length) :
    ∃! d : Path, d.IsAbove p ∧ d.components = p.components.take k := by
  obtain ⟨d, isAbove, first⟩ := exists_above rooted some fewer rfl
  refine ⟨d, ⟨isAbove, first⟩, ?_⟩
  rintro d' ⟨isAbove', first'⟩
  exact isAbove'.eq_of_length isAbove (by rw [first, first'])

/-! ### Names in a directory -/

/-- A name that stands for itself in any directory. -/
structure IsPlainName (name : String) : Prop where
  some : name ≠ ""
  noDot : name ≠ "."
  notUp : name ≠ ".."
  flat : '/' ∉ name.toList

variable {name : String}

theorem IsPlainName.relative (plain : IsPlainName name) : isAbsolute ⟨name⟩ = false := by
  rw [isAbsolute, beq_eq_false_iff_ne]
  exact fun head => plain.flat (List.mem_of_head? head)

theorem IsPlainName.steps (plain : IsPlainName name) : steps name.toList = [.name name] := by
  have inky : isIdle name.toList = false := by
    simp only [isIdle, Bool.or_eq_false_iff, beq_eq_false_iff_ne]
    exact ⟨fun none => plain.some (String.toList_inj.mp none), fun dot => plain.noDot (String.toList_inj.mp dot)⟩
  have notUp : name.toList ≠ ['.', '.'] := fun up => plain.notUp (String.toList_inj.mp up)
  rw [steps_of_not_mem plain.flat, inky, Component.ofPart, if_neg notUp, String.ofList_toList]
  rfl

private theorem text_join (relative : isAbsolute ⟨name⟩ = false) (text : d.text.toList = '/' :: cs) :
    ∃ behind, (d.join ⟨name⟩).text.toList = '/' :: behind ∧ steps behind = steps cs ++ steps name.toList := by
  by_cases ends : d.text.toList.getLast? = some '/'
  · refine ⟨cs ++ name.toList, ?_, ?_⟩
    · rw [join, if_neg (by simp [relative]), if_pos (by simp [ends]), String.toList_append, text]
      rfl
    · rcases List.eq_nil_or_concat' cs with rfl | ⟨front, last, rfl⟩
      · rfl
      · rw [text, ← List.cons_append, List.getLast?_concat, Option.some_inj] at ends
        rw [ends, List.append_assoc, List.singleton_append, steps_append_slash, steps_append_slash, steps_nil,
          List.append_nil]
  · refine ⟨cs ++ '/' :: name.toList, ?_, steps_append_slash _ _⟩
    have some : d.text.isEmpty = false := by
      rw [← Bool.not_eq_true, String.isEmpty_iff]
      rintro none
      rw [none] at text
      cases text
    rw [join, if_neg (by simp [relative]), if_neg (by simp [some, ends]), String.toList_append, String.toList_append,
      text]
    simp

theorem components_join (plain : IsPlainName name) (rooted : d.isAbsolute = true) :
    (d.join ⟨name⟩).components = d.components ++ [.name name] := by
  obtain ⟨cs, text⟩ := exists_of_isAbsolute rooted
  obtain ⟨behind, text', tells⟩ := text_join plain.relative text
  rw [components_of_text text', components_of_text text, tells, plain.steps]
  rfl

/-! ### The chain of parents -/

private theorem length_parent (rooted : p.isAbsolute = true) (parent : p.parent? = some q) :
    q.text.toList.length < p.text.toList.length := by
  obtain ⟨above, more⟩ := isAbove_of_parent rooted parent
  refine Nat.lt_of_le_of_ne above.written.length_le fun same => ?_
  have same : q = p := eq_of_text (above.written.eq_of_length same)
  rw [same] at more
  omega

private theorem chainFrom_above {fuel : Nat} (rooted : p.isAbsolute = true) (enough : p.text.toList.length < fuel) :
    (∀ d, d ∈ chainFrom fuel p ↔ d = p ∨ d.IsAbove p) ∧
      (chainFrom fuel p).Pairwise fun d d' => d'.components.length < d.components.length := by
  induction fuel generalizing p with
  | zero => exact absurd enough (Nat.not_lt_zero _)
  | succ fuel ih =>
    rw [chainFrom]
    cases parent : p.parent? with
    | none =>
      exact ⟨fun d => by simp [not_isAbove_of_parentless rooted parent], List.pairwise_singleton _ _⟩
    | some q =>
      obtain ⟨above, more⟩ := isAbove_of_parent rooted parent
      have shorter := length_parent rooted parent
      obtain ⟨members, sorted⟩ := ih above.rooted (by omega)
      refine ⟨fun d => ?_, List.pairwise_cons.mpr ⟨fun d isIn => ?_, sorted⟩⟩
      · rw [List.mem_cons, isAbove_iff_of_parent rooted parent]
        exact or_congr_right (members d)
      · rcases (members d).mp isIn with rfl | isAbove
        · exact above.fewer
        · exact isAbove.fewer.trans above.fewer

/-- The chain of parents has the path itself, and all that is above it. -/
theorem mem_ancestors_iff (rooted : p.isAbsolute = true) : d ∈ p.ancestors ↔ d = p ∨ d.IsAbove p :=
  (chainFrom_above rooted (Nat.lt_succ_self _)).1 d

theorem pairwise_ancestors (rooted : p.isAbsolute = true) :
    p.ancestors.Pairwise fun d d' => d'.components.length < d.components.length :=
  (chainFrom_above rooted (Nat.lt_succ_self _)).2

end

end Path
end LintBridge

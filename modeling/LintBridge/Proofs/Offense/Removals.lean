import LintBridge.Proofs.Offense.Annotations

/-!
What is taken off a message, and that nothing else is.

`Removal` says it without the steps of `peel`: what there was is what is left with some groups behind it, each of them a
link or the name of the cop; the link is that of the last group with one; and if fewer groups are gone than may
go, no other one could. A step of `peel` takes one such group off (`Drops`) or finds none (`Stays`), and so
each step adds one group to the removal (`Removal.snoc`).
-/

set_option autoImplicit false
set_option relaxedAutoImplicit false

namespace LintBridge.Annotation

/-! ### Links and groups -/

/-- The part of a text from the first place on where a link can begin: the longest end of it that begins so. -/
structure LinkOf (inner link : List Char) : Prop where
  ends : link <:+ inner
  starts : linkStart <+: link
  first : ∀ other, other <:+ inner → linkStart <+: other → other <:+ link

theorem linkOf_of_link? {inner link : List Char} (found : link? inner = some link) : LinkOf inner link := by
  induction inner with
  | nil => cases found
  | cons c cs ih =>
    rw [link?] at found
    split at found
    · rename_i starts
      cases found
      exact ⟨List.suffix_rfl, List.isPrefixOf_iff_prefix.mp starts, fun other ends _ => ends⟩
    · rename_i later
      obtain ⟨ends, starts, first⟩ := ih found
      refine ⟨ends.trans (List.suffix_cons c cs), starts, fun other ends starts => ?_⟩
      obtain rfl | ends := List.suffix_cons_iff.mp ends
      · exact absurd (List.isPrefixOf_iff_prefix.mpr starts) later
      · exact first other ends starts

/-- A group as it stands in a message. -/
structure Group where
  inner : List Char
  /-- The blanks after it. -/
  blanks : List Char
  deriving DecidableEq, Repr

namespace Group

def text (g : Group) : List Char := group g.inner g.blanks

structure Fits (g : Group) : Prop where
  inner : ∀ c ∈ g.inner, isInner c = true
  blank : ∀ c ∈ g.blanks, Text.isBlank c = true

def Links (g : Group) : Prop := linkStart <:+: g.inner

/-- The group is the name of the cop, and there is a name. -/
def Names (cop : List Char) (g : Group) : Prop := cop ≠ [] ∧ g.inner = cop

end Group

/-! ### What is left, and what is gone -/

/-- The text does not end in a group that would go: one with a link while there is none, or the name of the cop. -/
def Stays (cop : List Char) (s : Split) : Prop :=
  ¬ EndsIn (fun inner => (s.link = none ∧ linkStart <:+: inner) ∨ (cop ≠ [] ∧ inner = cop)) s.excerpt

/-- The groups that are gone, when at most `n` of them may go and `t` is left of `s`. -/
structure Removal (cop : List Char) (n : Nat) (s t : Split) (groups : List Group) : Prop where
  whole : s.excerpt = t.excerpt ++ groups.flatMap Group.text
  few : groups.length ≤ n
  fits : ∀ g ∈ groups, g.Fits
  due : ∀ g ∈ groups, g.Links ∨ g.Names cop
  /-- A link that there was stays, and only names go. -/
  kept : ∀ link, s.link = some link → t.link = some link ∧ ∀ g ∈ groups, g.Names cop
  unlinked : t.link = none → ∀ g ∈ groups, ¬ g.Links
  /-- A new link is that of the last group with one. All other groups are gone because they are names. -/
  linked : ∀ link, s.link = none → t.link = some link → ∃ left g right, groups = left ++ g :: right ∧
    LinkOf g.inner link ∧ (∀ h ∈ right, ¬ h.Links) ∧ ∀ h ∈ left ++ right, h.Names cop
  maximal : groups.length < n → Stays cop t

section
variable {cop : List Char} {s t u : Split} {g : Group} {groups : List Group} {n : Nat}

/-- One group comes off the end of a text. -/
inductive Drops (cop : List Char) (g : Group) : Split → Split → Prop
  | link {before link : List Char} (found : link? g.inner = some link) :
      Drops cop g ⟨before ++ g.text, none⟩ ⟨before, some link⟩
  | name {before : List Char} {found : Option (List Char)} (names : g.Names cop) (free : found = none → ¬ g.Links) :
      Drops cop g ⟨before ++ g.text, found⟩ ⟨before, found⟩

theorem peel_of_drops (fits : g.Fits) (drops : Drops cop g s t) (n : Nat) : peel cop (n + 1) s = peel cop n t := by
  cases drops with
  | link found => exact peel_link found fits.inner fits.blank n
  | name names free =>
    obtain ⟨named, rfl⟩ := names
    exact peel_name named fits.inner fits.blank n free

/-- A group comes off a text, or the text stays as it is. -/
theorem exists_drops_or_stays (cop : List Char) (s : Split) :
    (∃ g t, g.Fits ∧ Drops cop g s t) ∨ Stays cop s := by
  by_cases stays : Stays cop s
  · exact .inr stays
  · obtain ⟨before, inner, blanks, whole, fits, blank, goes⟩ := not_not.mp stays
    obtain ⟨excerpt, found⟩ := s
    cases whole
    refine .inl ⟨⟨inner, blanks⟩, ?_⟩
    by_cases links : found = none ∧ linkStart <:+: inner
    · obtain ⟨rfl, links⟩ := links
      obtain ⟨link, isLink⟩ := Option.ne_none_iff_exists'.mp fun none => link?_eq_none_iff.mp none links
      exact ⟨_, ⟨fits, blank⟩, .link isLink⟩
    · have names := goes.resolve_left links
      exact ⟨_, ⟨fits, blank⟩, .name names fun unlinked has => links ⟨unlinked, has⟩⟩

theorem Removal.refl (stays : n ≠ 0 → Stays cop s) : Removal cop n s s [] where
  whole := by simp
  few := Nat.zero_le n
  fits := List.forall_mem_nil _
  due := List.forall_mem_nil _
  kept := fun link has => ⟨has, List.forall_mem_nil _⟩
  unlinked := fun _ => List.forall_mem_nil _
  linked := fun link unlinked linked => by rw [unlinked] at linked; cases linked
  maximal := fun room => stays (Nat.pos_iff_ne_zero.mp room)

theorem Removal.snoc (fits : g.Fits) (drops : Drops cop g s t) (rest : Removal cop n t u groups) :
    Removal cop (n + 1) s u (groups ++ [g]) where
  whole := by
    have front : s.excerpt = t.excerpt ++ g.text := by cases drops <;> rfl
    simp [front, rest.whole]
  few := by simpa using rest.few
  fits := List.forall_mem_append.mpr ⟨rest.fits, List.forall_mem_singleton.mpr fits⟩
  due := by
    refine List.forall_mem_append.mpr ⟨rest.due, List.forall_mem_singleton.mpr ?_⟩
    cases drops with
    | link found => exact .inl (not_not.mp fun noLink => by simp [link?_eq_none_iff.mpr noLink] at found)
    | name names free => exact .inr names
  kept := by
    intro link has
    cases drops with
    | link found => cases has
    | name names free =>
      obtain ⟨keeps, others⟩ := rest.kept link has
      exact ⟨keeps, List.forall_mem_append.mpr ⟨others, List.forall_mem_singleton.mpr names⟩⟩
  unlinked := by
    intro none
    refine List.forall_mem_append.mpr ⟨rest.unlinked none, List.forall_mem_singleton.mpr ?_⟩
    cases drops with
    | link found =>
      rw [(rest.kept _ rfl).1] at none
      cases none
    | @name before found names free =>
      refine free ?_
      cases found with
      | none => rfl
      | some link =>
        rw [(rest.kept _ rfl).1] at none
        cases none
  linked := by
    intro link unlinked linked
    cases drops with
    | link found =>
      obtain ⟨keeps, names⟩ := rest.kept _ rfl
      rw [keeps] at linked
      cases linked
      exact ⟨groups, g, [], rfl, linkOf_of_link? found, List.forall_mem_nil _, by simpa using names⟩
    | name names free =>
      obtain ⟨left, h, right, rfl, isLink, behind, others⟩ := rest.linked link unlinked linked
      refine ⟨left, h, right ++ [g], by simp, isLink, ?_, ?_⟩
      · exact List.forall_mem_append.mpr ⟨behind, List.forall_mem_singleton.mpr (free unlinked)⟩
      · rw [← List.append_assoc]
        exact List.forall_mem_append.mpr ⟨others, List.forall_mem_singleton.mpr names⟩
  maximal := fun room => rest.maximal (by simpa using room)

theorem exists_removal (cop : List Char) (n : Nat) (s : Split) : ∃ groups, Removal cop n s (peel cop n s) groups := by
  induction n generalizing s with
  | zero => exact ⟨[], .refl fun room => absurd rfl room⟩
  | succ n ih =>
    obtain ⟨g, t, fits, drops⟩ | stays := exists_drops_or_stays cop s
    · obtain ⟨groups, rest⟩ := ih t
      rw [peel_of_drops fits drops]
      exact ⟨groups ++ [g], rest.snoc fits drops⟩
    · rw [peel_of_not_endsIn _ stays]
      exact ⟨[], .refl fun _ => stays⟩

end

/-- Splitting takes off at most two groups from the end of a message, each a link or the name of the cop, and nothing
else. The link is the one of the last group that has one, from its first place on, and all other groups are gone
because they are names. If fewer than two are gone, the message does not go on with the name of the cop, or, as long
as there is no link, with a group that has one. -/
theorem split_takes_off_marks_only (cop message : List Char) :
    ∃ groups : List Group,
      message = (split cop message).excerpt ++ groups.flatMap Group.text ∧ groups.length ≤ 2 ∧
      (∀ g ∈ groups, g.Fits ∧ (g.Links ∨ g.Names cop)) ∧
      (match (split cop message).link with
        | none => ∀ g ∈ groups, ¬ g.Links
        | some link => ∃ left g right, groups = left ++ g :: right ∧ LinkOf g.inner link ∧ (∀ h ∈ right, ¬ h.Links) ∧
            ∀ h ∈ left ++ right, h.Names cop) ∧
      (groups.length < 2 → ¬ EndsIn (fun inner => cop ≠ [] ∧ inner = cop) (split cop message).excerpt ∧
        ((split cop message).link = none → ¬ EndsIn (fun inner => linkStart <:+: inner) (split cop message).excerpt)) := by
  obtain ⟨groups, removal⟩ := exists_removal cop 2 ⟨message, none⟩
  refine ⟨groups, removal.whole, removal.few, fun g isIn => ⟨removal.fits g isIn, removal.due g isIn⟩, ?_, ?_⟩
  · split
    · rename_i none
      exact removal.unlinked none
    · rename_i link some
      exact removal.linked link rfl some
  · intro room
    have stays := removal.maximal room
    refine ⟨?_, ?_⟩
    · rintro ⟨before, inner, blanks, whole, fits, blank, names⟩
      exact stays ⟨before, inner, blanks, whole, fits, blank, .inr names⟩
    · rintro none ⟨before, inner, blanks, whole, fits, blank, links⟩
      exact stays ⟨before, inner, blanks, whole, fits, blank, .inl ⟨none, links⟩⟩

-- A cop without a name has no group of its own: an empty one stays.
example : split [] "a ()".toList = ⟨"a ()".toList, none⟩ := by decide

end LintBridge.Annotation

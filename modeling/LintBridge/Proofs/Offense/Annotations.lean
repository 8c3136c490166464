import Mathlib.Data.List.TakeWhile
import LintBridge.Offense.Diagnostic

/-!
Taking the annotations off a message gives back the text that they were put behind.

A text has at most one last group (`lastGroup?_eq_some_iff`), whatever parentheses and line feeds stand before it.
So each step of `peel` takes off the group that was put there last, and it stops where the text itself ends in a
group only if that one is neither a link that is still wanted nor the name of the cop.
-/

set_option autoImplicit false
set_option relaxedAutoImplicit false

namespace LintBridge.Annotation

/-! ### The last group -/

def group (inner blanks : List Char) : List Char := ' ' :: '(' :: (inner ++ ')' :: blanks)

/-- The text ends in a group that satisfies `p`, blanks after it aside. -/
def EndsIn (p : List Char → Prop) (cs : List Char) : Prop :=
  ∃ before inner blanks, cs = before ++ group inner blanks ∧ (∀ c ∈ inner, isInner c = true) ∧
    (∀ c ∈ blanks, Text.isBlank c = true) ∧ p inner

theorem lastGroup?_group {inner blanks : List Char} (before : List Char)
    (fits : ∀ c ∈ inner, isInner c = true) (blank : ∀ c ∈ blanks, Text.isBlank c = true) :
    lastGroup? (before ++ group inner blanks) = some (before, inner) := by
  have reversed : (before ++ group inner blanks).reverse =
      blanks.reverse ++ ')' :: (inner.reverse ++ '(' :: ' ' :: before.reverse) := by simp [group]
  have atEnd : (before ++ group inner blanks).reverse.dropWhile Text.isBlank =
      ')' :: (inner.reverse ++ '(' :: ' ' :: before.reverse) := by
    rw [reversed, List.dropWhile_append_of_pos fun c isIn => blank c (List.mem_reverse.mp isIn)]
    rfl
  have fits' : ∀ c ∈ inner.reverse, isInner c = true := fun c isIn => fits c (List.mem_reverse.mp isIn)
  have atStart : (inner.reverse ++ '(' :: ' ' :: before.reverse).dropWhile isInner = '(' :: ' ' :: before.reverse := by
    rw [List.dropWhile_append_of_pos fits']
    rfl
  have between : (inner.reverse ++ '(' :: ' ' :: before.reverse).takeWhile isInner = inner.reverse := by
    rw [List.takeWhile_append_of_pos fits']
    exact List.append_nil _
  simp only [lastGroup?, atEnd, atStart, between, List.reverse_reverse]

private theorem eq_of_lastGroup? {cs before inner : List Char} (last : lastGroup? cs = some (before, inner)) :
    ∃ blanks, cs = before ++ group inner blanks ∧ (∀ c ∈ inner, isInner c = true) ∧
      ∀ c ∈ blanks, Text.isBlank c = true := by
  unfold lastGroup? at last
  split at last
  · rename_i rest atEnd
    split at last
    · rename_i front atStart
      cases last
      refine ⟨(cs.reverse.takeWhile Text.isBlank).reverse, ?_, ?_, ?_⟩
      · calc
          cs = (cs.reverse.takeWhile Text.isBlank ++ cs.reverse.dropWhile Text.isBlank).reverse := by
            rw [List.takeWhile_append_dropWhile, List.reverse_reverse]
          _ = (cs.reverse.takeWhile Text.isBlank ++ ')' :: (rest.takeWhile isInner ++ '(' :: ' ' :: front)).reverse := by
            rw [atEnd, ← atStart, List.takeWhile_append_dropWhile]
          _ = _ := by simp [group]
      · intro c isIn
        exact List.mem_takeWhile_imp (List.mem_reverse.mp isIn)
      · intro c isIn
        exact List.mem_takeWhile_imp (List.mem_reverse.mp isIn)
    · cases last
  · cases last

theorem lastGroup?_eq_some_iff {cs before inner : List Char} :
    lastGroup? cs = some (before, inner) ↔
      ∃ blanks, cs = before ++ group inner blanks ∧ (∀ c ∈ inner, isInner c = true) ∧
        ∀ c ∈ blanks, Text.isBlank c = true := by
  constructor
  · exact eq_of_lastGroup?
  · rintro ⟨blanks, rfl, fits, blank⟩
    exact lastGroup?_group before fits blank

theorem endsIn_iff {p : List Char → Prop} {cs : List Char} :
    EndsIn p cs ↔ ∃ found ∈ lastGroup? cs, p found.2 := by
  constructor
  · rintro ⟨before, inner, blanks, whole, fits, blank, holds⟩
    exact ⟨(before, inner), lastGroup?_eq_some_iff.mpr ⟨blanks, whole, fits, blank⟩, holds⟩
  · rintro ⟨⟨before, inner⟩, last, holds⟩
    obtain ⟨blanks, whole, fits, blank⟩ := lastGroup?_eq_some_iff.mp last
    exact ⟨before, inner, blanks, whole, fits, blank, holds⟩

instance (p : List Char → Prop) [DecidablePred p] (cs : List Char) : Decidable (EndsIn p cs) :=
  decidable_of_iff _ endsIn_iff.symm

theorem link?_eq_none_iff {cs : List Char} : link? cs = none ↔ ¬ linkStart <:+: cs := by
  induction cs with
  | nil => simp [link?, linkStart]
  | cons c cs ih =>
    rw [link?, List.infix_cons_iff, ← List.isPrefixOf_iff_prefix]
    by_cases starts : linkStart.isPrefixOf (c :: cs) = true
    · simp [starts]
    · simp [starts, ih]

theorem link?_of_linkStart {link : List Char} (starts : linkStart <+: link) : link? link = some link := by
  cases link with
  | nil => simp [linkStart] at starts
  | cons c cs => rw [link?, if_pos (List.isPrefixOf_iff_prefix.mpr starts)]

/-! ### One step -/

/-- A name of a cop that a group can hold and that is no link. -/
structure IsName (cop : List Char) : Prop where
  named : cop ≠ []
  fits : ∀ c ∈ cop, isInner c = true
  noLink : ¬ linkStart <:+: cop

/-- A link that a group can hold. -/
structure IsLink (link : List Char) : Prop where
  starts : linkStart <+: link
  fits : ∀ c ∈ link, isInner c = true

section
variable {cop link before blanks : List Char}

theorem peel_link {inner : List Char} (found : link? inner = some link) (fits : ∀ c ∈ inner, isInner c = true)
    (blank : ∀ c ∈ blanks, Text.isBlank c = true) (n : Nat) :
    peel cop (n + 1) ⟨before ++ group inner blanks, none⟩ = peel cop n ⟨before, some link⟩ := by
  rw [peel, lastGroup?_group before fits blank]
  simp only [found]

theorem peel_name (named : cop ≠ []) (fits : ∀ c ∈ cop, isInner c = true)
    (blank : ∀ c ∈ blanks, Text.isBlank c = true) (n : Nat) {found : Option (List Char)}
    (free : found = none → ¬ linkStart <:+: cop) :
    peel cop (n + 1) ⟨before ++ group cop blanks, found⟩ = peel cop n ⟨before, found⟩ := by
  rw [peel, lastGroup?_group before fits blank]
  cases found with
  | none => simp [link?_eq_none_iff.mpr (free rfl), named]
  | some link => simp [named]

/-- A text that does not end in a group that would go stays as it is. -/
theorem peel_of_not_endsIn {s : Split} (n : Nat)
    (stays : ¬ EndsIn (fun inner => (s.link = none ∧ linkStart <:+: inner) ∨ (cop ≠ [] ∧ inner = cop)) s.excerpt) :
    peel cop n s = s := by
  cases n with
  | zero => rfl
  | succ n =>
    rw [peel]
    cases last : lastGroup? s.excerpt with
    | none => rfl
    | some found =>
      obtain ⟨before, inner⟩ := found
      have kept : ¬ ((s.link = none ∧ linkStart <:+: inner) ∨ (cop ≠ [] ∧ inner = cop)) :=
        fun goes => stays (endsIn_iff.mpr ⟨(before, inner), last, goes⟩)
      rw [not_or] at kept
      obtain ⟨unwanted, other⟩ := kept
      cases unlinked : s.link with
      | none =>
        have noLink : link? inner = none := link?_eq_none_iff.mpr fun isIn => unwanted ⟨unlinked, isIn⟩
        simp only [noLink, if_neg other]
      | some link => simp only [if_neg other]

end

/-! ### Both steps -/

/-- What stands behind a text. -/
inductive Marks
  | nameThenLink (link : String)
  | linkThenName (link : String)
  | linkAlone (link : String)
  | nameAlone
  deriving DecidableEq, Repr

namespace Marks

def link? : Marks → Option String
  | nameThenLink link | linkThenName link | linkAlone link => some link
  | nameAlone => none

/-- The text with the marks behind it, and blanks at the end. -/
def put (cop body blanks : String) : Marks → String
  | nameThenLink link => body ++ " (" ++ cop ++ ") (" ++ link ++ ")" ++ blanks
  | linkThenName link => body ++ " (" ++ link ++ ") (" ++ cop ++ ")" ++ blanks
  | linkAlone link => body ++ " (" ++ link ++ ")" ++ blanks
  | nameAlone => body ++ " (" ++ cop ++ ")" ++ blanks

/-- The text does not end in a group that would go with the marks. Behind two marks it may end in any. -/
def Ends (cop : String) (body : List Char) : Marks → Prop
  | nameThenLink _ | linkThenName _ => True
  | linkAlone _ => ¬ EndsIn (· = cop.toList) body
  | nameAlone => ¬ EndsIn (fun inner => inner = cop.toList ∨ linkStart <:+: inner) body

end Marks

private theorem split_put {cop body blanks : String} {marks : Marks} (name : IsName cop.toList)
    (linked : ∀ link, marks.link? = some link → IsLink link.toList)
    (blank : ∀ c ∈ blanks.toList, Text.isBlank c = true) (ends : marks.Ends cop body.toList) :
    split cop.toList (marks.put cop body blanks).toList = ⟨body.toList, marks.link?.map String.toList⟩ := by
  have noBlanks : ∀ c ∈ ([] : List Char), Text.isBlank c = true := by simp
  cases marks with
  | nameThenLink link =>
    have isLink := linked link rfl
    have written : ((Marks.nameThenLink link).put cop body blanks).toList =
        (body.toList ++ group cop.toList []) ++ group link.toList blanks.toList := by
      simp [Marks.put, group]
    rw [split, written, peel_link (link?_of_linkStart isLink.starts) isLink.fits blank,
      peel_name name.named name.fits noBlanks _ fun _ => name.noLink]
    rfl
  | linkThenName link =>
    have isLink := linked link rfl
    have written : ((Marks.linkThenName link).put cop body blanks).toList =
        (body.toList ++ group link.toList []) ++ group cop.toList blanks.toList := by
      simp [Marks.put, group]
    rw [split, written, peel_name name.named name.fits blank _ fun _ => name.noLink,
      peel_link (link?_of_linkStart isLink.starts) isLink.fits noBlanks]
    rfl
  | linkAlone link =>
    have written : ((Marks.linkAlone link).put cop body blanks).toList = body.toList ++ group link.toList blanks.toList := by
      simp [Marks.put, group]
    have isLink := linked link rfl
    rw [split, written, peel_link (link?_of_linkStart isLink.starts) isLink.fits blank, peel_of_not_endsIn]
    · rfl
    · rintro ⟨before, inner, after, whole, fits, isBlank, ⟨unlinked, -⟩ | ⟨-, isName⟩⟩
      · cases unlinked
      · exact ends ⟨before, inner, after, whole, fits, isBlank, isName⟩
  | nameAlone =>
    have written : (Marks.nameAlone.put cop body blanks).toList = body.toList ++ group cop.toList blanks.toList := by
      simp [Marks.put, group]
    rw [split, written, peel_name name.named name.fits blank _ fun _ => name.noLink, peel_of_not_endsIn]
    · rfl
    · rintro ⟨before, inner, after, whole, fits, isBlank, ⟨-, hasLink⟩ | ⟨-, isName⟩⟩
      · exact ends ⟨before, inner, after, whole, fits, isBlank, .inr hasLink⟩
      · exact ends ⟨before, inner, after, whole, fits, isBlank, .inl isName⟩

theorem ruleAnchor?_fragment (address : String) {anchor : String} (named : anchor ≠ "") (bare : '#' ∉ anchor.toList) :
    ruleAnchor? ("https://" ++ address ++ "#" ++ anchor) = some anchor := by
  have chars : ("https://" ++ address ++ "#" ++ anchor).toList =
      secureScheme ++ (address.toList ++ '#' :: anchor.toList) := by
    simp only [String.toList_append, List.append_assoc]
    rfl
  have secure : secureScheme.isPrefixOf (secureScheme ++ (address.toList ++ '#' :: anchor.toList)) = true :=
    List.isPrefixOf_iff_prefix.mpr (List.prefix_append _ _)
  have hash : (secureScheme ++ (address.toList ++ '#' :: anchor.toList)).contains '#' = true := by simp
  have other : ∀ c ∈ anchor.toList.reverse, (c != '#') = true := by
    intro c isIn
    have differs : c ≠ '#' := fun same => bare (same ▸ List.mem_reverse.mp isIn)
    simpa using differs
  have last : (secureScheme ++ (address.toList ++ '#' :: anchor.toList)).reverse.takeWhile (· != '#') =
      anchor.toList.reverse := by
    rw [List.reverse_append, List.reverse_append, List.reverse_cons, List.append_assoc, List.append_assoc,
      List.takeWhile_append_of_pos other]
    simp
  simp only [ruleAnchor?, chars, secure, hash, last, List.reverse_reverse, Bool.and_self, if_true]
  cases split : anchor.toList with
  | nil => exact absurd (String.toList_eq_nil_iff.mp split) named
  | cons c cs =>
    show some (String.ofList (c :: cs)) = some anchor
    rw [← split, String.ofList_toList]

/-- Whatever a message says, the marks that are put behind it come off again, if the message does not itself end in
a group that would go with them. Behind a name and a link, in either order, nothing is asked of the message. -/
theorem annotations_come_off (style : MessageStyle) (file : Path) (o : Offense) (body blanks : String) (marks : Marks)
    (name : IsName o.cop.toList) (linked : ∀ link, marks.link? = some link → IsLink link.toList)
    (blank : ∀ c ∈ blanks.toList, Text.isBlank c = true) (ends : marks.Ends o.cop body.toList)
    (written : o.message = marks.put o.cop body blanks) :
    split o.cop.toList o.message.toList = ⟨body.toList, marks.link?.map String.toList⟩ ∧
      (o.toDiagnostic style file).cop = some o.cop ∧
      (o.toDiagnostic style file).url = marks.link? ∧
      (o.toDiagnostic style file).excerpt = (match style with
        | .embedded => body
        | .separate => o.cop ++ ": " ++ body) ∧
      ∀ address anchor, marks.link? = some ("https://" ++ address ++ "#" ++ anchor) → anchor ≠ "" →
        '#' ∉ anchor.toList → (o.toDiagnostic style file).anchor? = some anchor := by
  have undone := split_put name linked blank ends
  rw [← written] at undone
  have someName : o.cop ≠ "" := fun none => name.named (by rw [none]; rfl)
  have url : (o.toDiagnostic style file).url = marks.link? := by
    simp [Offense.toDiagnostic, undone, Function.comp_def]
  refine ⟨undone, ?_, url, ?_, ?_⟩
  · simp [Offense.toDiagnostic, someName]
  · cases style <;> simp [Offense.toDiagnostic, undone, someName]
  · intro address anchor isLink named bare
    rw [Diagnostic.anchor?, url, isLink, Option.bind_some]
    exact ruleAnchor?_fragment address named bare

/-- A message with a bracket that is never closed, a line feed and a link of its own. -/
def ownLink : String := "Use 2 (not 4\nspaces), (see http://a.b)"

/-- An offense whose message has a link of its own before the one to its rule. -/
def ownLinkOffense : Offense :=
  { Offense.empty with cop := "Style/A", message := ownLink ++ " (https://s.t/#x#a-b)\n " }

theorem annotations_come_off_ownLink :
    IsName "Style/A".toList ∧ IsLink "https://s.t/#x#a-b".toList ∧
      ¬ EndsIn (· = "Style/A".toList) ownLink.toList ∧
      EndsIn (fun inner => linkStart <:+: inner) ownLink.toList ∧
      split "Style/A".toList ownLinkOffense.message.toList = ⟨ownLink.toList, some "https://s.t/#x#a-b".toList⟩ ∧
      (ownLinkOffense.toDiagnostic .separate ⟨"/a.rb"⟩).excerpt = "Style/A" ++ ": " ++ ownLink ∧
      (ownLinkOffense.toDiagnostic .separate ⟨"/a.rb"⟩).anchor? = some "a-b" := by
  have name : IsName "Style/A".toList :=
    ⟨by decide, List.all_eq_true.mp (by decide), link?_eq_none_iff.mp (by decide)⟩
  have isLink : IsLink "https://s.t/#x#a-b".toList := ⟨by decide, List.all_eq_true.mp (by decide)⟩
  have blank : ∀ c ∈ "\n ".toList, Text.isBlank c = true := List.all_eq_true.mp (by decide)
  have ends : ¬ EndsIn (· = "Style/A".toList) ownLink.toList := by decide
  have written : ownLinkOffense.message = (Marks.linkAlone "https://s.t/#x#a-b").put "Style/A" ownLink "\n " := by
    decide
  obtain ⟨undone, -, -, excerpt, anchor⟩ :=
    annotations_come_off .separate ⟨"/a.rb"⟩ ownLinkOffense ownLink "\n " (.linkAlone "https://s.t/#x#a-b") name
      (by rintro link ⟨⟩; exact isLink) blank ends written
  have address : (Marks.linkAlone "https://s.t/#x#a-b").link? = some ("https://" ++ "s.t/#x" ++ "#" ++ "a-b") := by
    decide
  have named := anchor "s.t/#x" "a-b" address (by decide) (by decide)
  have link : EndsIn (fun inner => linkStart <:+: inner) ownLink.toList :=
    ⟨"Use 2 (not 4\nspaces),".toList, "see http://a.b".toList, [], by decide, List.all_eq_true.mp (by decide),
      List.forall_mem_nil _, "see ".toList, "://a.b".toList, by decide⟩
  exact ⟨name, isLink, ends, link, undone, excerpt, named⟩

end LintBridge.Annotation

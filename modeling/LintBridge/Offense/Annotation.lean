import LintBridge.Text.Blank

/-!
The annotations at the end of an offense's message.

A message may end in groups, each a space and a text in parentheses. Of the last two groups, one may be a
link and one may be the name of the cop; these are taken off. All other text stays.
-/

set_option autoImplicit false
set_option relaxedAutoImplicit false

namespace LintBridge.Annotation

/-- Whether a character may stand inside a group. -/
def isInner (c : Char) : Bool := c != '(' && c != ')' && c != '\n'

/-- The group that ends a text, blanks after it aside: the text before the group, and the text inside. -/
def lastGroup? (cs : List Char) : Option (List Char × List Char) :=
  match cs.reverse.dropWhile Text.isBlank with
  | ')' :: rest =>
    match rest.dropWhile isInner with
    | '(' :: ' ' :: before => some (before.reverse, (rest.takeWhile isInner).reverse)
    | _ => none
  | _ => none

def linkStart : List Char := "http".toList

/-- The link in a group: everything from the first place where one can begin. -/
def link? : List Char → Option (List Char)
  | [] => none
  | c :: cs => if linkStart.isPrefixOf (c :: cs) then some (c :: cs) else link? cs

/-- What is left of a message, and the link that was taken off. -/
structure Split where
  excerpt : List Char
  link : Option (List Char)
  deriving DecidableEq, Repr

/-- Takes at most `n` groups off a message. A group goes if it holds the first link, or is the cop's name;
any other group ends the work. -/
def peel (cop : List Char) : Nat → Split → Split
  | 0, s => s
  | n + 1, s =>
    match lastGroup? s.excerpt with
    | none => s
    | some (before, inner) =>
      match s.link, link? inner with
      | none, some link => peel cop n ⟨before, some link⟩
      | _, _ => if cop ≠ [] ∧ inner = cop then peel cop n ⟨before, s.link⟩ else s

/-- The message without its annotations; there are at most two. -/
def split (cop message : List Char) : Split := peel cop 2 ⟨message, none⟩

end LintBridge.Annotation

import LintBridge.Text.Blank

/-!
Paths, as texts with slashes.

Nothing here looks at files: a path is a head (a slash, a leading dot, or nothing) and the parts between
the slashes after it. Empty parts and single dots say nothing; two dots stay as they are.
-/

set_option autoImplicit false
set_option relaxedAutoImplicit false

namespace LintBridge

structure Path where
  text : String
  deriving DecidableEq, Repr, Inhabited

inductive Component
  | root
  | here
  | up
  | name (name : String)
  deriving DecidableEq, Repr

def Component.ofPart (part : List Char) : Component :=
  if part = ['.', '.'] then .up else .name (String.ofList part)

/-- A step as it is written in a path that is put together from steps. -/
def Component.text : Component → String
  | .root => "/"
  | .here => "."
  | .up => ".."
  | .name n => n

namespace Path

def isAbsolute (p : Path) : Bool := p.text.toList.head? == some '/'

/-- The characters that come before the parts: the slash of an absolute path, or the dot of a path that
starts with one. -/
def headChars (cs : List Char) : List Char :=
  match cs with
  | '/' :: _ => ['/']
  | ['.'] => ['.']
  | '.' :: '/' :: _ => ['.']
  | _ => []

/-- The parts of a path between its slashes, after its head, with the empty ones. -/
def parts (p : Path) : List (List Char) :=
  let cs := p.text.toList
  Text.splitWhere (· == '/') (cs.drop (headChars cs).length)

/-- Whether a part says nothing. -/
def isIdle (part : List Char) : Bool := part == [] || part == ['.']

/-- The steps of a path. Two paths with the same steps are the same path. -/
def components (p : Path) : List Component :=
  let head :=
    match headChars p.text.toList with
    | ['/'] => [Component.root]
    | ['.'] => [Component.here]
    | _ => []
  head ++ (p.parts.filter fun part => !isIdle part).map Component.ofPart

/-- Whether the steps of `p` begin with the steps of `root`. -/
def startsWith (p root : Path) : Bool := root.components.isPrefixOf p.components

def dropIdleEnd (parts : List (List Char)) : List (List Char) :=
  (parts.reverse.dropWhile isIdle).reverse

def joinParts (parts : List (List Char)) : List Char := List.intercalate ['/'] parts

/-- The path without its last step, as it is written. The root and the empty path have none. -/
def parent? (p : Path) : Option Path :=
  let head := headChars p.text.toList
  match (dropIdleEnd p.parts).reverse with
  | [] => if head = ['.'] then some ⟨""⟩ else none
  | _ :: before => some ⟨String.ofList (head ++ joinParts (dropIdleEnd before.reverse))⟩

/-- The path of `name` seen from `p`; an absolute name stands for itself. -/
def join (p name : Path) : Path :=
  if name.isAbsolute then name
  else if p.text.isEmpty || p.text.toList.getLast? == some '/' then ⟨p.text ++ name.text⟩
  else ⟨p.text ++ "/" ++ name.text⟩

/-- The path and the paths above it, nearest first; `fuel` bounds their number. -/
def chainFrom : Nat → Path → List Path
  | 0, _ => []
  | fuel + 1, p =>
    p :: match p.parent? with
      | none => []
      | some q => chainFrom fuel q

def ancestors (p : Path) : List Path := chainFrom (p.text.toList.length + 1) p

/-- The absolute form of a path that is not empty, seen from the directory `cwd`: idle parts go, except
that two slashes in front and a slash at the end stay. Double dots stay, too. -/
def absolute (cwd p : Path) : Path :=
  let steps := p.components.filter fun c => c != .root && c != .here
  let cs := p.text.toList
  let base : Path :=
    if p.isAbsolute then
      if cs.take 2 = ['/', '/'] ∧ cs.take 3 ≠ ['/', '/', '/'] then ⟨"//"⟩ else ⟨"/"⟩
    else cwd
  let full := steps.foldl (fun q c => q.join ⟨c.text⟩) base
  if cs.getLast? = some '/' then full.join ⟨""⟩ else full

end Path
end LintBridge

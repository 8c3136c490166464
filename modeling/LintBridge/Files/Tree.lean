import LintBridge.Keyed
import LintBridge.Path
import LintBridge.Problem
import LintBridge.Text.Utf8

/-!
A tree of files, and the paths through it.

There are no links: a double dot leads from a directory to the one that holds it. A path leads somewhere
only if each of its steps, an idle one too, starts from a directory.
-/

set_option autoImplicit false
set_option relaxedAutoImplicit false

namespace LintBridge

inductive Entry
  | file (content : List UInt8) (executable : Bool)
  | directory (entries : List (String × Entry))

namespace Entry

def emptyDirectory : Entry := .directory []

def entries : Entry → List (String × Entry)
  | .file _ _ => []
  | .directory es => es

def find? : List String → Entry → Option Entry
  | [], e => some e
  | n :: names, e => (Keyed.get? n e.entries).bind (find? names)

/-- Puts an entry where the names lead to, with the directories on the way. -/
def put (new : Entry) : List String → Entry → Entry
  | [], _ => new
  | n :: names, e =>
    .directory (Keyed.put n (put new names ((Keyed.get? n e.entries).getD emptyDirectory)) e.entries)

def erase : List String → Entry → Entry
  | [], e => e
  | [n], e => .directory (Keyed.erase n e.entries)
  | n :: names, e =>
    match Keyed.get? n e.entries with
    | none => e
    | some inner => .directory (Keyed.put n (erase names inner) e.entries)

end Entry

/-- A tree of files, and the place in it from which paths start that are not absolute. -/
structure FileTree where
  top : Entry
  here : List String

namespace FileTree

def maxName : Nat := 255

def maxPath : Nat := 4095

def follow (t : FileTree) (names : List String) (part : List Char) : Except SystemError (List String) :=
  match t.top.find? names with
  | none => .error .notFound
  | some (.file _ _) => .error .notDirectory
  | some (.directory es) =>
    if Path.isIdle part then .ok names
    else if part = ['.', '.'] then .ok names.dropLast
    else if maxName < (Text.encode part).length then .error .nameTooLong
    else
      match Keyed.get? (String.ofList part) es with
      | none => .error .notFound
      | some _ => .ok (names ++ [String.ofList part])

def locate (t : FileTree) (p : Path) : Except SystemError (List String) :=
  if p.text.toList.contains (Char.ofNat 0) then .error .nulInName
  else if p.text.isEmpty then .error .notFound
  else if maxPath < p.text.utf8ByteSize then .error .nameTooLong
  else p.parts.foldlM t.follow (if p.isAbsolute then [] else t.here)

def entry (t : FileTree) (p : Path) : Except SystemError Entry := do
  let names ← t.locate p
  match t.top.find? names with
  | some e => .ok e
  | none => .error .notFound

def isFile (t : FileTree) (p : Path) : Bool :=
  match t.entry p with
  | .ok (.file _ _) => true
  | _ => false

def isDirectory (t : FileTree) (p : Path) : Bool :=
  match t.entry p with
  | .ok (.directory _) => true
  | _ => false

def readText (t : FileTree) (p : Path) : Except SystemError String :=
  match t.entry p with
  | .error e => .error e
  | .ok (.directory _) => .error .isDirectory
  | .ok (.file content _) =>
    match Text.decode? content with
    | some cs => .ok (String.ofList cs)
    | none => .error .notText

/-- The tree with one more entry, seen from where paths start. -/
def write (t : FileTree) (names : List String) (e : Entry) : FileTree :=
  { t with top := Entry.put e (t.here ++ names) t.top }

def remove (t : FileTree) (names : List String) : FileTree :=
  { t with top := t.top.erase (t.here ++ names) }

end FileTree
end LintBridge

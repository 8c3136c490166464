import LintBridge.Path
import LintBridge.Url.Reader

/-!
The file that an address names.
-/

set_option autoImplicit false
set_option relaxedAutoImplicit false

namespace LintBridge.Url

def isLocal (u : Url) : Bool :=
  match u.host with
  | none => true
  | some (.domain name) => name == "" || name == "localhost"
  | some _ => false

/-- A path that ends like the letter of a drive gets a slash behind it. -/
def closeDrive (bytes : List UInt8) : List UInt8 :=
  match bytes.reverse with
  | b :: a :: _ :: _ =>
    if (b == 0x3A || b == 0x7C) && (Char.ofNat a.toNat).isAlpha then bytes ++ [0x2F] else bytes
  | _ => bytes

/-- The path of a file on this machine. Bytes that are no text are shown as such. -/
def filePath? (u : Url) : Option Path :=
  match u.path with
  | .plain _ => none
  | .steps [] => none
  | .steps names =>
    if u.isLocal then
      let bytes := names.flatMap fun n => 0x2F :: Percent.decode n.toList
      some ⟨String.ofList (Text.decodeLossy (closeDrive bytes))⟩
    else none

end LintBridge.Url

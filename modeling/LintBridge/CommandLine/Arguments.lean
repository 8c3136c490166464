import LintBridge.Config
import LintBridge.Path

/-!
The arguments of the command line.

A verb says what to do. Some switches may stand before the verb or after it, others only after their own
verb. At each of these two places a switch may be given once; what is given after the verb counts more.
-/

set_option autoImplicit false
set_option relaxedAutoImplicit false

namespace LintBridge.CommandLine

inductive Verb
  | lint
  | fix
  | lsp
  deriving DecidableEq, Repr

inductive Switch
  | config
  | verbose
  | command
  | useBundler
  | disableWhenNoConfigFile
  | timeout
  | stdin
  | format
  | describe
  | help
  | version
  deriving DecidableEq, Repr

inductive Format
  | text
  | json
  deriving DecidableEq, Repr

namespace Verb

def all : List (String × Verb) := [("lint", .lint), ("fix", .fix), ("lsp", .lsp)]

def ofName? (name : String) : Option Verb := all.lookup name

def takesFile : Verb → Bool
  | .lsp => false
  | _ => true

end Verb

namespace Switch

def longNames : List (String × Switch) :=
  [("config", .config), ("verbose", .verbose), ("command", .command), ("use-bundler", .useBundler),
   ("disable-when-no-config-file", .disableWhenNoConfigFile), ("timeout", .timeout), ("stdin", .stdin),
   ("format", .format), ("describe", .describe), ("help", .help), ("version", .version)]

def shortNames : List (Char × Switch) :=
  [('c', .config), ('v', .verbose), ('f', .format), ('h', .help), ('V', .version)]

/-- Whether a switch may stand before the verb, or after a given one. -/
def mayStand (verb : Option Verb) : Switch → Bool
  | .stdin | .format | .describe => verb == some .lint
  | .version => verb == none
  | _ => true

def takesValue : Switch → Bool
  | .config | .command | .timeout | .format => true
  | _ => false

end Switch

/-- A number of milliseconds; a plus sign may stand in front. -/
def milliseconds? (s : String) : Option UInt64 :=
  let ds : List Char :=
    match s.toList with
    | '+' :: ds => ds
    | ds => ds
  let n := ds.foldl (fun n d => n * 10 + (d.toNat - '0'.toNat)) 0
  if ds ≠ [] ∧ ds.all Char.isDigit ∧ n ≤ 18446744073709551615 then some (UInt64.ofNat n) else none

def Format.ofName? : String → Option Format
  | "text" => some .text
  | "json" => some .json
  | _ => none

def Switch.accepts (s : Switch) (value : String) : Bool :=
  match s with
  | .config => !value.isEmpty
  | .timeout => (milliseconds? value).isSome
  | .format => (Format.ofName? value).isSome
  | _ => true

abbrev Given := List (Switch × String)

/-- What has been read of the arguments. -/
structure Scan where
  verb : Option Verb
  /-- What has been given before the verb. -/
  before : Given
  /-- What has been given after it. -/
  after : Given
  operand : Option String
  /-- The switch whose value comes next. -/
  pending : Option Switch
  /-- Whether all that follows is taken as it is. -/
  literal : Bool
  deriving DecidableEq, Repr

inductive Reading
  | scanning (scan : Scan)
  /-- Help has been asked for, for the verbs named so far. -/
  | helping (names : List String)
  | help
  | version
  | misuse
  deriving DecidableEq, Repr

namespace Scan

def empty : Scan := ⟨none, [], [], none, none, false⟩

def given (s : Scan) : Given := if s.verb.isSome then s.after else s.before

def note (sw : Switch) (value : String) (s : Scan) : Reading :=
  if sw.accepts value && (s.given.lookup sw).isNone then
    let s := { s with pending := none }
    .scanning (if s.verb.isSome then { s with after := (sw, value) :: s.after }
      else { s with before := (sw, value) :: s.before })
  else .misuse

def plain (sw : Switch) (s : Scan) : Reading :=
  match sw with
  | .help => .help
  | .version => .version
  | sw => s.note sw ""

/-- A switch written in full, with the value that is attached to it. -/
def long (name : String) (attached : Option String) (s : Scan) : Reading :=
  match Switch.longNames.lookup name with
  | none => .misuse
  | some sw =>
    if !sw.mayStand s.verb then .misuse
    else
      match sw.takesValue, attached with
      | true, some value => s.note sw value
      | true, none =>
        if (s.given.lookup sw).isSome then .misuse else .scanning { s with pending := some sw }
      | false, some _ => .misuse
      | false, none => s.plain sw

/-- Switches written as letters. The first that takes a value takes the rest, which an equals sign may
precede. -/
def short : List Char → Scan → Reading
  | [], s => .scanning s
  | c :: cs, s =>
    match Switch.shortNames.lookup c with
    | none => .misuse
    | some sw =>
      if !sw.mayStand s.verb then .misuse
      else if sw.takesValue then
        match cs with
        | [] => if (s.given.lookup sw).isSome then .misuse else .scanning { s with pending := some sw }
        | '=' :: value => s.note sw (String.ofList value)
        | value => s.note sw (String.ofList value)
      else
        match s.plain sw with
        | .scanning s => short cs s
        | other => other

/-- An argument that is no switch: the verb, and after that the file. -/
def word (arg : String) (s : Scan) : Reading :=
  match s.verb with
  | none =>
    if s.literal then .misuse
    else if arg = "help" then .helping []
    else
      match Verb.ofName? arg with
      | some v => .scanning { s with verb := some v }
      | none => .misuse
  | some v =>
    if v.takesFile && s.operand.isNone && !arg.isEmpty then .scanning { s with operand := some arg }
    else .misuse

def argument (arg : String) (s : Scan) : Reading :=
  if s.literal then s.word arg
  else
    match s.pending, arg.toList with
    | none, ['-', '-'] => .scanning { s with literal := true }
    | none, '-' :: '-' :: cs =>
      match cs.dropWhile (· != '=') with
      | [] => s.long (String.ofList cs) none
      | _ :: value => s.long (String.ofList (cs.takeWhile (· != '='))) (some (String.ofList value))
    | none, '-' :: c :: cs => s.short (c :: cs)
    | none, _ => s.word arg
    | some _, '-' :: _ :: _ => .misuse
    | some sw, _ => s.note sw arg

end Scan

namespace Reading

def next (r : Reading) (arg : String) : Reading :=
  match r with
  | .scanning s => s.argument arg
  | .helping names => .helping (names ++ [arg])
  | other => other

def ofArguments (args : List String) : Reading := args.foldl next (.scanning .empty)

end Reading

/-- The switches that are not about a single verb. -/
structure Options where
  configFile : Option Path
  verbose : Bool
  command : Option String
  useBundler : Bool
  disableWhenNoConfigFile : Bool
  timeoutMs : Option UInt64
  deriving DecidableEq, Repr

inductive Action
  | lint (file : Path) (fromInput : Bool) (format : Format) (describe : Bool)
  | fix (file : Path)
  | serve
  deriving DecidableEq, Repr

inductive Invocation
  | run (options : Options) (action : Action)
  | help
  | version
  deriving DecidableEq, Repr

namespace Scan

/-- The value of a switch; what is given after the verb counts more. -/
def value? (s : Scan) (sw : Switch) : Option String := (s.after.lookup sw).or (s.before.lookup sw)

def isGiven (s : Scan) (sw : Switch) : Bool := (s.value? sw).isSome

def options (s : Scan) : Options where
  configFile := (s.value? .config).map Path.mk
  verbose := s.isGiven .verbose
  command := s.value? .command
  useBundler := s.isGiven .useBundler
  disableWhenNoConfigFile := s.isGiven .disableWhenNoConfigFile
  timeoutMs := (s.value? .timeout).bind milliseconds?

def action? (s : Scan) : Option Action :=
  match s.verb, s.operand with
  | some .lint, some file =>
    some (.lint ⟨file⟩ (s.isGiven .stdin) (((s.value? .format).bind Format.ofName?).getD .text)
      (s.isGiven .describe))
  | some .fix, some file => some (.fix ⟨file⟩)
  | some .lsp, none => some .serve
  | _, _ => none

end Scan

/-- What the arguments ask for; nothing, if they are misused. -/
def Invocation.parse? (args : List String) : Option Invocation :=
  match Reading.ofArguments args with
  | .scanning s =>
    if s.pending.isSome then none else s.action?.map fun a => .run s.options a
  | .helping [] => some .help
  | .helping [name] => if name = "help" ∨ (Verb.ofName? name).isSome then some .help else none
  | .helping _ => none
  | .help => some .help
  | .version => some .version
  | .misuse => none

end LintBridge.CommandLine

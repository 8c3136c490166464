import LintBridge.Json.Record
import LintBridge.Problem

/-!
The linter's configuration, and the layers that it is made of.

A configuration is total: what a text leaves out takes its default. Settings are partial: of them only what
is there takes effect, over a configuration below. A settings file of a project is such a layer, and so are
the options of a command line.
-/

set_option autoImplicit false
set_option relaxedAutoImplicit false

namespace LintBridge

structure Config where
  /-- The base command, as it is typed. -/
  command : String
  /-- Whether files without a RuboCop configuration above them are left alone. -/
  disableWhenNoConfigFile : Bool
  /-- Whether the command always goes through Bundler. -/
  useBundler : Bool
  /-- Whether a project whose bundle has RuboCop goes through Bundler. -/
  detectBundler : Bool
  /-- Whether a project's settings file takes effect. -/
  detectProjectSettings : Bool
  /-- How many milliseconds a run may take. -/
  timeoutMs : UInt64
  /-- Whether RuboCop may use its result cache. -/
  useRubocopCache : Bool
  /-- Whether saving a file corrects it. -/
  fixOnSave : Bool
  deriving DecidableEq, Repr

/-- How many milliseconds a run may take if nothing else is said. -/
def defaultTimeoutMs : UInt64 := 10000

def Config.default : Config where
  command := "rubocop"
  disableWhenNoConfigFile := false
  useBundler := false
  detectBundler := true
  detectProjectSettings := true
  timeoutMs := defaultTimeoutMs
  useRubocopCache := false
  fixOnSave := false

/-- The settings of one project: of a configuration, only what is there. Whether a project's settings
count is not among them. -/
structure Settings where
  command : Option String
  disableWhenNoConfigFile : Option Bool
  useBundler : Option Bool
  detectBundler : Option Bool
  timeoutMs : Option UInt64
  useRubocopCache : Option Bool
  fixOnSave : Option Bool
  deriving DecidableEq, Repr

def Settings.empty : Settings :=
  ⟨none, none, none, none, none, none, none⟩

namespace Config

open Json (Field Record Shape Value)

/-- A configuration in JSON. -/
def record : Record Config Config where
  name := "struct LinterConfig"
  fields :=
    [.filling "command" .text fun v c => { c with command := v },
     .filling "disableWhenNoConfigFile" .bool fun v c => { c with disableWhenNoConfigFile := v },
     .filling "useBundler" .bool fun v c => { c with useBundler := v },
     .filling "detectBundler" .bool fun v c => { c with detectBundler := v },
     .filling "detectProjectSettings" .bool fun v c => { c with detectProjectSettings := v },
     .filling "timeoutMs" .word64 fun v c => { c with timeoutMs := v },
     .filling "useRubocopCache" .bool fun v c => { c with useRubocopCache := v },
     .filling "fixOnSave" .bool fun v c => { c with fixOnSave := v }]
  start := Config.default
  finish := .ok

def shape : Shape Config := record.shape

def parse (s : String) : Except Problem Config :=
  match shape.parse s with
  | .ok c => .ok c
  | .error e => .error (.config ("Invalid config: " ++ e.message))

/-- The configuration with the settings that are there put over it. -/
def withSettings (c : Config) (s : Settings) : Config where
  command := s.command.getD c.command
  disableWhenNoConfigFile := s.disableWhenNoConfigFile.getD c.disableWhenNoConfigFile
  useBundler := s.useBundler.getD c.useBundler
  detectBundler := s.detectBundler.getD c.detectBundler
  detectProjectSettings := c.detectProjectSettings
  timeoutMs := s.timeoutMs.getD c.timeoutMs
  useRubocopCache := s.useRubocopCache.getD c.useRubocopCache
  fixOnSave := s.fixOnSave.getD c.fixOnSave

def toJson (c : Config) : Value :=
  .ofMembers
    [("command", .text c.command),
     ("disableWhenNoConfigFile", .bool c.disableWhenNoConfigFile),
     ("useBundler", .bool c.useBundler),
     ("detectBundler", .bool c.detectBundler),
     ("detectProjectSettings", .bool c.detectProjectSettings),
     ("timeoutMs", .number (.integer c.timeoutMs.toNat)),
     ("useRubocopCache", .bool c.useRubocopCache),
     ("fixOnSave", .bool c.fixOnSave)]

end Config

namespace Settings

open Json (Field Record Shape Value)

/-- Settings in JSON; null is the same as no key. -/
def record : Record Settings Settings where
  name := "struct ProjectSettings"
  fields :=
    [.of "command" (.optional .text) fun v s => { s with command := v },
     .of "disableWhenNoConfigFile" (.optional .bool) fun v s => { s with disableWhenNoConfigFile := v },
     .of "useBundler" (.optional .bool) fun v s => { s with useBundler := v },
     .of "detectBundler" (.optional .bool) fun v s => { s with detectBundler := v },
     .of "timeoutMs" (.optional .word64) fun v s => { s with timeoutMs := v },
     .of "useRubocopCache" (.optional .bool) fun v s => { s with useRubocopCache := v },
     .of "fixOnSave" (.optional .bool) fun v s => { s with fixOnSave := v }]
  start := Settings.empty
  finish := .ok

def shape : Shape Settings := record.shape

def toJson (s : Settings) : Value :=
  let bool : Option Bool → Value := fun b => b.elim .null .bool
  .ofMembers
    [("command", s.command.elim .null .text),
     ("disableWhenNoConfigFile", bool s.disableWhenNoConfigFile),
     ("useBundler", bool s.useBundler),
     ("detectBundler", bool s.detectBundler),
     ("timeoutMs", s.timeoutMs.elim .null fun t => .number (.integer t.toNat)),
     ("useRubocopCache", bool s.useRubocopCache),
     ("fixOnSave", bool s.fixOnSave)]

end Settings
end LintBridge

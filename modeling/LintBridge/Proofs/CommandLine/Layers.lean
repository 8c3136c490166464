import LintBridge.CommandLine.Work
import LintBridge.Proofs.Json.Objects
import Mathlib

/-!
The configuration of a run is one merge of three layers.

A configuration file, the switches of the command line and the settings file of a project are each a list of members.
Put one behind the other, so that later ones count, they make up one object, and the configuration read from it is the
one that the run uses (`CommandLine.layers_merge`). Of the settings, nulls and the key that lets them count are left
out, and all of them if that key is false below. Every object that is accepted in one of the files has such a list
(`ConfigObject.exists_of_accepted`, `SettingsObject.exists_of_accepted`).

Settings and configurations declare their keys apart. `Settings.Override` says of one key what holds of all: what a
member puts into settings, their configuration has as well.
-/

set_option autoImplicit false
set_option relaxedAutoImplicit false

namespace LintBridge

open Json (Field Record Shape Sorted Value)

def detectKey : String := "detectProjectSettings"

/-! ### Configurations and settings as records -/

theorem Config.record_tidy : record.Tidy := by
  refine Record.tidy_of_fields ?_ ?_
  · simp only [record, List.forall_mem_cons, List.not_mem_nil, false_imp_iff, implies_true, and_true]
    and_intros <;> exact Field.Reads.again rfl fun _ _ _ => rfl
  · simp only [record, List.pairwise_cons, List.forall_mem_cons, List.not_mem_nil, false_imp_iff, implies_true,
      List.Pairwise.nil, and_true]
    and_intros <;> exact Field.Reads.apart rfl rfl fun _ _ _ => rfl

theorem Settings.record_tidy : record.Tidy := by
  refine Record.tidy_of_fields ?_ ?_
  · simp only [record, List.forall_mem_cons, List.not_mem_nil, false_imp_iff, implies_true, and_true]
    and_intros <;> exact Field.Reads.again rfl fun _ _ _ => rfl
  · simp only [record, List.pairwise_cons, List.forall_mem_cons, List.not_mem_nil, false_imp_iff, implies_true,
      List.Pairwise.nil, and_true]
    and_intros <;> exact Field.Reads.apart rfl rfl fun _ _ _ => rfl

theorem Config.record_isScalar : ∀ f ∈ record.fields, f.IsScalar := by
  have text := Shape.isScalar_textNamed "a string"
  simp only [record, List.forall_mem_cons]
  exact ⟨text.filling _ _, Shape.isScalar_bool.filling _ _, Shape.isScalar_bool.filling _ _,
    Shape.isScalar_bool.filling _ _, Shape.isScalar_bool.filling _ _, Shape.isScalar_word64.filling _ _,
    Shape.isScalar_bool.filling _ _, Shape.isScalar_bool.filling _ _, List.forall_mem_nil _⟩

theorem Settings.record_isScalar : ∀ f ∈ record.fields, f.IsScalar := by
  have text : (Shape.optional .text).IsScalar := (Shape.isScalar_textNamed "a string").optional nofun
  have bool : (Shape.optional .bool).IsScalar := Shape.isScalar_bool.optional nofun
  have word : (Shape.optional .word64).IsScalar := Shape.isScalar_word64.optional nofun
  simp only [record, List.forall_mem_cons]
  exact ⟨text.field _ _, bool.field _ _, bool.field _ _, bool.field _ _, word.field _ _, bool.field _ _,
    bool.field _ _, List.forall_mem_nil _⟩

theorem Config.shape_parse_of_accepted {s : String} {c : Config} (accepted : Config.parse s = .ok c) :
    Config.shape.parse s = .ok c := by
  unfold Config.parse at accepted
  split at accepted
  · rename_i parsed
    cases accepted
    exact parsed
  · cases accepted

namespace Settings

/-- How a key of settings and the same key of a configuration belong together. -/
inductive Override (key : String) : Prop
  | field {β : Type} (shape : Shape β) (set : Option β → Settings → Settings) (setBelow : β → Config → Config)
      (above : ∀ v, record.put key v = ((Shape.optional shape).fromValue v).map set)
      (below : ∀ v, Config.record.put key v = (shape.fromValue v).map setBelow)
      (unset : set none empty = empty)
      (same : ∀ b (c : Config) s, setBelow b (c.withSettings s) = c.withSettings (set (some b) s))
  | unknown (above : ∀ v, record.put key v = .ok id) (below : ∀ v, Config.record.put key v = .ok id)

theorem override {key : String} (other : key ≠ detectKey) : Override key := by
  by_cases command : key = "command"
  · subst command
    exact .field .text _ _ (fun _ => rfl) (fun _ => rfl) rfl fun _ _ _ => rfl
  by_cases disable : key = "disableWhenNoConfigFile"
  · subst disable
    exact .field .bool _ _ (fun _ => rfl) (fun _ => rfl) rfl fun _ _ _ => rfl
  by_cases useBundler : key = "useBundler"
  · subst useBundler
    exact .field .bool _ _ (fun _ => rfl) (fun _ => rfl) rfl fun _ _ _ => rfl
  by_cases detectBundler : key = "detectBundler"
  · subst detectBundler
    exact .field .bool _ _ (fun _ => rfl) (fun _ => rfl) rfl fun _ _ _ => rfl
  by_cases timeout : key = "timeoutMs"
  · subst timeout
    exact .field .word64 _ _ (fun _ => rfl) (fun _ => rfl) rfl fun _ _ _ => rfl
  by_cases cache : key = "useRubocopCache"
  · subst cache
    exact .field .bool _ _ (fun _ => rfl) (fun _ => rfl) rfl fun _ _ _ => rfl
  by_cases fix : key = "fixOnSave"
  · subst fix
    exact .field .bool _ _ (fun _ => rfl) (fun _ => rfl) rfl fun _ _ _ => rfl
  have above : record.field? key = none := by
    simp [Record.field?, record, Field.of, Ne.symm command, Ne.symm disable, Ne.symm useBundler, Ne.symm detectBundler,
      Ne.symm timeout, Ne.symm cache, Ne.symm fix]
  have below : Config.record.field? key = none := by
    have detect : key ≠ "detectProjectSettings" := other
    simp [Record.field?, Config.record, Field.filling, Field.of, Ne.symm command, Ne.symm disable, Ne.symm useBundler,
      Ne.symm detectBundler, Ne.symm timeout, Ne.symm cache, Ne.symm fix, Ne.symm detect]
  exact .unknown (Record.put_of_unknown above) (Record.put_of_unknown below)

theorem put_detectKey (v : Value) : record.put detectKey v = .ok id := rfl

theorem put_null_empty {key : String} {f : Settings → Settings} (taken : record.put key .null = .ok f) :
    f empty = empty := by
  by_cases detect : key = detectKey
  · rw [detect, put_detectKey] at taken
    cases taken
    rfl
  · cases override detect with
    | field shape set setBelow above below unset same =>
      rw [above] at taken
      cases taken
      exact unset
    | unknown above below =>
      rw [above] at taken
      cases taken
      rfl

theorem put_below {key : String} {v : Value} {f : Settings → Settings} (other : key ≠ detectKey) (present : v ≠ .null)
    (taken : record.put key v = .ok f) :
    ∃ g, Config.record.put key v = .ok g ∧ ∀ (c : Config) s, g (c.withSettings s) = c.withSettings (f s) := by
  cases override other with
  | field shape set setBelow above below unset same =>
    rw [above, Shape.optional_fromValue shape present] at taken
    obtain ⟨_, found, rfl⟩ := Json.exists_of_map_eq_ok taken
    obtain ⟨b, read, rfl⟩ := Json.exists_of_map_eq_ok found
    refine ⟨setBelow b, ?_, same b⟩
    rw [below, read]
    rfl
  | unknown above below =>
    rw [above] at taken
    cases taken
    exact ⟨id, below v, fun _ _ => rfl⟩

/-- The member takes effect as one of a settings file: it is not null, and its key is not the one that lets settings
count. -/
def counts (m : String × Value) : Bool :=
  m.1 != detectKey && match m.2 with
    | .null => false
    | _ => true

theorem counts_eq_true {key : String} {v : Value} (other : key ≠ detectKey) (present : v ≠ .null) :
    counts (key, v) = true := by
  cases v with
  | null => exact absurd rfl present
  | _ => simp [counts, other]

/-- What the members leave in settings is what those that count leave in the configuration under them. Null under a key
that is still unset, as all are at first, changes nothing. -/
theorem collectMembers_below (c : Config) {members : List (String × Value)} (sorted : Sorted members) {s u : Settings}
    (unset : ∀ m ∈ members, ∀ f, record.put m.1 .null = .ok f → f s = s)
    (collected : record.collectMembers s members = .ok u) :
    Config.record.collectMembers (c.withSettings s) (members.filter counts) = .ok (c.withSettings u) := by
  induction members generalizing s with
  | nil =>
    cases collected
    rfl
  | cons m rest ih =>
    obtain ⟨key, v⟩ := m
    obtain ⟨above, sortedRest⟩ := List.pairwise_cons.mp sorted
    obtain ⟨f, taken, collected⟩ := Record.collectMembers_cons_eq_ok.mp collected
    have unsetRest : ∀ m ∈ rest, ∀ g, record.put m.1 .null = .ok g → g (f s) = f s := by
      intro m isIn g cleared
      have other : key ≠ m.1 := fun same => String.lt_irrefl key (same ▸ above m isIn)
      rw [record_tidy.swap other taken cleared, unset m (List.mem_cons_of_mem _ isIn) g cleared]
    have tail := ih sortedRest unsetRest collected
    by_cases detect : key = detectKey
    · have stays : f s = s := by
        rw [detect, put_detectKey] at taken
        cases taken
        rfl
      rw [stays] at tail
      rw [List.filter_cons_of_neg (by simp [counts, detect])]
      exact tail
    · by_cases null : v = .null
      · subst null
        rw [unset (key, .null) List.mem_cons_self f taken] at tail
        rw [List.filter_cons_of_neg (by simp [counts])]
        exact tail
      · obtain ⟨g, below, same⟩ := put_below detect null taken
        rw [List.filter_cons_of_pos (counts_eq_true detect null)]
        refine Record.collectMembers_cons_eq_ok.mpr ⟨g, below, ?_⟩
        rw [same]
        exact tail

end Settings

/-! ### Whether settings count -/

/-- Whether settings count over the members below: what the object of these says, or else the default. -/
def detects (members : List (String × Value)) : Bool :=
  match (Value.ofMembers members).get? detectKey with
  | some (.bool b) => b
  | _ => Config.default.detectProjectSettings

namespace Config

theorem detect_of_put_other {key : String} {v : Value} {f : Config → Config} (other : key ≠ detectKey)
    (taken : record.put key v = .ok f) (c : Config) : (f c).detectProjectSettings = c.detectProjectSettings := by
  have own : record.put detectKey (.bool c.detectProjectSettings) =
      .ok fun d => { d with detectProjectSettings := c.detectProjectSettings } := rfl
  have swapped := record_tidy.swap other taken own c
  exact (congrArg detectProjectSettings swapped).symm

theorem exists_of_put_detect {v : Value} {f : Config → Config} (taken : record.put detectKey v = .ok f) :
    ∃ b, v = .bool b ∧ ∀ c, (f c).detectProjectSettings = b := by
  obtain ⟨b, read, rfl⟩ := Json.exists_of_map_eq_ok taken
  cases v with
  | bool b =>
    cases read
    exact ⟨b, rfl, fun _ => rfl⟩
  | _ => cases read

theorem detect_of_collectMembers {members : List (String × Value)} {c u : Config}
    (collected : record.collectMembers c members = .ok u) :
    (∃ b, Json.lookupMember detectKey members.reverse = some (.bool b) ∧ u.detectProjectSettings = b) ∨
      (Json.lookupMember detectKey members.reverse = none ∧ u.detectProjectSettings = c.detectProjectSettings) := by
  induction members generalizing c with
  | nil =>
    cases collected
    exact .inr ⟨rfl, rfl⟩
  | cons m rest ih =>
    obtain ⟨key, v⟩ := m
    obtain ⟨f, taken, collected⟩ := Record.collectMembers_cons_eq_ok.mp collected
    rw [List.reverse_cons, Json.lookupMember_append]
    obtain ⟨b, found, same⟩ | ⟨missing, same⟩ := ih collected
    · exact .inl ⟨b, by rw [found]; rfl, same⟩
    · rw [missing, Option.none_or, Json.lookupMember_cons]
      by_cases detect : key = detectKey
      · subst detect
        obtain ⟨b, rfl, set⟩ := exists_of_put_detect taken
        exact .inl ⟨b, if_pos rfl, same.trans (set c)⟩
      · exact .inr ⟨if_neg (Ne.symm detect), same.trans (detect_of_put_other detect taken c)⟩

theorem detects_eq {members : List (String × Value)} {u : Config}
    (collected : record.collectMembers Config.default members = .ok u) : detects members = u.detectProjectSettings := by
  rw [detects, Value.get?_ofMembers]
  obtain ⟨b, found, same⟩ | ⟨missing, same⟩ := detect_of_collectMembers collected
  · rw [found, same]
  · rw [missing, same]

end Config

/-! ### The layers of a run -/

namespace CommandLine

def Options.members (o : Options) : List (String × Value) :=
  (o.command.map fun c => ("command", .text c)).toList ++
    ((if o.useBundler then [("useBundler", .bool true)] else []) ++
      ((if o.disableWhenNoConfigFile then [("disableWhenNoConfigFile", .bool true)] else []) ++
        (o.timeoutMs.map fun t => ("timeoutMs", .number (.integer t.toNat))).toList))

theorem Options.collectMembers_members (o : Options) (c : Config) :
    Config.record.collectMembers c o.members = .ok (o.applyTo c) := by
  have command : ∀ c : Config, Config.record.collectMembers c (o.command.map fun c => ("command", .text c)).toList =
      .ok { c with command := o.command.getD c.command } := by
    intro c
    cases o.command <;> rfl
  have useBundler : ∀ c : Config,
      Config.record.collectMembers c (if o.useBundler then [("useBundler", .bool true)] else []) =
        .ok { c with useBundler := o.useBundler || c.useBundler } := by
    intro c
    cases o.useBundler <;> rfl
  have disable : ∀ c : Config, Config.record.collectMembers c
      (if o.disableWhenNoConfigFile then [("disableWhenNoConfigFile", .bool true)] else []) =
        .ok { c with disableWhenNoConfigFile := o.disableWhenNoConfigFile || c.disableWhenNoConfigFile } := by
    intro c
    cases o.disableWhenNoConfigFile <;> rfl
  have timeout : ∀ c : Config, Config.record.collectMembers c
      (o.timeoutMs.map fun t => ("timeoutMs", .number (.integer t.toNat))).toList =
        .ok { c with timeoutMs := o.timeoutMs.getD c.timeoutMs } := by
    intro c
    cases o.timeoutMs with
    | none => rfl
    | some t =>
      refine Record.collectMembers_cons_eq_ok.mpr ⟨fun c => { c with timeoutMs := t }, ?_, rfl⟩
      change (Shape.word64.fromValue (.number (.integer t.toNat))).map _ = _
      rw [Shape.word64_fromValue_toNat]
      rfl
  exact Record.collectMembers_append_eq_ok.mpr ⟨_, command c, Record.collectMembers_append_eq_ok.mpr
    ⟨_, useBundler _, Record.collectMembers_append_eq_ok.mpr ⟨_, disable _, timeout _⟩⟩⟩

/-- The object in the configuration file, if one is named, is accepted and has these members. -/
inductive ConfigObject (t : FileTree) : Option Path → List (String × Value) → Prop
  | unnamed : ConfigObject t none []
  | file {path : Path} {s : String} {c : Config} {members : List (String × Value)} (stored : t.readText path = .ok s)
      (accepted : Config.parse s = .ok c) (object : Json.membersOf s = .ok members) :
      ConfigObject t (some path) members

/-- The object in the settings file of a directory is accepted and has these members; there are none if no settings
can be read there. -/
inductive SettingsObject (t : FileTree) (dir : Path) : List (String × Value) → Prop
  | unread (none : Settings.load? t dir = none) : SettingsObject t dir []
  | file {s : String} {settings : Settings} {members : List (String × Value)}
      (isFile : t.isFile (dir.join ⟨settingsFile⟩) = true) (stored : t.readText (dir.join ⟨settingsFile⟩) = .ok s)
      (accepted : Settings.shape.parse s = .ok settings) (object : Json.membersOf s = .ok members) :
      SettingsObject t dir members

theorem ConfigObject.exists_of_accepted {t : FileTree} {path : Path} {s : String} {c : Config}
    (stored : t.readText path = .ok s) (accepted : Config.parse s = .ok c) (opens : Json.OpensObject s) :
    ∃ members, ConfigObject t (some path) members := by
  obtain ⟨members, u, object, -⟩ := Record.exists_membersOf_of_parse Config.record_tidy Config.record_isScalar
    (Config.shape_parse_of_accepted accepted) opens
  exact ⟨members, .file stored accepted object⟩

theorem SettingsObject.exists_of_accepted {t : FileTree} {dir : Path} {s : String} {settings : Settings}
    (isFile : t.isFile (dir.join ⟨settingsFile⟩) = true) (stored : t.readText (dir.join ⟨settingsFile⟩) = .ok s)
    (accepted : Settings.shape.parse s = .ok settings) (opens : Json.OpensObject s) :
    ∃ members, SettingsObject t dir members := by
  obtain ⟨members, u, object, -⟩ :=
    Record.exists_membersOf_of_parse Settings.record_tidy Settings.record_isScalar accepted opens
  exact ⟨members, .file isFile stored accepted object⟩

def layers (o : Options) (config settings : List (String × Value)) : List (String × Value) :=
  let below := config ++ o.members
  below ++ if detects below then settings.filter Settings.counts else []

theorem ConfigObject.loadConfig {o : Options} {t : FileTree} {config : List (String × Value)}
    (object : ConfigObject t o.configFile config) :
    ∃ c, o.loadConfig t = .ok c ∧ Config.record.collectMembers Config.default (config ++ o.members) = .ok c := by
  suffices below : ∃ c, o.loadConfig t = .ok (o.applyTo c) ∧
      Config.record.collectMembers Config.default config = .ok c by
    obtain ⟨c, loaded, collected⟩ := below
    exact ⟨_, loaded, Record.collectMembers_append_eq_ok.mpr ⟨c, collected, o.collectMembers_members c⟩⟩
  cases named : o.configFile with
  | none =>
    rw [named] at object
    cases object
    refine ⟨Config.default, ?_, rfl⟩
    rw [Options.loadConfig, named]
    rfl
  | some path =>
    rw [named] at object
    cases object with
    | @file _ s c _ stored accepted object =>
      obtain ⟨-, u, collected, finished⟩ := Record.collectMembers_of_parse Config.record_tidy Config.record_isScalar
        (Config.shape_parse_of_accepted accepted) object
      cases finished
      refine ⟨c, ?_, collected⟩
      have loaded : Config.ofFile t path = .ok c := by
        rw [Config.ofFile, stored]
        exact accepted
      rw [Options.loadConfig, named]
      dsimp only
      rw [loaded]
      rfl

theorem SettingsObject.forProject {t : FileTree} {dir : Path} {settings : List (String × Value)}
    (object : SettingsObject t dir settings) {c : Config} (counted : c.detectProjectSettings = true) :
    Config.record.collectMembers c (settings.filter Settings.counts) = .ok (c.forProject t dir) := by
  rw [Config.forProject, if_pos counted]
  cases object with
  | unread none =>
    rw [none]
    rfl
  | @file s found members isFile stored accepted object =>
    obtain ⟨sorted, u, collected, finished⟩ :=
      Record.collectMembers_of_parse Settings.record_tidy Settings.record_isScalar accepted object
    cases finished
    have loaded : Settings.load? t dir = some found := by
      rw [Settings.load?]
      rw [if_pos isFile, stored]
      simp only [accepted]
      rfl
    rw [loaded]
    exact Settings.collectMembers_below c sorted (fun m _ f cleared => Settings.put_null_empty cleared) collected

/-- The configuration of a run for a project is read from the object that its layers make up. -/
theorem layers_merge {o : Options} {t : FileTree} {dir : Path} {config settings : List (String × Value)}
    (file : ConfigObject t o.configFile config) (project : SettingsObject t dir settings) :
    ∃ c, o.loadConfig t = .ok c ∧
      Config.shape.fromValue (.ofMembers (layers o config settings)) = .ok (c.forProject t dir) := by
  obtain ⟨c, loaded, below⟩ := file.loadConfig
  refine ⟨c, loaded, Config.record_tidy.ofValue_ofMembers (Record.collectMembers_append_eq_ok.mpr ⟨c, below, ?_⟩) rfl⟩
  rw [Config.detects_eq below]
  cases counted : c.detectProjectSettings with
  | true => exact project.forProject counted
  | false => simp [Record.collectMembers, Config.forProject, counted]

/-- A configuration file, and a project whose settings file lets a save correct the file. -/
def layeredTree : FileTree where
  top := .directory
    [("c", .file (Text.encode "\x7b\"command\":\"a\",\"useBundler\":false,\"x\":[1]\x7d".toList) false),
     ("p", .directory [(settingsFile, .file
       (Text.encode "\x7b\"fixOnSave\":true,\"command\":null,\"detectProjectSettings\":false\x7d".toList) false)])]
  here := []

/-- The switches of a run with that configuration file, with Bundler and half a second for the tool. -/
def layeredOptions : Options := ⟨some ⟨"/c"⟩, false, none, true, false, some 500⟩

theorem layers_merge_settings :
    ∃ c, layeredOptions.loadConfig layeredTree = .ok c ∧
      Config.shape.fromValue (.ofMembers (layers layeredOptions
          [("command", .text "a"), ("useBundler", .bool false), ("x", .array [.number (.integer 1)])]
          [("command", .null), ("detectProjectSettings", .bool false), ("fixOnSave", .bool true)])) =
        .ok (c.forProject layeredTree ⟨"/p"⟩) := by
  have stored : ∀ {p : Path} {s : String}, layeredTree.entry p = .ok (.file (Text.encode s.toList) false) →
      Text.decode? (Text.encode s.toList) = some s.toList → layeredTree.readText p = .ok s := by
    intro p s entry decoded
    rw [FileTree.readText, entry]
    simp only [decoded, String.ofList_toList]
  have file : ConfigObject layeredTree layeredOptions.configFile
      [("command", .text "a"), ("useBundler", .bool false), ("x", .array [.number (.integer 1)])] :=
    .file (stored rfl (by decide +kernel)) rfl (by cbv)
  have project : SettingsObject layeredTree ⟨"/p"⟩
      [("command", .null), ("detectProjectSettings", .bool false), ("fixOnSave", .bool true)] :=
    .file rfl (stored rfl (by decide +kernel)) rfl (by cbv)
  exact layers_merge file project

end CommandLine
end LintBridge

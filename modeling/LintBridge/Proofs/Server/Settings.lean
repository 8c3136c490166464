import LintBridge.Config
import LintBridge.Proofs.Json.Objects

/-!
The configuration in a section of settings.

A section is an object, or a list, which has the values in the order of the keys. A configuration that is read from it
has the section's value under each of its keys, the last one if there are several, and the default value under a key
that the section lacks (`Config.get?_toJson_of_read`). Nothing else has a say in it. `Config.members_put` says what one
member does.
-/

set_option autoImplicit false
set_option relaxedAutoImplicit false

namespace LintBridge

open Json (Record Shape Value lookupMember lookupMember_append lookupMember_cons)

namespace Json.Shape

theorem eq_of_text {v : Value} {t : String} (read : text.fromValue v = .ok t) : v = .text t := by
  cases v with
  | text s =>
    cases read
    rfl
  | _ => cases read

theorem eq_of_bool {v : Value} {b : Bool} (read : bool.fromValue v = .ok b) : v = .bool b := by
  cases v with
  | bool c =>
    cases read
    rfl
  | _ => cases read

theorem eq_of_word64 {v : Value} {n : UInt64} (read : word64.fromValue v = .ok n) :
    v = .number (.integer n.toNat) := by
  obtain ⟨i, given, rfl⟩ := exists_of_map_eq_ok read
  cases v with
  | number m =>
    cases m with
    | integer j =>
      have checked : checkInteger 0 18446744073709551615 "u64" (.integer j) = .ok i := given
      by_cases bounds : 0 ≤ j ∧ j ≤ 18446744073709551615
      · rw [checkInteger, if_pos bounds] at checked
        cases checked
        have small : i.toNat < UInt64.size := by
          have size : UInt64.size = 18446744073709551616 := rfl
          omega
        have same : (UInt64.ofNat i.toNat).toNat = i.toNat := by
          rw [UInt64.toNat_ofNat', Nat.mod_eq_of_lt small]
        rw [same, Int.toNat_of_nonneg bounds.1]
      · rw [checkInteger, if_neg bounds] at checked
        cases checked
    | decimal x => cases given
  | _ => cases given

end Json.Shape

/-- A list is read as an object with the keys in their order. -/
theorem Json.Record.collectMembers_of_items {σ α : Type} {r : Record σ α} {total : Nat} {fields : List (Json.Field σ)}
    (known : ∀ f ∈ fields, r.field? f.key = some f) {s u : σ} {items : List Value}
    (collected : r.collectItems total s fields items = .ok u) :
    r.collectMembers s ((fields.map Json.Field.key).zip items) = .ok u := by
  induction fields generalizing s items with
  | nil =>
    cases items with
    | nil =>
      cases collected
      rfl
    | cons v rest => cases collected
  | cons f fields ih =>
    cases items with
    | nil =>
      rw [collectItems, endItems] at collected
      split at collected
      · cases collected
        rfl
      · cases collected
    | cons v rest =>
      have isField := known f List.mem_cons_self
      rw [collectItems] at collected
      obtain ⟨put, taken, collected⟩ := Json.exists_of_bind_eq_ok collected
      have later := ih (fun g isIn => known g (List.mem_cons_of_mem f isIn)) collected
      rw [List.map_cons, List.zip_cons_cons, collectMembers, isField]
      dsimp only
      rw [taken]
      exact later

namespace Config

def members (c : Config) : List (String × Value) :=
  [("command", .text c.command), ("disableWhenNoConfigFile", .bool c.disableWhenNoConfigFile),
   ("useBundler", .bool c.useBundler), ("detectBundler", .bool c.detectBundler),
   ("detectProjectSettings", .bool c.detectProjectSettings), ("timeoutMs", .number (.integer c.timeoutMs.toNat)),
   ("useRubocopCache", .bool c.useRubocopCache), ("fixOnSave", .bool c.fixOnSave)]

def replaced (key : String) (v : Value) (all : List (String × Value)) : List (String × Value) :=
  all.map fun m => if m.1 = key then (m.1, v) else m

private theorem members_put_of {β : Type} {shape : Shape β} {toValue : β → Value} {key : String}
    {set : β → Config → Config} {v : Value} {f : Config → Config}
    (read : ∀ {v b}, shape.fromValue v = .ok b → v = toValue b)
    (puts : ∀ v, record.put key v = (shape.fromValue v).map set)
    (sets : ∀ b (c : Config), (set b c).members = replaced key (toValue b) c.members)
    (taken : record.put key v = .ok f) (c : Config) : (f c).members = replaced key v c.members := by
  rw [puts] at taken
  obtain ⟨b, given, rfl⟩ := Json.exists_of_map_eq_ok taken
  rw [read given]
  exact sets b c

theorem members_put {key : String} {v : Value} {f : Config → Config} (taken : record.put key v = .ok f) (c : Config) :
    (f c).members = replaced key v c.members := by
  by_cases command : key = "command"
  · subst command
    exact members_put_of Shape.eq_of_text (fun _ => rfl) (fun _ _ => rfl) taken c
  by_cases disable : key = "disableWhenNoConfigFile"
  · subst disable
    exact members_put_of Shape.eq_of_bool (fun _ => rfl) (fun _ _ => rfl) taken c
  by_cases useBundler : key = "useBundler"
  · subst useBundler
    exact members_put_of Shape.eq_of_bool (fun _ => rfl) (fun _ _ => rfl) taken c
  by_cases detectBundler : key = "detectBundler"
  · subst detectBundler
    exact members_put_of Shape.eq_of_bool (fun _ => rfl) (fun _ _ => rfl) taken c
  by_cases settings : key = "detectProjectSettings"
  · subst settings
    exact members_put_of Shape.eq_of_bool (fun _ => rfl) (fun _ _ => rfl) taken c
  by_cases timeout : key = "timeoutMs"
  · subst timeout
    exact members_put_of Shape.eq_of_word64 (fun _ => rfl) (fun _ _ => rfl) taken c
  by_cases cache : key = "useRubocopCache"
  · subst cache
    exact members_put_of Shape.eq_of_bool (fun _ => rfl) (fun _ _ => rfl) taken c
  by_cases fix : key = "fixOnSave"
  · subst fix
    exact members_put_of Shape.eq_of_bool (fun _ => rfl) (fun _ _ => rfl) taken c
  have unknown : record.field? key = none := by
    simp [Record.field?, record, Json.Field.filling, Json.Field.of, Ne.symm command, Ne.symm disable,
      Ne.symm useBundler, Ne.symm detectBundler, Ne.symm settings, Ne.symm timeout, Ne.symm cache, Ne.symm fix]
  rw [Record.put_of_unknown unknown] at taken
  cases taken
  simp [members, replaced, Ne.symm command, Ne.symm disable, Ne.symm useBundler, Ne.symm detectBundler,
    Ne.symm settings, Ne.symm timeout, Ne.symm cache, Ne.symm fix]

private theorem lookupMember_replaced (key : String) (v : Value) (k : String) (all : List (String × Value)) :
    lookupMember k (replaced key v all) = (lookupMember k all).map fun d => if k = key then v else d := by
  induction all with
  | nil => rfl
  | cons m rest ih =>
    obtain ⟨q, w⟩ := m
    have head : replaced key v ((q, w) :: rest) = (q, if q = key then v else w) :: replaced key v rest := by
      by_cases own : q = key <;> simp [replaced, own]
    rw [head, lookupMember_cons, lookupMember_cons, ih]
    by_cases same : k = q
    · rw [if_pos same, if_pos same, ← same]
      rfl
    · rw [if_neg same, if_neg same]

/-- What is read from an object: of its members the last one counts for each key, and a key without a member stays as it
is. -/
theorem get?_toJson_of_collected {members : List (String × Value)} {c d : Config}
    (collected : record.collectMembers c members = .ok d) (key : String) :
    d.toJson.get? key = (c.toJson.get? key).map fun v => (lookupMember key members.reverse).getD v := by
  have read : ∀ c : Config, c.toJson.get? key = lookupMember key c.members.reverse := fun c =>
    Json.Value.get?_ofMembers c.members key
  induction members generalizing c with
  | nil =>
    cases collected
    exact Option.map_id'.symm
  | cons m rest ih =>
    obtain ⟨k, w⟩ := m
    obtain ⟨f, taken, collected⟩ := Record.collectMembers_cons_eq_ok.mp collected
    have put : (f c).toJson.get? key = (c.toJson.get? key).map fun v => if key = k then w else v := by
      have reversed : (f c).members.reverse = replaced k w c.members.reverse := by
        rw [members_put taken, replaced, replaced, List.map_reverse]
      rw [read, read, reversed, lookupMember_replaced]
    rw [ih collected, put, Option.map_map]
    congr 1
    funext v
    rw [List.reverse_cons, lookupMember_append, lookupMember_cons]
    cases lookupMember key rest.reverse with
    | some last => rfl
    | none => by_cases same : key = k <;> simp [same, lookupMember]

/-- The members of a section: an object's own ones, or a list's items under the keys in their order. -/
def sectionMembers : Value → List (String × Value)
  | .object members => members
  | .array items => (record.fields.map Json.Field.key).zip items
  | _ => []

theorem get?_toJson_of_read {v : Value} {c : Config} (read : shape.fromValue v = .ok c) (key : String) :
    c.toJson.get? key =
      (Config.default.toJson.get? key).map fun d => (lookupMember key (sectionMembers v).reverse).getD d := by
  have known : ∀ f ∈ record.fields, record.field? f.key = some f := by
    simp [record, Record.field?, Json.Field.filling, Json.Field.of]
  cases v with
  | object members =>
    obtain ⟨d, collected, finished⟩ := Json.exists_of_bind_eq_ok read
    cases finished
    exact get?_toJson_of_collected collected key
  | array items =>
    obtain ⟨d, collected, finished⟩ := Json.exists_of_bind_eq_ok read
    cases finished
    exact get?_toJson_of_collected (Record.collectMembers_of_items known collected) key
  | _ => cases read

end Config
end LintBridge

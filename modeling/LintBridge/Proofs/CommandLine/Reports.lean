import LintBridge.CommandLine.Findings
import LintBridge.Proofs.Json.Objects
import LintBridge.Proofs.Json.Writing
import Mathlib.Data.List.Forall2

/-!
The report in JSON says all that was found.

Each part of a diagnostic is read back from its value: a place, a range, a severity, a place in a file. A report is a
plain value, so the text of it is read as the report again (`Json.Value.Plain.parse_pretty`), and each of its elements
is read as the diagnostic that it was written for. The key that a description adds is not one of a diagnostic's.
-/

set_option autoImplicit false
set_option relaxedAutoImplicit false

namespace LintBridge

open Json (Field Record Shape Value)

/-! ### Reading back the parts of a diagnostic -/

theorem Position.fromValue_toJson (p : Position) : Position.shape.fromValue p.toJson = .ok p := by
  have pair := Shape.pair_fromValue (Shape.word32_fromValue_toNat p.line) (Shape.word32_fromValue_toNat p.column)
  change ((Shape.pair .word32).fromValue p.toJson).map _ = _
  rw [toJson, pair]
  rfl

theorem Range.fromValue_toJson (r : Range) : Range.shape.fromValue r.toJson = .ok r := by
  have pair := Shape.pair_fromValue r.start.fromValue_toJson r.stop.fromValue_toJson
  change ((Shape.pair Position.shape).fromValue r.toJson).map _ = _
  rw [toJson, pair]
  rfl

theorem plain_word32 (n : UInt32) (d : Nat) : Value.Plain d (.number (.integer n.toNat)) := by
  have small : n.toNat < 4294967296 := n.toNat_lt
  exact .integer (by omega) (by omega)

theorem Position.plain_toJson (p : Position) (d : Nat) : Value.Plain (d + 1) p.toJson :=
  .list (List.forall_mem_cons.mpr ⟨plain_word32 p.line d, List.forall_mem_singleton.mpr (plain_word32 p.column d)⟩)

theorem Range.plain_toJson (r : Range) (d : Nat) : Value.Plain (d + 2) r.toJson :=
  .list (List.forall_mem_cons.mpr ⟨r.start.plain_toJson d, List.forall_mem_singleton.mpr (r.stop.plain_toJson d)⟩)

theorem Severity.fromValue_name (s : Severity) : (Shape.oneOf Severity.named).fromValue (.text s.name) = .ok s := by
  cases s <;> rfl

theorem locationRecord_tidy : locationRecord.Tidy := by
  refine Record.tidy_of_fields ?_ ?_
  · simp only [locationRecord, List.forall_mem_cons, List.not_mem_nil, false_imp_iff, implies_true, and_true]
    and_intros <;> exact Field.Reads.again rfl fun _ _ _ => rfl
  · simp only [locationRecord, List.pairwise_cons, List.forall_mem_cons, List.not_mem_nil, false_imp_iff, implies_true,
      List.Pairwise.nil, and_true]
    exact Field.Reads.apart rfl rfl fun _ _ _ => rfl

theorem locationRecord_fromValue (file : Path) (r : Range) :
    locationRecord.shape.fromValue (.ofMembers [("file", .text file.text), ("position", r.toJson)]) = .ok (file, r) := by
  have collected : locationRecord.collectMembers locationRecord.start
      [("file", .text file.text), ("position", r.toJson)] = .ok ⟨some file, some r⟩ := by
    have position : Range.shape.fromValue r.toJson = .ok r := r.fromValue_toJson
    simp [locationRecord, Record.collectMembers, Record.field?, Field.of, Shape.textNamed, Shape.map, Except.map,
      position, bind, Except.bind]
  exact locationRecord_tidy.ofValue_ofMembers collected rfl

namespace Diagnostic

theorem record_tidy : record.Tidy := by
  refine Record.tidy_of_fields ?_ ?_
  · simp only [record, List.forall_mem_cons, List.not_mem_nil, false_imp_iff, implies_true, and_true]
    and_intros <;> exact Field.Reads.again rfl fun _ _ _ => rfl
  · simp only [record, List.pairwise_cons, List.forall_mem_cons, List.not_mem_nil, false_imp_iff, implies_true,
      List.Pairwise.nil, and_true]
    and_intros <;> exact Field.Reads.apart rfl rfl fun _ _ _ => rfl

theorem collectMembers_jsonMembers (d : Diagnostic) :
    record.collectMembers record.start d.jsonMembers =
      .ok ⟨d.cop, d.url, some d.excerpt, some d.severity, some (d.file, d.range)⟩ := by
  have severity := d.severity.fromValue_name
  have location := locationRecord_fromValue d.file d.range
  cases hasCop : d.cop <;> cases hasUrl : d.url <;>
    simp [jsonMembers, hasCop, hasUrl, record, Record.collectMembers, Record.field?, Field.of, Shape.text,
      Shape.textNamed, Shape.optional, Except.map, severity, location, bind, Except.bind]

/-- A diagnostic is read from its members, also if others that it does not know come after them. -/
theorem fromValue_ofMembers (d : Diagnostic) {others : List (String × Value)}
    (unknown : ∀ m ∈ others, record.field? m.1 = none) :
    shape.fromValue (.ofMembers (d.jsonMembers ++ others)) = .ok d := by
  have collected := Record.collectMembers_append_eq_ok.mpr
    ⟨_, d.collectMembers_jsonMembers, Record.collectMembers_of_unknown unknown _⟩
  exact record_tidy.ofValue_ofMembers collected rfl

theorem plain_jsonMembers (diagnostic : Diagnostic) (d : Nat) : ∀ m ∈ diagnostic.jsonMembers, Value.Plain (d + 3) m.2 := by
  have location : Value.Plain (d + 3)
      (.ofMembers [("file", .text diagnostic.file.text), ("position", diagnostic.range.toJson)]) := by
    refine .ofMembers (List.forall_mem_cons.mpr ⟨.text _, List.forall_mem_cons.mpr ⟨?_, List.forall_mem_nil _⟩⟩)
    exact diagnostic.range.plain_toJson d
  refine List.forall_mem_append.mpr ⟨?_, List.forall_mem_cons.mpr ⟨?_, List.forall_mem_cons.mpr ⟨.text _,
    List.forall_mem_cons.mpr ⟨.text _, List.forall_mem_singleton.mpr location⟩⟩⟩⟩
  · cases diagnostic.cop with
    | none => exact List.forall_mem_nil _
    | some cop => exact List.forall_mem_singleton.mpr (.text cop)
  · cases diagnostic.url with
    | none => exact .null
    | some url => exact .text url

end Diagnostic

/-! ### The report -/

namespace CommandLine

namespace Finding

theorem fromValue_toJson (f : Finding) : Diagnostic.shape.fromValue f.toJson = .ok f.diagnostic := by
  refine f.diagnostic.fromValue_ofMembers fun m isIn => ?_
  cases hasText : f.description with
  | none =>
    rw [hasText] at isIn
    exact absurd isIn List.not_mem_nil
  | some text =>
    rw [hasText] at isIn
    rw [List.mem_singleton.mp isIn]
    rfl

theorem get?_description_toJson (f : Finding) : f.toJson.get? "description" = f.description.map Value.text := by
  have own : Json.lookupMember "description" f.diagnostic.jsonMembers.reverse = none := by
    cases hasCop : f.diagnostic.cop <;> simp [Diagnostic.jsonMembers, hasCop, Json.lookupMember]
  rw [toJson, Value.get?_ofMembers, List.reverse_append, Json.lookupMember_append, own, Option.or_none]
  cases f.description <;> rfl

theorem plain_toJson (f : Finding) (d : Nat) : Value.Plain (d + 4) f.toJson := by
  refine .ofMembers (List.forall_mem_append.mpr ⟨f.diagnostic.plain_jsonMembers d, ?_⟩)
  cases f.description with
  | none => exact List.forall_mem_nil _
  | some text => exact List.forall_mem_singleton.mpr (.text text)

end Finding

def report (file : Path) (findings : List Finding) : Value :=
  .ofMembers [("path", .text file.text), ("diagnostics", .array (findings.map Finding.toJson))]

theorem plain_report (file : Path) (findings : List Finding) : (report file findings).Plain Json.maxDepth :=
  .ofMembers (List.forall_mem_cons.mpr ⟨.text file.text,
    List.forall_mem_singleton.mpr (.list (List.forall_mem_map.mpr fun f _ => f.plain_toJson 121))⟩)

/-- The text of a report, as it is made and as it is printed, is read as an object with the file's path and a list of
diagnostics, one for each finding in their order. Each of them is read as the finding's diagnostic, and has a
description just if the finding has one. -/
theorem renderJson_lossless (file : Path) (findings : List Finding) :
    ∃ value elements, Value.parse (renderJson file findings) = .ok value ∧
      Value.parse (render .json file findings) = .ok value ∧
      value.get? "path" = some (.text file.text) ∧ value.get? "diagnostics" = some (.array elements) ∧
      List.Forall₂ (fun element f => Diagnostic.shape.fromValue element = .ok f.diagnostic ∧
        element.get? "description" = f.description.map Value.text) elements findings := by
  have made := (plain_report file findings).parse_pretty Json.Cursor.spaces_nil
  rw [List.append_nil] at made
  have lineFeed : Json.Cursor.Spaces ['\n'] := List.forall_mem_singleton.mpr rfl
  have printed := (plain_report file findings).parse_pretty lineFeed
  rw [String.ofList_append] at printed
  refine ⟨report file findings, findings.map Finding.toJson, made, printed, ?_, ?_, ?_⟩
  · exact Value.get?_ofMembers _ _
  · exact Value.get?_ofMembers _ _
  · rw [List.forall₂_map_left_iff, List.forall₂_same]
    exact fun f _ => ⟨f.fromValue_toJson, f.get?_description_toJson⟩

end CommandLine
end LintBridge

import LintBridge.Proofs.CommandLine.Lints
import LintBridge.Proofs.Offense.Ranges
import LintBridge.Proofs.Server.Hovering

/-!
The place of an offense on the terminal and in the editor.

The terminal shows lines and columns counted from one, as the report has them. An editor that points at a place is told
about the offense if the place is on the offense's line and its column is in between.
-/

set_option autoImplicit false
set_option relaxedAutoImplicit false

namespace LintBridge

namespace CommandLine

theorem renderText_append_cons (file : Path) (before : List Finding) (f : Finding) (after : List Finding) :
    ∃ rest, renderText file (before ++ f :: after) =
      String.join (before.map (findingText file)) ++ (headline file f.diagnostic ++ rest) := by
  obtain ⟨more, text⟩ := findingText_eq file f
  simp only [renderText, List.map_append, List.map_cons, String.join_append, String.join_cons, text,
    String.append_assoc]
  exact ⟨_, rfl⟩

theorem headline_toDiagnostic (file path : Path) (style : MessageStyle) (o : Offense) :
    let d := o.toDiagnostic style path
    headline file d = file.text ++ ":" ++ toString o.place.1 ++ ":" ++ toString o.place.2 ++ ": " ++ d.severity.name ++
      ": " ++ d.excerpt ++ "\n" := by
  intro d
  obtain ⟨raisedLine, raisedColumn⟩ := o.range_start_add_one
  have printed : positionText d.range.start =
      toString (o.range.start.line.toNat + 1) ++ ":" ++ toString (o.range.start.column.toNat + 1) := by
    rw [positionText, ← raisedLine, ← raisedColumn]
    rfl
  rw [headline, printed, ← o.range_start]
  simp only [String.append_assoc, d]

end CommandLine

theorem Server.shownAt?_of_single {s : Server} {u : Url} {d : Diagnostic} (single : s.documents.shown? u = some [d])
    (p : Position) : s.shownAt? u p = if d.range.contains p then some d else none := by
  obtain ⟨document, found, shown⟩ := Option.map_eq_some_iff.mp single
  rw [shownAt?, found, Option.bind_some, shown, List.find?_singleton]

/-- An offense keeps its place. Its range is on one line, begins where the report has it and is as long as the report
says, as far as columns can be counted. The terminal counts both from one again without running over, and the editor
finds the diagnostic, where it is the only one, at just the columns of its range. -/
theorem Offense.keeps_place (style : MessageStyle) (path : Path) (o : Offense) :
    let d := o.toDiagnostic style path
    let r := d.range
    (r.start.line = r.stop.line ∧ r.start.upTo r.stop = true ∧ r.contains r.start = true) ∧
    ((r.start.line + 1).toNat = o.place.1 ∧ r.start.line.toNat + 1 = o.place.1) ∧
    ((r.start.column + 1).toNat = o.place.2 ∧ r.start.column.toNat + 1 = o.place.2) ∧
    r.stop.column.toNat = min (r.start.column.toNat + o.width) 4294967295 ∧
    (∀ (file : Path) (before : List CommandLine.Finding) (text : Option String) (after : List CommandLine.Finding),
      ∃ rest, CommandLine.renderText file (before ++ ⟨d, text⟩ :: after) =
        String.join (before.map (CommandLine.findingText file)) ++
          (file.text ++ ":" ++ toString o.place.1 ++ ":" ++ toString o.place.2 ++ ": " ++ d.severity.name ++ ": " ++
            d.excerpt ++ "\n" ++ rest)) ∧
    ∀ (s : Server) (u : Url), s.documents.shown? u = some [d] →
      ∀ (around : Surroundings) (e : Server.Event) (p : Position), s.demand? e = some (.hover u p) →
        Server.Hovers s.next (s.step around e).server
          (if p.line = r.start.line ∧ r.start.column ≤ p.column ∧ p.column ≤ r.stop.column then some d else none)
          (Server.replies s.next (s.doneAt around e)) := by
  intro d r
  have oneLine : r.start.line = r.stop.line := o.range_oneLine
  have ordered : r.start.column ≤ r.stop.column := o.range_start_le_stop
  have upTo : r.start.upTo r.stop = true := Position.upTo_iff.mpr (.inr ⟨oneLine, ordered⟩)
  have own : r.contains r.start = true := (Range.contains_iff oneLine).mpr ⟨rfl, UInt32.le_refl _, ordered⟩
  obtain ⟨line, column⟩ := Prod.mk.inj o.range_start
  obtain ⟨raisedLine, raisedColumn⟩ := o.range_start_add_one
  refine ⟨⟨oneLine, upTo, own⟩, ⟨raisedLine.trans line, line⟩, ⟨raisedColumn.trans column, column⟩, o.range_stop,
    ?_, ?_⟩
  · intro file before text after
    obtain ⟨rest, printed⟩ := CommandLine.renderText_append_cons file before ⟨d, text⟩ after
    exact ⟨rest, by rw [printed, CommandLine.headline_toDiagnostic]⟩
  · intro s u single around e p asked
    have hovers := Server.hovers_of_demand around asked
    have inside : d.range.contains p = true ↔
        p.line = r.start.line ∧ r.start.column ≤ p.column ∧ p.column ≤ r.stop.column := Range.contains_iff oneLine
    rw [Server.shownAt?_of_single single, if_congr inside rfl rfl] at hovers
    exact hovers

/-! ### A hover over an offense -/

namespace Server

def endless : Offense := { Offense.empty with message := "Wrong.", spot := some ⟨1, 2, 4294967295⟩ }

/-- The tool has been started for a document, and reports the offense. -/
def reported : History :=
  [(unbundled, .greeting), (unbundled, .opening),
    (unbundled, .signal 1 (.programEnded (.output
      ⟨"\x7b\"metadata\":\x7b\"rubocop_version\":\"1.50.2\"\x7d,\"files\":[\x7b\"offenses\":" ++
        "[\x7b\"message\":\"Wrong.\",\"location\":\x7b\"line\":1,\"column\":2,\"length\":4294967295\x7d\x7d]\x7d]," ++
        "\"summary\":\x7b\"offense_count\":1\x7d\x7d",
        "", some 1⟩)))]

private theorem asked_reported :
    let now := fresh.after reported
    let later := (now.step unbundled .hovering).server
    (∃ u, now.demand? .hovering = some (.hover u ⟨0, 1⟩) ∧
      now.documents.shown? u = some [endless.toDiagnostic .separate ⟨"/a.rb"⟩]) ∧
    now.next = 2 ∧ (Keyed.get? 2 later.jobs).isNone = true ∧ later.phase ≠ .exited := by
  have all : let now := fresh.after reported
      let later := (now.step unbundled .hovering).server
      ((now.demand? .hovering).any fun d => d.hover?.any fun place =>
        place.2 == ⟨0, 1⟩ && now.documents.shown? place.1 == some [endless.toDiagnostic .separate ⟨"/a.rb"⟩]) = true ∧
      now.next = 2 ∧ (Keyed.get? 2 later.jobs).isNone = true ∧ later.phase ≠ .exited := by
    decide +kernel
  obtain ⟨points, stands⟩ := all
  obtain ⟨d, isDemand, points⟩ := (Option.any_eq_true _ _).mp points
  obtain ⟨⟨u, p⟩, hovers, points⟩ := (Option.any_eq_true _ _).mp points
  obtain rfl := Demand.eq_of_hover? hovers
  obtain ⟨place, shown⟩ := Bool.and_eq_true_iff.mp points
  obtain rfl := beq_iff_eq.mp place
  exact ⟨⟨u, isDemand, beq_iff_eq.mp shown⟩, stands⟩

end Server

theorem Offense.keeps_place_endless :
    ∃ u text, (Server.fresh.after Server.reported).demand? .hovering = some (.hover u ⟨0, 1⟩) ∧
      Server.replies 2 ((Server.fresh.after Server.reported).doneAt Server.unbundled .hovering) =
        [.ok (Server.hoverJson (Server.endless.toDiagnostic .separate ⟨"/a.rb"⟩) text)] := by
  obtain ⟨⟨u, asked, shown⟩, next, isOver, talking⟩ := Server.asked_reported
  obtain ⟨-, -, -, -, -, finds⟩ := Server.endless.keeps_place .separate ⟨"/a.rb"⟩
  have hovers := finds _ u shown Server.unbundled .hovering ⟨0, 1⟩ asked
  rw [if_pos (by decide), next] at hovers
  generalize answers :
    Server.replies 2 ((Server.fresh.after Server.reported).doneAt Server.unbundled .hovering) = all at hovers
  cases hovers with
  | waits d anchor r waits =>
    rw [waits] at isOver
    cases isOver
  | answered d text _ => exact ⟨u, text, asked, rfl⟩
  | cancelled d _ exited => exact absurd exited talking

end LintBridge

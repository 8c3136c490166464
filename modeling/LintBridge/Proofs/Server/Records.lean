import LintBridge.Proofs.Server.Debouncing
import LintBridge.Proofs.Server.Hovering
import LintBridge.Proofs.Server.Saving
import Mathlib.Data.List.DropRight

/-!
What the server knows of a document.

Whatever else happens, the text, the version and the mark of a document follow from the messages about that document
alone. `written_after` says so for every state; `Tells` reads the outcome off the messages: the document is known from
the first of them that opens it after the last one that closes it.
-/

set_option autoImplicit false
set_option relaxedAutoImplicit false

namespace LintBridge

/-- What is known of a document, whatever is shown for it. -/
def Documents.written? (u : Url) (ds : Documents) : Option OpenDocument :=
  (ds.find? u).map fun d => { d with shown := [] }

namespace Server

/-- What a message says of one document. -/
inductive Remark
  | opened (version : Int) (text : String)
  | edited (version : Int) (texts : List String)
  | saved (text : Option String)
  | closed
  deriving DecidableEq, Repr

namespace Remark

def opens : Remark → Bool
  | opened _ _ => true
  | edited _ texts => !texts.isEmpty
  | _ => false

def edits : Remark → Bool
  | edited _ texts => !texts.isEmpty
  | _ => false

/-- Whether the client takes the text for the file's. -/
def settles : Remark → Bool
  | opened _ _ => true
  | saved _ => true
  | _ => false

/-- The text that is given; of several texts the last one. -/
def text? : Remark → Option String
  | opened _ text => some text
  | edited _ texts => texts.getLast?
  | saved text => text
  | closed => none

/-- The version that is given. Without a text, an edit gives none. -/
def version? : Remark → Option Int
  | opened version _ => some version
  | edited version texts => if texts.isEmpty then none else some version
  | _ => none

def leave (known : Option OpenDocument) : Remark → Option OpenDocument
  | opened version text => some ⟨text, version, false, []⟩
  | edited version texts => (texts.getLast?.map fun text => ⟨text, version, true, []⟩).or known
  | saved text => known.map fun d => { d with text := text.getD d.text, modified := false }
  | closed => none

end Remark

/-- What a message says of a document, if it is about it. -/
def Demand.remark? (u : Url) : Demand → Option Remark
  | .opened d => if d.url = u then some (.opened d.version d.text) else none
  | .edited e => if e.url = u then some (.edited e.version e.texts) else none
  | .saved v text => if v = u then some (.saved text) else none
  | .closed v => if v = u then some .closed else none
  | _ => none

def remarksOn (u : Url) (asked : List (Nat × Demand)) : List Remark := asked.filterMap fun p => p.2.remark? u

/-! ### A document's own messages decide -/

theorem remarksOn_append (u : Url) (first second : List (Nat × Demand)) :
    remarksOn u (first ++ second) = remarksOn u first ++ remarksOn u second := List.filterMap_append

theorem written_amend (d : Demand) (u : Url) (ds : Documents) :
    (d.amend ds).written? u = ((d.remark? u).toList).foldl Remark.leave (ds.written? u) := by
  cases d with
  | opened d =>
    simp only [Demand.amend, Demand.remark?, Documents.written?, Documents.find?_opened]
    split <;> rfl
  | edited e =>
    cases last : e.texts.getLast? with
    | none =>
      have none : e.texts = [] := List.getLast?_eq_none_iff.mp last
      by_cases same : e.url = u <;>
        simp [Demand.amend, Demand.remark?, Documents.written?, Documents.edited, Remark.leave, none, same]
    | some text =>
      simp only [Demand.amend, Demand.remark?, Documents.written?, Documents.find?_edited _ _ _ _ _ _ last]
      by_cases same : e.url = u <;> simp [same, Remark.leave, last]
  | saved v text =>
    simp only [Demand.amend, Demand.remark?, Documents.written?, Documents.find?_saved]
    by_cases same : v = u
    · rw [same]
      cases ds.find? u <;> simp [Remark.leave]
    · simp [same]
  | closed v =>
    simp only [Demand.amend, Demand.remark?, Documents.written?, Documents.find?_closed]
    split <;> rfl
  | _ => rfl

theorem written_step (around : Surroundings) (s : Server) (e : Event) (u : Url) :
    (s.step around e).server.documents.written? u =
      (remarksOn u (s.asks e)).foldl Remark.leave (s.documents.written? u) := by
  have same : (s.step around e).server.documents.written? u = (s.amended e).written? u :=
    (frame_step around s e).same u
  rw [same, amended, asks]
  cases s.demand? e with
  | none => rfl
  | some d =>
    dsimp only
    rw [written_amend]
    cases given : d.remark? u <;> simp [remarksOn, given]

theorem written_after (s : Server) (history : History) (u : Url) :
    (s.after history).documents.written? u =
      (remarksOn u (s.demands history)).foldl Remark.leave (s.documents.written? u) := by
  induction history generalizing s with
  | nil => rfl
  | cons moment rest ih =>
    obtain ⟨around, e⟩ := moment
    rw [after_cons, ih, written_step, demands, remarksOn_append, List.foldl_append]

/-! ### What the messages tell -/

/-- Something of one kind has been said after all that is of another kind. -/
def SaidSince (what last : Remark → Bool) (own : List Remark) : Prop :=
  ∃ front r back, own = front ++ r :: back ∧ what r = true ∧ ∀ later ∈ back, last later = false

/-- What has been said since the document came to be known, after it was last closed. -/
def knownSince (own : List Remark) : List Remark := (own.rtakeWhile (· ≠ .closed)).dropWhile fun r => !r.opens

/-- What is known of a document, in terms of what has been said of it: whether it is known at all, and if it is,
its text, its version and its mark. -/
structure Tells (own : List Remark) (known : Option OpenDocument) : Prop where
  stored : known.isSome = true ↔ SaidSince Remark.opens (· = .closed) own
  since : knownSince own = [] ↔ known = none
  text : ∀ d, known = some d → ((knownSince own).filterMap Remark.text?).getLast? = some d.text
  version : ∀ d, known = some d → ((knownSince own).filterMap Remark.version?).getLast? = some d.version
  modified : ∀ d, known = some d → (d.modified = true ↔ SaidSince Remark.edits Remark.settles own)

section
variable {what last : Remark → Bool} {own : List Remark} {r : Remark} {known : Option OpenDocument}

theorem not_saidSince_nil : ¬ SaidSince what last [] := by
  rintro ⟨front, r, back, eq, -⟩
  cases front <;> cases eq

theorem saidSince_snoc : SaidSince what last (own ++ [r]) ↔
    what r = true ∨ last r = false ∧ SaidSince what last own := by
  constructor
  · rintro ⟨front, r', back, eq, isWhat, none⟩
    rcases List.eq_nil_or_concat back with rfl | ⟨back, r'', rfl⟩
    · obtain ⟨-, same⟩ := List.append_inj' eq rfl
      cases same
      exact .inl isWhat
    · have eq : own ++ [r] = (front ++ r' :: back) ++ [r''] := by simpa using eq
      obtain ⟨rfl, same⟩ := List.append_inj' eq rfl
      cases same
      exact .inr ⟨none r (by simp), front, r', back, rfl, isWhat, fun later isIn => none later (by simp [isIn])⟩
  · rintro (isWhat | ⟨isOther, front, r', back, rfl, isWhat, none⟩)
    · exact ⟨own, r, [], rfl, isWhat, by simp⟩
    · refine ⟨front, r', back ++ [r], by simp, isWhat, ?_⟩
      intro later isIn
      rcases List.mem_append.mp isIn with isIn | isIn
      · exact none later isIn
      · rw [List.mem_singleton.mp isIn]
        exact isOther

theorem knownSince_closed : knownSince (own ++ [.closed]) = [] := by
  simp [knownSince]

theorem knownSince_snoc (stays : r ≠ .closed) : knownSince (own ++ [r]) =
    if knownSince own = [] then [r].dropWhile fun r => !r.opens else knownSince own ++ [r] := by
  have kept : (own ++ [r]).rtakeWhile (· ≠ .closed) = own.rtakeWhile (· ≠ .closed) ++ [r] :=
    List.rtakeWhile_concat_pos _ _ _ (by simpa using stays)
  rw [knownSince, kept, List.dropWhile_append]
  simp only [List.isEmpty_iff]
  rfl

theorem getLast?_knownSince_snoc {α : Type} (given? : Remark → Option α) (stays : r ≠ .closed)
    (isKnown : knownSince own ≠ [] ∨ r.opens = true) :
    ((knownSince (own ++ [r])).filterMap given?).getLast? =
      (given? r).or ((knownSince own).filterMap given?).getLast? := by
  rw [knownSince_snoc stays]
  split
  · rename_i none
    have opens : r.opens = true := isKnown.resolve_left (absurd none)
    cases given : given? r <;> simp [opens, none, given]
  · cases given : given? r <;> simp [given]

theorem tells_nil : Tells [] none where
  stored := by simp [not_saidSince_nil]
  since := by simp [knownSince]
  text := by rintro d ⟨⟩
  version := by rintro d ⟨⟩
  modified := by rintro d ⟨⟩

private theorem tells_renewed {version : Int} {text : String} {modified : Bool} (stays : r ≠ .closed)
    (opens : r.opens = true) (isText : r.text? = some text) (isVersion : r.version? = some version)
    (marks : modified = true ↔ SaidSince Remark.edits Remark.settles (own ++ [r])) :
    Tells (own ++ [r]) (some ⟨text, version, modified, []⟩) where
  stored := by simp [saidSince_snoc, opens]
  since := by
    have left : knownSince (own ++ [r]) ≠ [] := by
      rw [knownSince_snoc stays]
      split <;> simp [opens]
    simp [left]
  text := by
    rintro d ⟨⟩
    rw [getLast?_knownSince_snoc _ stays (.inr opens), isText, Option.some_or]
  version := by
    rintro d ⟨⟩
    rw [getLast?_knownSince_snoc _ stays (.inr opens), isVersion, Option.some_or]
  modified := by
    rintro d ⟨⟩
    exact marks

private theorem Tells.unknown (tells : Tells own none) (unopened : r.opens = false) : Tells (own ++ [r]) none where
  stored := by
    have unsaid : ¬ SaidSince Remark.opens (· = .closed) own := fun said => by simpa using tells.stored.mpr said
    simp [saidSince_snoc, unopened, unsaid]
  since := by
    by_cases closes : r = .closed
    · simp [closes, knownSince_closed]
    · rw [knownSince_snoc closes, if_pos (tells.since.mpr rfl)]
      simp [unopened]
  text := by rintro d ⟨⟩
  version := by rintro d ⟨⟩
  modified := by rintro d ⟨⟩

private theorem Tells.goesOn {d : OpenDocument} {text : String} {modified : Bool} (tells : Tells own (some d))
    (stays : r ≠ .closed) (unversioned : r.version? = none) (isText : text = r.text?.getD d.text)
    (marks : modified = true ↔ SaidSince Remark.edits Remark.settles (own ++ [r])) :
    Tells (own ++ [r]) (some { d with text := text, modified := modified }) := by
  have left : knownSince own ≠ [] := fun none => by simpa using tells.since.mp none
  exact
    { stored := by
        have said := tells.stored.mp rfl
        simp [saidSince_snoc, stays, said]
      since := by
        rw [knownSince_snoc stays, if_neg left]
        simp
      text := by
        rintro d' ⟨⟩
        rw [getLast?_knownSince_snoc _ stays (.inl left), tells.text d rfl, isText]
        cases r.text? <;> rfl
      version := by
        rintro d' ⟨⟩
        rw [getLast?_knownSince_snoc _ stays (.inl left), tells.version d rfl, unversioned, Option.none_or]
      modified := by
        rintro d' ⟨⟩
        exact marks }

theorem Tells.snoc (tells : Tells own known) (r : Remark) : Tells (own ++ [r]) (r.leave known) := by
  cases r with
  | opened version text =>
    refine tells_renewed (by simp) rfl rfl rfl ?_
    simp [saidSince_snoc, Remark.edits, Remark.settles]
  | edited version texts =>
    cases last : texts.getLast? with
    | none =>
      have empty : texts = [] := List.getLast?_eq_none_iff.mp last
      subst empty
      cases known with
      | none => exact tells.unknown rfl
      | some d =>
        refine tells.goesOn (by simp) rfl rfl ?_
        rw [tells.modified d rfl, saidSince_snoc]
        simp [Remark.edits, Remark.settles]
    | some text =>
      have some : texts ≠ [] := List.ne_nil_of_mem (List.mem_of_getLast? last)
      simp only [Remark.leave, last]
      refine tells_renewed (by simp) (by simpa [Remark.opens] using some) last ?_ ?_
      · simpa [Remark.version?] using some
      · simp [saidSince_snoc, Remark.edits, some]
  | saved text =>
    cases known with
    | none => exact tells.unknown rfl
    | some d =>
      refine tells.goesOn (by simp) rfl rfl ?_
      simp [saidSince_snoc, Remark.edits, Remark.settles]
  | closed =>
    exact
      { stored := by simp [Remark.leave, saidSince_snoc, Remark.opens]
        since := by simp [knownSince_closed, Remark.leave]
        text := by rintro d ⟨⟩
        version := by rintro d ⟨⟩
        modified := by rintro d ⟨⟩ }

theorem tells_foldl (own : List Remark) : Tells own (own.foldl Remark.leave none) := by
  induction own using List.reverseRecOn with
  | nil => exact tells_nil
  | append_singleton own r ih =>
    rw [List.foldl_append]
    exact ih.snoc r

end

/-! ### Messages that say nothing -/

theorem documents_of_textless (around : Surroundings) {s : Server} {e : Event} {edit : Edit}
    (asked : s.demand? e = some (.edited edit)) (textless : edit.texts = []) :
    (s.step around e).server.documents = s.documents := by
  obtain ⟨m, -, -, served⟩ := served_of_demand around asked
  rw [served]
  simp [serve, textless, conclude]

theorem documents_of_unknown_saved (around : Surroundings) {s : Server} {e : Event} {u : Url} {text : Option String}
    (asked : s.demand? e = some (.saved u text)) (unknown : s.documents.find? u = none) :
    (s.step around e).server.documents = s.documents := by
  obtain ⟨m, -, -, served⟩ := served_of_demand around asked
  have same : s.documents.saved u text = s.documents := by rw [Documents.saved, unknown]
  have unstored : s.documents.buffer? u = none := by
    cases isBuffer : s.documents.buffer? u with
    | none => rfl
    | some b => simpa [Documents.isOpen, unknown] using Documents.isOpen_of_buffer? isBuffer
  rw [served]
  simp only [serve, same, fix, lintStored, unstored]
  split
  · cases u.filePath? <;> rfl
  · rfl

/-- What the server knows of a document follows from the messages about it: it is known from a message that opens it
until it is closed, and has the text, the version and the mark that the messages have given it since. However two
servers have come to know the same of it, they know the same after the same messages about it, whatever else they
have been told or have done. An edit without a text and the saving of a document that is not known change no
document. -/
theorem documents_follow_own_messages (u : Url) :
    (∀ history : History,
      Tells (remarksOn u (fresh.demands history)) ((fresh.after history).documents.written? u)) ∧
    (∀ (s s' : Server) (history history' : History), s.documents.written? u = s'.documents.written? u →
      remarksOn u (s.demands history) = remarksOn u (s'.demands history') →
      (s.after history).documents.written? u = (s'.after history').documents.written? u) ∧
    ∀ (around : Surroundings) (s : Server) (e : Event),
      (∀ edit, s.demand? e = some (.edited edit) → edit.texts = [] →
        (s.step around e).server.documents = s.documents) ∧
      ∀ v text, s.demand? e = some (.saved v text) → s.documents.find? v = none →
        (s.step around e).server.documents = s.documents := by
  refine ⟨?_, ?_, fun around s e => ⟨?_, ?_⟩⟩
  · intro history
    rw [written_after]
    exact tells_foldl _
  · intro s s' history history' same own
    rw [written_after, written_after, same, own]
  · exact fun edit asked textless => documents_of_textless around asked textless
  · exact fun v text asked unknown => documents_of_unknown_saved around asked unknown

/-! ### One document among others -/

def Event.openingOther : Event :=
  .notification "textDocument/didOpen"
    [("textDocument", .ofMembers
      [("uri", .text "file:///b.rb"), ("languageId", .text "ruby"), ("version", .number (.integer 7)),
        ("text", .text "other")])]

def Event.editingNothing : Event :=
  .notification "textDocument/didChange"
    [("textDocument", .ofMembers [("uri", address), ("version", .number (.integer 9))]), ("contentChanges", .array [])]

/-- The document is opened and edited, and nothing else happens. -/
def editedAlone : History := openedFile ++ [(unbundled, .editing)]

/-- Between the opening and the edit another document is opened, and the lint ends. -/
def editedAmongOthers : History :=
  complained ++ [(unbundled, .openingOther), (unbundled, .editing)]

/-- A message that says nothing: an edit without a text, or the saving of a document that is not known. -/
def Demand.isVoid (ds : Documents) : Demand → Bool
  | .edited e => e.texts.isEmpty
  | .saved u _ => (ds.find? u).isNone
  | _ => false

theorem Demand.void_cases {ds : Documents} {d : Demand} (void : d.isVoid ds = true) :
    (∃ edit, d = .edited edit ∧ edit.texts = []) ∨ ∃ u text, d = .saved u text ∧ ds.find? u = none := by
  cases d with
  | edited edit => exact .inl ⟨edit, rfl, List.isEmpty_iff.mp void⟩
  | saved u text => exact .inr ⟨u, text, rfl, Option.isNone_iff_eq_none.mp void⟩
  | _ => cases void

/-- The other document makes no difference, and neither do an edit without a text and the saving of a document that
is not known. -/
theorem documents_follow_own_messages_amongOthers :
    ∃ u, remarksOn u (fresh.demands editedAmongOthers) = [.opened 1 "x", .edited 2 ["y"]] ∧
      Tells [.opened 1 "x", .edited 2 ["y"]] ((fresh.after editedAmongOthers).documents.written? u) ∧
      (fresh.after editedAmongOthers).documents.written? u = (fresh.after editedAlone).documents.written? u ∧
      (fresh.after editedAlone).documents.written? u = some ⟨"y", 2, true, []⟩ ∧
      ((fresh.after editedAlone).step unbundled .editingNothing).server.documents =
        (fresh.after editedAlone).documents ∧
      ((fresh.after [(unbundled, .greeting)]).step unbundled .saving).server.documents =
        (fresh.after [(unbundled, .greeting)]).documents := by
  have own : ((Url.parse "file:///a.rb").toOption.any fun u =>
      remarksOn u (fresh.demands editedAmongOthers) = [.opened 1 "x", .edited 2 ["y"]] &&
        remarksOn u (fresh.demands editedAlone) = [.opened 1 "x", .edited 2 ["y"]] &&
        (fresh.after editedAlone).documents.written? u = some ⟨"y", 2, true, []⟩) = true := by
    decide +kernel
  obtain ⟨u, -, own⟩ := (Option.any_eq_true _ _).mp own
  simp only [Bool.and_eq_true, decide_eq_true_eq] at own
  obtain ⟨⟨among, alone⟩, written⟩ := own
  obtain ⟨tells, same, still⟩ := documents_follow_own_messages u
  have unchanged {s : Server} {e : Event} (void : (s.demand? e).any (Demand.isVoid s.documents) = true) :
      (s.step unbundled e).server.documents = s.documents := by
    obtain ⟨d, isDemand, void⟩ := (Option.any_eq_true _ _).mp void
    rcases Demand.void_cases void with ⟨edit, rfl, textless⟩ | ⟨v, text, rfl, unknown⟩
    · exact (still unbundled s e).1 edit isDemand textless
    · exact (still unbundled s e).2 v text isDemand unknown
  refine ⟨u, among, ?_, ?_, written, ?_, ?_⟩
  · rw [← among]
    exact tells editedAmongOthers
  · exact same fresh fresh _ _ rfl (among.trans alone.symm)
  · exact unchanged (by decide +kernel)
  · exact unchanged (by decide +kernel)

end Server
end LintBridge

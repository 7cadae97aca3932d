import Dialogue.Trace.File
import Dialogue.Proofs.Session.Defects
import Dialogue.Proofs.Session.Rest
import Dialogue.Proofs.Trace.Codec

/-!
# Trace files read as they were written

The loader undoes writing a trace file on exactly the traces of a version that it knows, with
steps that count up from 1 (`Dialogue.Trace.Numbered`). Any other trace is refused, for its
version or else for the first entry that is out of sequence (`Dialogue.Trace.FirstMisnumbered`).

All traces that sessions keep are in order (`Dialogue.Trace.InOrder`): a trace begins without
entries, and every step that is noted is numbered by its place. So they are loaded back
unchanged, whatever the session went through (`Dialogue.Trace.load_undoes_write`).
-/

namespace Dialogue

namespace Trace

/-- **The steps of a trace count up from 1.** -/
def Numbered (t : Trace) : Prop :=
  ∀ i e, t.entries[i]? = some e → e.step = i + 1

/-- An entry is the first one out of sequence. -/
structure FirstMisnumbered (t : Trace) (i : Nat) (e : TraceEntry) : Prop where
  entry : t.entries[i]? = some e
  misnumbered : e.step ≠ i + 1
  before : ∀ j < i, ∀ d, t.entries[j]? = some d → d.step = j + 1

variable {t : Trace}

/-! ### The check -/

/-- Nothing is found iff the steps count up from 1. -/
theorem firstMisnumbered?_eq_none_iff : t.firstMisnumbered? = none ↔ t.Numbered := by
  rw [firstMisnumbered?, Option.map_eq_none_iff, List.find?_eq_none]
  constructor
  · intro h i e he
    have hmem : (e, i) ∈ t.entries.zipIdx := List.mem_zipIdx_iff_getElem?.mpr he
    simpa using h (e, i) hmem
  · rintro h ⟨e, i⟩ hmem
    simpa using h i e (List.mem_zipIdx_iff_getElem?.mp hmem)

/-- What is found is the first entry out of sequence. -/
theorem firstMisnumbered_of_eq_some {i : Nat} {e : TraceEntry}
    (h : t.firstMisnumbered? = some (i, e)) : t.FirstMisnumbered i e := by
  obtain ⟨⟨d, j⟩, hfound, hsame⟩ := Option.map_eq_some_iff.mp h
  obtain ⟨rfl, rfl⟩ := Prod.mk.inj hsame
  obtain ⟨hwrong, k, hk, hplace, hbefore⟩ := List.find?_eq_some_iff_getElem.mp hfound
  rw [List.getElem_zipIdx] at hplace
  obtain ⟨hentry, hindex⟩ := Prod.mk.inj hplace
  obtain rfl : k = j := by omega
  rw [List.length_zipIdx] at hk
  refine ⟨List.getElem?_eq_some_iff.mpr ⟨hk, hentry⟩, by simpa using hwrong, ?_⟩
  intro j hj d hd
  obtain ⟨hlt, hd⟩ := List.getElem?_eq_some_iff.mp hd
  have hright := hbefore j hj
  rw [List.getElem_zipIdx, hd] at hright
  simpa using hright

/-- The check accepts a trace iff its version is known and its steps count up from 1. -/
theorem check_eq_ok_iff : t.check = .ok t ↔ t.version ≤ currentVersion ∧ t.Numbered := by
  rw [check, ← firstMisnumbered?_eq_none_iff]
  by_cases hversion : currentVersion < t.version
  · rw [if_pos hversion]
    exact ⟨nofun, fun h => absurd h.1 (Nat.not_le.mpr hversion)⟩
  · rw [if_neg hversion]
    cases t.firstMisnumbered? with
    | none => exact ⟨fun _ => ⟨Nat.le_of_not_lt hversion, rfl⟩, fun _ => rfl⟩
    | some found => exact ⟨nofun, fun h => nomatch h.2⟩

/-- A trace of a known version with other steps is refused for the first entry out of sequence. -/
theorem check_of_not_numbered (hversion : t.version ≤ currentVersion) (h : ¬t.Numbered) :
    ∃ i e, t.FirstMisnumbered i e ∧ t.check = .error (.misnumbered i e.step) := by
  cases hfound : t.firstMisnumbered? with
  | none => exact absurd (firstMisnumbered?_eq_none_iff.mp hfound) h
  | some found =>
    refine ⟨found.1, found.2, firstMisnumbered_of_eq_some hfound, ?_⟩
    rw [check, if_neg (Nat.not_lt.mpr hversion), hfound]

/-- **Any other trace is refused** for its version, if that is not known, or else for the first
entry out of sequence. -/
theorem exists_check_eq_error (h : ¬(t.version ≤ currentVersion ∧ t.Numbered)) :
    ∃ reason, t.check = .error reason ∧ reason.invalidData = true ∧
      (currentVersion < t.version → reason = .unsupportedVersion t.version) ∧
      (t.version ≤ currentVersion →
        ∃ i e, t.FirstMisnumbered i e ∧ reason = .misnumbered i e.step) := by
  by_cases hversion : t.version ≤ currentVersion
  · obtain ⟨i, e, hfirst, hcheck⟩ := check_of_not_numbered hversion fun hn => h ⟨hversion, hn⟩
    exact ⟨_, hcheck, rfl, fun hnew => absurd hversion (Nat.not_le.mpr hnew),
      fun _ => ⟨i, e, hfirst, rfl⟩⟩
  · exact ⟨_, if_pos (Nat.not_le.mp hversion), rfl, fun _ => rfl,
      fun hknown => absurd hknown hversion⟩

/-! ### Files -/

/-- What stands in the file of a trace. -/
def written (t : Trace) : FileContent :=
  .ok t.fileText.toUTF8.toList

/-- **Loading what was written comes to the check.** -/
theorem load_written (h : t.Counted) : load t.written = t.check := by
  have hdepth : t.toJson.depth ≤ Json.depthLimit := Nat.le_trans t.depth_toJson (by decide)
  have hread : Json.Document.ofText t.fileText = Json.document t.toJson :=
    Json.ofText_pretty (plain_toJson h)
  have hdecode := (decodes_toJson h).document hdepth
  rw [Json.Document.ofText] at hread
  rw [written, load, ofDocument, hread, hdecode]

/-! ### Traces that grow in order -/

/-- **A trace is in order**: its version is the current one, and its steps count up from 1. -/
structure InOrder (t : Trace) : Prop where
  version : t.version = currentVersion
  numbered : t.Numbered

/-- A trace without entries is in order. -/
theorem inOrder_new (sessionId : String) : (new sessionId).InOrder :=
  ⟨rfl, fun i e he => by simp [new] at he⟩

/-- The times do not matter. -/
theorem InOrder.congr {r : Trace} (h : t.InOrder) (hversion : r.version = t.version)
    (hentries : r.entries = t.entries) : r.InOrder :=
  ⟨hversion.trans h.version, fun i e he => h.numbered i e (hentries ▸ he)⟩

/-- **The next step is numbered by its place.** -/
theorem InOrder.push (h : t.InOrder) (event : TraceEvent) : (t.push event).InOrder := by
  refine ⟨h.version, fun i e he => ?_⟩
  rw [Trace.push, List.getElem?_append] at he
  by_cases hlt : i < t.entries.length
  · rw [if_pos hlt] at he
    exact h.numbered i e he
  · rw [if_neg hlt, List.getElem?_singleton] at he
    split at he
    · obtain rfl := Option.some.inj he
      have hi : i = t.entries.length := by omega
      rw [hi]
    · cases he

theorem InOrder.extend (h : t.InOrder) (events : List TraceEvent) :
    (t.extend events).InOrder := by
  induction events generalizing t with
  | nil => exact h
  | cons event rest ih => exact ih (h.push event)

/-- Whether steps are noted or not, the trace stays in order. -/
theorem InOrder.noted (h : t.InOrder) (s : Settings) (steps : List TraceEvent) :
    (s.noted t steps).InOrder := by
  unfold Settings.noted
  split
  · exact h.extend steps
  · exact h

/-- A trace in order that is short enough needs no more than 32 bits for its numbers. -/
theorem InOrder.counted (h : t.InOrder) (hlength : t.entries.length < 2 ^ 32) : t.Counted := by
  refine ⟨h.version ▸ by decide, fun e he => ?_⟩
  obtain ⟨i, hi, hentry⟩ := List.getElem_of_mem he
  have hstep := h.numbered i e (List.getElem?_eq_some_iff.mpr ⟨hi, hentry⟩)
  omega

end Trace

/-! ### The traces of sessions -/

/-- Closing a pass keeps the trace in order. -/
theorem Progress.inOrder_close {p : Progress} (h : p.session.trace.InOrder) (now : String)
    (e : Event) : (p.close now e).session.trace.InOrder := by
  refine (h.noted p.session.settings e.closingLog).congr ?_ ?_ <;>
    cases e <;> rfl

/-- **A pass keeps the trace in order.** -/
theorem Progress.inOrder_pass {p : Progress} (h : p.session.trace.InOrder) {flow : Flow}
    {origin : Node} (hknown : flow.node? origin.id = some origin) (now : String)
    (entered : List String) : (p.pass now flow origin.id entered).session.trace.InOrder := by
  obtain ⟨r, -, hpass⟩ :=
    exists_pass_eq hknown p.session.store p.session.settings entered
  rw [hpass p now rfl rfl]
  exact inOrder_close (h.noted _ _) now _

namespace Session

variable {s : Session} {now : String} {c : Call} {flow : Flow} {p : Progress} {origin : Node}
  {counted : Bool} {out : Session × List Event}

/-- A session that is made has a trace in order. -/
theorem Made.inOrder (h : s.Made) : s.trace.InOrder := by
  induction h with
  | new settings id => exact Trace.inOrder_new _
  | @restored settings flow snap s h =>
    cases restore_eq_ok_iff.mp h with
    | idle idle => exact Trace.inOrder_new _
    | standing started stands known fits => exact Trace.inOrder_new _
  | withObserver h ih => exact ih

/-- A pass is opened with a trace in order. -/
theorem Opening.inOrder (h : Opening s now flow c p origin counted) (hs : s.trace.InOrder) :
    p.session.trace.InOrder := by
  cases h with
  | start idle =>
    rw [begun_eq]
    refine Trace.InOrder.noted ?_ _ _
    exact (Trace.inOrder_new s.id.text).congr rfl rfl
  | answer waits loaded stands known asks =>
    rw [answered_eq]
    exact hs.noted _ _

/-- **What a call does keeps the trace in order.** -/
theorem Turn.inOrder (h : Turn s now c out) (hs : s.trace.InOrder) : out.1.trace.InOrder := by
  have hpass : ∀ {s : Session} {c : Call} {flow : Flow} {p : Progress} {origin : Node}
      {counted : Bool}, Opening s now flow c p origin counted → s.trace.InOrder →
      (p.pass now flow origin.id (origin.seeds counted)).session.trace.InOrder :=
    fun opening hs => Progress.inOrder_pass (opening.inOrder hs) opening.node?_origin now _
  cases h with
  | reset => exact Trace.inOrder_new _
  | direct opening => exact hpass opening hs
  | pick opening => exact hpass opening hs
  | again loaded opening => exact hpass opening (Trace.inOrder_new _)
  | lost h =>
    rw [Progress.abort_eq]
    exact Progress.inOrder_close (p := ⟨s, []⟩) hs now _

/-- **Every trace that a session keeps is in order.** -/
theorem Made.inOrder_performAll (h : s.Made) (calls : List (String × Call)) :
    (s.performAll calls).1.trace.InOrder :=
  performAll_induction
    (fun _ _ _ hs => perform_induction hs fun _ hturn => hturn.inOrder hs) h.inOrder calls

end Session

namespace Trace

/-- **Loading undoes writing on exactly the well-numbered traces.** For any trace whose version and
steps are numbers of 32 bits, the file that is written for it loads as the trace iff its version
is known and its steps count up from 1. Otherwise what the file holds is refused: for the
version, if that is not known, or else for the first entry out of sequence. Every trace that a
session keeps, new or restored and after any calls, is of the current version and counts up from
1, so it is loaded back unchanged, as long as its entries can be numbered in 32 bits. -/
theorem load_undoes_write :
    (∀ t : Trace, t.Counted →
      (load t.written = .ok t ↔ t.version ≤ currentVersion ∧ t.Numbered) ∧
      (¬(t.version ≤ currentVersion ∧ t.Numbered) →
        ∃ reason, load t.written = .error reason ∧ reason.invalidData = true ∧
          (currentVersion < t.version → reason = .unsupportedVersion t.version) ∧
          (t.version ≤ currentVersion →
            ∃ i e, t.FirstMisnumbered i e ∧ reason = .misnumbered i e.step))) ∧
    ∀ s : Session, s.Made → ∀ calls : List (String × Call),
      let t := (s.performAll calls).1.trace
      t.entries.length < 2 ^ 32 →
        t.version ≤ currentVersion ∧ t.Numbered ∧ load t.written = .ok t := by
  constructor
  · intro t hcounted
    rw [load_written hcounted]
    exact ⟨check_eq_ok_iff, exists_check_eq_error⟩
  · intro s hmade calls t hlength
    have horder : t.InOrder := hmade.inOrder_performAll calls
    have hversion : t.version ≤ currentVersion := Nat.le_of_eq horder.version
    refine ⟨hversion, horder.numbered, ?_⟩
    rw [load_written (horder.counted hlength)]
    exact check_eq_ok_iff.mpr ⟨hversion, horder.numbered⟩

/-- The trace of a session that waits for a name is loaded back; a trace with a gap is refused
for the entry after it. -/
theorem load_undoes_write_gated :
    let s := Session.new default default
    let t := (s.performAll [("1", .start .gated), ("2", .submit "yes")]).1.trace
    let gap : Trace := ⟨1, "gap", none, some "3", [⟨1, .suspended "a"⟩, ⟨3, .completed true⟩]⟩
    s.Made ∧ 1 < t.entries.length ∧ t.entries.length < 2 ^ 32 ∧ load t.written = .ok t ∧
      gap.Counted ∧ ¬gap.Numbered ∧ load gap.written = .error (.misnumbered 1 3) := by
  intro s t gap
  have hmade : s.Made := Session.Made.new default default
  have hlength : t.entries.length < 2 ^ 32 := by decide
  have hcounted : gap.Counted := ⟨by decide, by decide⟩
  have hgap : ¬gap.Numbered := fun h => absurd (h 1 ⟨3, .completed true⟩ rfl) (by decide)
  obtain ⟨hall, hsessions⟩ := load_undoes_write
  obtain ⟨reason, hload, -, -, hnames⟩ := (hall gap hcounted).2 fun h => hgap h.2
  obtain ⟨i, e, hfirst, rfl⟩ := hnames (Nat.le_refl 1)
  have hplace : i = 1 ∧ e = ⟨3, .completed true⟩ := by
    have hentry := hfirst.entry
    match i with
    | 0 => exact absurd (congrArg (·.step) (Option.some.inj hentry)).symm hfirst.misnumbered
    | 1 => exact ⟨rfl, (Option.some.inj hentry).symm⟩
    | i + 2 => cases hentry
  obtain ⟨rfl, rfl⟩ := hplace
  exact ⟨hmade, by decide, hlength, (hsessions s hmade _ hlength).2.2, hcounted, hgap, hload⟩

end Trace

end Dialogue

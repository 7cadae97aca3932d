import Dialogue.Session.Codec
import Dialogue.Proofs.Flow.Document

/-!
# Snapshots read as they were written

A snapshot that is written and read again is the snapshot that was written
(`Dialogue.Snapshot.decode_stored`), so nothing is lost of a session that is stored. This is said
for every snapshot, be it one that a session can give or not: whatever its state and place,
whatever texts are in it, with or without a history, and with every reason to abort down to the
defects of flows. Only the counts in reasons have to be numbers of 64 bits
(`Dialogue.Snapshot.Counted`), which is as many as there are.
-/

namespace Dialogue

open Json (Decodes Record)

/-! ### Session ids -/

namespace SessionId

theorem group_cons (n m : Nat) (rest : List Nat) (cs : List Char) :
    group (n :: m :: rest) cs = cs.take n ++ '-' :: group (m :: rest) (cs.drop n) :=
  rfl

/-- Hyphens are taken out where they were put. -/
theorem ungroup?_group {lengths : List Nat} (hne : lengths ≠ []) {cs : List Char}
    (h : cs.length = lengths.sum) : ungroup? lengths (group lengths cs) = some cs := by
  induction lengths generalizing cs with
  | nil => exact absurd rfl hne
  | cons n rest ih =>
    cases rest with
    | nil => rw [group, ungroup?, if_pos (by simpa using h)]
    | cons m rest =>
      have hn : (cs.take n).length = n := by
        rw [List.length_take, h, List.sum_cons]
        omega
      have hlater : (cs.drop n).length = (m :: rest).sum := by
        rw [List.length_drop, h, List.sum_cons]
        omega
      have hrest := ih (List.cons_ne_nil m rest) hlater
      rw [group_cons]
      simp only [ungroup?, List.drop_left' hn, List.take_left' hn, hrest, Option.map_some,
        List.take_append_drop]

/-- Every hyphen adds to the length. -/
theorem length_group {lengths : List Nat} {cs : List Char} (h : cs.length = lengths.sum) :
    (group lengths cs).length = cs.length + (lengths.length - 1) := by
  induction lengths generalizing cs with
  | nil => rfl
  | cons n rest ih =>
    cases rest with
    | nil => rfl
    | cons m rest =>
      have hlater : (cs.drop n).length = (m :: rest).sum := by
        rw [List.length_drop, h, List.sum_cons]
        omega
      rw [List.sum_cons] at h
      rw [group_cons, List.length_append, List.length_cons, ih hlater, List.length_take,
        List.length_drop]
      simp only [List.length_cons]
      omega

/-- A digit stands for itself. -/
theorem hexValue?_hexChar : ∀ d : Fin 16, hexValue? (hexChar d) = some d := by
  decide

/-- What begins with a digit has neither brace nor prefix. -/
theorem written?_hexChar (d : Fin 16) (rest : List Char) :
    written? (hexChar d :: rest) = bareDigits? (hexChar d :: rest) := by
  obtain ⟨d, hd⟩ := d
  interval_cases d <;> rfl

/-- **An id is read as it was written.** -/
theorem read?_text (id : SessionId) : read? id.text = some id := by
  obtain ⟨digits, hlength⟩ := id
  have hsum : (digits.map hexChar).length = groupLengths.sum := by
    rw [List.length_map, hlength]
    rfl
  have hwritten : written? (group groupLengths (digits.map hexChar)) =
      some (digits.map hexChar) := by
    have hbare : bareDigits? (group groupLengths (digits.map hexChar)) =
        some (digits.map hexChar) := by
      have hlong : (group groupLengths (digits.map hexChar)).length ≠ 32 := by
        rw [length_group hsum, hsum]
        decide
      rw [bareDigits?, if_neg hlong]
      exact ungroup?_group (List.cons_ne_nil _ _) hsum
    -- the text begins with the first digit
    cases digits with
    | nil => cases hlength
    | cons d rest => exact (written?_hexChar d _).trans hbare
  have hdigits : (digits.map hexChar).mapM hexValue? = some digits := by
    clear hlength hsum hwritten
    induction digits with
    | nil => rfl
    | cons d rest ih => rw [List.map_cons, List.mapM_cons, hexValue?_hexChar, ih]; rfl
  rw [read?, text, String.toList_ofList, hwritten]
  change (List.mapM hexValue? (digits.map hexChar)).bind ofDigits? = _
  rw [hdigits]
  exact dif_pos hlength

theorem decodes_text (id : SessionId) : Decodes SessionId.decode (.str id.text) id := by
  intro source _
  simp only [SessionId.decode, Json.reading, Json.decodeString, bind, Except.bind, read?_text]
  rfl

end SessionId

theorem SessionState.decodes_name (state : SessionState) :
    Decodes SessionState.decode (.str state.name) state :=
  Json.decodes_name (by cases state <;> rfl)

/-! ### Stores -/

namespace Write

variable (w : Write)

theorem plain_toJson : w.toJson.Plain := by
  simp [toJson, Json.Plain, Json.PlainFields]

theorem depth_toJson : w.toJson.depth = 1 := by
  simp [toJson, Json.depth, Json.fieldsDepth]

/-- **A write is read as it was written.** -/
theorem decodes_toJson : Decodes Write.decode w.toJson w := by
  refine Record.Reads.into (a := (w.name, w.value, w.previous, w.node)) ?_ _
  refine .and ?_ (.and ?_ (.and ?_ ?_ (by decide)) (by decide)) (by decide)
  · exact Record.reads_text rfl
  · exact Record.reads_text rfl
  · exact Record.reads_optionalText rfl
  · exact Record.reads_text rfl

end Write

namespace Store

variable (s : Store)

theorem plain_toJson : s.toJson.Plain := by
  have hhistory : ∀ writes : List Write, Json.PlainItems (writes.map Write.toJson) :=
    fun writes => Json.plainItems_map fun w _ => w.plain_toJson
  cases h : s.history <;>
    simp [toJson, h, Json.optionalField, Json.Plain, Json.PlainFields, s.values.plain_toJson,
      hhistory]

theorem depth_toJson : s.toJson.depth ≤ 3 := by
  have hhistory : ∀ writes : List Write, Json.itemsDepth (writes.map Write.toJson) ≤ 1 :=
    fun writes =>
      Json.itemsDepth_map_le fun w _ => Nat.le_of_eq w.depth_toJson
  have hvalues := s.values.depth_toJson
  cases h : s.history with
  | none =>
    simp only [toJson, h, Json.optionalField, Json.depth, Json.fieldsDepth]
    omega
  | some writes =>
    have hwrites := hhistory writes
    simp only [toJson, h, Json.optionalField, Json.depth, Json.fieldsDepth]
    omega

/-- **A store is read as it was written.** No history is not the same as an empty one. -/
theorem decodes_toJson : Decodes Store.decode s.toJson s := by
  obtain ⟨values, history⟩ := s
  refine Record.Reads.into (a := (values, history)) (.and ?_ ?_ (by decide)) _
  · cases history <;> exact Record.reads_required rfl values.decodes_toJson
  · cases history with
    | none => exact Record.reads_of_missing rfl nofun
    | some writes =>
      have hwrites := Json.decodes_list fun w (_ : w ∈ writes) => w.decodes_toJson
      exact Record.reads_defaulted rfl (hwrites.option nofun)

end Store

/-! ### Reasons to abort -/

/-- A count in a defect is a number of 64 bits. -/
def Defect.Counted : Defect → Prop
  | .multipleStarts count => count < 2 ^ 64
  | _ => True

/-- A count in a reason to abort is a number of 64 bits. -/
def Abort.Counted : Abort → Prop
  | .stepLimit limit => limit < 2 ^ 64
  | .defect d => d.Counted
  | _ => True

namespace Defect

variable {d : Defect}

theorem plain_toJson (h : d.Counted) : d.toJson.Plain := by
  cases d with
  | multipleStarts count => exact ⟨⟨Json.plain_nat h, trivial⟩, trivial⟩
  | _ => simp [toJson, keyed, Json.Plain, Json.PlainFields]

theorem depth_toJson (d : Defect) : d.toJson.depth ≤ 2 := by
  cases d <;> simp [toJson, keyed, Json.depth, Json.fieldsDepth]

/-- **A defect is read as it was written.** -/
theorem decodes_toJson (h : d.Counted) : Decodes Defect.decode d.toJson d := by
  cases d with
  | missingStart => exact Json.decodes_bare rfl
  | multipleStarts count =>
    refine Json.decodes_record rfl (Record.Reads.into (a := count) ?_ _)
    exact Record.reads_required rfl (Json.decodes_nat64 h)
  | duplicateNode node =>
    exact Json.decodes_record rfl (Record.Reads.into (a := node) (Record.reads_text rfl) _)
  | duplicateEdge edge =>
    exact Json.decodes_record rfl (Record.Reads.into (a := edge) (Record.reads_text rfl) _)
  | danglingEdge edge node =>
    refine Json.decodes_record rfl (Record.Reads.into (a := (edge, node)) ?_ _)
    exact .and (Record.reads_text rfl) (Record.reads_text rfl) (by decide)
  | invalidHandle node edge handle =>
    refine Json.decodes_record rfl (Record.Reads.into (a := (node, edge, handle)) ?_ _)
    refine .and (Record.reads_text rfl) (.and (Record.reads_text rfl) ?_ (by decide)) (by decide)
    exact Record.reads_optionalText rfl
  | duplicateHandle node handle =>
    refine Json.decodes_record rfl (Record.Reads.into (a := (node, handle)) ?_ _)
    exact .and (Record.reads_text rfl) (Record.reads_text rfl) (by decide)
  | missingVariable node =>
    exact Json.decodes_record rfl (Record.Reads.into (a := node) (Record.reads_text rfl) _)
  | unknownTrigger node source =>
    refine Json.decodes_record rfl (Record.Reads.into (a := (node, source)) ?_ _)
    exact .and (Record.reads_text rfl) (Record.reads_text rfl) (by decide)
  | nodeNotFound node =>
    exact Json.decodes_record rfl (Record.Reads.into (a := node) (Record.reads_text rfl) _)

end Defect

namespace Abort

variable {reason : Abort}

theorem plain_toJson (h : reason.Counted) : reason.toJson.Plain := by
  cases reason with
  | stepLimit limit => exact ⟨⟨Json.plain_nat h, trivial⟩, trivial⟩
  | defect d => exact ⟨d.plain_toJson h, trivial⟩
  | _ => simp [toJson, Defect.keyed, Json.Plain, Json.PlainFields]

theorem depth_toJson (reason : Abort) : reason.toJson.depth ≤ 3 := by
  cases reason with
  | defect d =>
    have hdepth := d.depth_toJson
    simp only [toJson, Json.depth, Json.fieldsDepth]
    omega
  | _ => simp [toJson, Defect.keyed, Json.depth, Json.fieldsDepth]

/-- **A reason to abort is read as it was written.** -/
theorem decodes_toJson (h : reason.Counted) : Decodes Abort.decode reason.toJson reason := by
  cases reason with
  | noEdge node handle =>
    refine Json.decodes_record rfl (Record.Reads.into (a := (node, handle)) ?_ _)
    exact .and (Record.reads_text rfl) (Record.reads_optionalText rfl) (by decide)
  | allRejected node =>
    exact Json.decodes_record rfl (Record.Reads.into (a := node) (Record.reads_text rfl) _)
  | cycle node =>
    exact Json.decodes_record rfl (Record.Reads.into (a := node) (Record.reads_text rfl) _)
  | stepLimit limit =>
    refine Json.decodes_record rfl (Record.Reads.into (a := limit) ?_ _)
    exact Record.reads_required rfl (Json.decodes_nat64 h)
  | defect d => exact Json.decodes_single rfl ((d.decodes_toJson h).map defect)

end Abort

/-! ### Snapshots -/

namespace Snapshot

/-- The counts in the reason of a snapshot, if there is one, are numbers of 64 bits. -/
def Counted (s : Snapshot) : Prop :=
  ∀ reason, s.abortReason = some reason → reason.Counted

theorem plain_toJson {s : Snapshot} (h : s.Counted) : s.toJson.Plain := by
  cases hreason : s.abortReason with
  | none =>
    simp [toJson, hreason, Json.optionalField, Json.Plain, Json.PlainFields,
      s.store.plain_toJson]
  | some reason =>
    have hcounted := Abort.plain_toJson (h reason hreason)
    simp [toJson, hreason, Json.optionalField, Json.Plain, Json.PlainFields,
      s.store.plain_toJson, hcounted]

theorem depth_toJson (s : Snapshot) : s.toJson.depth ≤ 4 := by
  have hstore := s.store.depth_toJson
  cases hreason : s.abortReason with
  | none =>
    simp only [toJson, hreason, Json.optionalField, List.append_nil, Json.depth,
      Json.fieldsDepth, Json.depth_ofOption]
    omega
  | some reason =>
    have hdepth := reason.depth_toJson
    simp only [toJson, hreason, Json.optionalField, List.cons_append, List.nil_append,
      Json.depth, Json.fieldsDepth, Json.depth_ofOption]
    omega

/-- A snapshot is read as it was written. -/
theorem decodes_toJson {s : Snapshot} (h : s.Counted) : Decodes Snapshot.decode s.toJson s := by
  obtain ⟨id, state, cursor, store, endedEarly, abortReason⟩ := s
  refine Record.Reads.into (a := (id, state, cursor, store, endedEarly, abortReason)) ?_ _
  refine .and ?_ (.and ?_ (.and ?_ (.and ?_ (.and ?_ ?_ (by decide)) (by decide)) (by decide))
    (by decide)) (by decide)
  · cases abortReason <;> exact Record.reads_required rfl id.decodes_text
  · cases abortReason <;> exact Record.reads_required rfl state.decodes_name
  · cases abortReason <;> exact Record.reads_optionalText rfl
  · cases abortReason <;> exact Record.reads_required rfl store.decodes_toJson
  · cases abortReason <;> exact Record.reads_required rfl (Json.decodes_bool endedEarly)
  · cases abortReason with
    | none => exact Record.reads_of_missing rfl nofun
    | some reason =>
      have hreason := Abort.decodes_toJson (h reason rfl)
      exact Record.reads_defaulted rfl (hreason.option (by cases reason <;> nofun))

/-- **A stored snapshot is read as it was.** Whatever a snapshot holds, as long as its counts
are numbers of 64 bits: a text that is read as the document which is written for it decodes to
the snapshot. The text may be that document as it is printed, compact or indented. -/
theorem decode_stored (s : Snapshot) (h : s.Counted) :
    (∀ text, Json.Document.ofText text = Json.document s.toJson →
        (Json.Document.ofText text).decode Snapshot.decode = .ok s) ∧
      (Json.Document.ofText s.toJson.compact).decode Snapshot.decode = .ok s ∧
      (Json.Document.ofText s.toJson.pretty).decode Snapshot.decode = .ok s := by
  have hdepth : s.toJson.depth ≤ Json.depthLimit := Nat.le_trans s.depth_toJson (by decide)
  have hread : ∀ text, Json.Document.ofText text = Json.document s.toJson →
      (Json.Document.ofText text).decode Snapshot.decode = .ok s := by
    intro text htext
    rw [htext]
    exact (decodes_toJson h).document hdepth
  have hplain := plain_toJson h
  exact ⟨hread, hread _ (Json.ofText_compact hplain), hread _ (Json.ofText_pretty hplain)⟩

/-- A snapshot with quotes, a backslash, controls and letters beyond ASCII, an empty history and
a defect for a reason. -/
theorem decode_stored_aborted :
    let s : Snapshot := ⟨default, .aborted, some "say \"a\\b\"\n",
      ⟨StringMap.empty.insert "größe\t" "\x00", some []⟩, false, some (.defect (.multipleStarts 2))⟩
    s.Counted ∧ Json.Document.ofText s.toJson.pretty = Json.document s.toJson ∧
      (Json.Document.ofText s.toJson.pretty).decode Snapshot.decode = .ok s ∧
      (Json.Document.ofText s.toJson.compact).decode Snapshot.decode = .ok s := by
  intro s
  have hcounted : s.Counted := by
    intro reason hreason
    obtain rfl := Option.some.inj hreason
    exact (by decide : 2 < 2 ^ 64)
  have hread := Json.ofText_pretty (plain_toJson hcounted)
  obtain ⟨hall, hcompact, -⟩ := decode_stored s hcounted
  exact ⟨hcounted, hread, hall _ hread, hcompact⟩

end Snapshot

end Dialogue

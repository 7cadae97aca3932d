import Dialogue.Proofs.Flow.Complete
import Dialogue.Proofs.Flow.WellFormed

/-!
# Which output is taken

A condition with several outputs tries them in their order. It passes those whose rules do not
hold, and those whose value is rejected by the question behind their edge
(`Dialogue.Flow.Rejects`). The first output that is not passed decides: either an edge has its
value and is taken, or the search ends there. If all are passed, it depends on what has
happened until then whether the refusals are reported or the lack of a match.

So the search is told by the outputs that it comes to (`Dialogue.Flow.ComesTo`), and what is
found after such a condition is told in full, without the search
(`Dialogue.Flow.resolve_multiOutput_exact`). Where nothing is rejected, the output is the first
one that matches (`Dialogue.Output.firstMatch?`).
-/

namespace Dialogue

namespace Flow

variable (flow : Flow)

/-- **A value is rejected** at the node `source`: the edge that has it as its handle leads to a
question that asks for another one of those who come from this node. -/
def Rejects (source value : String) : Prop :=
  ∃ edge ∈ flow.outgoing source, edge.handle = some value ∧
    ∃ target ∈ flow.node? edge.target, ∃ expected ∈ target.guard? source, expected ≠ value

/-- **The search comes to an output**: it matches what is stored, and all outputs before it that
match are rejected. -/
def ComesTo (source : String) (store : Store) (outputs : List Output) (output : Output) : Prop :=
  ∃ before after, outputs = before ++ output :: after ∧ output.ruleSet.holds store = true ∧
    ∀ earlier ∈ before, earlier.ruleSet.holds store = true → flow.Rejects source earlier.value

/-- **What is found by trying outputs.** If the search comes to an output that is not rejected,
the edge with its value is taken, and if there is none, this is reported together with the value.
Otherwise it is reported that all outputs that match are rejected, or that none matches. -/
inductive Sifts (source : String) (store : Store) (outputs : List Output) : Resolution → Prop
  | next {output : Output} {edge : Edge} {target : Node}
      (comes : flow.ComesTo source store outputs output)
      (accepts : ¬ flow.Rejects source output.value)
      (mem : edge ∈ flow.outgoing source) (handle : edge.handle = some output.value)
      (arrives : flow.node? edge.target = some target) :
      Sifts source store outputs (.next target edge)
  | missing {output : Output} (comes : flow.ComesTo source store outputs output)
      (missing : ¬ flow.HasEdge source output.value) :
      Sifts source store outputs (.unresolved (.noEdge source (some output.value)))
  | noMatch (unmatched : ∀ output ∈ outputs, output.ruleSet.holds store = false) :
      Sifts source store outputs (.unresolved (.noEdge source none))
  | allRejected (matched : ∃ output ∈ outputs, output.ruleSet.holds store = true)
      (rejected : ∀ output ∈ outputs, output.ruleSet.holds store = true →
        flow.Rejects source output.value) :
      Sifts source store outputs (.unresolved (.allRejected source))

instance (source value : String) : Decidable (flow.Rejects source value) :=
  inferInstanceAs (Decidable (∃ edge ∈ flow.outgoing source, edge.handle = some value ∧
    ∃ target ∈ flow.node? edge.target, ∃ expected ∈ target.guard? source, expected ≠ value))

variable {flow} {n target : Node} {c : Condition} {edge : Edge} {value : String} {store : Store}
  {output : Output} {outputs rest : List Output} {rejected : Bool}

/-! ### The edge with a handle -/

theorem edgeThrough?_eq_none_iff {source : String} :
    edgeThrough? (flow.outgoing source) value = none ↔ ¬ flow.HasEdge source value := by
  simp [edgeThrough?, HasEdge]

/-- **A condition has one edge with a handle**, and this is found. -/
theorem edgeThrough?_eq_some_iff (hn : n ∈ flow.nodes) (hc : n.content = .condition c) :
    edgeThrough? (flow.outgoing n.id) value = some edge ↔
      edge ∈ flow.outgoing n.id ∧ edge.handle = some value := by
  refine ⟨fun h => ⟨mem_of_edgeThrough? h, handle_of_edgeThrough? h⟩, ?_⟩
  rintro ⟨hmem, hhandle⟩
  cases hthrough : edgeThrough? (flow.outgoing n.id) value with
  | none => exact absurd ⟨edge, hmem, hhandle⟩ (edgeThrough?_eq_none_iff.mp hthrough)
  | some other =>
    have hsame : other.handle = edge.handle := (handle_of_edgeThrough? hthrough).trans hhandle.symm
    rw [eq_of_handle_eq hn hc (mem_of_edgeThrough? hthrough) hmem hsame]

/-- Every edge that leaves a condition has a handle. -/
theorem exists_handle (hn : n ∈ flow.nodes) (hc : n.content = .condition c)
    (hmem : edge ∈ flow.outgoing n.id) : ∃ value, edge.handle = some value := by
  rw [outgoing_eq] at hmem
  obtain ⟨value, -, hvalue⟩ := (flow.wellFormed.handles n hn c hc).2 edge hmem
  exact ⟨value, hvalue⟩

/-- Where a value is not rejected, the edge that has it is followed. -/
theorem follow_of_not_rejects {source : String} (haccepts : ¬ flow.Rejects source value)
    (hmem : edge ∈ flow.outgoing source) (hhandle : edge.handle = some value)
    (htarget : flow.node? edge.target = some target) :
    flow.follow source edge (some value) =
      (.ok (some target), [.edgeResolved source target.id (some value)]) := by
  have hok : flow.node edge.target = .ok target := node_eq_ok_iff.mpr htarget
  simp only [follow, hok]
  cases hguard : target.guard? source with
  | none => rfl
  | some expected =>
    refine if_pos (congrArg some ?_)
    by_contra hne
    exact haccepts ⟨edge, hmem, hhandle, target, htarget, expected, hguard, Ne.symm hne⟩

/-! ### One output -/

/-- An output is passed if its rules do not hold. -/
theorem fst_tryOutputs_of_not_holds {source : String} {edges : List Edge}
    (hholds : output.ruleSet.holds store = false) :
    (flow.tryOutputs source edges store (output :: rest) rejected).1 =
      (flow.tryOutputs source edges store rest rejected).1 := by
  obtain ⟨log, heval, -⟩ := output.ruleSet.exists_evaluate store source (some output.value)
  rw [tryOutputs, heval, hholds]
  rfl

/-- **An output is passed if its value is rejected**, and this is remembered. -/
theorem fst_tryOutputs_of_rejects (hn : n ∈ flow.nodes) (hc : n.content = .condition c)
    (hholds : output.ruleSet.holds store = true) (hrejects : flow.Rejects n.id output.value) :
    (flow.tryOutputs n.id (flow.outgoing n.id) store (output :: rest) rejected).1 =
      (flow.tryOutputs n.id (flow.outgoing n.id) store rest true).1 := by
  obtain ⟨edge, hmem, hhandle, target, htarget, expected, hexpected, hne⟩ := hrejects
  obtain ⟨log, heval, -⟩ := output.ruleSet.exists_evaluate store n.id (some output.value)
  have hthrough := (edgeThrough?_eq_some_iff hn hc).mpr ⟨hmem, hhandle⟩
  have hok : flow.node edge.target = .ok target := node_eq_ok_iff.mpr htarget
  have hother : some output.value ≠ some expected := fun heq => hne (Option.some.inj heq).symm
  have hfollow : flow.follow n.id edge (some output.value) =
      (.ok none, [.guardRejected n.id target.id (some output.value) expected]) := by
    simp only [follow, hok, Option.mem_def.mp hexpected, if_neg hother]
  simp only [tryOutputs, heval, hholds, if_true, hthrough, hfollow]

/-- **The search ends at an output whose value is missing.** -/
theorem fst_tryOutputs_of_missing {source : String} (hholds : output.ruleSet.holds store = true)
    (hmissing : ¬ flow.HasEdge source output.value) :
    (flow.tryOutputs source (flow.outgoing source) store (output :: rest) rejected).1 =
      .ok (.unresolved (.noEdge source (some output.value))) := by
  obtain ⟨log, heval, -⟩ := output.ruleSet.exists_evaluate store source (some output.value)
  have hthrough := edgeThrough?_eq_none_iff.mpr hmissing
  simp only [tryOutputs, heval, hholds, if_true, hthrough]

/-- **An output is taken if an edge has its value and it is not rejected.** -/
theorem fst_tryOutputs_of_edge (hn : n ∈ flow.nodes) (hc : n.content = .condition c)
    (hholds : output.ruleSet.holds store = true) (haccepts : ¬ flow.Rejects n.id output.value)
    (hmem : edge ∈ flow.outgoing n.id) (hhandle : edge.handle = some output.value)
    (htarget : flow.node? edge.target = some target) :
    (flow.tryOutputs n.id (flow.outgoing n.id) store (output :: rest) rejected).1 =
      .ok (.next target edge) := by
  obtain ⟨log, heval, -⟩ := output.ruleSet.exists_evaluate store n.id (some output.value)
  have hthrough := (edgeThrough?_eq_some_iff hn hc).mpr ⟨hmem, hhandle⟩
  have hfollow := follow_of_not_rejects haccepts hmem hhandle htarget
  simp only [tryOutputs, heval, hholds, if_true, hthrough, hfollow]

/-! ### All outputs -/

/-- **Outputs that do not match or are rejected are passed**, and it is remembered whether one
of them was rejected. -/
theorem fst_tryOutputs_append (hn : n ∈ flow.nodes) (hc : n.content = .condition c)
    {before : List Output} (hpassed : ∀ earlier ∈ before,
      earlier.ruleSet.holds store = true → flow.Rejects n.id earlier.value) :
    (flow.tryOutputs n.id (flow.outgoing n.id) store (before ++ rest) rejected).1 =
      (flow.tryOutputs n.id (flow.outgoing n.id) store rest
        (rejected || before.any (·.ruleSet.holds store))).1 := by
  induction before generalizing rejected with
  | nil => simp
  | cons output before ih =>
    obtain ⟨hhere, hlater⟩ := List.forall_mem_cons.mp hpassed
    rw [List.cons_append, List.any_cons]
    cases hholds : output.ruleSet.holds store with
    | false => rw [fst_tryOutputs_of_not_holds hholds, ih hlater, Bool.false_or]
    | true =>
      rw [fst_tryOutputs_of_rejects hn hc hholds (hhere hholds), ih hlater, Bool.true_or,
        Bool.or_true]

/-- What is reported if all outputs are passed. -/
theorem fst_tryOutputs_of_passed (hn : n ∈ flow.nodes) (hc : n.content = .condition c)
    (hpassed : ∀ output ∈ outputs,
      output.ruleSet.holds store = true → flow.Rejects n.id output.value) :
    (flow.tryOutputs n.id (flow.outgoing n.id) store outputs false).1 =
      .ok (.unresolved (if outputs.any (·.ruleSet.holds store) then .allRejected n.id
        else .noEdge n.id none)) := by
  have hall : (flow.tryOutputs n.id (flow.outgoing n.id) store (outputs ++ []) false).1 = _ :=
    fst_tryOutputs_append hn hc hpassed
  rw [List.append_nil, Bool.false_or] at hall
  exact hall

/-- **The search comes to an output that is not rejected**, unless all that match are. -/
theorem exists_comesTo_or (flow : Flow) (source : String) (store : Store)
    (outputs : List Output) :
    (∃ output, flow.ComesTo source store outputs output ∧ ¬ flow.Rejects source output.value) ∨
      ∀ output ∈ outputs, output.ruleSet.holds store = true →
        flow.Rejects source output.value := by
  induction outputs with
  | nil => exact Or.inr (List.forall_mem_nil _)
  | cons output rest ih =>
    by_cases hpassed : output.ruleSet.holds store = true → flow.Rejects source output.value
    · rcases ih with ⟨next, ⟨before, after, rfl, hholds, hearlier⟩, haccepts⟩ | hall
      · exact Or.inl ⟨next, ⟨output :: before, after, rfl, hholds,
          List.forall_mem_cons.mpr ⟨hpassed, hearlier⟩⟩, haccepts⟩
      · exact Or.inr (List.forall_mem_cons.mpr ⟨hpassed, hall⟩)
    · obtain ⟨hholds, haccepts⟩ := Classical.not_imp.mp hpassed
      exact Or.inl ⟨output, ⟨[], rest, rfl, hholds, List.forall_mem_nil _⟩, haccepts⟩

/-- The outputs of a condition are tried from the first. -/
theorem resolve_of_multiOutput (hc : n.content = .condition (.multiOutput outputs))
    (hout : flow.outgoing n.id ≠ []) (store : Store) :
    flow.resolve n store = flow.tryOutputs n.id (flow.outgoing n.id) store outputs false := by
  obtain ⟨first, others, hfirst⟩ := List.exists_cons_of_ne_nil hout
  simp only [resolve, hfirst, hc]

/-! ### What is found -/

/-- **Something is found**: the search comes to an output that is not rejected, or else it
depends on whether any matches. -/
theorem exists_sifts (flow : Flow) (source : String) (store : Store) (outputs : List Output) :
    ∃ r, flow.Sifts source store outputs r := by
  rcases flow.exists_comesTo_or source store outputs with ⟨output, hcomes, haccepts⟩ | hall
  · by_cases hedge : flow.HasEdge source output.value
    · obtain ⟨edge, hmem, hhandle⟩ := hedge
      obtain ⟨target, htarget⟩ := exists_target hmem
      exact ⟨_, Sifts.next hcomes haccepts hmem hhandle htarget⟩
    · exact ⟨_, Sifts.missing hcomes hedge⟩
  · by_cases hsome : ∃ output ∈ outputs, output.ruleSet.holds store = true
    · exact ⟨_, Sifts.allRejected hsome hall⟩
    · exact ⟨_, Sifts.noMatch (by simpa using hsome)⟩

section Found

variable {r : Resolution} (hn : n ∈ flow.nodes)
  (hc : n.content = .condition (.multiOutput outputs)) (hout : flow.outgoing n.id ≠ [])

include hn hc hout

theorem Sifts.resolve_eq (h : flow.Sifts n.id store outputs r) :
    (flow.resolve n store).1 = .ok r := by
  rw [resolve_of_multiOutput hc hout]
  cases h with
  | next comes accepts mem handle arrives =>
    obtain ⟨before, after, rfl, hholds, hpassed⟩ := comes
    rw [fst_tryOutputs_append hn hc hpassed,
      fst_tryOutputs_of_edge hn hc hholds accepts mem handle arrives]
  | missing comes missing =>
    obtain ⟨before, after, rfl, hholds, hpassed⟩ := comes
    rw [fst_tryOutputs_append hn hc hpassed, fst_tryOutputs_of_missing hholds missing]
  | noMatch unmatched =>
    have hnone : outputs.any (·.ruleSet.holds store) = false := by simpa using unmatched
    rw [fst_tryOutputs_of_passed hn hc fun output houtput hholds => ?_, hnone]
    · rfl
    · exact absurd hholds (by simp [unmatched output houtput])
  | allRejected matched rejected =>
    rw [fst_tryOutputs_of_passed hn hc rejected, List.any_eq_true.mpr matched]
    rfl

theorem resolve_eq_iff_sifts :
    (flow.resolve n store).1 = .ok r ↔ flow.Sifts n.id store outputs r := by
  refine ⟨fun h => ?_, Sifts.resolve_eq hn hc hout⟩
  obtain ⟨found, hfound⟩ := flow.exists_sifts n.id store outputs
  have hsame : found = r := Except.ok.inj ((hfound.resolve_eq hn hc hout).symm.trans h)
  rwa [hsame] at hfound

end Found

/-! ### The first match -/

/-- Where all targets admit, no value is rejected. -/
theorem AdmitsAll.not_rejects {source : String} (h : flow.AdmitsAll source) (value : String) :
    ¬ flow.Rejects source value := by
  rintro ⟨edge, hmem, hhandle, target, htarget, expected, hexpected, hne⟩
  exact hne (Option.some.inj (h edge hmem value hhandle target htarget expected hexpected)).symm

/-- Where nothing is rejected, the search comes to the first output that matches. -/
theorem comesTo_iff_find? {source : String} (haccepts : ∀ value, ¬ flow.Rejects source value) :
    flow.ComesTo source store outputs output ↔
      outputs.find? (·.ruleSet.holds store) = some output := by
  rw [List.find?_eq_some_iff_append]
  constructor
  · rintro ⟨before, after, hsplit, hholds, hpassed⟩
    refine ⟨hholds, before, after, hsplit, fun earlier hearlier => ?_⟩
    by_contra hmatch
    exact haccepts _ (hpassed earlier hearlier (by simpa using hmatch))
  · rintro ⟨hholds, before, after, hsplit, hpassed⟩
    refine ⟨before, after, hsplit, hholds, fun earlier hearlier hmatch => ?_⟩
    simpa [hmatch] using hpassed earlier hearlier

theorem firstMatch?_eq_some_iff {source : String}
    (haccepts : ∀ value, ¬ flow.Rejects source value) :
    Output.firstMatch? outputs store = some value ↔
      ∃ output, flow.ComesTo source store outputs output ∧ output.value = value := by
  simp only [Output.firstMatch?, Option.map_eq_some_iff, comesTo_iff_find? haccepts]

theorem firstMatch?_eq_none_iff :
    Output.firstMatch? outputs store = none ↔
      ∀ output ∈ outputs, output.ruleSet.holds store = false := by
  simp [Output.firstMatch?]

section FirstMatch

variable (hn : n ∈ flow.nodes) (hc : n.content = .condition (.multiOutput outputs))
  (haccepts : ∀ value, ¬ flow.Rejects n.id value)

include hn hc haccepts

/-- **The edge of the first match is taken**, where nothing is rejected. -/
theorem exists_sifts_next_iff : (∃ target, flow.Sifts n.id store outputs (.next target edge)) ↔
    edge ∈ flow.outgoing n.id ∧ edge.handle = Output.firstMatch? outputs store := by
  constructor
  · rintro ⟨target, hnext⟩
    cases hnext with
    | next comes accepts mem handle arrives =>
      exact ⟨mem, handle.trans ((firstMatch?_eq_some_iff haccepts).mpr ⟨_, comes, rfl⟩).symm⟩
  · rintro ⟨hmem, hfirst⟩
    obtain ⟨value, hvalue⟩ := exists_handle hn hc hmem
    obtain ⟨output, hcomes, rfl⟩ :=
      (firstMatch?_eq_some_iff haccepts).mp (hfirst.symm.trans hvalue)
    obtain ⟨target, htarget⟩ := exists_target hmem
    exact ⟨target, Sifts.next hcomes (haccepts _) hmem hvalue htarget⟩

/-- **The lack of an edge for the first match is reported**, where nothing is rejected. -/
theorem sifts_noEdge_iff {handle : Option String} :
    flow.Sifts n.id store outputs (.unresolved (.noEdge n.id handle)) ↔
      handle = Output.firstMatch? outputs store ∧
        ∀ edge ∈ flow.outgoing n.id, edge.handle ≠ handle := by
  constructor
  · intro hnone
    cases hnone with
    | missing comes missing =>
      exact ⟨((firstMatch?_eq_some_iff haccepts).mpr ⟨_, comes, rfl⟩).symm,
        fun edge hmem hhandle => missing ⟨edge, hmem, hhandle⟩⟩
    | noMatch unmatched =>
      refine ⟨(firstMatch?_eq_none_iff.mpr unmatched).symm, fun edge hmem hhandle => ?_⟩
      obtain ⟨value, hvalue⟩ := exists_handle hn hc hmem
      simp [hvalue] at hhandle
  · rintro ⟨hfirst, hmissing⟩
    cases handle with
    | none => exact Sifts.noMatch (firstMatch?_eq_none_iff.mp hfirst.symm)
    | some value =>
      obtain ⟨output, hcomes, rfl⟩ := (firstMatch?_eq_some_iff haccepts).mp hfirst.symm
      exact Sifts.missing hcomes fun ⟨edge, hmem, hhandle⟩ => hmissing edge hmem hhandle

end FirstMatch

/-- A flow that wants to ask the few whether they are sure, with a question that is meant for
the many. -/
def sieve : Flow where
  nodes := [⟨"start", .start⟩,
    ⟨"size", .condition (.multiOutput [⟨"one", none, ⟨.and, [⟨"count", .equals, "1"⟩]⟩⟩,
      ⟨"many", none, .always⟩])⟩,
    ⟨"sure", .question ⟨"Sure?", [], "sure", StringMap.empty.insert "size" "many"⟩⟩,
    ⟨"bye", .finish none⟩]
  edges := [⟨"first", "start", "size", none⟩, ⟨"second", "size", "sure", some "one"⟩,
    ⟨"third", "size", "bye", some "many"⟩, ⟨"fourth", "sure", "bye", none⟩]
  sound := by decide

/-- **What is found after a condition with several outputs is exact.** In every flow and
whatever is stored, something is found, and it is what trying the outputs in their order comes
to. Where no value is rejected, the edge whose handle is the value of the first output that
matches is taken, and if there is no such edge this is reported. -/
theorem resolve_multiOutput_exact (hn : n ∈ flow.nodes)
    (hc : n.content = .condition (.multiOutput outputs)) (hout : flow.outgoing n.id ≠ [])
    (store : Store) :
    (∃ r, (flow.resolve n store).1 = .ok r) ∧
    (∀ r, (flow.resolve n store).1 = .ok r ↔ flow.Sifts n.id store outputs r) ∧
    ((∀ value, ¬ flow.Rejects n.id value) →
      (∀ edge, (∃ target, (flow.resolve n store).1 = .ok (.next target edge)) ↔
        edge ∈ flow.outgoing n.id ∧ edge.handle = Output.firstMatch? outputs store) ∧
      ∀ handle, (flow.resolve n store).1 = .ok (.unresolved (.noEdge n.id handle)) ↔
        handle = Output.firstMatch? outputs store ∧
          ∀ edge ∈ flow.outgoing n.id, edge.handle ≠ handle) := by
  have hexact : ∀ r, (flow.resolve n store).1 = .ok r ↔ flow.Sifts n.id store outputs r :=
    fun r => resolve_eq_iff_sifts hn hc hout
  obtain ⟨found, hfound⟩ := flow.exists_sifts n.id store outputs
  refine ⟨⟨found, (hexact found).mpr hfound⟩, hexact, fun haccepts =>
    ⟨fun edge => ?_, fun handle => (hexact _).trans (sifts_noEdge_iff hn hc haccepts)⟩⟩
  exact (exists_congr fun target => hexact _).trans (exists_sifts_next_iff hn hc haccepts)

/-- The one that matches first is rejected, and the default is taken; and where the question is
reached through the handle it asks for, the first match is taken. -/
theorem resolve_sieve_exact :
    let outputs : List Output :=
      [⟨"one", none, ⟨.and, [⟨"count", .equals, "1"⟩]⟩⟩, ⟨"many", none, .always⟩]
    let size : Node := ⟨"size", .condition (.multiOutput outputs)⟩
    size ∈ sieve.nodes ∧ sieve.outgoing "size" ≠ [] ∧
    size ∈ graded.nodes ∧ graded.outgoing "size" ≠ [] ∧
    (sieve.resolve size (Store.empty.set "count" "1" "ask")).1 =
      .ok (.next ⟨"bye", .finish none⟩ ⟨"third", "size", "bye", some "many"⟩) ∧
    ∃ target, (graded.resolve size Store.empty).1 =
      .ok (.next target ⟨"fourth", "size", "sure", some "many"⟩) := by
  intro outputs size
  have hsieve : size ∈ sieve.nodes ∧ sieve.outgoing "size" ≠ [] := by decide
  have hgraded : size ∈ graded.nodes ∧ graded.outgoing "size" ≠ [] := by decide
  refine ⟨hsieve.1, hsieve.2, hgraded.1, hgraded.2, ?_, ?_⟩
  · obtain ⟨-, hexact, -⟩ := resolve_multiOutput_exact hsieve.1 rfl hsieve.2
      (Store.empty.set "count" "1" "ask")
    have hcomes : sieve.ComesTo "size" (Store.empty.set "count" "1" "ask") outputs
        ⟨"many", none, .always⟩ := ⟨[⟨"one", none, ⟨.and, [⟨"count", .equals, "1"⟩]⟩⟩], [], rfl,
      rfl, by decide⟩
    exact (hexact _).mpr (Sifts.next hcomes (by decide) (by decide) rfl rfl)
  · obtain ⟨-, -, hfirst⟩ := resolve_multiOutput_exact hgraded.1 rfl hgraded.2 Store.empty
    have hadmits : graded.AdmitsAll "size" := by decide
    exact ((hfirst hadmits.not_rejects).1 _).mpr ⟨by decide, by decide⟩

end Flow

end Dialogue

import Dialogue.Proofs.Flow.Blanks
import Dialogue.Proofs.Session.Replay
import Dialogue.Proofs.Session.Restore

/-!
# What a run depends on of its answers

Where a session goes depends on its answers only as far as rules read them. Let two sessions
get the same calls but for the answers, and let the answers to each question differ in outer
blanks only, unless no rule of the flow mentions the variable of the question. Then both are
always in the same place, and get the same but for the values that are shown at the end
(`Dialogue.Session.routing_reads_trimmed`).

The invariant is that the sessions are akin (`Dialogue.Session.Akin`): all that decides about
the next call is the same in both, and their stores read alike for the rules of the flow.
Since stores that read alike lead along the same routes, a pass keeps it
(`Dialogue.Session.Akin.pass`), and an answer that varies within these bounds keeps it too
(`Dialogue.Store.ReadsLike.set`).
-/

namespace Dialogue

/-- Answers that read alike, or that no rule asks for, keep stores alike. -/
theorem Store.ReadsLike.set {rules : List Rule} {store store' : Store}
    (h : store.ReadsLike rules store') {name value value' : String}
    (hvalue : Text.trim value' = Text.trim value ∨ ∀ r ∈ rules, r.field ≠ name)
    (node node' : String) :
    (store.set name value node).ReadsLike rules (store'.set name value' node') := by
  intro r hr
  unfold trimmed
  rw [get?_set, get?_set]
  by_cases hname : r.field = name
  · obtain hsame | hunread := hvalue
    · simpa only [if_pos hname, Option.getD_some] using hsame
    · exact absurd hname (hunread r hr)
  · rw [if_neg hname, if_neg hname]
    exact h r hr

/-! ### Events but for the values -/

/-- An event without the values of the variables. -/
def Event.withoutValues : Event → Event
  | .completed _ early endNode => .completed .empty early endNode
  | e => e

/-- What a caller gets for a call, without the values of the variables. -/
def Session.withoutValues (result : Except Refusal (List Event)) : Except Refusal (List Event) :=
  result.map (·.map Event.withoutValues)

/-- The event that closes a pass depends on the store by the values only. -/
theorem Ending.withoutValues_closing (ending : Ending) (policy : DeadEndPolicy)
    (store store' : Store) :
    (ending.closing policy store').withoutValues =
      (ending.closing policy store).withoutValues := by
  cases ending with
  | arrival n =>
    simp only [closing, Node.closing]
    cases n.content <;> rfl
  | endOfFlow => rfl
  | unresolved reason => cases policy <;> rfl
  | stopped reason => rfl

/-! ### Calls that vary -/

/-- **A call varies** if the answer that it gives does, within what the rules of the flow do
not tell apart: the answers are the same without outer blanks, or the question that is pending
asks for a variable that no rule mentions. All other calls are the same, and none starts on
another flow. -/
inductive Call.Varies (flow : Flow) (s : Session) : Call → Call → Prop
  | start : Varies flow s (.start flow) (.start flow)
  | submit {value value' : String}
      (within : ∀ q, s.pendingQuestion? = some q →
        Text.trim value' = Text.trim value ∨ ∀ r ∈ flow.rules, r.field ≠ q.variableName) :
      Varies flow s (.submit value) (.submit value')
  | select (picked : String) : Varies flow s (.select picked) (.select picked)
  | reset : Varies flow s .reset .reset
  | restart : Varies flow s .restart .restart

/-- **A plan varies** in the same way. -/
inductive Plan.Varies (flow : Flow) : Plan → Plan → Prop
  | refuse (refusal : Refusal) : Varies flow (.refuse refusal) (.refuse refusal)
  | forget : Varies flow .forget .forget
  | begin : Varies flow (.begin flow) (.begin flow)
  | answer {node : Node} {q : Question} {value value' : String}
      (known : flow.node? node.id = some node)
      (within : Text.trim value' = Text.trim value ∨
        ∀ r ∈ flow.rules, r.field ≠ q.variableName) :
      Varies flow (.answer flow node q value) (.answer flow node q value')
  | giveUp (cursor : String) : Varies flow (.giveUp cursor) (.giveUp cursor)

namespace Session

/-- **The calls of a run vary**, each by what is pending when it is made. Their times do not
matter. -/
inductive Varied (flow : Flow) :
    Session → List (String × Call) → List (String × Call) → Prop
  | nil (s : Session) : Varied flow s [] []
  | cons {s : Session} {now now' : String} {c c' : Call} {rest rest' : List (String × Call)}
      (first : c.Varies flow s c') (later : Varied flow (s.perform now c).1 rest rest') :
      Varied flow s ((now, c) :: rest) ((now', c') :: rest')

/-- The first calls of a run that varies are one as well. -/
theorem Varied.take {flow : Flow} {s : Session} {calls calls' : List (String × Call)}
    (h : Varied flow s calls calls') (k : Nat) :
    Varied flow s (calls.take k) (calls'.take k) := by
  induction h generalizing k with
  | nil s => rw [List.take_nil]; exact nil s
  | @cons s now now' c c' rest rest' first later ih =>
    cases k with
    | zero => exact nil s
    | succ k => exact cons first (ih k)

/-! ### Sessions that are akin -/

/-- **Two sessions are akin** on a flow: they hold no other, all that decides about the next
call is the same in both, and their stores read alike for the rules of the flow. -/
structure Akin (flow : Flow) (s r : Session) : Prop where
  settings : r.settings = s.settings
  held : r.flow = s.flow
  holds : ∀ other, s.flow = some other → other = flow
  state : r.state = s.state
  cursor : r.cursor = s.cursor
  abortReason : r.abortReason = s.abortReason
  store : s.store.ReadsLike flow.rules r.store

/-- **Two outcomes are akin**: the same is refused, or the sessions are akin and the same is
shown but for the values. -/
inductive AkinStep (flow : Flow) : Outcome → Outcome → Prop
  | refused (refusal : Refusal) : AkinStep flow (.error refusal) (.error refusal)
  | done {out out' : Session × List Event} (akin : Akin flow out.1 out'.1)
      (shown : out'.2.map Event.withoutValues = out.2.map Event.withoutValues) :
      AkinStep flow (.ok out) (.ok out')

variable {flow : Flow} {s r : Session} {p p' : Progress} {c c' : Call} {origin : Node}

/-- Sessions that are akin stay so when they are closed by events that are the same but for
the values. -/
theorem Akin.closed (h : Akin flow s r) {e e' : Event} (he : e'.withoutValues = e.withoutValues)
    (now now' : String) : Akin flow (s.closed now e) (r.closed now' e') := by
  refine
    { settings := by rw [settings_closed, settings_closed, h.settings]
      held := by rw [flow_closed, flow_closed, h.held]
      holds := by rw [flow_closed]; exact h.holds
      state := ?_
      cursor := by rw [cursor_closed, cursor_closed, h.cursor]
      abortReason := ?_
      store := by rw [store_closed, store_closed]; exact h.store }
  · cases e <;> cases e' <;> simp_all [Event.withoutValues, Session.closed, h.state]
  · cases e <;> cases e' <;> simp_all [Event.withoutValues, Session.closed, h.abortReason]

/-- What is logged and observed does not matter. -/
theorem Akin.close (h : Akin flow p.session p'.session) {e e' : Event}
    (he : e'.withoutValues = e.withoutValues) (now now' : String) :
    Akin flow (p.close now e).session (p'.close now' e').session := by
  refine Akin.closed ?_ he now now'
  exact ⟨h.settings, h.held, h.holds, h.state, h.cursor, h.abortReason, h.store⟩

/-- **Sessions that are akin pass alike.** -/
theorem Akin.pass (h : Akin flow p.session p'.session)
    (hevents : p'.events.map Event.withoutValues = p.events.map Event.withoutValues)
    (hknown : flow.node? origin.id = some origin) (now now' : String) (entered : List String) :
    AkinStep flow (.ok (ofProgress (p.pass now flow origin.id entered)))
      (.ok (ofProgress (p'.pass now' flow origin.id entered))) := by
  have hroute := Flow.route_congr h.store hknown p.session.settings.maxAutoSteps entered
    p.session.settings.maxAutoSteps
  have hleads := flow.leads_route p.session.store p.session.settings.maxAutoSteps origin entered
    p.session.settings.maxAutoSteps
  have hleads' := flow.leads_route p'.session.store p.session.settings.maxAutoSteps origin entered
    p.session.settings.maxAutoSteps
  rw [Progress.pass, Progress.pass, Progress.advance_eq_travel hknown,
    Progress.advance_eq_travel hknown, h.settings]
  simp only [hroute] at hleads' ⊢
  generalize flow.route p.session.store p.session.settings.maxAutoSteps origin entered
    p.session.settings.maxAutoSteps = route at hleads hleads' ⊢
  rw [Progress.travel_eq hleads rfl, Progress.travel_eq hleads' rfl, h.settings]
  have hclosing := route.ending.withoutValues_closing p.session.settings.deadEnd p.session.store
    p'.session.store
  have halong : Akin flow (p.along flow origin route.transit route.ending).session
      (p'.along flow origin route.transit route.ending).session :=
    { h with cursor := congrArg (Option.or _) h.cursor }
  refine AkinStep.done (halong.close hclosing now now') ?_
  simp only [ofProgress, Progress.close, Progress.along, List.map_append, hevents, List.map_cons,
    hclosing]

/-- An answer comes to the same plan whatever its text, unless a question waits for it. -/
theorem plan_submit_cases (s : Session) (value value' : String) :
    s.plan (.submit value') = s.plan (.submit value) ∨
      ∃ flow origin q, s.WaitsAt flow origin q := by
  cases hpending : s.pendingQuestion? with
  | some q => exact Or.inr ((exists_waitsAt hpending).imp fun _ h => h.imp fun _ h => ⟨q, h⟩)
  | none =>
    refine Or.inl ?_
    rw [plan, plan, planAnswer, planAnswer]
    cases hwaiting : s.waiting .submitAnswer with
    | error refusal => rfl
    | ok place =>
      obtain ⟨flow, cursor⟩ := place
      rw [pendingQuestion?_of_waiting hwaiting] at hpending
      cases hnode : flow.node? cursor with
      | none => simp only [hnode]
      | some node =>
        have hasks : node.question? = none := by simpa [hnode] using hpending
        simp only [hnode, hasks]

/-- What is planned for a session that holds no other flow varies with the call. -/
theorem plan_varies (holds : ∀ other, s.flow = some other → other = flow)
    (hc : c.Varies flow s c') : (s.plan c).Varies flow (s.plan c') := by
  -- a plan that does not vary is about the flow that is held
  have hsame : (∀ other, c = .start other → other = flow) →
      (s.plan c).Varies flow (s.plan c) := by
    intro hstart
    have hplanned := s.planned c
    generalize s.plan c = plan at hplanned
    cases hplanned with
    | refuse c refusal => exact Plan.Varies.refuse refusal
    | forget => exact Plan.Varies.forget
    | @start other idle => exact hstart other rfl ▸ Plan.Varies.begin
    | @restart other loaded => exact holds other loaded ▸ Plan.Varies.begin
    | @answer c other origin q value place gives =>
      obtain rfl := holds other place.loaded
      exact Plan.Varies.answer place.known (Or.inl rfl)
    | @giveUp c cursor answers lost => exact Plan.Varies.giveUp cursor
  cases hc with
  | start => exact hsame fun other hother => (Call.start.inj hother).symm
  | @submit value value' within =>
    obtain hplan | ⟨other, origin, q, place⟩ := s.plan_submit_cases value value'
    · exact hplan ▸ hsame (by simp)
    · obtain rfl := holds other place.loaded
      have hplan : s.plan (.submit value) = .answer other origin q value := place.plan_eq rfl
      have hplan' : s.plan (.submit value') = .answer other origin q value' := place.plan_eq rfl
      rw [hplan, hplan']
      exact Plan.Varies.answer place.known (within q place.pendingQuestion?_eq)
  | select picked => exact hsame (by simp)
  | reset => exact hsame (by simp)
  | restart => exact hsame (by simp)

/-- **Plans that vary are carried out alike** in sessions that are akin. -/
theorem Akin.carryOut {plan plan' : Plan} (h : Akin flow s r) (hplan : plan.Varies flow plan')
    (now now' : String) : AkinStep flow (plan.carryOut s now) (plan'.carryOut r now') := by
  cases hplan with
  | refuse refusal => exact AkinStep.refused refusal
  | forget =>
    refine AkinStep.done { h with state := rfl, cursor := rfl, abortReason := rfl, store := ?_ } rfl
    have hstore : r.reset.store = s.reset.store := congrArg Settings.newStore h.settings
    exact hstore ▸ Store.ReadsLike.refl _ _
  | begin =>
    refine pass ?_ (by rw [begun_eq, begun_eq]) flow.node?_start now now' _
    rw [begun_eq, begun_eq, h.settings]
    exact ⟨rfl, rfl, fun other hother => (Option.some.inj hother).symm, rfl, rfl, rfl,
      Store.ReadsLike.refl _ _⟩
  | answer known within =>
    refine pass ?_ (by rw [answered_eq, answered_eq]) known now now' _
    rw [answered_eq, answered_eq]
    exact { h with state := rfl, store := h.store.set within _ _ }
  | giveUp cursor =>
    rw [Plan.carryOut, Plan.carryOut, Progress.abort_eq, Progress.abort_eq]
    refine AkinStep.done ?_ rfl
    exact Akin.close (e := .aborted (.defect (.nodeNotFound cursor))) h rfl now now'

/-! ### Runs -/

/-- **The step of a run**: calls that vary do the same to sessions that are akin. -/
theorem Akin.perform (h : Akin flow s r) (hc : c.Varies flow s c') (now now' : String) :
    withoutValues (r.perform now' c').2 = withoutValues (s.perform now c).2 ∧
      Akin flow (s.perform now c).1 (r.perform now' c').1 := by
  have hplan : r.plan c' = s.plan c' := plan_congr h.state h.held h.cursor c'
  have hstep := h.carryOut (plan_varies h.holds hc) now now'
  rw [← hplan, ← call_eq_carryOut, ← call_eq_carryOut] at hstep
  unfold Session.perform
  generalize s.call now c = o at hstep
  generalize r.call now' c' = o' at hstep
  cases hstep with
  | refused refusal => exact ⟨rfl, h⟩
  | done akin shown => exact ⟨congrArg Except.ok shown, akin⟩

/-- **Runs that vary do the same to sessions that are akin.** -/
theorem Akin.performAll {calls calls' : List (String × Call)} (h : Akin flow s r)
    (hcalls : Varied flow s calls calls') :
    (r.performAll calls').2.map withoutValues = (s.performAll calls).2.map withoutValues ∧
      Akin flow (s.performAll calls).1 (r.performAll calls').1 := by
  induction hcalls generalizing r with
  | nil s => exact ⟨rfl, h⟩
  | @cons s now now' c c' rest rest' first later ih =>
    obtain ⟨hresult, hnext⟩ := h.perform first now now'
    obtain ⟨hresults, hlast⟩ := ih hnext
    exact ⟨List.cons_eq_cons.mpr ⟨hresult, hresults⟩, hlast⟩

/-- **Two sessions are paired** on a flow: both are new and have the same settings, or both are
restored on the flow from snapshots that differ in their ids at most, and in values that rules
do not tell apart. -/
inductive Paired (flow : Flow) : Session → Session → Prop
  | new (settings : Settings) (id id' : SessionId) :
      Paired flow (Session.new settings id) (Session.new settings id')
  | restored {settings : Settings} {snap snap' : Snapshot} {s r : Session}
      (first : Session.restore settings flow snap = .ok s)
      (second : Session.restore settings flow snap' = .ok r)
      (state : snap'.state = snap.state) (cursor : snap'.cursor = snap.cursor)
      (abortReason : snap'.abortReason = snap.abortReason)
      (store : snap.store.ReadsLike flow.rules snap'.store) : Paired flow s r

/-- Sessions that are paired are akin. -/
theorem Paired.akin (h : Paired flow s r) : Akin flow s r := by
  cases h with
  | new settings id id' =>
    exact ⟨rfl, rfl, by simp [Session.new], rfl, rfl, rfl, Store.ReadsLike.refl _ _⟩
  | @restored settings snap snap' s r first second state cursor abortReason store =>
    cases restore_eq_ok_iff.mp first with
    | idle idle =>
      cases restore_eq_ok_iff.mp second with
      | idle idle' =>
        exact ⟨rfl, rfl, by simp [Session.new], rfl, rfl, rfl, Store.ReadsLike.refl _ _⟩
      | standing started stands known fits => exact absurd (state.trans idle) started
    | @standing place node settled started stands known fits =>
      cases restore_eq_ok_iff.mp second with
      | idle idle' => exact absurd (state.symm.trans idle') started
      | @standing place' node' settled' started' stands' known' fits' =>
        obtain rfl : place' = place := Option.some.inj (stands'.symm.trans (cursor.trans stands))
        obtain rfl : node' = node := Option.some.inj (known'.symm.trans known)
        obtain rfl : settled' = settled := Except.ok.inj (fits'.symm.trans (state ▸ fits))
        exact ⟨rfl, rfl, fun other hother => (Option.some.inj hother).symm, rfl, rfl,
          by simp only [abortReason], store⟩

/-- **Routing depends on the answers only as far as rules read them.** Stores in which the
fields of all rules of a flow are the same without outer blanks, a variable without a value
counting as blank, lead to the same resolution after each of its nodes. Hence two sessions that
are paired on a flow and get calls that vary in their answers, within what its rules do not tell
apart, get the same, but for the values shown at the end; and after each call they are in the
same state, at the same node, and aborted for the same reason, if at all. -/
theorem routing_reads_trimmed (flow : Flow) :
    (∀ (n : Node) (store store' : Store), n ∈ flow.nodes →
      (∀ r ∈ flow.rules, store'.trimmed r.field = store.trimmed r.field) →
      (flow.resolve n store').1 = (flow.resolve n store).1) ∧
    ∀ s r : Session, Paired flow s r →
      ∀ calls calls' : List (String × Call), Varied flow s calls calls' →
        (r.performAll calls').2.map withoutValues = (s.performAll calls).2.map withoutValues ∧
        ∀ k, (r.performAll (calls'.take k)).1.state = (s.performAll (calls.take k)).1.state ∧
          (r.performAll (calls'.take k)).1.cursor = (s.performAll (calls.take k)).1.cursor ∧
          (r.performAll (calls'.take k)).1.abortReason =
            (s.performAll (calls.take k)).1.abortReason := by
  refine ⟨fun n store store' hn hsame => ?_, fun s r hpaired calls calls' hcalls => ?_⟩
  · have hreads : store.ReadsLike flow.rules store' := hsame
    exact Flow.resolve_congr (hreads.mono (Flow.rules_subset hn))
  · refine ⟨(hpaired.akin.performAll hcalls).1, fun k => ?_⟩
    have hafter := (hpaired.akin.performAll (hcalls.take k)).2
    exact ⟨hafter.state, hafter.cursor, hafter.abortReason⟩

/-- An answer with blanks around it lets the name be asked for all the same, and since no rule
mentions the name, all of it may differ. -/
theorem routing_reads_trimmed_gated :
    let check : Node := ⟨"check", .condition (.simple ⟨.and, [⟨"adult", .equals, "yes"⟩]⟩)⟩
    let calls := [("1", .start .gated), ("2", .submit "yes"), ("3", .submit "Ada")]
    let calls' := [("4", .start .gated), ("5", .submit " yes "), ("6", .submit "Grace")]
    let s := (Session.new default default).performAll calls
    let r := (Session.new default default).performAll calls'
    (Flow.gated.resolve check (Store.empty.set "adult" " yes " "age")).1 =
        (Flow.gated.resolve check (Store.empty.set "adult" "yes" "age")).1 ∧
      Varied .gated (Session.new default default) calls calls' ∧
      s.1.state = .completed ∧ r.2 ≠ s.2 ∧
      r.2.map withoutValues = s.2.map withoutValues ∧ r.1.state = s.1.state := by
  intro check calls calls' s r
  obtain ⟨hresolve, hruns⟩ := routing_reads_trimmed .gated
  have hvaried : Varied .gated (Session.new default default) calls calls' := by
    refine .cons .start (.cons (.submit fun q _ => Or.inl (by decide))
      (.cons (.submit fun q hq => Or.inr ?_) (.nil _)))
    -- the name is asked for now
    revert q
    decide
  obtain ⟨hresults, hafter⟩ := hruns _ _ (.new default default default) _ _ hvaried
  exact ⟨hresolve check _ _ (by decide) (by decide), hvaried, by decide, by decide, hresults,
    (hafter 3).1⟩

end Session

end Dialogue

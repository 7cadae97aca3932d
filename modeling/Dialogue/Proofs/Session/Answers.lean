import Dialogue.Proofs.Session.Defects
import Dialogue.Proofs.Session.Passes
import Mathlib.Data.List.Induction

/-!
# The answers of a run

What a session stores are the answers that it was given since its run began: all of them,
in their order, and nothing else (`Dialogue.Session.answers_performAll`). Which answers
these are is read off the calls (`Dialogue.Session.givenIn`): a call that is refused gives
none, an answer is given to the question that is pending, and a new run or a reset forgets
the answers before it. The variables hold the answer given last to each
(`Dialogue.Answer.values`); the history holds each answer together with the one that it
replaces (`Dialogue.Answer.writes`).
-/

namespace Dialogue

/-- An answer, with the question to which it was given and the variable of that question. -/
structure Answer where
  node : String
  variableName : String
  value : String
  deriving DecidableEq, Repr

namespace Answer

/-- The value given last to a variable. -/
def latest? (given : List Answer) (name : String) : Option String :=
  (given.filter (·.variableName == name)).getLast?.map (·.value)

/-- The variables after some answers. -/
def values (given : List Answer) : StringMap String :=
  given.foldl (fun m a => m.insert a.variableName a.value) .empty

/-- The writes of some answers, each with the value that its variable had before. -/
def writes (given : List Answer) : List Write :=
  given.mapIdx fun i a => ⟨a.variableName, a.value, latest? (given.take i) a.variableName, a.node⟩

variable (given : List Answer) (a : Answer) (name : String)

theorem latest?_concat :
    latest? (given ++ [a]) name = if name = a.variableName then some a.value
      else latest? given name := by
  by_cases h : name = a.variableName
  · simp [latest?, h]
  · simp [latest?, h, Ne.symm h]

theorem values_concat : values (given ++ [a]) = (values given).insert a.variableName a.value := by
  simp [values]

/-- One more answer is one more write, and leaves the writes before it as they are. -/
theorem writes_concat :
    writes (given ++ [a]) = writes given ++
      [⟨a.variableName, a.value, latest? given a.variableName, a.node⟩] := by
  have hearlier : ∀ i < given.length, (given ++ [a]).take i = given.take i :=
    fun i hi => List.take_append_of_le_length (Nat.le_of_lt hi)
  rw [writes, List.mapIdx_concat, List.take_left]
  refine congrArg (· ++ _) (List.mapIdx_eq_mapIdx_iff.mpr fun i hi => ?_)
  rw [hearlier i hi]

/-- **A variable holds the answer given last to it.** -/
theorem get?_values : (values given).get? name = latest? given name := by
  induction given using List.reverseRecOn with
  | nil => rfl
  | append_singleton given a ih =>
    rw [values_concat, StringMap.get?_insert, ih, latest?_concat]

/-- A variable holds something if an answer was given to it. -/
theorem isSome_latest?_iff :
    (latest? given name).isSome = true ↔ ∃ a ∈ given, a.variableName = name := by
  rw [latest?, Option.isSome_map, List.getLast?_isSome, Ne, List.filter_eq_nil_iff]
  simp

end Answer

namespace Session

/-! ### The answers that calls give -/

/-- The answer that a call gives to the question that is pending, if it does. -/
def answer? (s : Session) (c : Call) : Option Answer := do
  let node ← s.cursor
  let q ← s.pendingQuestion?
  let value ← c.answerTo? q
  return ⟨node, q.variableName, value⟩

/-- The answers of a run after a call, of which `given` came before it. -/
def givenAfter (s : Session) (now : String) (c : Call) (given : List Answer) : List Answer :=
  match s.call now c with
  | .error _ => given
  | .ok _ =>
    match c with
    | .submit _ | .select _ => given ++ (s.answer? c).toList
    | .start _ | .reset | .restart => []

/-- The answers of a run after some calls, of which `given` came before them. -/
def givenIn (s : Session) (given : List Answer) : List (String × Call) → List Answer
  | [] => given
  | (now, c) :: rest => (s.perform now c).1.givenIn (s.givenAfter now c given) rest

/-- **A session stores some answers**, and nothing else. -/
structure Stores (s : Session) (given : List Answer) : Prop where
  values : s.store.values = Answer.values given
  history : s.store.history =
    if s.settings.recordHistory then some (Answer.writes given) else none

variable {s : Session} {now : String} {c : Call} {given : List Answer} {flow : Flow}
  {origin : Node} {q : Question} {value : String} {p : Progress} {out : Session × List Event}

/-- Where a session waits, an answer is given to the question at which it does. -/
theorem WaitsAt.answer?_eq (h : s.WaitsAt flow origin q) (hgives : c.answerTo? q = some value) :
    s.answer? c = some ⟨origin.id, q.variableName, value⟩ := by
  simp [answer?, h.stands, h.pendingQuestion?_eq, hgives]

/-- A session that is lost is given no answer. -/
theorem Lost.answer?_eq {cursor : String} (h : Lost s cursor) (c : Call) : s.answer? c = none := by
  simp [answer?, h.pendingQuestion?_eq]

theorem givenAfter_of_error {refusal : Refusal} (h : s.call now c = .error refusal) :
    s.givenAfter now c given = given := by
  simp only [givenAfter, h]

theorem givenAfter_of_answers (given : List Answer) (h : s.call now c = .ok out)
    (hc : c.Answers) : s.givenAfter now c given = given ++ (s.answer? c).toList := by
  cases c with
  | submit | select => simp only [givenAfter, h]
  | _ => exact hc.elim

/-- A call that begins a run or resets the session forgets the answers. -/
theorem givenAfter_of_not_answers (given : List Answer) (h : s.call now c = .ok out)
    (hc : ¬ c.Answers) : s.givenAfter now c given = [] := by
  cases c with
  | submit | select => exact absurd trivial hc
  | _ => simp only [givenAfter, h]

/-! ### What calls store -/

/-- A session whose store is new stores no answers. -/
theorem stores_nil (h : s.store = s.settings.newStore) : s.Stores [] := by
  constructor <;> rw [h, Settings.newStore] <;> split <;> rfl

/-- What is stored depends on the store and on the settings alone. -/
theorem Stores.congr {s' : Session} (h : s.Stores given) (hstore : s'.store = s.store)
    (hsettings : s'.settings = s.settings) : s'.Stores given := by
  refine ⟨?_, ?_⟩
  · rw [hstore, h.values]
  · rw [hstore, hsettings, h.history]

/-- **An answer is stored after those before it.** -/
theorem Stores.answered (h : s.Stores given) (node : String) (q : Question) (value : String) :
    (s.answered node q value).session.Stores (given ++ [⟨node, q.variableName, value⟩]) := by
  have hprevious : s.store.get? q.variableName = Answer.latest? given q.variableName := by
    rw [Store.get?, h.values, Answer.get?_values]
  rw [answered_eq]
  constructor
  · rw [Answer.values_concat, ← h.values]
    rfl
  · rw [Answer.writes_concat]
    simp only [Store.set, h.history, hprevious]
    split <;> rfl

/-- A pass stores nothing. -/
theorem Stores.pass (h : p.session.Stores given) (hknown : flow.node? origin.id = some origin)
    (now : String) (entered : List String) :
    (ofProgress (p.pass now flow origin.id entered)).1.Stores given := by
  have hleads := flow.leads_route p.session.store p.session.settings.maxAutoSteps origin entered
    p.session.settings.maxAutoSteps
  rw [ofProgress, Progress.pass, Progress.advance_eq_travel hknown]
  exact h.congr (Progress.store_travel hleads rfl now) (Progress.settings_travel hleads rfl now)

/-- **A call that is not refused stores the answer that it gives.** -/
theorem Stores.call (h : s.Stores given) (hcall : s.call now c = .ok out) :
    out.1.Stores (s.givenAfter now c given) := by
  have hbegin : ∀ flow : Flow, (ofProgress ((s.begun now flow).pass now flow flow.start.id
      (flow.start.seeds true))).1.Stores [] := by
    intro flow
    have hbegun : (s.begun now flow).session.Stores [] := stores_nil (by rw [begun_eq])
    exact hbegun.pass flow.node?_start now _
  have hkept := givenAfter_of_answers given hcall
  have hforgets := givenAfter_of_not_answers given hcall
  obtain ⟨plan, hplanned, hout⟩ := exists_planned_of_call hcall
  cases hplanned with
  | refuse c refusal => simp [Plan.carryOut] at hout
  | forget =>
    obtain rfl := Except.ok.inj hout
    rw [hforgets not_false]
    exact stores_nil rfl
  | start idle =>
    obtain rfl := Except.ok.inj hout
    rw [hforgets not_false]
    exact hbegin _
  | restart loaded =>
    obtain rfl := Except.ok.inj hout
    rw [hforgets not_false]
    exact hbegin _
  | answer place gives =>
    obtain rfl := Except.ok.inj hout
    rw [hkept (Call.answers_of_answerTo? gives), place.answer?_eq gives]
    exact (h.answered _ _ _).pass place.known now _
  | giveUp answers lost =>
    obtain rfl := Except.ok.inj hout
    rw [hkept answers, lost.answer?_eq c, Progress.abort_eq, Option.toList_none, List.append_nil]
    exact h.congr store_closed settings_closed

/-- **A call stores the answer that it gives**, if any. -/
theorem Stores.perform (h : s.Stores given) (now : String) (c : Call) :
    (s.perform now c).1.Stores (s.givenAfter now c given) := by
  unfold Session.perform
  cases hcall : s.call now c with
  | error refusal =>
    rw [givenAfter_of_error hcall]
    exact h
  | ok out => exact h.call hcall

/-- **Calls store the answers that they give.** -/
theorem Stores.performAll (h : s.Stores given) (calls : List (String × Call)) :
    (s.performAll calls).1.Stores (s.givenIn given calls) := by
  induction calls generalizing s given with
  | nil => exact h
  | cons entry rest ih => exact ih (h.perform entry.1 entry.2)

/-- **A call that answers is not refused exactly if it answers the question that is pending.**
The session waits only at questions. -/
theorem Founded.answers_iff (h : s.Founded) (now : String) (hc : c.Answers) :
    (∃ out, s.call now c = .ok out) ↔ ∃ a, s.answer? c = some a := by
  constructor
  · rintro ⟨out, hcall⟩
    obtain ⟨plan, hplanned, hout⟩ := exists_planned_of_call hcall
    cases hplanned with
    | refuse c refusal => simp [Plan.carryOut] at hout
    | answer place gives => exact ⟨_, place.answer?_eq gives⟩
    | giveUp answers lost => exact absurd lost (h.not_lost _)
    | _ => exact hc.elim
  · rintro ⟨a, ha⟩
    obtain ⟨cursor, -, hrest⟩ := Option.bind_eq_some_iff.mp ha
    obtain ⟨q, hq, hgives⟩ := Option.bind_eq_some_iff.mp hrest
    obtain ⟨value, hvalue, -⟩ := Option.bind_eq_some_iff.mp hgives
    obtain ⟨flow, origin, hplace⟩ := exists_waitsAt hq
    rw [call_eq_carryOut, hplace.plan_eq hvalue]
    exact ⟨_, rfl⟩

/-- **No answer is lost, invented or misfiled.** After whatever calls to a new session, refused
or not, its variables are those of the answers given since its run began, and no others; each
holds the answer given last to it, and the history, if it is kept, records the answers one by
one. The next answer is accepted exactly if it answers the question that is pending; and if the
session completes, the values shown are those of all answers up to then. -/
theorem answers_performAll (settings : Settings) (id : SessionId) (calls : List (String × Call)) :
    let s := ((Session.new settings id).performAll calls).1
    let given := (Session.new settings id).givenIn [] calls
    s.store.values = Answer.values given ∧
      (∀ name, s.store.get? name = Answer.latest? given name) ∧
      (∀ name, s.store.contains name = true ↔ ∃ a ∈ given, a.variableName = name) ∧
      s.store.history = (if settings.recordHistory then some (Answer.writes given) else none) ∧
      (∀ now c, c.Answers → ((∃ out, s.call now c = .ok out) ↔ ∃ a, s.answer? c = some a)) ∧
      ∀ now c s' events, s.call now c = .ok (s', events) →
        ∀ values early endNode, .completed values early endNode ∈ events →
          values = Answer.values (s.givenAfter now c given) := by
  intro s given
  have hsettings : s.settings = settings := settings_performAll _ calls
  have hstores : s.Stores given := (stores_nil (s := Session.new settings id) rfl).performAll calls
  have hfounded : s.Founded := ((Made.new settings id).founded.performAll calls).1
  have hlatest : ∀ name, s.store.get? name = Answer.latest? given name := by
    intro name
    rw [Store.get?, hstores.values, Answer.get?_values]
  refine ⟨hstores.values, hlatest, fun name => ?_, hsettings ▸ hstores.history,
    fun now c hc => hfounded.answers_iff now hc, ?_⟩
  · have hcontains : s.store.contains name = (s.store.get? name).isSome := rfl
    rw [hcontains, hlatest]
    exact Answer.isSome_latest?_iff given name
  · intro now c s' events hcall values early endNode hshown
    obtain ⟨-, hvalues, -⟩ := (turn_of_call hcall).closedBy_of_mem hshown (by simp)
    rw [hvalues, (hstores.call hcall).values]

end Session

/-- A flow that asks twice for a name. -/
def Flow.renamed : Flow where
  nodes := [⟨"start", .start⟩, ⟨"name", .question ⟨"Your name?", [], "name", .empty⟩⟩,
    ⟨"form", .question ⟨"More formally?", [⟨"y", "Yes", "Ms Lovelace"⟩], "name", .empty⟩⟩,
    ⟨"bye", .finish none⟩]
  edges := [⟨"first", "start", "name", none⟩, ⟨"second", "name", "form", none⟩,
    ⟨"third", "form", "bye", none⟩]
  sound := by decide

/-- Two answers are given to one variable, and a text that picks no option in between. The
session completes with the second. -/
theorem Session.answers_performAll_renamed :
    let settings : Settings := { (default : Settings) with recordHistory := true }
    let given : List Answer := [⟨"name", "name", "Ada"⟩, ⟨"form", "name", "Ms Lovelace"⟩]
    let before : List (String × Call) :=
      [("now", .start .renamed), ("now", .submit "Ada"), ("now", .select "n")]
    let s := ((Session.new settings default).performAll before).1
    let after := before ++ [("now", .select "y")]
    ((Session.new settings default).performAll after).1.store.history = some
        [⟨"name", "Ada", none, "name"⟩, ⟨"name", "Ms Lovelace", some "Ada", "form"⟩] ∧
      ∃ s' values, s.call "now" (.select "y") = .ok (s', [.completed values false (some "bye")]) ∧
        values = Answer.values given := by
  intro settings given before s after
  have hgiven : (Session.new settings default).givenIn [] after = given := by
    decide
  have hafter : s.givenAfter "now" (.select "y")
      ((Session.new settings default).givenIn [] before) = given := by
    decide
  have hshown : (s.perform "now" (.select "y")).2 =
      .ok [.completed (StringMap.empty.insert "name" "Ms Lovelace") false (some "bye")] := by
    decide
  have hwrites : Answer.writes given =
      [⟨"name", "Ada", none, "name"⟩, ⟨"name", "Ms Lovelace", some "Ada", "form"⟩] := by
    decide
  have hcall := Session.call_of_perform hshown
  obtain ⟨-, -, -, hhistory, -⟩ := Session.answers_performAll settings default after
  obtain ⟨-, -, -, -, -, hnext⟩ := Session.answers_performAll settings default before
  have hvalues := hnext _ _ _ _ hcall _ _ _ List.mem_cons_self
  rw [hgiven, hwrites] at hhistory
  rw [hafter] at hvalues
  exact ⟨hhistory, _, _, hcall, hvalues⟩

end Dialogue

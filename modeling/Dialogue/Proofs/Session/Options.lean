import Dialogue.Proofs.Session.Refusals

/-!
# Picking options

A text picks an option by its value or by its id, and both are texts of the author's choosing:
what is the value of one option may be the id of another, and two options may share either. So
it has to be said which option a text picks (`Dialogue.Question.Picks`): a value goes before
every id, and the first option before the others with its id.

What is picked is then submitted as if it had been typed
(`Dialogue.Session.WaitsAt.select_eq_submit`). That the session waits is looked up twice on the
way, and never found otherwise the second time. So only the values of options are ever stored by
picking, and the right ones (`Dialogue.Session.select_stores_offered`).
-/

namespace Dialogue

/-! ### The option that a text picks -/

/-- **What a text picks** among the options of a question: itself, if it is the value of an
option, and otherwise the value of the first option whose id it is. -/
inductive Question.Picks (q : Question) (picked : String) : String → Prop
  | byValue {o : QuestionOption} (offered : o ∈ q.options) (named : o.value = picked) :
      Picks q picked picked
  | byId {before after : List QuestionOption} {o : QuestionOption}
      (offered : q.options = before ++ o :: after) (named : o.id = picked)
      (first : ∀ e ∈ before, e.id ≠ picked) (free : ∀ e ∈ q.options, e.value ≠ picked) :
      Picks q picked o.value

namespace Question

variable {q : Question} {o : QuestionOption} {picked value : String}

/-- What is picked is the value of an option that has the text as its value or its id. -/
theorem Picks.exists_offered (h : q.Picks picked value) :
    ∃ o ∈ q.options, o.value = value ∧ (o.value = picked ∨ o.id = picked) := by
  cases h with
  | @byValue o offered named => exact ⟨o, offered, named, Or.inl named⟩
  | @byId before after o offered named first free =>
    exact ⟨o, offered ▸ List.mem_append_right before List.mem_cons_self, rfl, Or.inr named⟩

/-- Where options are offered, their values are tried first, and then their ids. -/
theorem pick?_of_offers (hoffers : q.options ≠ []) :
    q.pick? picked =
      ((q.options.find? (·.value == picked)).or (q.options.find? (·.id == picked))).map
        (·.value) := by
  rw [pick?, if_neg (by simpa using hoffers), findOption?]

/-- **What a text picks is found**, and nothing else is. -/
theorem pick?_eq_some_iff (hoffers : q.options ≠ []) :
    q.pick? picked = some value ↔ q.Picks picked value := by
  rw [pick?_of_offers hoffers]
  cases hvalue : q.options.find? (·.value == picked) with
  | some found =>
    have hnamed : found.value = picked := by simpa using List.find?_some hvalue
    have hmem : found ∈ q.options := List.mem_of_find?_eq_some hvalue
    rw [Option.some_or, Option.map_some, hnamed, Option.some_inj]
    constructor
    · rintro rfl
      exact Picks.byValue hmem hnamed
    · intro h
      cases h with
      | byValue => rfl
      | byId offered named first free => exact absurd hnamed (free found hmem)
  | none =>
    have hfree : ∀ e ∈ q.options, e.value ≠ picked := by simpa using hvalue
    rw [Option.none_or, Option.map_eq_some_iff]
    constructor
    · rintro ⟨o, ho, rfl⟩
      obtain ⟨hnamed, before, after, hoffered, hbefore⟩ := List.find?_eq_some_iff_append.mp ho
      exact Picks.byId hoffered (by simpa using hnamed) (by simpa using hbefore) hfree
    · intro h
      cases h with
      | @byValue o offered named => exact absurd named (hfree o offered)
      | @byId before after o offered named first free =>
        refine ⟨o, List.find?_eq_some_iff_append.mpr ⟨by simpa using named, before, after,
          offered, by simpa using first⟩, rfl⟩

/-- The value of an option picks an option with that value. -/
theorem pick?_value (ho : o ∈ q.options) : q.pick? o.value = some o.value :=
  (pick?_eq_some_iff (List.ne_nil_of_mem ho)).mpr (Picks.byValue ho rfl)

/-- **A text picks something** if it is the value or the id of an option. -/
theorem exists_picks_iff (hoffers : q.options ≠ []) :
    (∃ value, q.Picks picked value) ↔ ∃ o ∈ q.options, o.value = picked ∨ o.id = picked := by
  constructor
  · rintro ⟨value, h⟩
    obtain ⟨o, ho, -, hnamed⟩ := h.exists_offered
    exact ⟨o, ho, hnamed⟩
  · rintro ⟨o, ho, hnamed⟩
    cases hpick : q.pick? picked with
    | some value => exact ⟨value, (pick?_eq_some_iff hoffers).mp hpick⟩
    | none =>
      obtain ⟨hvalue, hid⟩ := (pick?_eq_none_iff.mp hpick).2 o ho
      exact absurd hnamed (not_or.mpr ⟨hvalue, hid⟩)

end Question

namespace Session

variable {s : Session} {flow : Flow} {origin : Node} {q : Question} {picked value : String}

/-! ### To pick is to submit -/

/-- To pick is to submit what is picked. -/
theorem WaitsAt.select_eq_submit (h : s.WaitsAt flow origin q) (hpick : q.pick? picked = some value)
    (now : String) : s.call now (.select picked) = s.call now (.submit value) := by
  have hsubmits : (Call.submit value).answerTo? q = some value := rfl
  rw [call_eq_carryOut, call_eq_carryOut, h.plan_eq (c := .select picked) hpick,
    h.plan_eq hsubmits]

/-- What picks nothing is refused. -/
theorem WaitsAt.select_eq_error (h : s.WaitsAt flow origin q) (hpick : q.pick? picked = none)
    (now : String) : s.call now (.select picked) = .error (.unknownOption origin.id picked) := by
  have hplan : s.plan (.select picked) = .refuse (.unknownOption origin.id picked) := by
    simp only [plan, h.planAnswer_eq, hpick]
  rw [call_eq_carryOut, hplan, Plan.carryOut]

/-- **An answer to the question at which a session waits is never refused**, and is stored. -/
theorem WaitsAt.exists_submit (h : s.WaitsAt flow origin q) (now value : String) :
    ∃ s' events, s.call now (.submit value) = .ok (s', events) ∧
      s'.store = s.store.set q.variableName value origin.id := by
  have hsubmits : (Call.submit value).answerTo? q = some value := rfl
  have hstored : (s.answered origin.id q value).session.store =
      s.store.set q.variableName value origin.id := by
    rw [answered_eq]
  rw [call_eq_carryOut, h.plan_eq hsubmits]
  refine ⟨_, _, rfl, ?_⟩
  -- the pass that follows stores nothing
  have hleads := flow.leads_route (s.answered origin.id q value).session.store
    (s.answered origin.id q value).session.settings.maxAutoSteps origin (origin.seeds false)
    (s.answered origin.id q value).session.settings.maxAutoSteps
  rw [Progress.pass, Progress.advance_eq_travel h.known, Progress.store_travel hleads rfl now,
    hstored]

/-! ### What is stored -/

/-- **What is picked is stored.** -/
theorem WaitsAt.exists_select (h : s.WaitsAt flow origin q) (hpicks : q.Picks picked value)
    (now : String) :
    ∃ s' events, s.select now picked = .ok (s', events) ∧
      s'.store.get? q.variableName = some value := by
  obtain ⟨o, ho, -⟩ := hpicks.exists_offered
  have hpick := (Question.pick?_eq_some_iff (List.ne_nil_of_mem ho)).mpr hpicks
  obtain ⟨s', events, hsubmit, hstore⟩ := h.exists_submit now value
  refine ⟨s', events, (h.select_eq_submit hpick now).trans hsubmit, ?_⟩
  rw [hstore, Store.get?_set, if_pos rfl]

/-- Where options are offered, nothing is taken but what picks one. -/
theorem WaitsAt.exists_picks (h : s.WaitsAt flow origin q) (hoffers : q.options ≠ [])
    {now : String} {out : Session × List Event} (hselect : s.select now picked = .ok out) :
    ∃ value, q.Picks picked value := by
  cases hpick : q.pick? picked with
  | some value => exact ⟨value, (Question.pick?_eq_some_iff hoffers).mp hpick⟩
  | none =>
    have hrefused : s.select now picked = .error (.unknownOption origin.id picked) :=
      h.select_eq_error hpick now
    rw [hselect] at hrefused
    simp at hrefused

/-- **Picking stores the values of options only, and the right one.** Where a question with
options is pending, a text is taken exactly if it is the value or the id of an option. The call
then leaves and returns the same as if the value that the text picks had been submitted, and that
value is stored. So every option can be picked by its value, and an option can be picked by its id
unless that is also the value of an option or the id of an earlier one. Where a question without
options is pending, any text is submitted as it is. -/
theorem select_stores_offered {s : Session} {q : Question} (hpending : s.pendingQuestion? = some q)
    (now : String) :
    (q.options ≠ [] →
      (∀ picked, (∃ out, s.select now picked = .ok out) ↔
        ∃ o ∈ q.options, o.value = picked ∨ o.id = picked) ∧
      (∀ picked value, q.Picks picked value → s.select now picked = s.submit now value) ∧
      (∀ picked s' events, s.select now picked = .ok (s', events) →
        ∃ o ∈ q.options, q.Picks picked o.value ∧ s'.store.get? q.variableName = some o.value) ∧
      (∀ o ∈ q.options, ∃ s' events, s.select now o.value = .ok (s', events) ∧
        s'.store.get? q.variableName = some o.value) ∧
      ∀ before o after, q.options = before ++ o :: after → (∀ e ∈ before, e.id ≠ o.id) →
        (∀ e ∈ q.options, e.value ≠ o.id) →
        ∃ s' events, s.select now o.id = .ok (s', events) ∧
          s'.store.get? q.variableName = some o.value) ∧
    (q.options = [] → ∀ picked, s.select now picked = s.submit now picked) := by
  obtain ⟨flow, origin, hplace⟩ := exists_waitsAt hpending
  refine ⟨fun hoffers => ⟨fun picked => ⟨?_, ?_⟩, ?_, ?_, ?_, ?_⟩, ?_⟩
  · rintro ⟨out, hselect⟩
    exact (Question.exists_picks_iff hoffers).mp (hplace.exists_picks hoffers hselect)
  · intro hnamed
    obtain ⟨value, hpicks⟩ := (Question.exists_picks_iff hoffers).mpr hnamed
    obtain ⟨s', events, hselect, -⟩ := hplace.exists_select hpicks now
    exact ⟨_, hselect⟩
  · intro picked value hpicks
    exact hplace.select_eq_submit ((Question.pick?_eq_some_iff hoffers).mpr hpicks) now
  · intro picked s' events hselect
    obtain ⟨value, hpicks⟩ := hplace.exists_picks hoffers hselect
    obtain ⟨o, ho, rfl, -⟩ := hpicks.exists_offered
    obtain ⟨t, shown, hcall, hstored⟩ := hplace.exists_select hpicks now
    obtain ⟨rfl, -⟩ := Prod.mk.inj (Except.ok.inj (hselect.symm.trans hcall))
    exact ⟨o, ho, hpicks, hstored⟩
  · intro o ho
    exact hplace.exists_select (Question.Picks.byValue ho rfl) now
  · intro before o after hoffered hfirst hfree
    exact hplace.exists_select (Question.Picks.byId hoffered rfl hfirst hfree) now
  · intro hnone picked
    have hpick : q.pick? picked = some picked := by
      rw [Question.pick?, hnone]
      rfl
    exact hplace.select_eq_submit hpick now

end Session

/-- A flow that asks for a size. One option is picked by what is the id of another, and two
options have one id. -/
def Flow.sizes : Flow where
  nodes := [⟨"start", .start⟩,
    ⟨"size", .question ⟨"Which size?", [⟨"1", "One", "2"⟩, ⟨"2", "Two", "3"⟩, ⟨"4", "Four", "5"⟩,
      ⟨"4", "Four again", "6"⟩], "size", .empty⟩⟩,
    ⟨"bye", .finish none⟩]
  edges := [⟨"first", "start", "size", none⟩, ⟨"second", "size", "bye", none⟩]
  sound := by decide

/-- A value goes before an id, and the first option before the others with its id. An option that
cannot be picked by its id can be picked by its value, and what is neither is refused. -/
theorem Session.select_stores_offered_sizes :
    let s := ((Session.new default default).perform "now" (.start .sizes)).1
    (∃ s' events, s.select "then" "2" = .ok (s', events) ∧ s'.store.get? "size" = some "2") ∧
      (∃ s' events, s.select "then" "4" = .ok (s', events) ∧ s'.store.get? "size" = some "5") ∧
      (∃ s' events, s.select "then" "6" = .ok (s', events) ∧ s'.store.get? "size" = some "6") ∧
      ¬ ∃ out, s.select "then" "7" = .ok out := by
  intro s
  obtain ⟨q, hpending, hvariable, hoptions⟩ : ∃ q, s.pendingQuestion? = some q ∧
      q.variableName = "size" ∧ q.options = [⟨"1", "One", "2"⟩, ⟨"2", "Two", "3"⟩,
        ⟨"4", "Four", "5"⟩, ⟨"4", "Four again", "6"⟩] := ⟨_, rfl, rfl, rfl⟩
  obtain ⟨hoffers, -⟩ := Session.select_stores_offered hpending "then"
  rw [hoptions, hvariable] at hoffers
  obtain ⟨htaken, -, -, hvalue, hid⟩ := hoffers (by simp)
  refine ⟨hvalue ⟨"1", "One", "2"⟩ (by decide), ?_,
    hvalue ⟨"4", "Four again", "6"⟩ (by decide), ?_⟩
  · exact hid [⟨"1", "One", "2"⟩, ⟨"2", "Two", "3"⟩] ⟨"4", "Four", "5"⟩ _ rfl (by decide)
      (by decide)
  · rw [htaken]
    decide

end Dialogue

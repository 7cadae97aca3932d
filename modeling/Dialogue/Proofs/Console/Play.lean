import Dialogue.Proofs.Console.Input
import Dialogue.Proofs.Session.Coherence
import Dialogue.Proofs.Session.Findings

/-!
# A play is a session

The console does nothing to a session that a caller of it would not do: it starts the session,
and then gives it one answer after the other (`Dialogue.Session.takeAll`) for as long as a
question is pending. An input stands for an answer in one of four ways
(`Dialogue.Question.Takes`), and an input that stands for none leaves the session as it is.

What has to be shown is that the console always knows where its session stands
(`Dialogue.Console.Knows`). It never asks the session itself. It looks through the events of
the last call for the options of a question, and it takes the play to be over when one of them
closes the session. Both are right because the last event of a call, and no other, tells the
state in which the session is left (`Dialogue.Session.ClosedBy`). So the console never stops
without a question or an ending, and the only thing that may be refused to it is an option that
there is not.
-/

namespace Dialogue

namespace Session

/-- **A session takes an input**: what the input stands for is the answer to the question that
is pending, if it is taken. -/
def take (s : Session) (now input : String) : Session :=
  match s.pendingQuestion?.bind (·.taken? input) with
  | some value => (s.perform now (.submit value)).1
  | none => s

/-- A session takes one input after the other. -/
def takeAll (s : Session) (now : String) (inputs : List String) : Session :=
  inputs.foldl (fun s input => s.take now input) s

variable {s s' : Session} {flow : Flow} {origin : Node} {q : Question} {now picked value : String}

/-- A session that does not wait takes nothing. -/
theorem takeAll_of_not_waiting (h : s.state ≠ .awaitingInput) (now : String)
    (inputs : List String) : s.takeAll now inputs = s := by
  have hpending : s.pendingQuestion? = none := if_neg h
  induction inputs with
  | nil => rfl
  | cons input rest ih =>
    have hfirst : s.take now input = s := by
      rw [take, hpending]
      rfl
    rw [takeAll, List.foldl_cons, hfirst]
    exact ih

/-- **A call that is not refused shows messages, and then one event that closes it** and tells
where it leaves the session. -/
theorem exists_closing {c : Call} {events : List Event} (hreset : c ≠ .reset)
    (hcall : s.call now c = .ok (s', events)) :
    ∃ messages closing, events = messages ++ [closing] ∧
      (∀ e ∈ messages, ∃ node text, e = .message node text) ∧ s'.ClosedBy closing := by
  rcases outset_or_stays hcall with
    ⟨flow, p, origin, counted, houtset⟩ | ⟨-, ⟨hc, -⟩ | ⟨-, defect, hshown⟩⟩
  · obtain ⟨-, hnone, -, hloaded, -⟩ := houtset.spec
    rw [houtset.call_eq_travel] at hcall
    obtain ⟨rfl, rfl⟩ := Prod.mk.inj (Except.ok.inj hcall)
    refine ⟨(Outset.route flow p origin counted).entered.flatMap Node.messages, _, ?_, ?_,
      closedBy_travel houtset.leads hloaded now⟩
    · rw [Progress.events_travel houtset.leads rfl now, hnone, List.nil_append]
      rfl
    · intro e he
      obtain ⟨n, -, hn⟩ := List.mem_flatMap.mp he
      obtain ⟨text, htext⟩ := Node.eq_message_of_mem hn
      exact ⟨n.id, text, htext⟩
  · exact absurd hc hreset
  · have hmem : .aborted (.defect defect) ∈ events := by simp_all
    exact ⟨[], _, hshown, by simp, (turn_of_call hcall).closedBy_of_mem hmem (by simp)⟩

end Session

namespace Console

open Session

variable {s s' : Session} {flow : Flow} {origin : Node} {q : Question} {now input : String}

/-- **The console passes on what an input stands for.** Where it stands for nothing, the option
is refused. -/
theorem pass_eq (h : s.WaitsAt flow origin q) (now input : String) :
    pass s q.options now input =
      match q.taken? input with
      | some value => s.call now (.submit value)
      | none => .error (.unknownOption origin.id (Text.trim input)) := by
  rw [pass]
  by_cases hoffers : q.options = []
  · rw [Question.taken?, hoffers]
    rfl
  · rw [if_neg (by simpa using hoffers), Question.taken?_of_offers hoffers]
    rcases hnumbered : numbered? q.options input with _ | o
    · rcases hpick : q.pick? (Text.trim input) with _ | value
      · exact h.select_eq_error hpick now
      · exact h.select_eq_submit hpick now
    · obtain ⟨n, -, hn⟩ := numbered?_eq_some_iff.mp hnumbered
      exact h.select_eq_submit (Question.pick?_value (List.mem_of_getElem? hn)) now

/-! ### What the console knows -/

/-- **The console knows where its session stands**: it asks the question that is pending, or the
session has ended with the exit code that says how. -/
inductive Knows : Turn → Prop
  | asking {s : Session} {q : Question} (rests : s.Rests) (pending : s.pendingQuestion? = some q) :
      Knows (.asking s q.options)
  | completed {s : Session} (state : s.state = .completed) : Knows (.ended s 0)
  | aborted {s : Session} (state : s.state = .aborted) : Knows (.ended s 1)

/-- **The last event of a call tells the console where the session stands.** -/
theorem knows_takeEvents (hrests : s.Rests) {messages : List Event} {closing : Event}
    (hmessages : ∀ e ∈ messages, ∃ node text, e = .message node text)
    (hclosed : s.ClosedBy closing) :
    ∃ turn, takeEvents s (messages ++ [closing]) =
        (turn, (messages ++ [closing]).flatMap display) ∧ Knows turn ∧ turn.session = s := by
  -- a message never ends a session, so the closing event alone says whether the play is over
  have hterminal : (messages ++ [closing]).any Event.isTerminal = closing.isTerminal := by
    have hnone : messages.any Event.isTerminal = false := by
      rw [List.any_eq_false]
      intro e he
      obtain ⟨node, text, rfl⟩ := hmessages e he
      simp [Event.isTerminal]
    rw [List.any_append, hnone]
    simp
  rw [takeEvents, hterminal]
  cases closing with
  | message => exact hclosed.elim
  | question node text options variableName =>
    obtain ⟨-, -, q, hpending, -, rfl, -⟩ := hclosed
    have hlast : lastOptions? (messages ++ [.question node text q.options variableName]) =
        some q.options := by
      rw [lastOptions?, List.foldl_concat]
    rw [hlast]
    exact ⟨_, rfl, Knows.asking hrests hpending, rfl⟩
  | completed =>
    have hstate : s.state = .completed := hclosed.1
    rw [hstate]
    exact ⟨_, rfl, Knows.completed hstate, rfl⟩
  | aborted reason =>
    have hstate : s.state = .aborted := hclosed.1
    rw [hstate]
    exact ⟨_, rfl, Knows.aborted hstate, rfl⟩

/-- To ask again leaves the console where it is. -/
theorem takeEvents_askAgain (h : s.WaitsAt flow origin q) :
    takeEvents s (askAgain s) = (.asking s q.options, (askAgain s).flatMap display) := by
  have hasks : askAgain s =
      [.question ((s.currentNode?.map (·.id)).getD "") q.text q.options q.variableName] := by
    rw [askAgain, h.pendingQuestion?_eq]
  rw [hasks]
  rfl

/-! ### What is written -/

/-- **What a play of a flow may write**: anything to the output, but to the error output nothing
except the warnings of the flow, inputs that pick no option, the reason of an abort, and that
the inputs have run out. -/
inductive Written (flow : Flow) : Chunk → Prop
  | out (text : String) : Written flow (.out text)
  | warning {w : Warning} (warned : w ∈ flow.warnings) :
      Written flow (.errLine ("Warning: " ++ w.message))
  | noOption (picked : String) :
      Written flow (.errLine ("'" ++ picked ++ "' is not one of the options, try again."))
  | aborted (reason : Abort) : Written flow (.errLine ("Flow aborted: " ++ reason.message))
  | noInput : Written flow (.errLine "No more input; session left waiting at a question.")

/-- Showing events writes nothing else. -/
theorem written_display {events : List Event} {chunk : Chunk}
    (h : chunk ∈ events.flatMap display) : Written flow chunk := by
  obtain ⟨e, -, hchunk⟩ := List.mem_flatMap.mp h
  cases e with
  | message node text =>
    obtain rfl := List.mem_singleton.mp hchunk
    exact Written.out _
  | question node text options variableName =>
    rcases List.mem_cons.mp hchunk with rfl | hoption
    · exact Written.out _
    · obtain ⟨entry, -, rfl⟩ := List.mem_map.mp hoption
      exact Written.out _
  | completed values early endNode =>
    simp only [display, List.mem_cons, List.not_mem_nil, or_false] at hchunk
    rcases hchunk with rfl | rfl
    · exact Written.out _
    · exact Written.out _
  | aborted reason =>
    obtain rfl := List.mem_singleton.mp hchunk
    exact Written.aborted reason

/-- What begins otherwise is another line. -/
theorem errLine_ne_of_not_prefix {start rest text : String} (h : ¬ start.toList <+: text.toList) :
    Chunk.errLine (start ++ rest) ≠ .err text := by
  intro hsame
  have htext : start ++ rest ++ "\n" = text := Chunk.err.inj hsame
  refine h ⟨(rest ++ "\n").toList, ?_⟩
  rw [← htext, String.append_assoc]
  exact String.toList_append.symm

/-- **The console never reports that a flow has stopped** without a question or an ending. -/
theorem Written.ne_stopped {chunk : Chunk} (h : Written flow chunk) :
    chunk ≠ .errLine "Flow stopped without a question or completion" := by
  cases h with
  | out text => simp [Chunk.errLine]
  | warning warned => exact errLine_ne_of_not_prefix (by decide)
  | noOption picked =>
    rw [String.append_assoc]
    exact errLine_ne_of_not_prefix (by decide)
  | aborted reason => exact errLine_ne_of_not_prefix (by decide)
  | noInput => decide

/-! ### Plays -/

/-- **How a play may end.** If no input is left while a question is pending, the console says
so. -/
inductive Closes (s : Session) : (code : Nat) → List Chunk → Prop
  | completed {chunks : List Chunk} (state : s.state = .completed) : Closes s 0 chunks
  | aborted {chunks : List Chunk} (state : s.state = .aborted) : Closes s 1 chunks
  | waiting {chunks : List Chunk} (state : s.state = .awaitingInput)
      (pending : s.pendingQuestion?.isSome = true) (told : noInput <:+ chunks) : Closes s 1 chunks

/-- What is written before does not change how a play ends. -/
theorem Closes.after {code : Nat} {chunks : List Chunk} (h : Closes s code chunks)
    (before : List Chunk) : Closes s code (before ++ chunks) := by
  cases h with
  | completed state => exact completed state
  | aborted state => exact aborted state
  | waiting state pending told => exact waiting state pending (List.suffix_append_of_suffix told)

/-- The exit code is 0 exactly if the session has completed. -/
theorem Closes.code_eq_zero_iff {code : Nat} {chunks : List Chunk} (h : Closes s code chunks) :
    code = 0 ↔ s.state = .completed := by
  cases h with
  | completed state => simp [state]
  | aborted state => simp [state]
  | waiting state pending told => simp [state]

/-- **The step of a play**: the session takes the input, and the console knows where it
stands. -/
theorem answer_spec (hrests : s.Rests) (hpending : s.pendingQuestion? = some q)
    (now input : String) (flow : Flow) :
    let answered := answer s q.options now input
    Knows answered.1 ∧ answered.1.session = s.take now input ∧
      ∀ chunk ∈ answered.2, Written flow chunk := by
  obtain ⟨held, origin, hplace⟩ := exists_waitsAt hpending
  have htake : s.take now input = match q.taken? input with
      | some value => (s.perform now (.submit value)).1
      | none => s := by
    rw [Session.take, hpending]
    rfl
  rw [answer, pass_eq hplace, htake]
  cases htaken : q.taken? input with
  | some value =>
    obtain ⟨s', events, hcall, -⟩ := hplace.exists_submit now value
    obtain ⟨messages, closing, rfl, hmessages, hclosed⟩ := exists_closing (by simp) hcall
    have hperform : s.perform now (.submit value) = (s', .ok (messages ++ [closing])) := by
      rw [perform, hcall]
    have hrests' : s'.Rests := by
      have hnext := hrests.perform now (.submit value)
      rwa [hperform] at hnext
    obtain ⟨turn, hturn, hknows, hsession⟩ := knows_takeEvents hrests' hmessages hclosed
    simp only [hcall, hperform, hturn]
    exact ⟨hknows, hsession, fun chunk hchunk => written_display hchunk⟩
  | none =>
    simp only [takeEvents_askAgain hplace]
    refine ⟨Knows.asking hrests hpending, rfl, fun chunk hchunk => ?_⟩
    rcases List.mem_cons.mp hchunk with rfl | hshown
    · exact Written.noOption _
    · exact written_display hshown

/-- **A play gives its session the inputs**, until it is over or they run out. -/
theorem play_spec {turn : Turn} (h : Knows turn) (now : String) (inputs : List Input)
    (flow : Flow) :
    let played := play now turn inputs
    played.1 = turn.session.takeAll now (inputs.map Input.text) ∧
      Closes played.1 played.2.1 played.2.2 ∧ ∀ chunk ∈ played.2.2, Written flow chunk := by
  induction inputs generalizing turn with
  | nil =>
    cases h with
    | completed state => exact ⟨rfl, Closes.completed state, by simp [play]⟩
    | aborted state => exact ⟨rfl, Closes.aborted state, by simp [play]⟩
    | @asking s q rests pending =>
      have hsome : s.pendingQuestion?.isSome = true := by rw [pending, Option.isSome_some]
      have hstate := rests.coherent.awaitingInput_iff.mpr hsome
      refine ⟨rfl, Closes.waiting hstate hsome (List.suffix_refl _), fun chunk hchunk => ?_⟩
      have hwhich : chunk = .out prompt ∨
          chunk = .errLine "No more input; session left waiting at a question." := by
        simpa [play, noInput] using hchunk
      rcases hwhich with rfl | rfl
      · exact Written.out _
      · exact Written.noInput
  | cons input rest ih =>
    cases h with
    | @completed s state =>
      have hover : s.state ≠ .awaitingInput := by simp [state]
      exact ⟨(takeAll_of_not_waiting hover now _).symm, Closes.completed state, by simp [play]⟩
    | @aborted s state =>
      have hover : s.state ≠ .awaitingInput := by simp [state]
      exact ⟨(takeAll_of_not_waiting hover now _).symm, Closes.aborted state, by simp [play]⟩
    | @asking s q rests pending =>
      obtain ⟨hknows, hsession, hwritten⟩ := answer_spec rests pending now input.text flow
      obtain ⟨hlast, hcloses, hlater⟩ := ih hknows
      rw [hsession] at hlast
      refine ⟨hlast, hcloses.after (input.shown :: _), fun chunk hchunk => ?_⟩
      rcases List.mem_cons.mp hchunk with rfl | hrest
      · cases input <;> exact Written.out _
      · rcases List.mem_append.mp hrest with hshown | hshown
        · exact hwritten chunk hshown
        · exact hlater chunk hshown

/-- **A run is a play of a session that was started.** -/
theorem run_spec (settings : Settings) (id : SessionId) (now : String) (flow : Flow)
    (inputs : List Input) :
    let played := run settings id now flow inputs
    let started := ((Session.new settings id).perform now (.start flow)).1
    played.1 = started.takeAll now (inputs.map Input.text) ∧
      Closes played.1 played.2.1 played.2.2 ∧ ∀ chunk ∈ played.2.2, Written flow chunk := by
  obtain ⟨s, events, hcall⟩ : ∃ s events,
      (Session.new settings id).call now (.start flow) = .ok (s, events) := ⟨_, _, rfl⟩
  have hstarted : (Session.new settings id).perform now (.start flow) = (s, .ok events) := by
    rw [perform, hcall]
  have hrests : s.Rests := by
    have hfirst := (rests_new settings id).perform now (.start flow)
    rwa [hstarted] at hfirst
  obtain ⟨messages, closing, rfl, hmessages, hclosed⟩ := exists_closing (by simp) hcall
  obtain ⟨turn, hturn, hknows, hsession⟩ := knows_takeEvents hrests hmessages hclosed
  obtain ⟨hlast, hcloses, hwritten⟩ := play_spec hknows now inputs flow
  have hstart : (Session.new settings id).start now flow = .ok (s, messages ++ [closing]) := hcall
  have hplayed : run settings id now flow inputs =
      ((play now turn inputs).1, (play now turn inputs).2.1,
        flow.warnings.map (fun w => Chunk.errLine ("Warning: " ++ w.message)) ++
          (messages ++ [closing]).flatMap display ++ (play now turn inputs).2.2) := by
    simp only [run, begin, hstart, hturn]
  simp only [hplayed, hstarted]
  refine ⟨hsession ▸ hlast, hcloses.after _, fun chunk hchunk => ?_⟩
  rcases List.mem_append.mp hchunk with hfirst | hlater
  · rcases List.mem_append.mp hfirst with hwarned | hshown
    · obtain ⟨w, hw, rfl⟩ := List.mem_map.mp hwarned
      exact Written.warning hw
    · exact written_display hshown
  · exact hwritten chunk hlater

/-- **The console plays a session as a caller would.** Let there be answers from the command
line, and a text that is typed. The play ends, and its session is the one that is started on
the flow and then takes the answers and the lines of the text without their ends, one after the
other, as long as a question is pending. The exit code is 0 exactly if the session has
completed; it is 1 if the session was aborted, and if the inputs have run out at a question. The
flow never stops without a question or an ending. -/
theorem run_eq_takeAll (settings : Settings) (id : SessionId) (now : String) (flow : Flow)
    (answers : List String) (typed : String) :
    let played := run settings id now flow (answers.map .scripted ++ typedInputs typed)
    let started := ((Session.new settings id).perform now (.start flow)).1
    let lines := (rawLines typed.toList).map fun line => String.ofList (stripLine line)
    played.1 = started.takeAll now (answers ++ lines) ∧
      (played.2.1 = 0 ↔ played.1.state = .completed) ∧
      Closes played.1 played.2.1 played.2.2 ∧
      .errLine "Flow stopped without a question or completion" ∉ played.2.2 := by
  intro played started lines
  obtain ⟨hlast, hcloses, hwritten⟩ :=
    run_spec settings id now flow (answers.map .scripted ++ typedInputs typed)
  have htexts : (answers.map Input.scripted ++ typedInputs typed).map Input.text =
      answers ++ lines := by
    rw [List.map_append, List.map_map, typedInputs, List.map_map]
    exact congrArg (· ++ lines) (List.map_id answers)
  rw [htexts] at hlast
  exact ⟨hlast, hcloses.code_eq_zero_iff, hcloses, fun hstopped =>
    (hwritten _ hstopped).ne_stopped rfl⟩

end Console

end Dialogue

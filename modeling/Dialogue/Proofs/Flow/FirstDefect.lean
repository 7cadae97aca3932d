import Dialogue.Proofs.Flow.WellFormed

/-!
# The defect that is reported

Nodes and edges that are not well-formed are refused, and of all their defects one is reported.
Here it is said which one, without the checks that look for it. Every kind of defect is a
statement about nodes and edges (`Dialogue.Defect.Present`): nodes and edges are well-formed
exactly if none of them is true. The defect that is reported is the first along the order of
nodes and edges (`Dialogue.Defect.IsFirst`), and the five groups of defects have an order of
their own. So what is built, and what is reported otherwise, is told in full
(`Dialogue.Flow.build_exact`).

The checks go through lists with an eye on what they have passed, since ids and handles must not
be used twice. They all do it in one way, and so there is one notion of a first finding along a
list (`Dialogue.FirstAlong`). A check that looks for it either stops at the head of the list
(`Dialogue.Tells.here`) or passes it (`Dialogue.Tells.later`).
-/

namespace Dialogue

/-! ### First findings -/

section Findings

variable {α β : Type}

/-- **The first finding along a list**, when some elements have been passed before: it is found
at an element, in view of those before it, and nothing is found at any of these. -/
def FirstAlong (Finds : List α → α → β → Prop) (passed l : List α) (b : β) : Prop :=
  ∃ before x after, l = before ++ x :: after ∧ Finds (passed ++ before) x b ∧
    ∀ earlier y later, before = earlier ++ y :: later → ∀ c, ¬ Finds (passed ++ earlier) y c

/-- **A check tells the findings**: it comes to what is found, and to nothing else. -/
def Tells (check : Option β) (Finds : β → Prop) : Prop :=
  ∀ b, check = some b ↔ Finds b

variable {Finds : List α → α → β → Prop} {passed l : List α} {x : α} {b : β}

theorem not_firstAlong_nil : ¬ FirstAlong Finds passed [] b := by
  rintro ⟨before, x, after, hsplit, -⟩
  simp at hsplit

/-- **A first finding is found at the head**, or nothing is found there and it is the first
along the rest. -/
theorem firstAlong_cons : FirstAlong Finds passed (x :: l) b ↔
    Finds passed x b ∨ (∀ c, ¬ Finds passed x c) ∧ FirstAlong Finds (passed ++ [x]) l b := by
  constructor
  · rintro ⟨before, y, after, hsplit, hfound, hcalm⟩
    cases before with
    | nil =>
      obtain ⟨rfl, rfl⟩ := List.cons.inj hsplit
      exact Or.inl (by simpa using hfound)
    | cons head before =>
      obtain ⟨rfl, rfl⟩ := List.cons.inj hsplit
      refine Or.inr ⟨by simpa using hcalm [] x before rfl, before, y, after, rfl,
        by simpa using hfound, fun earlier z later hearlier => ?_⟩
      have hcalm' := hcalm (x :: earlier) z later (congrArg (x :: ·) hearlier)
      simpa using hcalm'
  · rintro (hfound | ⟨hcalm, before, y, after, rfl, hfound, hcalm'⟩)
    · exact ⟨[], x, l, rfl, by simpa using hfound, by simp⟩
    · refine ⟨x :: before, y, after, rfl, by simpa using hfound, ?_⟩
      intro earlier z later hearlier
      cases earlier with
      | nil =>
        obtain ⟨rfl, -⟩ := List.cons.inj hearlier
        simpa using hcalm
      | cons head earlier =>
        obtain ⟨rfl, hrest⟩ := List.cons.inj hearlier
        simpa using hcalm' earlier z later hrest

/-- What is found first is found at an element of the list. -/
theorem FirstAlong.exists_mem (h : FirstAlong Finds passed l b) :
    ∃ before, ∃ x ∈ l, Finds before x b := by
  obtain ⟨before, x, after, rfl, hfound, -⟩ := h
  exact ⟨_, x, by simp, hfound⟩

/-- What an element and one before it have in common is there more than once. -/
theorem one_lt_count_map [BEq β] [LawfulBEq β] (f : α → β) {before after : List α} {x y : α}
    {b : β} (hy : y ∈ before) (hfy : f y = b) (hfx : f x = b) :
    1 < ((before ++ x :: after).map f).count b := by
  have hbefore : 0 < (before.map f).count b :=
    List.count_pos_iff.mpr (List.mem_map.mpr ⟨y, hy, hfy⟩)
  rw [List.map_append, List.map_cons, List.count_append, hfx, List.count_cons_self]
  omega

namespace Tells

variable {check rest : Option β} {P : β → Prop}

theorem eq_none_iff (h : Tells check P) : check = none ↔ ∀ b, ¬ P b := by
  rw [Option.eq_none_iff_forall_ne_some]
  exact forall_congr' fun b => not_congr (h b)

theorem nil : Tells none (FirstAlong Finds passed []) := fun _ =>
  iff_of_false (by simp) not_firstAlong_nil

/-- **A check that stops at the head** tells the first finding, if only this is found there. -/
theorem here (h : ∀ c, Finds passed x c ↔ b = c) :
    Tells (some b) (FirstAlong Finds passed (x :: l)) := by
  intro c
  rw [firstAlong_cons, h c, Option.some.injEq]
  refine ⟨Or.inl, fun hfound => hfound.resolve_right ?_⟩
  rintro ⟨hcalm, -⟩
  exact hcalm b ((h b).mpr rfl)

/-- **A check that passes the head** tells the first finding, if nothing is found there. -/
theorem later (hcalm : ∀ c, ¬ Finds passed x c)
    (hrest : Tells rest (FirstAlong Finds (passed ++ [x]) l)) :
    Tells rest (FirstAlong Finds passed (x :: l)) := by
  intro c
  rw [firstAlong_cons, hrest c]
  exact ⟨fun hfirst => Or.inr ⟨hcalm, hfirst⟩, fun hfound =>
    (hfound.resolve_left (hcalm c)).2⟩

/-- Where it does not matter what has been passed, the first finding is the first outcome. -/
theorem findSome? {f : α → Option β} {P : α → β → Prop} (h : ∀ x, Tells (f x) (P x))
    (passed l : List α) : Tells (l.findSome? f) (FirstAlong (fun _ => P) passed l) := by
  induction l generalizing passed with
  | nil => exact nil
  | cons x l ih =>
    rw [List.findSome?_cons]
    cases hx : f x with
    | none => exact later ((h x).eq_none_iff.mp hx) (ih _)
    | some b => exact here fun c => by rw [← h x c, hx, Option.some.injEq]

/-- A search along a list tells the first element that it looks for. -/
theorem find? (p : α → Bool) (f : α → β) (passed l : List α) :
    Tells ((l.find? p).map f) (FirstAlong (fun _ x b => p x = true ∧ f x = b) passed l) := by
  induction l generalizing passed with
  | nil => exact nil
  | cons x l ih =>
    rw [List.find?_cons]
    cases hx : p x with
    | false => exact later (by simp [hx]) (ih _)
    | true => exact here (by simp [hx])

end Tells

end Findings

/-! ### The defects, each at its place -/

/-- **What is wrong with a node** after the nodes before it: one of them has its id. -/
inductive NodeFault (before : List Node) (n : Node) : Defect → Prop
  | repeated (used : ∃ m ∈ before, m.id = n.id) : NodeFault before n (.duplicateNode n.id)

/-- **What is wrong with the number of start nodes**, which is named unless it is zero. -/
inductive StartFault (nodes : List Node) : Defect → Prop
  | missing (none : ∀ n ∈ nodes, n.isStart = false) : StartFault nodes .missingStart
  | several (more : 1 < (nodes.filter Node.isStart).length) :
    StartFault nodes (.multipleStarts (nodes.filter Node.isStart).length)

/-- **What is wrong with an edge** after the edges before it: one of them has its id, or else
its source is no node, or else its target is none. -/
inductive EdgeFault (nodes : List Node) (before : List Edge) (e : Edge) : Defect → Prop
  | repeated (used : ∃ f ∈ before, f.id = e.id) : EdgeFault nodes before e (.duplicateEdge e.id)
  | source (fresh : ∀ f ∈ before, f.id ≠ e.id) (missing : hasNode nodes e.source = false) :
    EdgeFault nodes before e (.danglingEdge e.id e.source)
  | target (fresh : ∀ f ∈ before, f.id ≠ e.id) (found : hasNode nodes e.source = true)
      (missing : hasNode nodes e.target = false) :
    EdgeFault nodes before e (.danglingEdge e.id e.target)

/-- **What is wrong with the handle of an edge** that leaves the condition `node`, after the
edges before it: it is none of those allowed, or one of them has it. -/
inductive HandleFault (node : String) (allowed : List String) (before : List Edge) (e : Edge) :
    Defect → Prop
  | invalid (refused : ∀ h ∈ allowed, e.handle ≠ some h) :
    HandleFault node allowed before e (.invalidHandle node e.id e.handle)
  | repeated {h : String} (here : e.handle = some h) (valid : h ∈ allowed)
      (used : ∃ f ∈ before, f.handle = some h) :
    HandleFault node allowed before e (.duplicateHandle node h)

/-- **What is wrong with a condition**: the first thing along the edges that leave it. -/
inductive ConditionFault (edges : List Edge) (n : Node) : Defect → Prop
  | handle {c : Condition} {d : Defect} (decides : n.content = .condition c)
      (first : FirstAlong (HandleFault n.id c.handles) [] (edgesFrom edges n.id) d) :
    ConditionFault edges n d

/-- **What is wrong with a question**: its variable has a blank name, or else a trigger names no
node. Of several such triggers the one is meant that comes first in the order of the keys. -/
inductive QuestionFault (nodes : List Node) (n : Node) : Defect → Prop
  | unnamed {q : Question} (asks : n.content = .question q)
      (blank : Text.trimmed q.variableName.toList = []) :
    QuestionFault nodes n (.missingVariable n.id)
  | trigger {q : Question} {d : Defect} (asks : n.content = .question q)
      (named : Text.trimmed q.variableName.toList ≠ [])
      (first : FirstAlong
        (fun _ key d => (!hasNode nodes key) = true ∧ .unknownTrigger n.id key = d)
        [] q.triggers.keys d) :
    QuestionFault nodes n d

namespace Defect

variable (nodes : List Node) (edges : List Edge)

/-- **The first defect** of nodes and edges. Defects are looked for in the ids of the nodes, then
in the number of start nodes, in the edges, in the handles of the edges that leave each
condition, and in the questions; where they are looked for, there is nothing wrong with what
comes before. -/
inductive IsFirst : Defect → Prop
  | node {d : Defect} (first : FirstAlong NodeFault [] nodes d) : IsFirst d
  | start {d : Defect} (nodeIds : (nodes.map (·.id)).Nodup) (fault : StartFault nodes d) : IsFirst d
  | edge {d : Defect} (nodeIds : (nodes.map (·.id)).Nodup)
      (oneStart : (nodes.filter Node.isStart).length = 1)
      (first : FirstAlong (EdgeFault nodes) [] edges d) : IsFirst d
  | condition {d : Defect} (nodeIds : (nodes.map (·.id)).Nodup)
      (oneStart : (nodes.filter Node.isStart).length = 1) (edgeIds : (edges.map (·.id)).Nodup)
      (joined : ∀ e ∈ edges, hasNode nodes e.source = true ∧ hasNode nodes e.target = true)
      (first : FirstAlong (fun _ => ConditionFault edges) [] nodes d) : IsFirst d
  | question {d : Defect} (nodeIds : (nodes.map (·.id)).Nodup)
      (oneStart : (nodes.filter Node.isStart).length = 1) (edgeIds : (edges.map (·.id)).Nodup)
      (joined : ∀ e ∈ edges, hasNode nodes e.source = true ∧ hasNode nodes e.target = true)
      (handles : ∀ n ∈ nodes, ∀ c, n.content = .condition c →
        ((edgesFrom edges n.id).map (·.handle)).Nodup ∧
          ∀ e ∈ edgesFrom edges n.id, ∃ h ∈ c.handles, e.handle = some h)
      (first : FirstAlong (fun _ => QuestionFault nodes) [] nodes d) : IsFirst d

/-- **A defect is present** in nodes and edges, wherever it stands and whatever else is wrong:
what its kind says of the nodes and edges that it names is true of them. -/
def Present : Defect → Prop
  | missingStart => ∀ n ∈ nodes, n.isStart = false
  | multipleStarts count => 1 < count ∧ (nodes.filter Node.isStart).length = count
  | duplicateNode id => 1 < (nodes.map (·.id)).count id
  | duplicateEdge id => 1 < (edges.map (·.id)).count id
  | danglingEdge edge node =>
    (∃ e ∈ edges, e.id = edge ∧ (e.source = node ∨ e.target = node)) ∧ hasNode nodes node = false
  | invalidHandle node edge handle =>
    ∃ n ∈ nodes, n.id = node ∧ ∃ c, n.content = .condition c ∧
      ∃ e ∈ edgesFrom edges node, e.id = edge ∧ e.handle = handle ∧ ∀ h ∈ c.handles, handle ≠ some h
  | duplicateHandle node handle =>
    ∃ n ∈ nodes, n.id = node ∧ (∃ c, n.content = .condition c) ∧
      1 < ((edgesFrom edges node).map (·.handle)).count (some handle)
  | missingVariable node =>
    ∃ n ∈ nodes, n.id = node ∧ ∃ q, n.content = .question q ∧
      Text.trimmed q.variableName.toList = []
  | unknownTrigger node source =>
    ∃ n ∈ nodes, n.id = node ∧ ∃ q, n.content = .question q ∧
      source ∈ q.triggers.keys ∧ hasNode nodes source = false
  | nodeNotFound _ => False

end Defect

/-! ### What each check tells -/

variable {nodes : List Node} {edges : List Edge} {n : Node} {d : Defect}

/-- The check of the ids of the nodes, after the nodes `passed`. -/
theorem tells_firstRepeat? (passed nodes : List Node) :
    Tells ((firstRepeat? (passed.map (·.id)).reverse (nodes.map (·.id))).map .duplicateNode)
      (FirstAlong NodeFault passed nodes) := by
  induction nodes generalizing passed with
  | nil => exact Tells.nil
  | cons n rest ih =>
    have hrest := ih (passed ++ [n])
    rw [List.map_append, List.reverse_append] at hrest
    rw [List.map_cons, firstRepeat?]
    by_cases hused : ∃ m ∈ passed, m.id = n.id
    · rw [if_pos (by simpa using hused)]
      refine Tells.here fun d => ⟨?_, ?_⟩
      · rintro ⟨-⟩
        rfl
      · rintro rfl
        exact NodeFault.repeated hused
    · rw [if_neg (by simpa using hused)]
      refine Tells.later ?_ hrest
      rintro d ⟨hused'⟩
      exact hused hused'

theorem tells_nodeDefect? (nodes : List Node) :
    Tells (nodeDefect? nodes) (FirstAlong NodeFault [] nodes) :=
  tells_firstRepeat? [] nodes

theorem tells_startDefect? (nodes : List Node) : Tells (startDefect? nodes) (StartFault nodes) := by
  intro d
  have hnone : (nodes.filter Node.isStart).length = 0 ↔ ∀ n ∈ nodes, n.isStart = false := by
    simp
  unfold startDefect?
  constructor
  · intro h
    match hcount : (nodes.filter Node.isStart).length with
    | 0 =>
      rw [hcount] at h
      obtain rfl := Option.some.inj h
      exact StartFault.missing (hnone.mp hcount)
    | 1 => simp [hcount] at h
    | count + 2 =>
      rw [hcount] at h
      obtain rfl := Option.some.inj h
      rw [← hcount]
      exact StartFault.several (by omega)
  · rintro (hmissing | hseveral)
    · rw [hnone.mpr hmissing]
      rfl
    · obtain ⟨count, hcount⟩ := Nat.exists_eq_add_of_le' hseveral
      rw [hcount]
      rfl

section EdgeFaults

variable {passed : List Edge} {e : Edge}

theorem edgeFault_of_used (hused : ∃ f ∈ passed, f.id = e.id) :
    EdgeFault nodes passed e d ↔ .duplicateEdge e.id = d := by
  constructor
  · rintro (- | ⟨hfresh, -⟩ | ⟨hfresh, -⟩)
    · rfl
    · exact absurd hused (by simpa using hfresh)
    · exact absurd hused (by simpa using hfresh)
  · rintro rfl
    exact EdgeFault.repeated hused

theorem edgeFault_of_source (hfresh : ∀ f ∈ passed, f.id ≠ e.id)
    (hsource : hasNode nodes e.source = false) :
    EdgeFault nodes passed e d ↔ .danglingEdge e.id e.source = d := by
  constructor
  · rintro (⟨f, hf, hid⟩ | - | ⟨-, hfound, -⟩)
    · exact absurd hid (hfresh f hf)
    · rfl
    · simp [hsource] at hfound
  · rintro rfl
    exact EdgeFault.source hfresh hsource

theorem edgeFault_of_target (hfresh : ∀ f ∈ passed, f.id ≠ e.id)
    (hsource : hasNode nodes e.source = true) (htarget : hasNode nodes e.target = false) :
    EdgeFault nodes passed e d ↔ .danglingEdge e.id e.target = d := by
  constructor
  · rintro (⟨f, hf, hid⟩ | ⟨-, hmissing⟩ | -)
    · exact absurd hid (hfresh f hf)
    · simp [hsource] at hmissing
    · rfl
  · rintro rfl
    exact EdgeFault.target hfresh hsource htarget

theorem not_edgeFault (hfresh : ∀ f ∈ passed, f.id ≠ e.id)
    (hsource : hasNode nodes e.source = true) (htarget : hasNode nodes e.target = true) :
    ¬ EdgeFault nodes passed e d := by
  rintro (⟨f, hf, hid⟩ | ⟨-, hmissing⟩ | ⟨-, -, hmissing⟩)
  · exact hfresh f hf hid
  · simp [hsource] at hmissing
  · simp [htarget] at hmissing

end EdgeFaults

/-- The check of the edges, after the edges `passed`. -/
theorem tells_edgeDefect? (nodes : List Node) (passed edges : List Edge) :
    Tells (edgeDefect? nodes (passed.map (·.id)).reverse edges)
      (FirstAlong (EdgeFault nodes) passed edges) := by
  induction edges generalizing passed with
  | nil => exact Tells.nil
  | cons e rest ih =>
    have hrest := ih (passed ++ [e])
    rw [List.map_append, List.reverse_append] at hrest
    rw [edgeDefect?]
    -- the checks of one edge, in the order in which they are made
    by_cases hused : ∃ f ∈ passed, f.id = e.id
    · rw [if_pos (by simpa using hused)]
      exact Tells.here fun d => edgeFault_of_used hused
    · rw [if_neg (by simpa using hused)]
      have hfresh : ∀ f ∈ passed, f.id ≠ e.id := by simpa using hused
      cases hsource : hasNode nodes e.source with
      | false => exact Tells.here fun d => edgeFault_of_source hfresh hsource
      | true =>
        cases htarget : hasNode nodes e.target with
        | false => exact Tells.here fun d => edgeFault_of_target hfresh hsource htarget
        | true => exact Tells.later (fun d => not_edgeFault hfresh hsource htarget) hrest

section HandleFaults

variable {node h : String} {allowed : List String} {passed : List Edge} {e : Edge}

theorem handleFault_of_refused {handle : Option String} (hhandle : e.handle = handle)
    (hrefused : ∀ h ∈ allowed, handle ≠ some h) :
    HandleFault node allowed passed e d ↔ .invalidHandle node e.id handle = d := by
  subst hhandle
  constructor
  · rintro (- | ⟨hhere, hvalid, -⟩)
    · rfl
    · exact absurd hhere (hrefused _ hvalid)
  · rintro rfl
    exact HandleFault.invalid hrefused

theorem handleFault_of_used (hhere : e.handle = some h) (hallowed : h ∈ allowed)
    (hused : ∃ f ∈ passed, f.handle = some h) :
    HandleFault node allowed passed e d ↔ .duplicateHandle node h = d := by
  constructor
  · rintro (hrefused | ⟨hsame, -⟩)
    · exact absurd hhere (hrefused h hallowed)
    · rw [Option.some.inj (hhere.symm.trans hsame)]
  · rintro rfl
    exact HandleFault.repeated hhere hallowed hused

theorem not_handleFault (hhere : e.handle = some h) (hallowed : h ∈ allowed)
    (hfresh : ¬ ∃ f ∈ passed, f.handle = some h) : ¬ HandleFault node allowed passed e d := by
  rintro (hrefused | ⟨hsame, -, hused⟩)
  · exact hrefused h hallowed hhere
  · rw [← Option.some.inj (hhere.symm.trans hsame)] at hused
    exact hfresh hused

end HandleFaults

/-- The check of the edges that leave a condition, after the edges `passed`. -/
theorem tells_handleDefect? (node : String) (allowed : List String) (passed edges : List Edge) :
    Tells (handleDefect? node allowed (passed.filterMap (·.handle)).reverse edges)
      (FirstAlong (HandleFault node allowed) passed edges) := by
  induction edges generalizing passed with
  | nil => exact Tells.nil
  | cons e rest ih =>
    have hrest := ih (passed ++ [e])
    rw [List.filterMap_append, List.reverse_append] at hrest
    rw [handleDefect?]
    cases hhandle : e.handle with
    | none => exact Tells.here fun d => handleFault_of_refused hhandle (by simp)
    | some h =>
      -- the checks of one edge, in the order in which they are made
      by_cases hallowed : h ∈ allowed
      · simp only [hallowed, not_true_eq_false, if_false]
        by_cases hused : ∃ f ∈ passed, f.handle = some h
        · rw [if_pos (by simpa using hused)]
          exact Tells.here fun d => handleFault_of_used hhandle hallowed hused
        · rw [if_neg (by simpa using hused)]
          rw [List.filterMap_cons_some hhandle] at hrest
          exact Tells.later (fun d => not_handleFault hhandle hallowed hused) hrest
      · simp only [hallowed, not_false_eq_true, if_true]
        refine Tells.here fun d => handleFault_of_refused hhandle fun h' hvalid hsame => hallowed ?_
        rwa [Option.some.inj hsame]

theorem tells_conditionDefect? (edges : List Edge) (n : Node) :
    Tells (conditionDefect? edges n) (ConditionFault edges n) := by
  intro d
  unfold conditionDefect?
  cases hc : n.content with
  | condition c =>
    refine (tells_handleDefect? n.id c.handles [] (edgesFrom edges n.id) d).trans ⟨?_, ?_⟩
    · exact ConditionFault.handle hc
    · rintro ⟨hdecides, hfirst⟩
      obtain rfl : c = _ := NodeContent.condition.inj (hc.symm.trans hdecides)
      exact hfirst
  | _ =>
    refine iff_of_false (by simp) ?_
    rintro ⟨hdecides, -⟩
    simp [hc] at hdecides

theorem tells_questionDefect? (nodes : List Node) (n : Node) :
    Tells (questionDefect? nodes n) (QuestionFault nodes n) := by
  intro d
  unfold questionDefect?
  cases hq : n.content with
  | question q =>
    have hsame : ∀ q', n.content = .question q' ↔ q = q' := fun q' => by
      rw [hq, NodeContent.question.injEq]
    by_cases hblank : Text.trimmed q.variableName.toList = []
    · simp only [hblank, List.isEmpty_nil, if_true, Option.some.injEq]
      constructor
      · rintro rfl
        exact QuestionFault.unnamed hq hblank
      · rintro (- | ⟨hasks, hnamed, -⟩)
        · rfl
        · rw [← (hsame _).mp hasks] at hnamed
          exact absurd hblank hnamed
    · simp only [List.isEmpty_iff, hblank, if_false]
      refine (Tells.find? _ _ [] q.triggers.keys d).trans ⟨?_, ?_⟩
      · exact QuestionFault.trigger hq hblank
      · rintro (⟨hasks, hblank'⟩ | ⟨hasks, -, hfirst⟩)
        · rw [← (hsame _).mp hasks] at hblank'
          exact absurd hblank' hblank
        · rw [← (hsame _).mp hasks] at hfirst
          exact hfirst
  | _ =>
    refine iff_of_false (by simp) ?_
    rintro (⟨hasks, -⟩ | ⟨hasks, -⟩) <;> simp [hq] at hasks

/-! ### The first defect -/

namespace Defect

/-- **The defect that the checks come to is the first.** -/
theorem firstDefect_eq_some_iff : firstDefect nodes edges = some d ↔ d.IsFirst nodes edges := by
  have hjoined : edgeDefect? nodes [] edges = none ↔ (edges.map (·.id)).Nodup ∧
      ∀ e ∈ edges, hasNode nodes e.source = true ∧ hasNode nodes e.target = true := by
    simp [edgeDefect?_eq_none_iff, firstRepeat?_eq_none_iff]
  have hedges : Tells (edgeDefect? nodes [] edges) (FirstAlong (EdgeFault nodes) [] edges) :=
    tells_edgeDefect? nodes [] edges
  have hconditions := Tells.findSome? (tells_conditionDefect? edges) [] nodes
  have hquestions := Tells.findSome? (tells_questionDefect? nodes) [] nodes
  simp only [firstDefect, Option.or_eq_some_iff, nodeDefect?_eq_none_iff,
    startDefect?_eq_none_iff, hjoined, List.findSome?_eq_none_iff, conditionDefect?_eq_none_iff,
    tells_nodeDefect? nodes d, tells_startDefect? nodes d, hedges d, hconditions d, hquestions d]
  constructor
  · rintro (first | ⟨nodeIds, fault | ⟨oneStart, first | ⟨⟨edgeIds, joined⟩, hlast⟩⟩⟩)
    · exact IsFirst.node first
    · exact IsFirst.start nodeIds fault
    · exact IsFirst.edge nodeIds oneStart first
    · rcases hlast with first | ⟨handles, first⟩
      · exact IsFirst.condition nodeIds oneStart edgeIds joined first
      · exact IsFirst.question nodeIds oneStart edgeIds joined handles first
  · rintro (first | ⟨nodeIds, fault⟩ | ⟨nodeIds, oneStart, first⟩ |
      ⟨nodeIds, oneStart, edgeIds, joined, first⟩ |
      ⟨nodeIds, oneStart, edgeIds, joined, handles, first⟩)
    · exact Or.inl first
    · exact Or.inr ⟨nodeIds, Or.inl fault⟩
    · exact Or.inr ⟨nodeIds, Or.inr ⟨oneStart, Or.inl first⟩⟩
    · exact Or.inr ⟨nodeIds, Or.inr ⟨oneStart, Or.inr ⟨⟨edgeIds, joined⟩, Or.inl first⟩⟩⟩
    · exact Or.inr ⟨nodeIds, Or.inr ⟨oneStart, Or.inr ⟨⟨edgeIds, joined⟩,
        Or.inr ⟨handles, first⟩⟩⟩⟩

/-- **The first defect is a real one.** -/
theorem IsFirst.present (h : d.IsFirst nodes edges) : d.Present nodes edges := by
  cases h with
  | node first =>
    obtain ⟨before, n, after, rfl, ⟨m, hm, hid⟩, -⟩ := first
    exact one_lt_count_map (·.id) hm hid rfl
  | start nodeIds fault =>
    cases fault with
    | missing none => exact none
    | several more => exact ⟨more, rfl⟩
  | edge nodeIds oneStart first =>
    obtain ⟨before, e, after, rfl, hfault, -⟩ := first
    have he : e ∈ before ++ e :: after := by simp
    cases hfault with
    | repeated used =>
      obtain ⟨f, hf, hid⟩ := used
      exact one_lt_count_map (·.id) hf hid rfl
    | source fresh missing => exact ⟨⟨e, he, rfl, Or.inl rfl⟩, missing⟩
    | target fresh found missing => exact ⟨⟨e, he, rfl, Or.inr rfl⟩, missing⟩
  | condition nodeIds oneStart edgeIds joined first =>
    obtain ⟨-, n, hn, hc, before, e, after, hsplit, hfault, -⟩ := first.exists_mem
    have he : e ∈ edgesFrom edges n.id := by simp [hsplit]
    cases hfault with
    | invalid refused =>
      exact ⟨n, hn, rfl, _, hc, e, he, rfl, rfl, refused⟩
    | repeated here valid used =>
      obtain ⟨f, hf, hhandle⟩ := used
      refine ⟨n, hn, rfl, ⟨_, hc⟩, ?_⟩
      rw [hsplit]
      exact one_lt_count_map (·.handle) hf hhandle here
  | question nodeIds oneStart edgeIds joined handles first =>
    obtain ⟨-, n, hn, hfault⟩ := first.exists_mem
    cases hfault with
    | unnamed asks blank => exact ⟨n, hn, rfl, _, asks, blank⟩
    | trigger asks named first =>
      obtain ⟨-, source, hsource, hmissing, rfl⟩ := first.exists_mem
      exact ⟨n, hn, rfl, _, asks, hsource, by simpa using hmissing⟩

/-- **Nothing is wrong with well-formed nodes and edges.** -/
theorem not_present_of_wellFormed (h : WellFormed nodes edges) (d : Defect) :
    ¬ d.Present nodes edges := by
  intro hpresent
  cases d with
  | missingStart =>
    have hnone : nodes.filter Node.isStart = [] := by simpa [Present] using hpresent
    simpa [hnone] using h.oneStart
  | multipleStarts count =>
    obtain ⟨hmore, hcount⟩ := hpresent
    have hone := h.oneStart
    omega
  | duplicateNode id =>
    exact absurd (List.nodup_iff_count_le_one.mp h.nodeIds id) (Nat.not_le.mpr hpresent)
  | duplicateEdge id =>
    exact absurd (List.nodup_iff_count_le_one.mp h.edgeIds id) (Nat.not_le.mpr hpresent)
  | danglingEdge edge node =>
    obtain ⟨⟨e, he, -, hends⟩, hmissing⟩ := hpresent
    obtain ⟨hsource, htarget⟩ := h.joined e he
    rcases hends with rfl | rfl
    · simp [hmissing] at hsource
    · simp [hmissing] at htarget
  | invalidHandle node edge handle =>
    obtain ⟨n, hn, rfl, c, hc, e, he, -, rfl, hrefused⟩ := hpresent
    obtain ⟨handle, hallowed, hhandle⟩ := (h.handles n hn c hc).2 e he
    exact hrefused handle hallowed hhandle
  | duplicateHandle node handle =>
    obtain ⟨n, hn, rfl, ⟨c, hc⟩, htwice⟩ := hpresent
    exact absurd (List.nodup_iff_count_le_one.mp (h.handles n hn c hc).1 _)
      (Nat.not_le.mpr htwice)
  | missingVariable node =>
    obtain ⟨n, hn, -, q, hq, hblank⟩ := hpresent
    exact (h.questions n hn q hq).1 hblank
  | unknownTrigger node source =>
    obtain ⟨n, hn, -, q, hq, hsource, hmissing⟩ := hpresent
    simpa [hmissing] using (h.questions n hn q hq).2 source hsource
  | nodeNotFound node => exact hpresent

end Defect

namespace Flow

theorem build_eq_error_iff : build nodes edges = .error d ↔ firstDefect nodes edges = some d := by
  unfold build
  split
  · next hsound => simp [hsound]
  · next defect hdefect => simp [hdefect]

/-- **What is built, and what is reported otherwise.** Nodes and edges make a flow exactly if they
are well-formed; and they are so exactly if no defect is present in
them. Otherwise one of the defects that are present is reported, and this is the first. -/
theorem build_exact (nodes : List Node) (edges : List Edge) :
    ((∃ flow, build nodes edges = .ok flow) ↔ WellFormed nodes edges) ∧
    (WellFormed nodes edges ↔ ∀ d : Defect, ¬ d.Present nodes edges) ∧
    ∀ d, build nodes edges = .error d ↔ d.IsFirst nodes edges ∧ d.Present nodes edges := by
  refine ⟨⟨?_, fun h => ?_⟩, ⟨fun h d => Defect.not_present_of_wellFormed h d, fun h => ?_⟩,
    fun d => ?_⟩
  · rintro ⟨flow, hflow⟩
    obtain ⟨rfl, rfl⟩ := build_eq_ok_iff.mp hflow
    exact flow.wellFormed
  · exact ⟨{ nodes := nodes, edges := edges, sound := firstDefect_eq_none_iff.mpr h },
      build_eq_ok_iff.mpr ⟨rfl, rfl⟩⟩
  · refine firstDefect_eq_none_iff.mp (Option.eq_none_iff_forall_ne_some.mpr fun d hd => ?_)
    exact h d (Defect.firstDefect_eq_some_iff.mp hd).present
  · rw [build_eq_error_iff, Defect.firstDefect_eq_some_iff]
    exact ⟨fun h => ⟨h, h.present⟩, fun h => h.1⟩

/-- Two start nodes with one id: that the id is used twice is reported first. -/
example : build [⟨"a", .start⟩, ⟨"b", .finish none⟩, ⟨"a", .start⟩] [⟨"e", "a", "c", none⟩] =
    .error (.duplicateNode "a") :=
  rfl

end Flow

end Dialogue

import Dialogue.Proofs.Pass.Effect

/-!
# Passes and walks

A pass is guarded: it enters no node twice and no more nodes than its limit. The walk
without these guards (`Dialogue.Flow.walk`) goes from each node to the one that follows
it, and may go on for ever. It stops by itself where it enters a node that halts it, or
where no edge leads on (`Dialogue.Flow.StopsAfter`).

The routes that passes take agree with the walk (`Dialogue.Flow.Origin.agrees_passRoute`): a
guard acts only on a walk that does not stop within the limit, and a cycle is only found
in a walk that never stops. For the latter the store must not change on the way: the
node that follows another is then always the same, and so a walk that comes back to a
node repeats itself (`Dialogue.Flow.stopAt?_eq_none_of_repeats`).
-/

namespace Dialogue

namespace Flow

/-! ### Walks -/

section Walk

variable (flow : Flow) (store : Store) (origin : Node)

/-- The walk without guards: the node `origin`, the node that follows it, and so on. -/
def walk : Nat → Option Node
  | 0 => some origin
  | i + 1 => (walk i).bind (flow.next? · store)

/-- What stops a walk by itself at a node, which it has `entered` or sets out from. -/
def stop? (entered : Bool) (n : Node) : Option Ending :=
  if entered && n.haltsPass then some (.arrival n)
  else
    match (flow.resolve n store).1 with
    | .ok .endOfFlow => some .endOfFlow
    | .ok (.unresolved reason) => some (.unresolved reason)
    | _ => none

/-- What stops the walk by itself when it has entered `k` nodes. -/
def stopAt? (k : Nat) : Option Ending :=
  (flow.walk store origin k).bind (flow.stop? store (decide (0 < k)))

/-- **The walk stops by itself** after it has entered `k` nodes, and no earlier. -/
def StopsAfter (k : Nat) (ending : Ending) : Prop :=
  flow.stopAt? store origin k = some ending ∧ ∀ j < k, flow.stopAt? store origin j = none

/-- The `r`-th node of the walk was entered before. The node that the walk sets out from
is among those entered if it is `counted`. -/
def Repeats (counted : Bool) (r : Nat) : Prop :=
  ∃ j < r, (0 < j ∨ counted = true) ∧
    ∃ n, flow.walk store origin j = some n ∧ flow.walk store origin r = some n

/-- The `r`-th node of the walk is the first that was entered before. -/
def FirstRepeat (counted : Bool) (r : Nat) : Prop :=
  flow.Repeats store origin counted r ∧ ∀ j < r, ¬ flow.Repeats store origin counted j

end Walk

variable {flow : Flow} {store : Store} {origin current next n : Node} {edge : Edge}
  {counted : Bool} {i j k r limit : Nat} {ending : Ending}

theorem next?_of_next (h : (flow.resolve current store).1 = .ok (.next next edge)) :
    flow.next? current store = some next := by
  simp [next?, h, Resolution.node?]

/-- The nodes of a walk belong to the flow. -/
theorem node?_of_walk (hknown : flow.node? origin.id = some origin)
    (h : flow.walk store origin i = some n) : flow.node? n.id = some n := by
  cases i with
  | zero =>
    obtain rfl : origin = n := by simpa [walk] using h
    exact hknown
  | succ i =>
    obtain ⟨m, -, hm⟩ := Option.bind_eq_some_iff.mp h
    obtain ⟨outcome, hout, -⟩ := flow.exists_resolution m store
    cases outcome with
    | next next edge =>
      obtain rfl : next = n := by simpa [next?_of_next hout] using hm
      exact node?_of_next hout
    | endOfFlow => simp [next?, hout, Resolution.node?] at hm
    | unresolved reason => simp [next?, hout, Resolution.node?] at hm

/-- A walk goes on from each of its nodes as if it set out there. -/
theorem walk_add (h : flow.walk store origin i = some n) (d : Nat) :
    flow.walk store origin (i + d) = flow.walk store n d := by
  induction d with
  | zero => exact h
  | succ d ih => exact congrArg (·.bind (flow.next? · store)) ih

theorem stopAt?_ne_stopped (reason : Abort) :
    flow.stopAt? store origin k ≠ some (.stopped reason) := by
  intro h
  obtain ⟨n, -, hn⟩ := Option.bind_eq_some_iff.mp h
  unfold stop? at hn
  split at hn
  · simp at hn
  · split at hn <;> simp at hn

/-- A walk stops in one way only. -/
theorem StopsAfter.unique {k' : Nat} {ending' : Ending} (h : flow.StopsAfter store origin k ending)
    (h' : flow.StopsAfter store origin k' ending') : k = k' ∧ ending = ending' := by
  have hle : ¬ k' < k := fun hlt => by simp [h.2 k' hlt, StopsAfter] at h'
  have hge : ¬ k < k' := fun hlt => by simp [h'.2 k hlt, StopsAfter] at h
  obtain rfl : k = k' := by omega
  exact ⟨rfl, Option.some.inj (h.1.symm.trans h'.1)⟩

/-- The first repeat is one only. -/
theorem FirstRepeat.unique {r' : Nat} (h : flow.FirstRepeat store origin counted r)
    (h' : flow.FirstRepeat store origin counted r') : r = r' := by
  have hle : ¬ r' < r := fun hlt => h.2 r' hlt h'.1
  have hge : ¬ r < r' := fun hlt => h'.2 r hlt h.1
  omega

/-- **A walk that has come back to a node never stops.** -/
theorem stopAt?_eq_none_of_repeats (hpasses : counted = true → origin.haltsPass = false)
    (hrepeats : flow.Repeats store origin counted r)
    (hcalm : ∀ j < r, flow.stopAt? store origin j = none) (k : Nat) :
    flow.stopAt? store origin k = none := by
  obtain ⟨j, hj, hcounted, n, hn, hn'⟩ := hrepeats
  induction k using Nat.strongRecOn with
  | _ k ih =>
    rcases Nat.lt_or_ge k r with hlt | hge
    · exact hcalm k hlt
    · -- the walk has been at the same node `r - j` steps ago
      obtain ⟨d, rfl⟩ := Nat.exists_eq_add_of_le hge
      have hback : flow.walk store origin (r + d) = flow.walk store origin (j + d) := by
        rw [walk_add hn', walk_add hn]
      have hcalm' := ih (j + d) (by omega)
      rw [stopAt?, hback]
      rw [stopAt?] at hcalm'
      rcases Nat.eq_zero_or_pos (j + d) with hzero | hpos
      · -- only the node it set out from was not entered, but it does not halt the walk
        have hpass : origin.haltsPass = false := hpasses (hcounted.resolve_left (by omega))
        simp only [hzero, walk, Option.bind_some, stop?, hpass, Bool.and_false] at hcalm' ⊢
        exact hcalm'
      · simpa [hpos, show 0 < r + d by omega] using hcalm'

/-! ### What the guards see of a walk -/

/-- Where a pass stands that has entered `i` nodes: at the `i`-th node of the walk, and
neither has the walk stopped nor has a node come back so far. -/
structure Position (flow : Flow) (store : Store) (origin : Node) (counted : Bool) (i : Nat)
    (current : Node) (entered : List String) : Prop where
  here : flow.walk store origin i = some current
  passes : 0 < i → current.haltsPass = false
  calm : ∀ j < i, flow.stopAt? store origin j = none
  fresh : ∀ r ≤ i, ¬ flow.Repeats store origin counted r
  mem_iff : ∀ id, id ∈ entered ↔
    ∃ j ≤ i, (0 < j ∨ counted = true) ∧ ∃ n, flow.walk store origin j = some n ∧ n.id = id

/-- **How the guards and the walk end a pass** that has entered `k` nodes. -/
inductive Verdict (flow : Flow) (store : Store) (limit : Nat) (origin : Node) (counted : Bool)
    (k : Nat) : Ending → Prop
  | stops {ending : Ending} (within : k ≤ limit) (stops : flow.StopsAfter store origin k ending) :
      Verdict flow store limit origin counted k ending
  | cycle {n : Node} (within : k + 1 ≤ limit)
      (calm : ∀ j ≤ k, flow.stopAt? store origin j = none)
      (repeats : flow.FirstRepeat store origin counted (k + 1))
      (here : flow.walk store origin (k + 1) = some n) :
      Verdict flow store limit origin counted k (.stopped (.cycle n.id))
  | stepLimit (within : k = limit) (calm : ∀ j ≤ k, flow.stopAt? store origin j = none)
      (fresh : ∀ r ≤ k, ¬ flow.Repeats store origin counted r) :
      Verdict flow store limit origin counted k (.stopped (.stepLimit limit))

variable {entered : List String}

/-- What is found after a node tells whether the walk stops there. -/
theorem stopAt?_of_here (hhere : flow.walk store origin i = some current)
    (hpasses : 0 < i → current.haltsPass = false) :
    flow.stopAt? store origin i = flow.stop? store false current := by
  rw [stopAt?, hhere, Option.bind_some]
  rcases Nat.eq_zero_or_pos i with rfl | hpos
  · rfl
  · simp [stop?, hpasses hpos]

namespace Position

variable (h : Position flow store origin counted i current entered)
  (found : (flow.resolve current store).1 = .ok (.next next edge))

include h found

theorem walk_succ : flow.walk store origin (i + 1) = some next := by
  rw [walk, h.here]
  exact next?_of_next found

theorem calm_of_next : ∀ j ≤ i, flow.stopAt? store origin j = none := by
  intro j hj
  rcases Nat.lt_or_eq_of_le hj with hlt | rfl
  · exact h.calm j hlt
  · rw [stopAt?_of_here h.here h.passes]
    simp [stop?, found]

/-- The next node counts as entered exactly if the walk repeats itself there. -/
theorem mem_iff_repeats (hknown : flow.node? origin.id = some origin) :
    next.id ∈ entered ↔ flow.Repeats store origin counted (i + 1) := by
  rw [h.mem_iff]
  constructor
  · rintro ⟨j, hj, hcounted, n, hn, hid⟩
    -- ids are compared, but in a flow they are as good as the nodes
    have hsame : n = next := by
      have hnode := node?_of_walk hknown hn
      rw [hid, node?_of_next found] at hnode
      exact (Option.some.inj hnode).symm
    exact ⟨j, by omega, hcounted, next, hsame ▸ hn, h.walk_succ found⟩
  · rintro ⟨j, hj, hcounted, n, hn, hn'⟩
    obtain rfl : next = n := Option.some.inj ((h.walk_succ found).symm.trans hn')
    exact ⟨j, by omega, hcounted, next, hn, rfl⟩

/-- **The step of a pass**: it enters the next node, if that is new and on the way. -/
theorem onward (hknown : flow.node? origin.id = some origin) (hnew : next.id ∉ entered)
    (hpasses : next.haltsPass = false) :
    Position flow store origin counted (i + 1) next (next.id :: entered) where
  here := h.walk_succ found
  passes _ := hpasses
  calm j hj := h.calm_of_next found j (by omega)
  fresh r hr := by
    rcases Nat.lt_or_eq_of_le hr with hlt | rfl
    · exact h.fresh r (by omega)
    · exact fun hrepeats => hnew ((h.mem_iff_repeats found hknown).mpr hrepeats)
  mem_iff id := by
    rw [List.mem_cons, h.mem_iff]
    constructor
    · rintro (rfl | ⟨j, hj, hentered⟩)
      · exact ⟨i + 1, Nat.le_refl _, Or.inl (by omega), next, h.walk_succ found, rfl⟩
      · exact ⟨j, by omega, hentered⟩
    · rintro ⟨j, hj, hcounted, n, hn, rfl⟩
      rcases Nat.lt_or_eq_of_le hj with hlt | rfl
      · exact Or.inr ⟨j, by omega, hcounted, n, hn, rfl⟩
      · obtain rfl : next = n := Option.some.inj ((h.walk_succ found).symm.trans hn)
        exact Or.inl rfl

end Position

/-- **From each position the route follows the walk** up to its verdict. -/
theorem Position.verdict_route {flow : Flow} {store : Store} {origin : Node} {counted : Bool}
    {limit i : Nat} {current : Node} {entered : List String}
    (hknown : flow.node? origin.id = some origin) (steps : Nat)
    (h : Position flow store origin counted i current entered) (hlimit : i + steps = limit) :
    let r := flow.route store limit current entered steps
    ∃ k, r.entered.map some = (List.range' (i + 1) k).map (flow.walk store origin) ∧
      Verdict flow store limit origin counted (i + k) r.ending := by
  obtain ⟨outcome, hout, -⟩ := flow.exists_resolution current store
  cases outcome with
  | endOfFlow =>
    rw [route_of_endOfFlow hout]
    refine ⟨0, rfl, Verdict.stops (by omega) ⟨?_, h.calm⟩⟩
    rw [Nat.add_zero, stopAt?_of_here h.here h.passes]
    simp [stop?, hout]
  | unresolved reason =>
    rw [route_of_unresolved hout]
    refine ⟨0, rfl, Verdict.stops (by omega) ⟨?_, h.calm⟩⟩
    rw [Nat.add_zero, stopAt?_of_here h.here h.passes]
    simp [stop?, hout]
  | next next edge =>
    have hcalm := h.calm_of_next hout
    cases steps with
    | zero =>
      rw [route_zero hout]
      exact ⟨0, rfl, Verdict.stepLimit hlimit hcalm h.fresh⟩
    | succ steps =>
      by_cases hmem : next.id ∈ entered
      · rw [route_of_mem hout hmem]
        -- the guard acts, and no node came back before, as the pass has got so far
        refine ⟨0, rfl, Verdict.cycle (by omega) hcalm ⟨?_, ?_⟩ (h.walk_succ hout)⟩
        · exact (h.mem_iff_repeats hout hknown).mp hmem
        · exact fun j hj => h.fresh j (by omega)
      · cases hhalts : next.haltsPass with
        | true =>
          rw [route_of_halts hout hmem hhalts]
          refine ⟨1, ?_, Verdict.stops (by omega) ⟨?_, fun j hj => hcalm j (by omega)⟩⟩
          · simp [Route.entered, Ending.arrived, h.walk_succ hout]
          · simp [stopAt?, h.walk_succ hout, stop?, hhalts]
        | false =>
          -- the route goes on from the next position, one node further in the walk
          have hnext := h.onward hout hknown hmem hhalts
          have hlimit' : i + 1 + steps = limit := by omega
          obtain ⟨k, hentered, hverdict⟩ := hnext.verdict_route hknown steps hlimit'
          rw [route_of_transit hout hmem hhalts]
          refine ⟨k + 1, ?_, ?_⟩
          · rw [List.range'_succ, List.map_cons, h.walk_succ hout, ← hentered]
            rfl
          · rw [show i + (k + 1) = i + 1 + k by omega]
            exact hverdict

/-! ### Passes agree with walks -/

/-- Where passes set out: from the start node, which counts as entered, or from a
question, which does not. -/
inductive Origin (flow : Flow) : Node → (counted : Bool) → Prop
  | start : Origin flow flow.start true
  | question {n : Node} {q : Question} (known : flow.node? n.id = some n)
      (asks : n.content = .question q) : Origin flow n false

end Flow

/-- **A route agrees with the walk** from the node `origin`. If the walk stops by itself
within the limit, so does the route, there and in the same way. Otherwise the route ends
before the first node that comes back, or at the limit if none does so early. A cycle is
found only if the walk never stops. -/
structure Route.Agrees (r : Route) (flow : Flow) (store : Store) (limit : Nat) (origin : Node)
    (counted : Bool) : Prop where
  stops : ∀ k ≤ limit, ∀ ending, flow.StopsAfter store origin k ending →
    r.entered.map some = (List.range' 1 k).map (flow.walk store origin) ∧ r.ending = ending
  cycle : (∀ k ≤ limit, ∀ ending, ¬ flow.StopsAfter store origin k ending) →
    ∀ i ≤ limit, ∀ n, flow.FirstRepeat store origin counted i →
      flow.walk store origin i = some n →
      r.entered.map some = (List.range' 1 (i - 1)).map (flow.walk store origin) ∧
        r.ending = .stopped (.cycle n.id)
  stepLimit : (∀ k ≤ limit, ∀ ending, ¬ flow.StopsAfter store origin k ending) →
    (∀ i ≤ limit, ¬ flow.Repeats store origin counted i) →
    r.entered.map some = (List.range' 1 limit).map (flow.walk store origin) ∧
      r.ending = .stopped (.stepLimit limit)
  endless : ∀ id, r.ending = .stopped (.cycle id) →
    ∀ k ending, ¬ flow.StopsAfter store origin k ending

namespace Flow

variable {flow : Flow} {origin : Node} {counted : Bool}

theorem Origin.known (h : flow.Origin origin counted) : flow.node? origin.id = some origin := by
  cases h with
  | start => exact flow.node?_start
  | question known asks => exact known

/-- Where the node it sets out from counts as entered, it does not halt the walk. -/
theorem Origin.haltsPass (h : flow.Origin origin counted) (hcounted : counted = true) :
    origin.haltsPass = false := by
  cases h with
  | start => exact flow.haltsPass_start
  | question known asks => simp at hcounted

/-- **A pass sets out at the first position of the walk.** -/
theorem Origin.position (h : flow.Origin origin counted) (store : Store) :
    Position flow store origin counted 0 origin (origin.seeds counted) where
  here := rfl
  passes hpos := absurd hpos (Nat.lt_irrefl 0)
  calm j hj := absurd hj (Nat.not_lt_zero j)
  fresh r hr := by
    rintro ⟨j, hj, -⟩
    omega
  mem_iff id := by
    constructor
    · intro hmem
      cases counted with
      | true =>
        have hid : id = origin.id := by simpa [Node.seeds] using hmem
        exact ⟨0, Nat.le_refl 0, Or.inr rfl, origin, rfl, hid.symm⟩
      | false => simp [Node.seeds] at hmem
    · rintro ⟨j, hj, hcounted, n, hn, rfl⟩
      obtain rfl : j = 0 := by omega
      obtain rfl : origin = n := Option.some.inj hn
      obtain rfl : counted = true := hcounted.resolve_left (Nat.lt_irrefl 0)
      simp [Node.seeds]

/-- **A route that follows the walk up to a verdict agrees with it.** -/
theorem Verdict.agrees {store : Store} {limit k : Nat} {r : Route}
    (hverdict : Verdict flow store limit origin counted k r.ending)
    (hentered : r.entered.map some = (List.range' 1 k).map (flow.walk store origin))
    (hpasses : counted = true → origin.haltsPass = false) :
    r.Agrees flow store limit origin counted := by
  obtain ⟨transit, ending⟩ := r
  -- each verdict bears out one clause, and excludes what the others suppose
  cases hverdict with
  | stops within hstops =>
    constructor
    · intro k' hk' ending' hstops'
      obtain ⟨rfl, rfl⟩ := hstops.unique hstops'
      exact ⟨hentered, rfl⟩
    · exact fun hnever => absurd hstops (hnever k within _)
    · exact fun hnever => absurd hstops (hnever k within _)
    · rintro id rfl
      exact absurd hstops.1 (stopAt?_ne_stopped _)
  | @cycle n within calm repeats here =>
    have hnever : ∀ k ending, ¬ flow.StopsAfter store origin k ending := by
      intro k' ending' hstops
      have hcalm := stopAt?_eq_none_of_repeats hpasses repeats.1
        (fun j hj => calm j (Nat.le_of_lt_succ hj)) k'
      simp [StopsAfter, hcalm] at hstops
    constructor
    · exact fun k' _ ending' hstops => absurd hstops (hnever k' ending')
    · intro _ i hi n' hfirst hn'
      obtain rfl := repeats.unique hfirst
      obtain rfl : n = n' := Option.some.inj (here.symm.trans hn')
      exact ⟨hentered, rfl⟩
    · exact fun _ hfresh => absurd repeats.1 (hfresh (k + 1) within)
    · exact fun _ _ => hnever
  | stepLimit within calm fresh =>
    obtain rfl := within
    constructor
    · intro k' hk' ending' hstops
      simp [StopsAfter, calm k' hk'] at hstops
    · exact fun _ i hi n' hfirst => absurd hfirst.1 (fresh i hi)
    · exact fun _ _ => ⟨hentered, rfl⟩
    · simp

/-- **Passes agree with walks.** -/
theorem Origin.agrees_passRoute (h : flow.Origin origin counted) (store : Store) (limit : Nat) :
    (flow.passRoute store limit origin counted).Agrees flow store limit origin counted := by
  obtain ⟨k, hentered, hverdict⟩ :=
    (h.position store).verdict_route h.known limit (Nat.zero_add limit)
  rw [Nat.zero_add] at hverdict
  exact hverdict.agrees hentered h.haltsPass

end Flow

end Dialogue

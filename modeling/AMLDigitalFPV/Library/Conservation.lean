import AMLDigitalFPV.Library.Transition

open Transition

namespace Conservation

variable {σ ε α : Type*} {step : σ → ε → Option σ} {held : σ → List α}
  {gained returned : σ → ε → List α}

/-- What flows in over the steps of a run, or out of them, in order. -/
def flow (moves : σ → ε → List α) (steps : List (σ × ε)) : List α :=
  steps.flatMap fun taken => moves taken.1 taken.2

@[simp]
theorem flow_nil (moves : σ → ε → List α) : flow moves [] = [] := rfl

@[simp]
theorem flow_cons (moves : σ → ε → List α) (state : σ) (event : ε) (steps : List (σ × ε)) :
    flow moves ((state, event) :: steps) = moves state event ++ flow moves steps := rfl

theorem flow_concat (moves : σ → ε → List α) {start before after : σ} {events : List ε} {event : ε}
    (hexec : exec step start events = some before) (hstep : step before event = some after) :
    flow moves (taken step start (events ++ [event])) =
      flow moves (taken step start events) ++ moves before event := by
  rw [taken_concat hexec hstep, flow, List.flatMap_append]
  simp [flow]

/-- Every step hands on what is held, first in first out. -/
structure Conserves (step : σ → ε → Option σ) (held : σ → List α)
    (gained returned : σ → ε → List α) : Prop where
  step_eq : ∀ {before event after}, step before event = some after →
    held before ++ gained before event = returned before event ++ held after

theorem flow_map {β : Type*} (f : α → β) (moves : σ → ε → List α) (steps : List (σ × ε)) :
    flow (fun state event => (moves state event).map f) steps = (flow moves steps).map f := by
  simp [flow, List.map_flatMap]

theorem flow_filterMap {β : Type*} (f : α → Option β) (moves : σ → ε → List α)
    (steps : List (σ × ε)) :
    flow (fun state event => (moves state event).filterMap f) steps =
      (flow moves steps).filterMap f := by
  simp [flow, List.filterMap_flatMap]

theorem Conserves.map {β : Type*} (h : Conserves step held gained returned) (f : α → β) :
    Conserves step (fun state => (held state).map f)
      (fun state event => (gained state event).map f)
      (fun state event => (returned state event).map f) := by
  constructor
  intro before event after hstep
  rw [← List.map_append, h.step_eq hstep, List.map_append]

/-- So does every run. -/
theorem Conserves.run (h : Conserves step held gained returned) {start last : σ}
    {events : List ε} (hexec : exec step start events = some last) :
    held start ++ flow gained (taken step start events) =
      flow returned (taken step start events) ++ held last := by
  refine exec_induction (P := fun start steps last =>
    held start ++ flow gained steps = flow returned steps ++ held last) ?_ ?_ hexec
  · simp
  · intro before event next steps last hstep ih
    simp only [flow_cons]
    rw [← List.append_assoc, h.step_eq hstep, List.append_assoc, ih, List.append_assoc]

/-- From a state that holds nothing, what has come out is the first of what has
gone in. -/
theorem Conserves.run_prefix (h : Conserves step held gained returned) {start last : σ}
    {events : List ε} (hstart : held start = []) (hexec : exec step start events = some last) :
    flow returned (taken step start events) <+: flow gained (taken step start events) := by
  have hrun := h.run hexec
  rw [hstart, List.nil_append] at hrun
  exact ⟨held last, hrun.symm⟩

/-- A log that grows at every step by a flow. -/
theorem append_flow {log : σ → List α} {moves : σ → ε → List α}
    (hgrow : ∀ {before event after}, step before event = some after →
      log after = log before ++ moves before event) {start last : σ} {events : List ε}
    (hexec : exec step start events = some last) :
    log last = log start ++ flow moves (taken step start events) := by
  have hconserves : Conserves step log moves (fun _ _ => []) :=
    ⟨fun hstep => (hgrow hstep).symm⟩
  have hrun := hconserves.run hexec
  rw [hrun, flow, List.flatMap_eq_nil_iff.mpr (by simp), List.nil_append]

/-- A counter that counts a flow. -/
theorem add_length_flow {count : σ → ℕ} {moves : σ → ε → List α}
    (hcount : ∀ {before event after}, step before event = some after →
      count after = count before + (moves before event).length) {start last : σ}
    {events : List ε} (hexec : exec step start events = some last) :
    count last = count start + (flow moves (taken step start events)).length := by
  refine exec_induction (P := fun start steps last =>
    count last = count start + (flow moves steps).length) ?_ ?_ hexec
  · simp
  · intro before event next steps last hstep ih
    rw [ih, hcount hstep, flow_cons, List.length_append, Nat.add_assoc]

/-- Where steps may also lose something, what comes out has gone in, in order. -/
theorem run_sublist (hleaks : ∀ {before event after}, step before event = some after →
      (returned before event ++ held after).Sublist (held before ++ gained before event))
    {start last : σ} {events : List ε} (hexec : exec step start events = some last) :
    (flow returned (taken step start events) ++ held last).Sublist
      (held start ++ flow gained (taken step start events)) := by
  refine exec_induction (P := fun start steps last =>
    (flow returned steps ++ held last).Sublist (held start ++ flow gained steps)) ?_ ?_ hexec
  · simp
  · intro before event next steps last hstep ih
    have hnext := ih.append_left (returned before event)
    have hfirst := (hleaks hstep).append_right (flow gained steps)
    simp only [flow_cons, List.append_assoc] at hnext hfirst ⊢
    exact hnext.trans hfirst

/-- The same where the steps are known to behave so only from states with a
property that they hand on. -/
theorem run_sublist_of_invariant {P : σ → Prop}
    (hkeep : ∀ {before event after}, step before event = some after → P before → P after)
    (hleaks : ∀ {before event after}, step before event = some after → P before →
      (returned before event ++ held after).Sublist (held before ++ gained before event))
    {start last : σ} {events : List ε} (hstart : P start)
    (hexec : exec step start events = some last) :
    (flow returned (taken step start events) ++ held last).Sublist
      (held start ++ flow gained (taken step start events)) := by
  refine exec_induction (P := fun start steps last => P start →
    (flow returned steps ++ held last).Sublist (held start ++ flow gained steps)) ?_ ?_ hexec hstart
  · simp
  · intro before event next steps last hstep ih hbefore
    have hnext := (ih (hkeep hstep hbefore)).append_left (returned before event)
    have hfirst := (hleaks hstep hbefore).append_right (flow gained steps)
    simp only [flow_cons, List.append_assoc] at hnext hfirst ⊢
    exact hnext.trans hfirst

/-- Where every step is some events of a machine that one part of the state
runs, so is every run. -/
theorem exec_flow {σ' ε' : Type*} {step' : σ' → ε' → Option σ'} {view : σ → σ'}
    {moves : σ → ε → List ε'}
    (hstep : ∀ {before event after}, step before event = some after →
      exec step' (view before) (moves before event) = some (view after))
    {start last : σ} {events : List ε} (hexec : exec step start events = some last) :
    exec step' (view start) (flow moves (taken step start events)) = some (view last) := by
  refine exec_induction (P := fun start steps last =>
    exec step' (view start) (flow moves steps) = some (view last)) ?_ ?_ hexec
  · exact fun _ => rfl
  · intro before event next steps last hnext ih
    rw [flow_cons, exec_append, hstep hnext]
    exact ih

/-- Two flows agree over the runs on the way if they agree at every step. -/
theorem flow_congr {moves moves' : σ → ε → List α} {start : σ} {events : List ε}
    (hsteps : ∀ before event after, Takes step start events before event after →
      moves before event = moves' before event) {pre : List ε} {last : σ} (hpre : pre <+: events)
    (hexec : exec step start pre = some last) :
    flow moves (taken step start pre) = flow moves' (taken step start pre) := by
  induction pre using List.reverseRecOn generalizing last with
  | nil => rfl
  | append_singleton pre event ih =>
    obtain ⟨before, hbefore, hstep⟩ := exec_concat_eq_some_iff.mp hexec
    obtain ⟨post, rfl⟩ := hpre
    have htakes : Takes step start (pre ++ [event] ++ post) before event last :=
      ⟨pre, post, by simp, hbefore, hstep⟩
    rw [flow_concat moves hbefore hstep, flow_concat moves' hbefore hstep,
      ih ⟨[event] ++ post, by simp⟩ hbefore, hsteps before event last htakes]

theorem length_flow_congr {moves moves' : σ → ε → List α}
    (hlength : ∀ {before event after}, step before event = some after →
      (moves before event).length = (moves' before event).length) {start last : σ}
    {events : List ε} (hexec : exec step start events = some last) :
    (flow moves (taken step start events)).length =
      (flow moves' (taken step start events)).length := by
  refine exec_induction (P := fun _ steps _ =>
    (flow moves steps).length = (flow moves' steps).length) ?_ ?_ hexec
  · simp
  · intro before event next steps last hstep ih
    simp only [flow_cons, List.length_append, hlength hstep, ih]

/-- An outflow that has the same number of items at every step follows the
inflow exactly if it is the outflow that is conserved. -/
theorem Conserves.run_prefix_iff (h : Conserves step held gained returned) {start : σ}
    {events : List ε} (hstart : held start = []) {other : σ → ε → List α}
    (hlength : ∀ {before event after}, step before event = some after →
      (other before event).length = (returned before event).length) :
    (∀ pre last, pre <+: events → exec step start pre = some last →
      flow other (taken step start pre) <+: flow gained (taken step start pre)) ↔
      ∀ before event after, Takes step start events before event after →
        other before event = returned before event := by
  constructor
  · rintro hall before event after ⟨pre, post, rfl, hbefore, hstep⟩
    have hexec : exec step start (pre ++ [event]) = some after :=
      exec_concat_eq_some_iff.mpr ⟨before, hbefore, hstep⟩
    have hother := hall (pre ++ [event]) after ⟨post, by simp⟩ hexec
    have hflow := (List.prefix_of_prefix_length_le hother (h.run_prefix hstart hexec)
      (length_flow_congr hlength hexec).le).eq_of_length (length_flow_congr hlength hexec)
    rw [flow_concat other hbefore hstep, flow_concat returned hbefore hstep] at hflow
    exact (List.append_inj hflow (length_flow_congr hlength hbefore)).2
  · intro hsteps pre last hpre hexec
    rw [flow_congr hsteps hpre hexec]
    exact h.run_prefix hstart hexec

end Conservation

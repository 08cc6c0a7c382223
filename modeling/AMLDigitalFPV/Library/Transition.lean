import Mathlib.Data.List.Basic
import Mathlib.Data.List.Infix
import Mathlib.Tactic.Common

namespace Transition

variable {σ ε : Type*} (step : σ → ε → Option σ)

/-- The state after the events in order, when every one of them is enabled. -/
def exec (state : σ) : List ε → Option σ
  | [] => some state
  | event :: events => (step state event).bind fun next => exec next events

theorem exec_append (state : σ) (first second : List ε) :
    exec step state (first ++ second) =
      (exec step state first).bind fun next => exec step next second := by
  induction first generalizing state with
  | nil => rfl
  | cons event rest ih =>
    rw [List.cons_append, exec, exec]
    cases step state event with
    | none => rfl
    | some next => exact ih next

theorem exec_single {state next : σ} {event : ε} (hstep : step state event = some next) :
    exec step state [event] = some next := by
  rw [exec, hstep]
  rfl

theorem exec_concat (state : σ) (events : List ε) (event : ε) :
    exec step state (events ++ [event]) = (exec step state events).bind (step · event) := by
  rw [exec_append]
  congr 1
  funext next
  rw [exec]
  cases step next event <;> rfl

/-- A state on the way of a run. -/
def Reaches (start : σ) (events : List ε) (state : σ) : Prop :=
  ∃ pre, pre <+: events ∧ exec step start pre = some state

/-- A step on the way of a run. -/
def Takes (start : σ) (events : List ε) (before : σ) (event : ε) (after : σ) : Prop :=
  ∃ pre post, events = pre ++ event :: post ∧ exec step start pre = some before ∧
    step before event = some after

/-- The steps of a run, each with the state it starts from, up to the first
event that is not enabled. -/
def taken (state : σ) : List ε → List (σ × ε)
  | [] => []
  | event :: events =>
    match step state event with
    | none => []
    | some next => (state, event) :: taken next events

variable {step} {start : σ} {events : List ε}

theorem exec_concat_eq_some_iff {after : σ} {event : ε} :
    exec step start (events ++ [event]) = some after ↔
      ∃ before, exec step start events = some before ∧ step before event = some after := by
  rw [exec_concat, Option.bind_eq_some_iff]

theorem Takes.reaches {before after : σ} {event : ε}
    (h : Takes step start events before event after) : Reaches step start events before := by
  obtain ⟨pre, post, rfl, hpre, -⟩ := h
  exact ⟨pre, List.prefix_append _ _, hpre⟩

theorem Takes.step_eq {before after : σ} {event : ε}
    (h : Takes step start events before event after) : step before event = some after := by
  obtain ⟨-, -, -, -, hstep⟩ := h
  exact hstep

theorem Takes.reaches_after {before after : σ} {event : ε}
    (h : Takes step start events before event after) : Reaches step start events after := by
  obtain ⟨pre, post, rfl, hpre, hstep⟩ := h
  refine ⟨pre ++ [event], ⟨post, by simp⟩, ?_⟩
  exact exec_concat_eq_some_iff.mpr ⟨before, hpre, hstep⟩

theorem Takes.mem_taken {before after : σ} {event : ε}
    (h : Takes step start events before event after) :
    (before, event) ∈ taken step start events := by
  obtain ⟨pre, post, rfl, hpre, hstep⟩ := h
  induction pre generalizing start with
  | nil =>
    cases hpre
    rw [List.nil_append, taken, hstep]
    exact List.mem_cons_self
  | cons first rest ih =>
    rw [exec] at hpre
    obtain ⟨next, hnext, hrest⟩ := Option.bind_eq_some_iff.mp hpre
    rw [List.cons_append, taken, hnext]
    exact List.mem_cons_of_mem _ (ih hrest)

/-- A run goes on from every step that it takes. -/
theorem Takes.exec_after {before after last : σ} {event : ε}
    (h : Takes step start events before event after) (hexec : exec step start events = some last) :
    ∃ post, exec step after post = some last := by
  obtain ⟨pre, post, rfl, hpre, hstep⟩ := h
  refine ⟨post, ?_⟩
  rw [exec_append, hpre, Option.bind_some, exec, hstep] at hexec
  exact hexec

theorem mem_of_mem_taken {before : σ} {event : ε} (h : (before, event) ∈ taken step start events) :
    event ∈ events := by
  induction events generalizing start with
  | nil => cases h
  | cons first rest ih =>
    rw [taken] at h
    split at h
    · cases h
    · obtain heq | hrest := List.mem_cons.mp h
      · cases heq
        exact List.mem_cons_self
      · exact List.mem_cons_of_mem _ (ih hrest)

theorem taken_concat {before after : σ} {event : ε} (hexec : exec step start events = some before)
    (hstep : step before event = some after) :
    taken step start (events ++ [event]) = taken step start events ++ [(before, event)] := by
  induction events generalizing start with
  | nil =>
    cases hexec
    simp [taken, hstep]
  | cons first rest ih =>
    obtain ⟨next, hnext, hrest⟩ := Option.bind_eq_some_iff.mp hexec
    simp only [List.cons_append, taken, hnext]
    rw [ih hrest]

/-- Induction over the steps of a run. -/
theorem exec_induction {P : σ → List (σ × ε) → σ → Prop} (hnil : ∀ state, P state [] state)
    (hcons : ∀ {before event next steps last}, step before event = some next →
      P next steps last → P before ((before, event) :: steps) last)
    {last : σ} (hexec : exec step start events = some last) :
    P start (taken step start events) last := by
  induction events generalizing start with
  | nil =>
    cases hexec
    exact hnil last
  | cons event events ih =>
    obtain ⟨next, hstep, hrest⟩ := Option.bind_eq_some_iff.mp hexec
    simp only [taken, hstep]
    exact hcons hstep (ih hrest)

/-- Where every step of a run brings a number down, the run takes no more steps
than that. -/
theorem length_le_of_decreasing {P : σ → Prop} {measure : σ → ℕ}
    (hkeep : ∀ {before event after}, step before event = some after → P before → P after)
    (hstart : P start)
    (hdecreases : ∀ before event after, Takes step start events before event after →
      P before → measure after < measure before) {last : σ}
    (hexec : exec step start events = some last) :
    events.length + measure last ≤ measure start := by
  induction events generalizing start with
  | nil =>
    cases hexec
    exact (Nat.zero_add _).le
  | cons event events ih =>
    obtain ⟨next, hstep, hrest⟩ := Option.bind_eq_some_iff.mp hexec
    have hfirst := hdecreases start event next ⟨[], events, rfl, rfl, hstep⟩ hstart
    have hothers := ih (hkeep hstep hstart) (fun before other after htakes => by
      obtain ⟨pre, post, rfl, hpre, hother⟩ := htakes
      refine hdecreases before other after ⟨event :: pre, post, rfl, ?_, hother⟩
      rw [exec, hstep]
      exact hpre) hrest
    rw [List.length_cons]
    omega

/-- A property of the start that every step of the run hands on holds in every
state of the run. -/
theorem Reaches.invariant {P : σ → Prop} (hstart : P start)
    (hstep : ∀ before event after, Takes step start events before event after →
      P before → P after) {state : σ} (h : Reaches step start events state) : P state := by
  obtain ⟨pre, hpre, hexec⟩ := h
  induction pre using List.reverseRecOn generalizing state with
  | nil =>
    cases hexec
    exact hstart
  | append_singleton pre event ih =>
    obtain ⟨before, hbefore, hafter⟩ := exec_concat_eq_some_iff.mp hexec
    obtain ⟨post, hpost⟩ := hpre
    have hsplit : events = pre ++ event :: post := by
      rw [← hpost, List.append_assoc, List.singleton_append]
    exact hstep before event state ⟨pre, post, hsplit, hbefore, hafter⟩
      (ih ⟨event :: post, hsplit.symm⟩ hbefore)

theorem reaches_iff_takes {Q : σ → Prop} (hstart : Q start) :
    (∀ state, Reaches step start events state → Q state) ↔
      ∀ before event after, Takes step start events before event after → Q after := by
  constructor
  · exact fun hall before event after htakes => hall after htakes.reaches_after
  · intro hsteps state hreaches
    exact hreaches.invariant hstart fun before event after htakes _ =>
      hsteps before event after htakes

/-- Where an invariant needs a condition on every step, and what is asked of a
step amounts to that condition, a run does what is asked exactly when all its
steps meet the condition. -/
theorem takes_iff_of_steps {P : σ → Prop} {S : σ → ε → σ → Prop} {C : σ → ε → Prop}
    (hstart : P start)
    (hkeep : ∀ {before event after}, step before event = some after → P before →
      C before event → P after)
    (hiff : ∀ {before event after}, step before event = some after → P before →
      (S before event after ↔ C before event)) :
    (∀ before event after, Takes step start events before event after → S before event after) ↔
      ∀ before event after, Takes step start events before event after → C before event := by
  constructor
  · intro hall before event after htakes
    have hinvariant : P before :=
      htakes.reaches.invariant hstart fun earlier event later h hearlier =>
        hkeep h.step_eq hearlier ((hiff h.step_eq hearlier).mp (hall earlier event later h))
    exact (hiff htakes.step_eq hinvariant).mp (hall before event after htakes)
  · intro hall before event after htakes
    have hinvariant : P before :=
      htakes.reaches.invariant hstart fun earlier event later h hearlier =>
        hkeep h.step_eq hearlier (hall earlier event later h)
    exact (hiff htakes.step_eq hinvariant).mpr (hall before event after htakes)

/-- The same of a property of the states of a run. -/
theorem reaches_iff_of_steps {P Q : σ → Prop} {C : σ → ε → Prop} (hstart : P start)
    (hholds : Q start)
    (hkeep : ∀ {before event after}, step before event = some after → P before →
      C before event → P after)
    (hiff : ∀ {before event after}, step before event = some after → P before →
      (Q after ↔ C before event)) :
    (∀ state, Reaches step start events state → Q state) ↔
      ∀ before event after, Takes step start events before event after → C before event :=
  (reaches_iff_takes hholds).trans (takes_iff_of_steps hstart hkeep hiff)

end Transition

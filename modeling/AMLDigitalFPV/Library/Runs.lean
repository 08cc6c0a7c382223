import Mathlib.Data.List.Basic
import Mathlib.Data.List.Infix
import Mathlib.Tactic.Common

namespace Runs

variable {σ ι α : Type*}

/-- What a log has gained between two states. -/
def emitted (log : σ → List α) (before after : σ) : List α :=
  (log after).drop (log before).length

theorem log_eq_append_emitted {log : σ → List α} {before after : σ}
    (hgrow : log before <+: log after) : log after = log before ++ emitted log before after :=
  (List.prefix_iff_eq_append.mp hgrow).symm

theorem emitted_of_append {log : σ → List α} {before after : σ} {new : List α}
    (hnew : log after = log before ++ new) : emitted log before after = new := by
  rw [emitted, hnew, List.drop_left]

theorem emitted_eq_nil {log : σ → List α} {before after : σ} (hlog : log after = log before) :
    emitted log before after = [] := by
  rw [emitted, hlog, List.drop_length]

@[simp]
theorem emitted_self (log : σ → List α) (state : σ) : emitted log state state = [] :=
  emitted_eq_nil rfl

/-- Growth from one state to the next and on to a third adds up. -/
theorem emitted_trans {log : σ → List α} {first second third : σ}
    (hfirst : log first <+: log second) (hsecond : log second <+: log third) :
    emitted log first third = emitted log first second ++ emitted log second third := by
  apply emitted_of_append
  rw [← List.append_assoc, ← log_eq_append_emitted hfirst, ← log_eq_append_emitted hsecond]

/-- What is logged last has been emitted since any earlier state. -/
theorem mem_emitted_of_append {log : σ → List α} {before middle after : σ} {new : List α}
    {entry : α} (hgrow : log before <+: log middle) (hnew : log after = log middle ++ new)
    (hmem : entry ∈ new) : entry ∈ emitted log before after := by
  rw [emitted_trans hgrow ⟨new, hnew.symm⟩, emitted_of_append hnew]
  exact List.mem_append_right _ hmem

/-- The log has grown between two states by entries with the property `P`. -/
def Emits (log : σ → List α) (P : α → Prop) (before after : σ) : Prop :=
  ∃ new, log after = log before ++ new ∧ ∀ entry ∈ new, P entry

namespace Emits

variable {log : σ → List α} {P Q : α → Prop} {first second third : σ}

theorem of_log_eq (hlog : log second = log first) : Emits log P first second :=
  ⟨[], by rw [hlog, List.append_nil], by simp⟩

theorem of_append {entry : α} (hlog : log second = log first ++ [entry]) (hentry : P entry) :
    Emits log P first second :=
  ⟨[entry], hlog, by simpa using hentry⟩

theorem trans (h : Emits log P first second) (h' : Emits log P second third) :
    Emits log P first third := by
  obtain ⟨new, hlog, hnew⟩ := h
  obtain ⟨new', hlog', hnew'⟩ := h'
  refine ⟨new ++ new', by rw [hlog', hlog, List.append_assoc], ?_⟩
  intro entry hmem
  obtain hmem | hmem := List.mem_append.mp hmem
  · exact hnew entry hmem
  · exact hnew' entry hmem

theorem mono (h : Emits log P first second) (himp : ∀ entry, P entry → Q entry) :
    Emits log Q first second := by
  obtain ⟨new, hlog, hnew⟩ := h
  exact ⟨new, hlog, fun entry hmem => himp entry (hnew entry hmem)⟩

theorem log_extends (h : Emits log P first second) : log first <+: log second := by
  obtain ⟨new, hlog, _⟩ := h
  exact ⟨new, hlog.symm⟩

theorem of_mem_emitted (h : Emits log P first second) {entry : α}
    (hmem : entry ∈ emitted log first second) : P entry := by
  obtain ⟨new, hlog, hnew⟩ := h
  rw [emitted_of_append hlog] at hmem
  exact hnew entry hmem

end Emits

variable {step : σ → ι → σ}

/-- A property that each step of a run hands on, given what is special about
that step, holds in every state the run passes through. -/
theorem invariant_of_steps {P : σ → Prop} {start : σ} {inputs : List ι} (hstart : P start)
    (hstep : ∀ pre input post, inputs = pre ++ input :: post →
      P (pre.foldl step start) → P (step (pre.foldl step start) input)) :
    ∀ pre, pre <+: inputs → P (pre.foldl step start) := by
  intro pre
  induction pre using List.reverseRecOn with
  | nil => exact fun _ => hstart
  | append_singleton pre input ih =>
    rintro ⟨post, hpost⟩
    have hsplit : inputs = pre ++ input :: post := by
      rw [← hpost, List.append_assoc, List.singleton_append]
    rw [List.foldl_append, List.foldl_cons, List.foldl_nil]
    exact hstep pre input post hsplit (ih ⟨input :: post, hsplit.symm⟩)

/-- An unconditional invariant of the step function. -/
theorem invariant {P : σ → Prop} (hstep : ∀ state input, P state → P (step state input))
    {start : σ} (hstart : P start) (inputs : List ι) : P (inputs.foldl step start) :=
  invariant_of_steps hstart (fun _ _ _ _ => hstep _ _) inputs (List.prefix_refl _)

theorem log_extends_foldl {log : σ → List α}
    (hgrow : ∀ state input, log state <+: log (step state input)) (start : σ)
    (inputs : List ι) : log start <+: log (inputs.foldl step start) := by
  apply invariant (P := fun state => log start <+: log state) _ (List.prefix_refl _)
  exact fun state input h => h.trans (hgrow state input)

/-- The log entries of a run are those of its steps. -/
theorem mem_emitted_foldl {log : σ → List α}
    (hgrow : ∀ state input, log state <+: log (step state input)) {entry : α} {start : σ}
    {inputs : List ι} :
    entry ∈ emitted log start (inputs.foldl step start) ↔
      ∃ pre input post, inputs = pre ++ input :: post ∧
        entry ∈ emitted log (pre.foldl step start) (step (pre.foldl step start) input) := by
  induction inputs using List.reverseRecOn with
  | nil => simp
  | append_singleton inputs last ih =>
    rw [List.foldl_append, List.foldl_cons, List.foldl_nil,
      emitted_trans (log_extends_foldl hgrow start inputs) (hgrow _ last), List.mem_append, ih]
    constructor
    · rintro (⟨pre, input, post, rfl, hmem⟩ | hmem)
      · exact ⟨pre, input, post ++ [last], by simp, hmem⟩
      · exact ⟨inputs, last, [], rfl, hmem⟩
    · rintro ⟨pre, input, post, hsplit, hmem⟩
      obtain rfl | ⟨post, other, rfl⟩ := List.eq_nil_or_concat post
      · obtain ⟨rfl, hlast⟩ := List.append_inj' hsplit rfl
        cases hlast
        exact Or.inr hmem
      · left
        refine ⟨pre, input, post, ?_, hmem⟩
        have hshape : inputs ++ [last] = (pre ++ input :: post) ++ [other] := by
          simpa using hsplit
        exact (List.append_inj' hshape rfl).1

end Runs

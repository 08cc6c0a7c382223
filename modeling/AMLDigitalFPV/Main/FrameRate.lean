import AMLDigitalFPV.DvrRecorder.Worker
import Mathlib.Algebra.Order.Floor.Semifield
import Mathlib.Tactic.FieldSimp
import Mathlib.Tactic.Linarith
import Mathlib.Tactic.Positivity
import Mathlib.Tactic.Ring

namespace amldigitalfpv.frame_rate

/-- The members of the recorder that count the frames of a warm-up. The clock is
a rational number of milliseconds. -/
structure WarmUp where
  warmup_start_ms_ : ℚ := 0
  warmup_frame_count_ : Nat := 0
deriving DecidableEq

/-- The frame rate of a warm-up that counted some frames over some time. -/
def warm_up_fps (warmup_frame_count_ : Nat) (elapsed : ℚ) : ℚ :=
  max 1 (⌈warmup_frame_count_ * 1000 / elapsed⌉ : ℤ)

/-- The part of `worker_loop` that reacts to a frame during the warm-up, with the
frame rate if it completes the warm-up. -/
def WarmUp.frame (now : ℚ) (self : WarmUp) : Option ℚ × WarmUp :=
  let self :=
    if self.warmup_start_ms_ = 0 then { warmup_start_ms_ := now, warmup_frame_count_ := 0 }
    else self
  let self := { self with warmup_frame_count_ := self.warmup_frame_count_ + 1 }
  let elapsed := now - self.warmup_start_ms_
  if elapsed ≥ 1000 ∧ self.warmup_frame_count_ > 0 then
    (some (warm_up_fps self.warmup_frame_count_ elapsed), self)
  else
    (none, self)

/-- The static variables of the frame callback. -/
structure FpsWindow where
  fps_window_start : ℚ
  fps_window_frames : Nat := 0
deriving DecidableEq

/-- The part of the frame callback that measures the frame rate, with the one it
hands to `update_frame_rate`, if any. -/
def FpsWindow.frame (now : ℚ) (recording_active : Bool) (self : FpsWindow) :
    Option ℚ × FpsWindow :=
  if recording_active then
    let self := { self with fps_window_frames := self.fps_window_frames + 1 }
    let window_span := now - self.fps_window_start
    if window_span ≥ 500 then
      (some (self.fps_window_frames * 1000 / max 1 window_span),
        { fps_window_start := now, fps_window_frames := 0 })
    else
      (none, self)
  else
    (none, { fps_window_start := now, fps_window_frames := 0 })

section

variable (T start : ℚ)

/-- When frame `i` of the stream arrives. -/
def arrival (i : Nat) : ℚ := start + i * T

/-- The recorder before frame `j` of those that reach the worker, the first of
which is frame `queued` of the stream. -/
def warming (queued : Nat) : Nat → WarmUp
  | 0 => {}
  | j + 1 => ((warming queued j).frame (arrival T start (queued + j))).2

def warm_up_rate (queued j : Nat) : Option ℚ :=
  ((warming T start queued j).frame (arrival T start (queued + j))).1

/-- The frame callback before frame `i` of the stream. The recorder records
frame `i` if `recording i`. -/
def window (recording : Nat → Bool) : Nat → FpsWindow
  | 0 => { fps_window_start := arrival T start 0 }
  | i + 1 => ((window recording i).frame (arrival T start i) (recording i)).2

def window_rate (recording : Nat → Bool) (i : Nat) : Option ℚ :=
  ((window T start recording i).frame (arrival T start i) (recording i)).1

/-- The frame rate of the stream, rounded up. -/
def true_rate : ℚ := max 1 (⌈1000 / T⌉ : ℤ)

/-- The warm-up completes with the rounded-up frame rate of the stream, and every
window of the frame callback comes to the same, rounded up. -/
structure EstimatorsAgree (queued : Nat) (recording : Nat → Bool) : Prop where
  warm_up : ∃ j, (∀ earlier < j, warm_up_rate T start queued earlier = none) ∧
    warm_up_rate T start queued j = some (true_rate T)
  window : ∀ i fps, window_rate T start recording i = some fps →
    (max 1 (⌈fps⌉ : ℤ) : ℚ) = true_rate T

end

/-- The periods that fill the second of a warm-up. -/
def full_second (T : ℚ) : Nat := ⌈1000 / T⌉₊

/-- The periods that fill a window of the frame callback. -/
def half_second (T : ℚ) : Nat := ⌈500 / T⌉₊

theorem rounded_up {rate : ℚ} (hrate : 0 < rate) :
    (max 1 (⌈rate⌉ : ℤ) : ℚ) = (⌈rate⌉₊ : ℚ) := by
  have hceil : ((⌈rate⌉₊ : ℤ) : ℚ) = (⌈rate⌉ : ℤ) := by
    rw [Int.natCast_ceil_eq_ceil hrate.le]
  have hone : (1 : ℚ) ≤ ⌈rate⌉₊ := by
    simpa using Nat.ceil_pos.mpr hrate
  rw [← hceil]
  simpa using hone

theorem lt_full_second {T : ℚ} (hT : 0 < T) (k : Nat) :
    k < full_second T ↔ k * T < 1000 := by
  rw [full_second, Nat.lt_ceil, lt_div_iff₀ hT]

theorem lt_half_second {T : ℚ} (hT : 0 < T) (k : Nat) :
    k < half_second T ↔ k * T < 500 := by
  rw [half_second, Nat.lt_ceil, lt_div_iff₀ hT]

theorem full_second_pos {T : ℚ} (hT : 0 < T) : 0 < full_second T := by
  simp [lt_full_second hT]

theorem half_second_pos {T : ℚ} (hT : 0 < T) : 0 < half_second T := by
  simp [lt_half_second hT]

theorem full_second_eq_one {T : ℚ} (hlong : 1000 ≤ T) : full_second T = 1 := by
  have hT : 0 < T := by linarith
  have hpos := full_second_pos hT
  have hone := (lt_full_second hT 1).not.mpr (by simpa using hlong)
  omega

theorem half_second_eq_one {T : ℚ} (hlong : 500 ≤ T) : half_second T = 1 := by
  have hT : 0 < T := by linarith
  have hpos := half_second_pos hT
  have hone := (lt_half_second hT 1).not.mpr (by simpa using hlong)
  omega

/-- A window ends within a second unless a single period takes as long. -/
theorem half_second_time {T : ℚ} (hT : 0 < T) (hsecond : T < 1000) :
    half_second T * T < 1000 := by
  obtain hshort | hlong := lt_or_ge T 500
  · have hpos := half_second_pos hT
    have hlast := (lt_half_second hT (half_second T - 1)).mp (by omega)
    rw [Nat.cast_pred hpos] at hlast
    linarith
  · simpa [half_second_eq_one hlong] using hsecond

theorem full_second_time {T : ℚ} (hT : 0 < T) : full_second T * T < 1000 + T := by
  have hpos := full_second_pos hT
  have hlast := (lt_full_second hT (full_second T - 1)).mp (by omega)
  rw [Nat.cast_pred hpos] at hlast
  linarith

theorem true_rate_eq {T : ℚ} (hT : 0 < T) : true_rate T = full_second T := by
  have hrate : 0 < 1000 / T := by positivity
  simp [true_rate, full_second, rounded_up hrate]

section

variable {T start : ℚ}

/-- A frame that finds no warm-up under way starts one and is the first to be
counted. -/
theorem frame_starts {self : WarmUp} (now : ℚ) (hidle : self.warmup_start_ms_ = 0) :
    self.frame now = (none, ⟨now, 1⟩) := by
  simp [WarmUp.frame, hidle]

theorem frame_counts {self : WarmUp} (now : ℚ) (hcounting : self.warmup_start_ms_ ≠ 0) :
    self.frame now =
      (if 1000 ≤ now - self.warmup_start_ms_ then
        some (warm_up_fps (self.warmup_frame_count_ + 1) (now - self.warmup_start_ms_))
      else none,
      ⟨self.warmup_start_ms_, self.warmup_frame_count_ + 1⟩) := by
  simp only [WarmUp.frame, if_neg hcounting]
  split <;> simp_all

theorem frame_rate_of_counted (self : WarmUp) (now : ℚ) :
    (self.frame now).1 =
      if 1000 ≤ now - (self.frame now).2.warmup_start_ms_ then
        some (warm_up_fps (self.frame now).2.warmup_frame_count_
          (now - (self.frame now).2.warmup_start_ms_))
      else none := by
  by_cases hidle : self.warmup_start_ms_ = 0
  · norm_num [frame_starts _ hidle]
  · simp [frame_counts _ hidle]

theorem arrival_add (T start : ℚ) (i k : Nat) :
    arrival T start (i + k) - arrival T start i = k * T := by
  simp only [arrival]
  push_cast
  ring

/-- The warm-up counts from the first frame whose arrival is not taken for the
mark of no warm-up. -/
theorem first_counted (start : ℚ) (hT : 0 < T) (queued : Nat) :
    ∃ first, (warming T start queued first).warmup_start_ms_ = 0 ∧
      arrival T start (queued + first) ≠ 0 ∧
      ∀ earlier < first, warm_up_rate T start queued earlier = none := by
  by_cases hzero : arrival T start queued = 0
  · refine ⟨1, ?_, ?_, ?_⟩
    · simp [warming, frame_starts, hzero]
    · have hnext : arrival T start (queued + 1) = T := by
        have := arrival_add T start queued 1
        simpa [hzero] using this
      rw [hnext]
      exact hT.ne'
    · intro earlier hearlier
      obtain rfl : earlier = 0 := by omega
      simp [warm_up_rate, warming, frame_starts]
  · exact ⟨0, rfl, hzero, by simp⟩

theorem warming_succ (queued j : Nat) :
    warming T start queued (j + 1) =
      ((warming T start queued j).frame (arrival T start (queued + j))).2 := rfl

/-- Frame `k` after the first one is the `k + 1`st to be counted, `k` periods
into the warm-up. -/
theorem warming_counted {queued first : Nat}
    (hidle : (warming T start queued first).warmup_start_ms_ = 0)
    (hfirst : arrival T start (queued + first) ≠ 0) (k : Nat) :
    warming T start queued (first + (k + 1)) = ⟨arrival T start (queued + first), k + 1⟩ := by
  induction k with
  | zero => simp [warming, frame_starts _ hidle]
  | succ k ih =>
    have hcounting : (warming T start queued (first + (k + 1))).warmup_start_ms_ ≠ 0 := by
      simpa [ih] using hfirst
    rw [← Nat.add_assoc first, warming_succ, frame_counts _ hcounting, ih]

theorem warm_up_rate_counted {queued first : Nat}
    (hidle : (warming T start queued first).warmup_start_ms_ = 0)
    (hfirst : arrival T start (queued + first) ≠ 0) (k : Nat) :
    warm_up_rate T start queued (first + k) =
      if 1000 ≤ k * T then some (warm_up_fps (k + 1) (k * T)) else none := by
  cases k with
  | zero => norm_num [warm_up_rate, frame_starts _ hidle]
  | succ k =>
    have hcounted := warming_counted hidle hfirst k
    have hspan := arrival_add T start (queued + first) (k + 1)
    have hcounting : (warming T start queued (first + (k + 1))).warmup_start_ms_ ≠ 0 := by
      simpa [hcounted] using hfirst
    rw [warm_up_rate, frame_counts _ hcounting, hcounted, ← Nat.add_assoc queued, hspan]

/-- The warm-up completes after the periods that fill a second, with one frame
more than these counted. -/
theorem warm_up_completes (start : ℚ) (hT : 0 < T) (queued : Nat) :
    ∃ j, (∀ earlier < j, warm_up_rate T start queued earlier = none) ∧
      warm_up_rate T start queued j = some
        (warm_up_fps (full_second T + 1) (full_second T * T)) := by
  obtain ⟨first, hidle, hfirst, hearlier⟩ := first_counted start hT queued
  refine ⟨first + full_second T, ?_, ?_⟩
  · intro earlier hlt
    obtain hbefore | ⟨k, rfl⟩ : earlier < first ∨ ∃ k, earlier = first + k := by
      obtain hbefore | hafter := Nat.lt_or_ge earlier first
      · exact .inl hbefore
      · exact .inr ⟨earlier - first, by omega⟩
    · exact hearlier earlier hbefore
    · have hk : k * T < 1000 := by
        rw [← lt_full_second hT]
        omega
      rw [warm_up_rate_counted hidle hfirst, if_neg (by linarith)]
  · have hfull : 1000 ≤ full_second T * T := by
      simpa using (lt_full_second hT (full_second T)).not.mp (by omega)
    rw [warm_up_rate_counted hidle hfirst, if_pos hfull]

/-- The frame that the warm-up counts too many is lost in the rounding only if
the periods exceed the second by as much. -/
theorem warm_up_exact_iff (hT : 0 < T) :
    warm_up_fps (full_second T + 1) (full_second T * T) = true_rate T ↔
      1000 * (full_second T + 1 : ℚ) ≤ full_second T ^ 2 * T := by
  have hpos := full_second_pos hT
  have hcast : (0 : ℚ) < full_second T := by exact_mod_cast hpos
  have hspan : 0 < full_second T * T := by positivity
  have hbelow : ((full_second T - 1 : Nat) : ℚ) <
      ((full_second T + 1 : Nat) : ℚ) * 1000 / (full_second T * T) := by
    have hlt := (lt_full_second hT (full_second T - 1)).mp (by omega)
    rw [lt_div_iff₀ hspan]
    push_cast
    nlinarith
  rw [warm_up_fps, rounded_up (by positivity), true_rate_eq hT, Nat.cast_inj,
    Nat.ceil_eq_iff hpos.ne', div_le_iff₀ hspan]
  push_cast at hbelow ⊢
  constructor
  · rintro ⟨-, habove⟩
    linarith
  · intro hover
    exact ⟨hbelow, by linarith⟩

/-- The frame that the first window counts too many is never lost in the rounding
below two seconds. -/
theorem first_window_exceeds (hT : 0 < T) (hshort : T < 2000) :
    full_second T < ⌈((half_second T + 1 : Nat) * 1000 : ℚ) / (half_second T * T)⌉₊ := by
  have hcast : (0 : ℚ) < half_second T := by exact_mod_cast half_second_pos hT
  have hspan : 0 < half_second T * T := by positivity
  rw [Nat.lt_ceil, lt_div_iff₀ hspan]
  push_cast
  obtain hsecond | hsecond := lt_or_ge T 1000
  · -- the window takes less than a second, so one frame more is one per second more
    have hperiods := full_second_time hT
    have hwindow := half_second_time hT hsecond
    nlinarith
  · rw [full_second_eq_one hsecond, half_second_eq_one (by linarith)]
    push_cast
    linarith

/-- The first window of a recorder that records from the first frame on counts
that frame as well. -/
theorem first_window_exact_iff (hT : 0 < T) :
    (max 1 (⌈((half_second T + 1 : Nat) * 1000 : ℚ) / (half_second T * T)⌉ : ℤ) : ℚ) =
      true_rate T ↔ 2000 ≤ T := by
  have hcast : (0 : ℚ) < half_second T := by exact_mod_cast half_second_pos hT
  rw [rounded_up (by positivity), true_rate_eq hT, Nat.cast_inj]
  constructor
  · intro heq
    by_contra hshort
    have hmore := first_window_exceeds hT (not_le.mp hshort)
    omega
  · intro hlong
    rw [full_second_eq_one (by linarith), half_second_eq_one (by linarith),
      Nat.ceil_eq_iff one_ne_zero, div_le_iff₀ (by simpa using hT)]
    constructor
    · simp only [Nat.sub_self, Nat.cast_zero]
      positivity
    · push_cast
      linarith

theorem frame_measures (T start : ℚ) (began k counted : Nat) :
    (⟨arrival T start began, counted⟩ : FpsWindow).frame (arrival T start (began + k)) true =
      if 500 ≤ k * T then
        (some ((counted + 1 : Nat) * 1000 / (k * T)), ⟨arrival T start (began + k), 0⟩)
      else (none, ⟨arrival T start began, counted + 1⟩) := by
  simp only [FpsWindow.frame, arrival_add, ge_iff_le, if_true]
  split
  next hfull => simp [max_eq_right (show (1 : ℚ) ≤ k * T by linarith)]
  next => rfl

theorem frame_not_recording (self : FpsWindow) (now : ℚ) :
    self.frame now false = (none, ⟨now, 0⟩) := by
  simp [FpsWindow.frame]

theorem window_succ (recording : Nat → Bool) (i : Nat) :
    window T start recording (i + 1) =
      ((window T start recording i).frame (arrival T start i) (recording i)).2 := rfl

/-- After frame `i` the frame callback has counted the frames since the one that
began the window. -/
def Measuring (T start : ℚ) (i : Nat) (self : FpsWindow) : Prop :=
  ∃ began counted, began + counted = i ∧ self = ⟨arrival T start began, counted⟩

theorem Measuring.begins (i : Nat) : Measuring T start i ⟨arrival T start i, 0⟩ :=
  ⟨i, 0, rfl, rfl⟩

theorem Measuring.frame {i : Nat} {self : FpsWindow} (h : Measuring T start i self)
    (recording : Bool) :
    Measuring T start (i + 1) (self.frame (arrival T start (i + 1)) recording).2 ∧
      ∀ fps, (self.frame (arrival T start (i + 1)) recording).1 = some fps → fps = 1000 / T := by
  obtain ⟨began, counted, rfl, rfl⟩ := h
  cases recording with
  | false => simpa [frame_not_recording] using Measuring.begins (began + counted + 1)
  | true =>
    rw [Nat.add_assoc, frame_measures]
    split
    · refine ⟨Measuring.begins _, ?_⟩
      intro fps hfps
      have hcounted : ((counted + 1 : Nat) : ℚ) ≠ 0 := by positivity
      rw [← Option.some_inj.mp hfps, mul_div_mul_left _ _ hcounted]
    · exact ⟨⟨began, counted + 1, rfl, rfl⟩, by simp⟩

/-- The window of a recorder that records from the first frame on is still the
first one after frame `i`. -/
structure FirstWindow (T start : ℚ) (recording : Nat → Bool) (i : Nat) : Prop where
  recorded : ∀ j ≤ i, recording j
  partial_window : i < half_second T
  state : window T start recording (i + 1) = ⟨arrival T start 0, i + 1⟩

/-- Frame `i` of a recorder that has recorded every frame before it, none of
which was late enough to end the window. -/
theorem FirstWindow.frame (hT : 0 < T) {recording : Nat → Bool} {i : Nat}
    (hrecorded : ∀ j < i, recording j)
    (hstate : window T start recording i = ⟨arrival T start 0, i⟩) :
    Measuring T start i (window T start recording (i + 1)) ∨
      FirstWindow T start recording i := by
  rw [window_succ, hstate]
  cases hnow : recording i with
  | false => exact .inl (by simpa [frame_not_recording] using Measuring.begins i)
  | true =>
    have hframe := frame_measures T start 0 i i
    rw [Nat.zero_add] at hframe
    rw [hframe]
    split
    next => exact .inl (Measuring.begins i)
    next hshort =>
      right
      refine ⟨?_, (lt_half_second hT i).mpr (by linarith), ?_⟩
      · intro j hj
        obtain rfl | hlt := Nat.eq_or_lt_of_le hj
        · exact hnow
        · exact hrecorded j hlt
      · rw [window_succ, hstate, hnow, hframe, if_neg hshort]

theorem window_counted (start : ℚ) (hT : 0 < T) (recording : Nat → Bool) (i : Nat) :
    Measuring T start i (window T start recording (i + 1)) ∨
      FirstWindow T start recording i := by
  induction i with
  | zero => exact FirstWindow.frame hT (by simp) rfl
  | succ i ih =>
    obtain hmeasuring | hfirst := ih
    · exact .inl (hmeasuring.frame _).1
    · exact FirstWindow.frame hT (fun j hj => hfirst.recorded j (by omega)) hfirst.state

theorem window_first (start : ℚ) (hT : 0 < T) {recording : Nat → Bool} {i : Nat}
    (hrecorded : ∀ j < i, recording j) (hshort : i ≤ half_second T) :
    window T start recording i = ⟨arrival T start 0, i⟩ := by
  induction i with
  | zero => rfl
  | succ i ih =>
    have hstate := ih (fun j hj => hrecorded j (by omega)) (by omega)
    have hspan := (lt_half_second hT i).mp (by omega)
    have hframe := frame_measures T start 0 i i
    rw [Nat.zero_add, if_neg (by linarith)] at hframe
    rw [window_succ, hstate, hrecorded i (by omega), hframe]

theorem FirstWindow.rate (hT : 0 < T) {recording : Nat → Bool} {i : Nat} {fps : ℚ}
    (hrecorded : ∀ j < i, recording j) (hshort : i ≤ half_second T)
    (hstate : window T start recording i = ⟨arrival T start 0, i⟩)
    (hfps : window_rate T start recording i = some fps) :
    (∀ j ≤ half_second T, recording j) ∧
      fps = (half_second T + 1 : Nat) * 1000 / (half_second T * T) := by
  rw [window_rate, hstate] at hfps
  cases hnow : recording i with
  | false => simp [hnow, frame_not_recording] at hfps
  | true =>
    have hframe := frame_measures T start 0 i i
    rw [Nat.zero_add] at hframe
    rw [hnow, hframe] at hfps
    split at hfps
    next hfull =>
      have hlast : i = half_second T := by
        have := (lt_half_second hT i).not.mpr (by linarith)
        omega
      subst hlast
      refine ⟨?_, (Option.some_inj.mp hfps).symm⟩
      intro j hj
      obtain rfl | hlt := Nat.eq_or_lt_of_le hj
      · exact hnow
      · exact hrecorded j hlt
    next => simp at hfps

/-- A window that began with a frame gives the frame rate of the stream. The
first window of a recorder that records from the first frame on counts one frame
more. -/
theorem window_rate_cases (hT : 0 < T) {recording : Nat → Bool} {i : Nat} {fps : ℚ}
    (hfps : window_rate T start recording i = some fps) :
    fps = 1000 / T ∨
      (∀ j ≤ half_second T, recording j) ∧
        fps = (half_second T + 1 : Nat) * 1000 / (half_second T * T) := by
  cases i with
  | zero => exact .inr (FirstWindow.rate hT (by simp) (by simp) rfl hfps)
  | succ i =>
    obtain hmeasuring | hfirst := window_counted start hT recording i
    · exact .inl ((hmeasuring.frame _).2 fps hfps)
    · have hshort : i + 1 ≤ half_second T := hfirst.partial_window
      exact .inr (FirstWindow.rate hT (fun j hj => hfirst.recorded j (by omega)) hshort
        hfirst.state hfps)

theorem first_window_rate (start : ℚ) (hT : 0 < T) {recording : Nat → Bool}
    (hrecorded : ∀ j ≤ half_second T, recording j) :
    window_rate T start recording (half_second T) =
      some ((half_second T + 1 : Nat) * 1000 / (half_second T * T)) := by
  have hstate := window_first start hT
    (fun j hj => hrecorded j (Nat.le_of_lt hj)) (Nat.le_refl _)
  have hfull : 500 ≤ half_second T * T := by
    simpa using (lt_half_second hT (half_second T)).not.mp (by omega)
  have hframe := frame_measures T start 0 (half_second T) (half_second T)
  rw [Nat.zero_add, if_pos hfull] at hframe
  rw [window_rate, hstate, hrecorded _ (Nat.le_refl _), hframe]

theorem first_rate_unique {rate : Nat → Option ℚ} {i j : Nat} {fps other : ℚ}
    (hi : (∀ earlier < i, rate earlier = none) ∧ rate i = some fps)
    (hj : (∀ earlier < j, rate earlier = none) ∧ rate j = some other) : fps = other := by
  have heq : i = j := by
    obtain hlt | heq | hgt := Nat.lt_trichotomy i j
    · simp [hj.1 i hlt] at hi
    · exact heq
    · simp [hi.1 j hgt] at hj
  subst heq
  exact Option.some_inj.mp (hi.2.symm.trans hj.2)

/-- The estimators agree on a steady stream if and only if the periods of the
warm-up exceed its second by a frame's time at the rounded-up rate, and, where the
first frame of the stream is recorded and all those of its window, a period is no
less than two seconds. -/
theorem estimators_agree_iff (hT : 0 < T) (queued : Nat) (recording : Nat → Bool) :
    EstimatorsAgree T start queued recording ↔
      1000 * (full_second T + 1 : ℚ) ≤ full_second T ^ 2 * T ∧
        ((∀ i ≤ half_second T, recording i) → 2000 ≤ T) := by
  obtain ⟨last, hlast⟩ := warm_up_completes start hT queued
  constructor
  · intro h
    constructor
    · obtain ⟨j, hj⟩ := h.warm_up
      exact (warm_up_exact_iff hT).mp (first_rate_unique hlast hj)
    · intro hrecorded
      exact (first_window_exact_iff hT).mp (h.window _ _ (first_window_rate start hT hrecorded))
  · rintro ⟨hwarm, hfirst⟩
    constructor
    · rw [(warm_up_exact_iff hT).mpr hwarm] at hlast
      exact ⟨last, hlast⟩
    · intro i fps hfps
      obtain rfl | ⟨hrecorded, rfl⟩ := window_rate_cases hT hfps
      · rfl
      · exact (first_window_exact_iff hT).mpr (hfirst hrecorded)

end

theorem estimators_agree_iff_two_seconds :
    (0 : ℚ) < 2000 ∧ EstimatorsAgree 2000 1 1 fun _ => true := by
  have hperiod : (0 : ℚ) < 2000 := by norm_num
  refine ⟨hperiod, (estimators_agree_iff hperiod 1 fun _ => true).mpr ⟨?_, ?_⟩⟩
  · rw [full_second_eq_one (by norm_num)]
    norm_num
  · simp

/-- At 50 frames per second the warm-up comes to 51. -/
theorem estimators_agree_counterexample :
    ¬ EstimatorsAgree 20 1 1 fun i => decide (1 ≤ i) := by
  intro h
  have hperiod : (0 : ℚ) < 20 := by norm_num
  have hfull : full_second 20 = 50 := by norm_num [full_second]
  obtain ⟨last, hlast⟩ := warm_up_completes 1 hperiod 1
  obtain ⟨j, hj⟩ := h.warm_up
  have heq := first_rate_unique hlast hj
  rw [true_rate_eq hperiod, hfull] at heq
  norm_num [warm_up_fps] at heq

section

open dvr_recorder

variable {ω : Type} (H : Host ω)

/-- The members of a recorder that count. -/
def of_recorder (self : DvrRecorder) : WarmUp where
  warmup_start_ms_ := self.warmup_start_ms_
  warmup_frame_count_ := self.warmup_frame_count_

theorem u64_sub_of_le {start now : Nat} (hle : start ≤ now) (hnow : now < 2 ^ 64) :
    u64_sub now start = now - start := by
  simp only [u64_sub]
  omega

/-- The recorder counts a frame of the warm-up as it does over the rationals. -/
theorem count_frame_counts {w : World ω} {now : Nat} (hfirst : (monotonic_ms H w).1 = now)
    (hcount : w.self.warmup_frame_count_ + 1 < 2 ^ 32) :
    of_recorder (DvrRecorder.count_frame H w).self = ((of_recorder w.self).frame now).2 := by
  by_cases hidle : w.self.warmup_start_ms_ = 0
  · have hnone : (of_recorder w.self).warmup_start_ms_ = 0 := by
      simp [of_recorder, hidle]
    rw [frame_starts now hnone]
    simp [DvrRecorder.count_frame, hidle, World.update, of_recorder, hfirst]
  · have hcounting : (of_recorder w.self).warmup_start_ms_ ≠ 0 := by
      simpa [of_recorder] using hidle
    rw [frame_counts now hcounting]
    simp [DvrRecorder.count_frame, hidle, World.update, of_recorder]
    exact hcount

theorem count_frame_past {w : World ω} {now : Nat} (hfirst : (monotonic_ms H w).1 = now)
    (hpast : w.self.warmup_start_ms_ ≤ now) :
    (DvrRecorder.count_frame H w).self.warmup_start_ms_ ≤ now := by
  simp only [DvrRecorder.count_frame]
  split
  · simp [World.update, hfirst]
  · exact hpast

theorem count_frame_counted (w : World ω) (hcount : w.self.warmup_frame_count_ + 1 < 2 ^ 32) :
    0 < (DvrRecorder.count_frame H w).self.warmup_frame_count_ := by
  simp only [DvrRecorder.count_frame]
  split
  · simp [World.update]
  · simp only [World.update]
    omega

/-- As long as the clock does not go back and no counter wraps around, the
recorder completes the warm-up with the frame that completes it over the
rationals, and with the same frame rate. -/
theorem warm_up_refines {w : World ω} {now : Nat} (hfirst : (monotonic_ms H w).1 = now)
    (hagain : (monotonic_ms H (DvrRecorder.count_frame H w)).1 = now)
    (hclock : now < 2 ^ 64) (hpast : w.self.warmup_start_ms_ ≤ now)
    (hcount : w.self.warmup_frame_count_ + 1 < 2 ^ 32) :
    let counted := DvrRecorder.count_frame H w
    let elapsed := now - counted.self.warmup_start_ms_
    ((of_recorder w.self).frame now).1 =
        (if 1000 ≤ elapsed then
          some (warm_up_fps counted.self.warmup_frame_count_ elapsed)
        else none) ∧
      DvrRecorder.warm_up H w =
        if 1000 ≤ elapsed then
          DvrRecorder.finish_warm_up H elapsed (monotonic_ms H counted).2
        else (monotonic_ms H counted).2 := by
  intro counted elapsed
  have hbegan : counted.self.warmup_start_ms_ ≤ now := count_frame_past H hfirst hpast
  constructor
  · rw [frame_rate_of_counted, ← count_frame_counts H hfirst hcount]
    have hspan : (now : ℚ) - (of_recorder counted.self).warmup_start_ms_ = (elapsed : Nat) := by
      simp [elapsed, of_recorder, Nat.cast_sub hbegan]
    rw [hspan]
    simp only [of_recorder, Nat.ofNat_le_cast, counted]
  · have hcounted := count_frame_counted H w hcount
    have helapsed : u64_sub now (DvrRecorder.count_frame H w).self.warmup_start_ms_ = elapsed :=
      u64_sub_of_le hbegan hclock
    simp only [DvrRecorder.warm_up, hagain]
    rw [helapsed]
    simp [hcounted, counted]

end

end amldigitalfpv.frame_rate

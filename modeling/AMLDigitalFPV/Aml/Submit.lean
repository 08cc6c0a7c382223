import AMLDigitalFPV.Library.Pacing
import Mathlib.Data.Nat.SuccPred
import Mathlib.Order.Lattice.Nat

open Pacing

namespace amldigitalfpv.aml

def EAGAIN : Int := 11

def MAX_WRITE_ATTEMPTS : Nat := 5

def EAGAIN_SLEEP_TIME : Nat := 2 * 1000

/-- A call of `aml_submit_decode_unit`: its argument, the reading of
`get_time_ms`, the result of `codec_write` and the `errno` that it leaves. -/
structure Submission where
  decodeUnit : List UInt8
  time_ms : UInt64
  api : Int
  errno : Int
deriving DecidableEq, Repr

/-- A call of the codec library, the log or the C library. -/
inductive Effect where
  | codec_checkin_pts_us64 (pts_us : UInt64)
  | codec_write (decodeUnit : List UInt8)
  | spdlog_error (format : String) (arguments : List Int)
  | codec_reset
  | usleep (usec : Nat)
deriving DecidableEq, Repr

/-- The timestamp for a reading of the clock after the last timestamp. -/
def next_pts_us (time_ms last_pts_us : UInt64) : UInt64 :=
  let pts_us := (time_ms - 8) * 1000
  if pts_us ≤ last_pts_us then last_pts_us + 1000 else pts_us

/-- The returned `api`, the effects in order and the new `last_pts_us`. -/
def aml_submit_decode_unit (call : Submission) (last_pts_us : UInt64) :
    Int × List Effect × UInt64 :=
  let pts_us := next_pts_us call.time_ms last_pts_us
  let failed : List Effect :=
    if call.api < 0 then
      if call.errno ≠ EAGAIN then
        [.spdlog_error "codec_write() error: %x %d" [call.errno, call.api], .codec_reset]
      else
        -- `errCounter` is a local that starts at 0 and there is no loop
        (if 0 + 1 = MAX_WRITE_ATTEMPTS then [.spdlog_error "codec_write() timeout" []] else []) ++
          [.usleep EAGAIN_SLEEP_TIME]
    else
      []
  (call.api, [.codec_checkin_pts_us64 pts_us, .codec_write call.decodeUnit] ++ failed, pts_us)

/-- The effects of each of the calls that follow one another. -/
def submissions (last_pts_us : UInt64) : List Submission → List (List Effect)
  | [] => []
  | call :: calls =>
    (aml_submit_decode_unit call last_pts_us).2.1 ::
      submissions (aml_submit_decode_unit call last_pts_us).2.2 calls

/-- The timestamps that are checked in, in microseconds. -/
def checkins (effects : List Effect) : List Nat :=
  effects.filterMap fun
    | .codec_checkin_pts_us64 pts_us => some pts_us.toNat
    | _ => none

/-- The readings of the clock in milliseconds, less the eight of the code. -/
def readings (calls : List Submission) : List Nat :=
  calls.map fun call => call.time_ms.toNat - 8

/-- Each call checks in one timestamp: the least multiple of a millisecond that
neither precedes its reading nor comes within a millisecond of the call before. -/
structure Timestamps (calls : List Submission) : Prop where
  value : ∀ k < calls.length, ((submissions 0 calls)[k]?).map checkins =
    some [1000 * max (k + 1)
      ((Finset.range (k + 1)).sup fun i => (readings calls).getD i 0 + (k - i))]
  increasing : ((submissions 0 calls).flatMap checkins).Pairwise (· + 1000 ≤ ·)

@[simp]
theorem checkins_submit (call : Submission) (last_pts_us : UInt64) :
    checkins (aml_submit_decode_unit call last_pts_us).2.1 =
      [(next_pts_us call.time_ms last_pts_us).toNat] := by
  simp only [aml_submit_decode_unit, MAX_WRITE_ATTEMPTS]
  split
  · split <;> simp [checkins]
  · simp [checkins]

/-- Between multiples of a millisecond the test is a maximum. -/
theorem next_pts_us_toNat {time_ms last_pts_us : UInt64} {last : Nat}
    (hlast : last_pts_us.toNat = 1000 * last) (hearly : 8 ≤ time_ms.toNat)
    (hreading : 1000 * (time_ms.toNat - 8) < 2 ^ 64) (hnext : 1000 * (last + 1) < 2 ^ 64) :
    (next_pts_us time_ms last_pts_us).toNat =
      1000 * max (time_ms.toNat - 8) (last + 1) := by
  have hsub : (time_ms - 8).toNat = time_ms.toNat - 8 :=
    UInt64.toNat_sub_of_le time_ms 8 (by simpa [UInt64.le_iff_toNat_le] using hearly)
  have hpts : ((time_ms - 8) * 1000).toNat = 1000 * (time_ms.toNat - 8) := by
    rw [UInt64.toNat_mul, hsub, Nat.mul_comm]
    exact Nat.mod_eq_of_lt hreading
  have hafter : (last_pts_us + 1000).toNat = 1000 * last + 1000 := by
    rw [UInt64.toNat_add, hlast]
    exact Nat.mod_eq_of_lt (by simp; omega)
  simp only [next_pts_us, UInt64.le_iff_toNat_le, hpts, hlast]
  split
  · rw [hafter]
    omega
  · rw [hpts]
    omega

/-- The code paces the readings of the clock. -/
theorem submissions_paced {calls : List Submission} {last_pts_us : UInt64} {last : Nat}
    (hlast : last_pts_us.toNat = 1000 * last) (hearly : ∀ call ∈ calls, 8 ≤ call.time_ms.toNat)
    (hfits : ∀ call ∈ calls, 1000 * (call.time_ms.toNat - 8 + calls.length) < 2 ^ 64)
    (hroom : 1000 * (last + calls.length) < 2 ^ 64) :
    (submissions last_pts_us calls).map checkins =
      (paced Nat.succ last (readings calls)).map fun value => [1000 * value] := by
  induction calls generalizing last_pts_us last with
  | nil => rfl
  | cons call calls ih =>
    obtain ⟨hcall, hcalls⟩ := List.forall_mem_cons.mp hearly
    obtain ⟨hfit, hrest⟩ := List.forall_mem_cons.mp hfits
    simp only [List.length_cons] at hfit hrest hroom
    have hpts := next_pts_us_toNat hlast hcall (by omega) (by omega)
    have hnext := ih hpts hcalls (fun next hnext => by have := hrest next hnext; omega) (by omega)
    simp only [submissions, List.map_cons, checkins_submit, readings, paced, hpts]
    exact congrArg _ hnext

/-- For every sequence of readings the timestamps follow the clock as closely as
strictly increasing ones can. -/
theorem timestamps_follow_clock {calls : List Submission}
    (hearly : ∀ call ∈ calls, 8 ≤ call.time_ms.toNat)
    (hfits : ∀ call ∈ calls, 1000 * (call.time_ms.toNat - 8 + calls.length) < 2 ^ 64) :
    Timestamps calls := by
  have hroom : 1000 * (0 + calls.length) < 2 ^ 64 := by
    cases calls with
    | nil => simp
    | cons call calls =>
      have hfit := hfits call List.mem_cons_self
      omega
  have hzero : (0 : UInt64).toNat = 1000 * 0 := rfl
  have hpaced := submissions_paced hzero hearly hfits hroom
  constructor
  · intro k hk
    have hlength : k < (readings calls).length := by simpa [readings] using hk
    have hvalue := paced_getElem? (fun _ _ => Nat.succ_le_succ) 0 (readings calls) hlength
    simp only [Nat.succ_iterate, Nat.zero_add, Nat.bot_eq_zero] at hvalue
    rw [← List.getElem?_map, hpaced, List.getElem?_map, hvalue, Option.map_some]
  · have hpairwise := paced_pairwise Nat.le_succ 0 (readings calls)
    rw [List.flatMap_def, hpaced, ← List.flatMap_def, ← List.map_eq_flatMap, List.pairwise_map]
    exact hpairwise.imp fun hnext => by omega

theorem timestamps_follow_burst :
    Timestamps [⟨[1], 10, 1, 0⟩, ⟨[2], 10, -1, EAGAIN⟩, ⟨[], 9, -1, 5⟩] :=
  timestamps_follow_clock (by simp) (by simp)

end amldigitalfpv.aml

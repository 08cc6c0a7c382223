import AMLDigitalFPV.MiniMp4.Nal

namespace amldigitalfpv.minimp4

/-- Data without a start code that do not end in a zero, which a start code
after them would claim for itself. -/
structure Quiet (data : Bytes) : Prop where
  no_start_code : find_start_code 0 0 data = none
  last_nonzero : data.getLast? ≠ some 0

instance (data : Bytes) : Decidable (Quiet data) :=
  decidable_of_iff (find_start_code 0 0 data = none ∧ data.getLast? ≠ some 0)
    ⟨fun h => ⟨h.1, h.2⟩, fun h => ⟨h.1, h.2⟩⟩

/-- A NAL unit as a byte stream may carry it. -/
structure IsUnit (unit : Bytes) : Prop where
  nonempty : unit ≠ []
  quiet : Quiet unit

/-- A start code of so many zeros. -/
def start_code (zeros : Nat) : Bytes := List.replicate zeros 0 ++ [1]

/-- NAL units, each behind a start code. -/
def byte_stream (units : List (Nat × Bytes)) : Bytes :=
  units.flatMap fun unit => start_code unit.1 ++ unit.2

/-- What the loop visits at zeros that end the data: where there are two of them
or more, a `01` behind the data is taken for the end of a start code. -/
def visits_at_end (past : UInt8) (zeros : Nat) : List (Option Bytes) :=
  if past = 1 ∧ 2 ≤ zeros then [none] else []

@[simp] theorem byte_stream_nil : byte_stream [] = [] := rfl

@[simp] theorem byte_stream_cons (unit : Nat × Bytes) (units : List (Nat × Bytes)) :
    byte_stream (unit :: units) = start_code unit.1 ++ unit.2 ++ byte_stream units := rfl

section

variable {past : UInt8}

theorem find_start_code_zeros (zero_cnt zeros : Nat) :
    find_start_code past zero_cnt (List.replicate zeros 0) =
      if past = 1 ∧ zero_cnt + zeros ≥ 2 then some (zero_cnt + zeros + 1, none) else none := by
  induction zeros generalizing zero_cnt with
  | zero => rfl
  | succ zeros ih =>
    rw [List.replicate_succ, find_start_code, if_pos rfl, ih,
      show zero_cnt + 1 + zeros = zero_cnt + (zeros + 1) by omega]

/-- A start code is found with all the zeros before it. -/
theorem find_start_code_start_code {zero_cnt zeros : Nat} (hzeros : 2 ≤ zero_cnt + zeros)
    (rest : Bytes) :
    find_start_code past zero_cnt (start_code zeros ++ rest) =
      some (zero_cnt + zeros + 1, some rest) := by
  induction zeros generalizing zero_cnt with
  | zero =>
    have hone : ¬ (1 : UInt8) = 0 := by decide
    exact (if_neg hone).trans (if_pos ⟨rfl, hzeros⟩)
  | succ zeros ih =>
    have hnext := ih (show 2 ≤ zero_cnt + 1 + zeros by omega)
    rw [show zero_cnt + (zeros + 1) + 1 = zero_cnt + 1 + zeros + 1 by omega, ← hnext]
    exact if_pos rfl

/-- A start code within the data is found whatever is behind them. -/
theorem find_start_code_of_some {zero_cnt : Nat} {data : Bytes} {found : Nat × Option Bytes}
    (hfound : find_start_code 0 zero_cnt data = some found) :
    find_start_code past zero_cnt data = some found := by
  induction data generalizing zero_cnt with
  | nil => exact absurd ((if_neg (by simp)).symm.trans hfound) (by simp)
  | cons byte tail ih =>
    rw [find_start_code] at hfound ⊢
    split
    · next hzero =>
      rw [if_pos hzero] at hfound
      exact ih hfound
    · next hzero =>
      rw [if_neg hzero] at hfound
      split
      · next hcode => rwa [if_pos hcode] at hfound
      · next hcode =>
        rw [if_neg hcode] at hfound
        exact ih hfound

/-- The search passes quiet data. -/
theorem find_start_code_append {zero_cnt : Nat} {data : Bytes} (hne : data ≠ [])
    (hnone : find_start_code 0 zero_cnt data = none) (hlast : data.getLast? ≠ some 0)
    (rest : Bytes) :
    find_start_code past zero_cnt (data ++ rest) = find_start_code past 0 rest := by
  induction data generalizing zero_cnt with
  | nil => exact absurd rfl hne
  | cons byte tail ih =>
    rw [find_start_code] at hnone
    rw [List.cons_append, find_start_code]
    cases tail with
    | nil =>
      have hbyte : byte ≠ 0 := by simpa using hlast
      rw [if_neg hbyte] at hnone ⊢
      split at hnone
      · cases hnone
      · next hcode => rw [if_neg hcode, List.nil_append]
    | cons next others =>
      have hlast' : (next :: others).getLast? ≠ some 0 := by
        rwa [List.getLast?_cons_cons] at hlast
      split
      · next hzero =>
        rw [if_pos hzero] at hnone
        exact ih (List.cons_ne_nil _ _) hnone hlast'
      · next hzero =>
        rw [if_neg hzero] at hnone
        split at hnone
        · cases hnone
        · next hcode =>
          rw [if_neg hcode]
          exact ih (List.cons_ne_nil _ _) hnone hlast'

theorem Quiet.find_start_code_append {data : Bytes} (hquiet : Quiet data) (rest : Bytes) :
    find_start_code past 0 (data ++ rest) = find_start_code past 0 rest := by
  cases data with
  | nil => rfl
  | cons byte tail =>
    exact minimp4.find_start_code_append (List.cons_ne_nil _ _) hquiet.no_start_code
      hquiet.last_nonzero rest

/-- Zeros seen before can only complete a start code, never hide one. -/
theorem find_start_code_none_of_le {zero_cnt zero_cnt' : Nat} (hle : zero_cnt ≤ zero_cnt')
    {data : Bytes} (hnone : find_start_code 0 zero_cnt' data = none) :
    find_start_code 0 zero_cnt data = none := by
  induction data generalizing zero_cnt zero_cnt' with
  | nil => exact if_neg (by simp)
  | cons byte tail ih =>
    rw [find_start_code] at hnone ⊢
    split
    · next hzero =>
      rw [if_pos hzero] at hnone
      exact ih (Nat.succ_le_succ hle) hnone
    · next hzero =>
      rw [if_neg hzero] at hnone
      split at hnone
      · cases hnone
      · next hcode =>
        rw [if_neg fun hand => hcode ⟨hand.1, hand.2.trans hle⟩]
        exact hnone

theorem Quiet.drop_one {data : Bytes} (hquiet : Quiet data) : Quiet (data.drop 1) := by
  obtain ⟨hnone, hlast⟩ := hquiet
  cases data with
  | nil => exact ⟨hnone, hlast⟩
  | cons byte tail =>
    rw [find_start_code] at hnone
    refine ⟨?_, ?_⟩
    · split at hnone
      · exact find_start_code_none_of_le (Nat.zero_le _) hnone
      · split at hnone
        · cases hnone
        · exact hnone
    · cases tail with
      | nil => simp
      | cons next others => rwa [List.getLast?_cons_cons] at hlast

theorem find_nal_unit_of_start_code {data start : Bytes} {zcount : Nat}
    (hfound : find_start_code past 0 data = some (zcount, some start)) :
    find_nal_unit past data = some (start.take (nal_unit_bytes past start), start) := by
  unfold find_nal_unit
  rw [hfound]

/-- A unit reaches up to the next start code. -/
theorem nal_unit_bytes_append {unit : Bytes} (hunit : IsUnit unit) {zeros : Nat}
    (hzeros : 2 ≤ zeros) (rest : Bytes) :
    nal_unit_bytes past (unit ++ (start_code zeros ++ rest)) = unit.length := by
  have hfound : find_start_code past 0 (unit ++ (start_code zeros ++ rest)) = _ :=
    hunit.quiet.find_start_code_append _
  rw [find_start_code_start_code (by omega)] at hfound
  unfold nal_unit_bytes
  rw [hfound]
  simp only [List.length_append, start_code, List.length_replicate, List.length_singleton]
  omega

theorem rdropWhile_append_zeros {data : Bytes} (hlast : data.getLast? ≠ some 0) (zeros : Nat) :
    (data ++ List.replicate zeros 0).rdropWhile (· = 0) = data := by
  induction zeros with
  | zero =>
    rw [List.replicate_zero, List.append_nil, List.rdropWhile_eq_self_iff]
    intro hne
    rw [List.getLast?_eq_some_getLast hne] at hlast
    simpa using hlast
  | succ zeros ih =>
    rw [List.replicate_succ', ← List.append_assoc, List.rdropWhile_concat_pos _ _ _ (by simp)]
    exact ih

/-- Zeros at the end do not belong to a unit, whatever is behind them. -/
theorem nal_unit_bytes_zeros {unit : Bytes} (hquiet : Quiet unit) (zeros : Nat) :
    nal_unit_bytes past (unit ++ List.replicate zeros 0) = unit.length := by
  have hfound : find_start_code past 0 (unit ++ List.replicate zeros 0) = _ :=
    hquiet.find_start_code_append _
  rw [find_start_code_zeros] at hfound
  unfold nal_unit_bytes
  rw [hfound]
  split
  · next heq => split at heq <;> cases heq
  · next zcount heq =>
    split at heq <;> cases heq
    simp only [List.length_append, List.length_replicate]
    omega
  · rw [rdropWhile_append_zeros hquiet.last_nonzero]

theorem visits_zeros (zeros : Nat) :
    visits past (List.replicate zeros 0) = visits_at_end past zeros := by
  rw [visits_eq, find_nal_unit, find_start_code_zeros, visits_at_end, Nat.zero_add]
  by_cases hpast : past = 1 ∧ zeros ≥ 2
  · rw [if_pos hpast, if_pos hpast]
  · rw [if_neg hpast, if_neg hpast]
    rfl

/-- What comes before the first start code does not matter. -/
theorem Quiet.visits_append {data : Bytes} (hquiet : Quiet data) (rest : Bytes) :
    visits past (data ++ rest) = visits past rest := by
  have hfound : find_nal_unit past (data ++ rest) = find_nal_unit past rest := by
    unfold find_nal_unit
    rw [hquiet.find_start_code_append]
  rw [visits_eq, hfound, ← visits_eq]

/-- Past a start code the unit that follows is taken and the rest is searched. -/
theorem visits_start_code {zeros : Nat} (hzeros : 2 ≤ zeros) {unit : Bytes}
    (hunit : IsUnit unit) {rest : Bytes}
    (hlength : nal_unit_bytes past (unit ++ rest) = unit.length) :
    visits past (start_code zeros ++ unit ++ rest) = some unit :: visits past rest := by
  have hfound : find_nal_unit past (start_code zeros ++ (unit ++ rest)) =
      some (unit, unit ++ rest) := by
    rw [find_nal_unit_of_start_code (find_start_code_start_code (by omega) _), hlength,
      List.take_left]
  rw [List.append_assoc, visits_eq, hfound]
  dsimp only
  rw [if_neg hunit.nonempty, List.drop_append_of_le_length
    (List.length_pos_iff.mpr hunit.nonempty), hunit.quiet.drop_one.visits_append]

/-- A start code that no unit follows ends the loop. -/
theorem visits_of_no_unit {zeros : Nat} (hzeros : 2 ≤ zeros) {rest : Bytes}
    (hlength : nal_unit_bytes past rest = 0) : visits past (start_code zeros ++ rest) = [] := by
  rw [visits_eq, find_nal_unit_of_start_code (find_start_code_start_code (by omega) _), hlength]
  rfl

variable (past)

/-- The units that a byte stream carries are visited, whatever the lengths of
its start codes, and nothing else is, except for what begins behind the data. -/
theorem visits_byte_stream {units : List (Nat × Bytes)}
    (hunits : ∀ unit ∈ units, 2 ≤ unit.1 ∧ IsUnit unit.2) (zeros : Nat) :
    visits past (byte_stream units ++ List.replicate zeros 0) =
      units.map (fun unit => some unit.2) ++ visits_at_end past zeros := by
  induction units with
  | nil => exact visits_zeros zeros
  | cons first rest ih =>
    obtain ⟨hzeros, hunit⟩ := hunits first List.mem_cons_self
    have hrest := ih fun other hother => hunits other (List.mem_cons_of_mem _ hother)
    have hlength : nal_unit_bytes past (first.2 ++ (byte_stream rest ++ List.replicate zeros 0)) =
        first.2.length := by
      cases rest with
      | nil => exact nal_unit_bytes_zeros hunit.quiet zeros
      | cons next others =>
        have hnext := hunits next (List.mem_cons_of_mem _ List.mem_cons_self)
        rw [byte_stream_cons, List.append_assoc, List.append_assoc]
        exact nal_unit_bytes_append hunit hnext.1 _
    rw [byte_stream_cons, List.append_assoc, visits_start_code hzeros hunit hlength, hrest,
      List.map_cons, List.cons_append]

theorem visits_byte_stream_two :
    visits 1 (byte_stream [(3, [0x67, 0x42]), (2, [0x68])] ++ List.replicate 4 0) =
      [some [0x67, 0x42], some [0x68], none] := by
  have hfirst : IsUnit [0x67, 0x42] := ⟨by decide, by decide, by decide⟩
  have hsecond : IsUnit [0x68] := ⟨by decide, by decide, by decide⟩
  exact visits_byte_stream 1 (by simp [hfirst, hsecond]) 4

end

/-- A start code is found where it first completes. -/
theorem exists_of_find_start_code {zero_cnt zcount : Nat} {data rest : Bytes}
    (hfound : find_start_code 0 zero_cnt data = some (zcount, some rest)) :
    (∃ zeros, data = start_code zeros ++ rest ∧ zcount = zero_cnt + zeros + 1 ∧
        2 ≤ zero_cnt + zeros) ∨
      ∃ front zeros, data = front ++ (start_code zeros ++ rest) ∧ zcount = zeros + 1 ∧
        2 ≤ zeros ∧ front ≠ [] ∧ find_start_code 0 zero_cnt front = none ∧
        front.getLast? ≠ some 0 := by
  induction data generalizing zero_cnt with
  | nil => exact absurd ((if_neg (by simp)).symm.trans hfound) (by simp)
  | cons byte tail ih =>
    rw [find_start_code] at hfound
    split at hfound
    · next hzero =>
      obtain ⟨zeros, rfl, hcount, hle⟩ | ⟨front, zeros, rfl, hcount, hle, hne, hnone, hlast⟩ :=
        ih hfound
      · refine Or.inl ⟨zeros + 1, ?_, by omega, by omega⟩
        rw [hzero]
        rfl
      · refine Or.inr ⟨byte :: front, zeros, rfl, hcount, hle, List.cons_ne_nil _ _, ?_, ?_⟩
        · rw [find_start_code, if_pos hzero, hnone]
        · obtain ⟨next, others, rfl⟩ := List.exists_cons_of_ne_nil hne
          rwa [List.getLast?_cons_cons]
    · next hzero =>
      split at hfound
      · next hcode =>
        cases hfound
        refine Or.inl ⟨0, ?_, rfl, hcode.2⟩
        rw [hcode.1]
        rfl
      · next hcode =>
        obtain ⟨zeros, rfl, hcount, hle⟩ | ⟨front, zeros, rfl, hcount, hle, hne, hnone, hlast⟩ :=
          ih hfound
        · refine Or.inr ⟨[byte], zeros, rfl, by omega, by omega, List.cons_ne_nil _ _, ?_, ?_⟩
          · rw [find_start_code, if_neg hzero, if_neg hcode]
            rfl
          · simpa using hzero
        · refine Or.inr ⟨byte :: front, zeros, rfl, hcount, hle, List.cons_ne_nil _ _, ?_, ?_⟩
          · rw [find_start_code, if_neg hzero, if_neg hcode, hnone]
          · obtain ⟨next, others, rfl⟩ := List.exists_cons_of_ne_nil hne
            rwa [List.getLast?_cons_cons]

/-- Data with a start code are quiet up to it. -/
theorem quiet_of_find_start_code {zcount : Nat} {data rest : Bytes}
    (hfound : find_start_code 0 0 data = some (zcount, some rest)) :
    ∃ front zeros, data = front ++ (start_code zeros ++ rest) ∧ 2 ≤ zeros ∧ zcount = zeros + 1 ∧
      Quiet front := by
  obtain ⟨zeros, rfl, hcount, hle⟩ | ⟨front, zeros, rfl, hcount, hle, -, hnone, hlast⟩ :=
    exists_of_find_start_code hfound
  · exact ⟨[], zeros, rfl, by omega, by omega, rfl, nofun⟩
  · exact ⟨front, zeros, rfl, hle, hcount, hnone, hlast⟩

theorem find_start_code_none_of_append {zero_cnt : Nat} {data rest : Bytes}
    (hnone : find_start_code 0 zero_cnt (data ++ rest) = none) :
    find_start_code 0 zero_cnt data = none := by
  induction data generalizing zero_cnt with
  | nil => exact if_neg (by simp)
  | cons byte tail ih =>
    rw [List.cons_append, find_start_code] at hnone
    rw [find_start_code]
    split
    · next hzero => exact ih (by rwa [if_pos hzero] at hnone)
    · next hzero =>
      rw [if_neg hzero] at hnone
      split
      · next hcode => rw [if_pos hcode] at hnone; cases hnone
      · next hcode => exact ih (by rwa [if_neg hcode] at hnone)

/-- The byte behind the data completes no start code unless it is a `01`. -/
theorem find_start_code_ne_past {zero_cnt zcount : Nat} {data : Bytes} :
    find_start_code 0 zero_cnt data ≠ some (zcount, none) := by
  induction data generalizing zero_cnt with
  | nil =>
    rw [find_start_code, if_neg (by simp)]
    simp
  | cons byte tail ih =>
    rw [find_start_code]
    split
    · exact ih
    · split
      · simp
      · exact ih

/-- Without a start code the data are quiet up to zeros at the end. -/
theorem exists_zeros_of_none {data : Bytes} (hnone : find_start_code 0 0 data = none) :
    ∃ unit zeros, data = unit ++ List.replicate zeros 0 ∧ Quiet unit := by
  have hsplit : data.rdropWhile (· = 0) ++ data.rtakeWhile (· = 0) = data :=
    List.rdropWhile_append_rtakeWhile
  have hzeros : data.rtakeWhile (· = 0) =
      List.replicate (data.rtakeWhile (· = 0)).length 0 := by
    rw [List.eq_replicate_iff]
    refine ⟨rfl, fun byte hbyte => ?_⟩
    simpa using List.mem_rtakeWhile_imp hbyte
  refine ⟨data.rdropWhile (· = 0), (data.rtakeWhile (· = 0)).length, ?_, ⟨?_, ?_⟩⟩
  · rw [← hzeros, hsplit]
  · rw [← hsplit] at hnone
    exact find_start_code_none_of_append hnone
  · intro hlast
    by_cases hne : data.rdropWhile (· = 0) = []
    · rw [hne] at hlast
      cases hlast
    · have hnonzero := List.rdropWhile_last_not _ _ hne
      rw [List.getLast?_eq_some_getLast hne] at hlast
      rw [Option.some.inj hlast] at hnonzero
      exact hnonzero (by decide)

/-- Where the loop ends, with what it still visits there: at zeros alone, or at a
start code that no unit follows. -/
inductive Ended (past : UInt8) : Bytes → List (Option Bytes) → Prop where
  | zeros (zeros : Nat) : Ended past (List.replicate zeros 0) (visits_at_end past zeros)
  | no_unit {zeros : Nat} {after : Bytes} (hzeros : 2 ≤ zeros)
      (hlength : nal_unit_bytes past after = 0) : Ended past (start_code zeros ++ after) []

section

variable (past : UInt8)

/-- From a start code on the data are a byte stream of the units visited, up to
where the loop ends. -/
theorem byte_stream_of_start_code (start : Bytes) {zeros : Nat} (hzeros : 2 ≤ zeros) :
    ∃ units rest last, start_code zeros ++ start = byte_stream units ++ rest ∧
      visits past (start_code zeros ++ start) =
        units.map (fun unit => some unit.2) ++ last ∧
      (∀ unit ∈ units, 2 ≤ unit.1 ∧ IsUnit unit.2) ∧ Ended past rest last := by
  induction hcount : start.length using Nat.strong_induction_on generalizing start zeros with
  | _ count ih =>
    subst hcount
    have hempty (hlength : nal_unit_bytes past start = 0) :
        ∃ units rest last, start_code zeros ++ start = byte_stream units ++ rest ∧
          visits past (start_code zeros ++ start) =
            units.map (fun unit => some unit.2) ++ last ∧
          (∀ unit ∈ units, 2 ≤ unit.1 ∧ IsUnit unit.2) ∧ Ended past rest last :=
      ⟨[], start_code zeros ++ start, [], rfl, visits_of_no_unit hzeros hlength, by simp,
        .no_unit hzeros hlength⟩
    rcases hfound : find_start_code 0 0 start with _ | ⟨zcount, _ | found⟩
    · obtain ⟨unit, tail, rfl, hquiet⟩ := exists_zeros_of_none hfound
      have hlength : nal_unit_bytes past (unit ++ List.replicate tail 0) = unit.length :=
        nal_unit_bytes_zeros hquiet tail
      by_cases hne : unit = []
      · rw [hne] at hempty hlength ⊢
        exact hempty hlength
      · have hvisits := visits_start_code hzeros ⟨hne, hquiet⟩ hlength
        rw [visits_zeros, List.append_assoc] at hvisits
        refine ⟨[(zeros, unit)], List.replicate tail 0, visits_at_end past tail, ?_, ?_, ?_,
          .zeros tail⟩
        · simp
        · exact hvisits
        · intro other hother
          rw [List.mem_singleton.mp hother]
          exact ⟨hzeros, hne, hquiet⟩
    · exact absurd hfound find_start_code_ne_past
    · obtain ⟨front, zeros', rfl, hzeros', hcount, hquiet⟩ := quiet_of_find_start_code hfound
      by_cases hne : front = []
      · apply hempty
        rw [nal_unit_bytes, find_start_code_of_some hfound]
        simp only [hne, start_code, List.nil_append, List.length_append, List.length_replicate,
          List.length_singleton]
        omega
      · have hlength :
            nal_unit_bytes past (front ++ (start_code zeros' ++ found)) = front.length :=
          nal_unit_bytes_append ⟨hne, hquiet⟩ hzeros' found
        have hshort : found.length < (front ++ (start_code zeros' ++ found)).length := by
          have hpositive := List.length_pos_iff.mpr hne
          simp only [List.length_append]
          omega
        obtain ⟨units, rest, last, hdata, hunits, hvalid, hended⟩ := ih _ hshort found hzeros' rfl
        refine ⟨(zeros, front) :: units, rest, last, ?_, ?_, ?_, hended⟩
        · rw [hdata, byte_stream_cons]
          simp only [List.append_assoc]
        · rw [← List.append_assoc, visits_start_code hzeros ⟨hne, hquiet⟩ hlength, hunits]
          rfl
        · intro other hother
          obtain rfl | hother := List.mem_cons.mp hother
          · exact ⟨hzeros, hne, hquiet⟩
          · exact hvalid other hother

/-- Any data at all are quiet data, then a byte stream of exactly the units that
the writer visits, then what the loop ends at: either nothing but zeros, where a
`01` behind the data makes for one more visit, or a start code that no unit
follows, from which on everything is passed over. -/
theorem visits_sound (data : Bytes) :
    ∃ lead units rest last, data = lead ++ byte_stream units ++ rest ∧
      visits past data = units.map (fun unit => some unit.2) ++ last ∧
      (∀ unit ∈ units, 2 ≤ unit.1 ∧ IsUnit unit.2) ∧ Quiet lead ∧ Ended past rest last := by
  rcases hfound : find_start_code 0 0 data with _ | ⟨zcount, _ | found⟩
  · obtain ⟨unit, zeros, rfl, hquiet⟩ := exists_zeros_of_none hfound
    refine ⟨unit, [], List.replicate zeros 0, visits_at_end past zeros, by simp, ?_, by simp,
      hquiet, .zeros zeros⟩
    rw [hquiet.visits_append, visits_zeros]
    rfl
  · exact absurd hfound find_start_code_ne_past
  · obtain ⟨front, zeros, rfl, hzeros, -, hquiet⟩ := quiet_of_find_start_code hfound
    obtain ⟨units, rest, last, hdata, hunits, hvalid, hended⟩ :=
      byte_stream_of_start_code past found hzeros
    refine ⟨front, units, rest, last, ?_, ?_, hvalid, hquiet, hended⟩
    · rw [hdata, List.append_assoc]
    · rw [hquiet.visits_append, hunits]

variable {past}

theorem find_start_code_of_ne_one (hpast : past ≠ 1) :
    find_start_code past = find_start_code 0 := by
  funext zero_cnt data
  induction data generalizing zero_cnt with
  | nil => rw [find_start_code, find_start_code, if_neg fun h => hpast h.1, if_neg (by simp)]
  | cons byte tail ih => rw [find_start_code, find_start_code, ih, ih]

/-- A frame behind which no `01` follows is written unit by unit. -/
theorem visits_of_ne_one (hpast : past ≠ 1) (data : Bytes) :
    visits past data = (nal_units data).map some := by
  have hsame : visits past data = visits 0 data := by
    have hunit : find_nal_unit past = find_nal_unit 0 := by
      funext data
      simp only [find_nal_unit, nal_unit_bytes, find_start_code_of_ne_one hpast]
    have hvisits : ∀ fuel, visits_from past fuel = visits_from 0 fuel := by
      intro fuel
      induction fuel with
      | zero => rfl
      | succ fuel ih =>
        funext data
        rw [visits_from, visits_from, hunit, ih]
    rw [visits, visits, hvisits]
  have hwithin : ∀ fuel data,
      visits_from 0 fuel data = (visits_from 0 fuel data).reduceOption.map some := by
    intro fuel
    induction fuel with
    | zero => exact fun _ => rfl
    | succ fuel ih =>
      intro data
      rw [visits_from]
      split
      · next hnone =>
        unfold find_nal_unit at hnone
        split at hnone
        · cases hnone
        · next hpast => exact absurd hpast find_start_code_ne_past
        · cases hnone
      · split
        · rfl
        · rw [List.reduceOption_cons_of_some, List.map_cons, ← ih]
  rw [hsame]
  exact hwithin _ data

end

end amldigitalfpv.minimp4

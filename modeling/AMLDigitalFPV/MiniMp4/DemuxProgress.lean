import AMLDigitalFPV.MiniMp4.Demux

namespace amldigitalfpv.minimp4

namespace Demuxing

/-- Past the end every read gives the same, and the flag is raised. -/
theorem read_bytes_past_end {st : Demuxing} (hunread : st.unread = []) (nb v : Nat) :
    st.read_bytes (nb + 1) v = (0xFFFFFFFF, { st with eof_flag := true }) := by
  induction nb generalizing st v with
  | zero => exact read_bytes_of_nil hunread 0 v
  | succ nb ih =>
    rw [read_bytes_of_nil hunread]
    have hflagged : { st with eof_flag := true }.unread = [] := hunread
    exact ih hflagged _

/-- At least one byte is read, whatever the count. -/
theorem minimp4_read_eq (nb : Nat) (st : Demuxing) :
    ∃ count, st.minimp4_read nb = st.read_bytes (count + 1) 0 := by
  unfold minimp4_read
  split
  · next hnb =>
    obtain ⟨count, rfl⟩ := Nat.exists_eq_succ_of_ne_zero (show nb ≠ 0 by omega)
    exact ⟨count, rfl⟩
  · exact ⟨0, rfl⟩

theorem minimp4_read_of_nil {st : Demuxing} (hunread : st.unread = []) (nb : Nat) :
    st.minimp4_read nb = (0xFFFFFFFF, { st with eof_flag := true }) := by
  obtain ⟨count, hread⟩ := minimp4_read_eq nb st
  rw [hread]
  exact read_bytes_past_end hunread count 0

theorem length_minimp4_read_lt {st : Demuxing} (hunread : st.unread ≠ []) (nb : Nat) :
    (st.minimp4_read nb).2.unread.length < st.unread.length := by
  obtain ⟨count, hread⟩ := minimp4_read_eq nb st
  obtain ⟨byte, rest, hcons⟩ := List.exists_cons_of_ne_nil hunread
  rw [hread, read_bytes_of_cons hcons, hcons]
  exact Nat.lt_succ_of_le (forward_read_bytes _ _ _).length_le

end Demuxing

theorem of_code_past_end : BoxName.of_code 0xFFFFFFFF = none := by
  decide +kernel

section

variable {malloc : Nat → Bool} {file_size : Nat} {st st' : Demuxing} {again : Bool}

/-- Every read takes a byte from the file, or finds its end. -/
theorem Demux.run_read_cases {nb value : Nat} (hrun : (Demux.read nb).run st = .ok (value, st')) :
    st'.unread.length < st.unread.length ∨
      st.unread = [] ∧ value = 0xFFFFFFFF ∧ st'.eof_flag = true := by
  have hread : st.minimp4_read nb = (value, st') := Except.ok.inj hrun
  by_cases hunread : st.unread = []
  · rw [Demuxing.minimp4_read_of_nil hunread] at hread
    cases hread
    exact Or.inr ⟨hunread, rfl, rfl⟩
  · have hlt := Demuxing.length_minimp4_read_lt hunread nb
    rw [hread] at hlt
    exact Or.inl hlt

/-- Only a box of a known name sends the parser back to read another header. -/
theorem read_atom_payload_none {box_bytes : Nat} {read : HeaderRead}
    (hrun : (read_atom_payload none box_bytes).run st = .ok (read, st')) : read ≠ .again := by
  have hcheck : ∀ {header : box_header} {st : Demuxing}, header.box_name = none →
      (check_fullbox header).run st = .ok (.box header, st) := by
    intro header st hname
    unfold check_fullbox
    rw [hname]
    rfl
  unfold read_atom_payload at hrun
  split at hrun
  · obtain ⟨size, middle, -, hrun⟩ := Demux.run_bind_ok_iff.mp hrun
    cases size with
    | none =>
      cases hrun
      exact nofun
    | some size =>
      rw [run_set_payload_bind, hcheck rfl] at hrun
      cases hrun
      exact nofun
  · rw [run_set_payload_bind, hcheck rfl] at hrun
    cases hrun
    exact nofun

/-- Each header takes a byte from the file, or its end has been found, and then
the box is the last. -/
theorem read_atom_header_cases {read : HeaderRead}
    (hrun : read_atom_header.run st = .ok (read, st')) :
    read = .done ∨ st'.unread.length < st.unread.length ∨
      read ≠ .again ∧ st'.eof_flag = true := by
  unfold read_atom_header at hrun
  obtain ⟨box_bytes, first, hsize, hrun⟩ := Demux.run_bind_ok_iff.mp hrun
  have hfirst := (Demux.forward _ hsize).length_le
  rw [Demux.run_state_bind] at hrun
  split at hrun
  · cases hrun
    exact Or.inl rfl
  split at hrun
  · obtain ⟨_, _, -, hdone⟩ := Demux.run_bind_ok_iff.mp hrun
    cases hdone
    exact Or.inl rfl
  · obtain ⟨name, second, hname, hrun⟩ := Demux.run_bind_ok_iff.mp hrun
    have hforward := Demux.forward _ hrun
    obtain hlt | ⟨-, rfl, heof⟩ := Demux.run_read_cases hname
    · have := hforward.length_le
      exact Or.inr (Or.inl (by omega))
    · rw [of_code_past_end] at hrun
      exact Or.inr (Or.inr ⟨read_atom_payload_none hrun, hforward.eof_flag heof⟩)

theorem read_od_header_cases {read : HeaderRead}
    (hrun : read_od_header.run st = .ok (read, st')) :
    read = .done ∨ st'.unread.length < st.unread.length := by
  unfold read_od_header at hrun
  obtain ⟨name, first, hname, hrun⟩ := Demux.run_bind_ok_iff.mp hrun
  rw [Demux.run_state_bind] at hrun
  split at hrun
  · cases hrun
    exact Or.inl rfl
  · next hnot =>
    obtain hlt | ⟨-, -, heof⟩ := Demux.run_read_cases hname
    · exact Or.inr ((Demux.forward _ hrun).length_le.trans_lt hlt)
    · exact absurd heof hnot

/-- At the end of the file the loop does not go on after a box. -/
theorem read_box_body_at_end {header : box_header} (heof : st.eof_flag = true)
    (hrun : (read_box_body malloc file_size header).run st = .ok (again, st')) :
    again = false := by
  have hforward := (Demux.forward _ hrun).eof_flag heof
  unfold read_box_body at hrun
  obtain ⟨header, st₁, -, hrun⟩ := Demux.run_bind_ok_iff.mp hrun
  obtain ⟨_, st₂, -, hrun⟩ := Demux.run_bind_ok_iff.mp hrun
  obtain ⟨tag, st₃, -, hrun⟩ := Demux.run_bind_ok_iff.mp hrun
  split at hrun
  · cases hrun
    rfl
  obtain ⟨track, st₄, -, hrun⟩ := Demux.run_bind_ok_iff.mp hrun
  split at hrun
  · cases hrun
    rfl
  obtain ⟨_, st₅, -, hrun⟩ := Demux.run_bind_ok_iff.mp hrun
  cases hrun
  rw [hforward]
  rfl

/-- A pass after which the loop goes on has taken a byte from the file. -/
theorem length_read_next_box_lt
    (hrun : (read_next_box malloc file_size).run st = .ok (true, st')) :
    st'.unread.length < st.unread.length := by
  unfold read_next_box at hrun
  obtain ⟨read, middle, hheader, hrun⟩ := Demux.run_bind_ok_iff.mp hrun
  have hforward := Demux.forward _ hrun
  have hcases : read = .done ∨ middle.unread.length < st.unread.length ∨
      read ≠ .again ∧ middle.eof_flag = true := by
    unfold read_header at hheader
    rw [Demux.run_state_bind] at hheader
    split at hheader
    · exact read_atom_header_cases hheader
    · exact (read_od_header_cases hheader).imp_right Or.inl
  obtain rfl | hlt | ⟨hagain, heof⟩ := hcases
  · cases hrun
  · exact hforward.length_le.trans_lt hlt
  · cases read with
    | done => cases hrun
    | again => exact absurd rfl hagain
    | box header => cases read_box_body_at_end heof hrun

theorem isSome_read_boxes {fuel : Nat} (hfuel : st.unread.length < fuel) :
    (read_boxes malloc file_size fuel st).isSome := by
  induction fuel generalizing st with
  | zero => omega
  | succ fuel ih =>
    rw [read_boxes]
    split
    · rfl
    · next again st' hrun =>
      split
      · next hagain =>
        rw [hagain] at hrun
        have := length_read_next_box_lt hrun
        exact ih (by omega)
      · rfl

variable (malloc)

/-- `MP4D_open` makes at most one pass for each byte of the file and one more: by
then it has returned, or a box has led it to a step that C leaves undefined. -/
theorem MP4D_open_terminates (file : Bytes) :
    (∃ result, MP4D_open malloc file = some (.ok result)) ∨
      MP4D_open malloc file = some (.error .undefined) := by
  have hended :
      (read_boxes malloc file.length (file.length + 1) { unread := file }).isSome = true :=
    isSome_read_boxes (Nat.lt_succ_self file.length)
  obtain ⟨outcome, houtcome⟩ := Option.isSome_iff_exists.mp hended
  unfold MP4D_open
  rw [houtcome]
  match outcome with
  | .ok st => exact Or.inl ⟨_, rfl⟩
  | .error .returned => exact Or.inl ⟨none, rfl⟩
  | .error .undefined => exact Or.inr rfl

end

end amldigitalfpv.minimp4

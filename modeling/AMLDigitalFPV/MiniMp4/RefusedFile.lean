import AMLDigitalFPV.MiniMp4.RoundTrip

namespace amldigitalfpv.minimp4

open big_endian sections

section

variable {malloc : Nat → Bool} {file_size level : Nat} (info : MP4E_track_t) (mux : MP4E_mux_t)

/-- The last box of a movie without a track. -/
theorem fills_mvhd {found : Found} :
    Fills malloc file_size level [] (mvhd_box info mux).encode found
      { found with mp4 := { found.mp4 with
          timescale := MOOV_TIMESCALE
          duration_hi := 0
          duration_lo := moov_duration info (get_duration mux.smpl) % 2 ^ 32 } } := by
  intro stack payload_bytes hstack hatoms hne hremaining hsize result hfinishes
  obtain ⟨fields, hfields⟩ : ∃ fields, fields =
      be4 [0, 0] ++ (encode 4 MOOV_TIMESCALE ++
        (encode 4 (moov_duration info (get_duration mux.smpl)) ++
          ((be4 [0x00010000] ++ be2 [0x0100, 0] ++
            be4 ([0, 0] ++ unity_matrix ++ [0, 0, 0, 0, 0, 0, 2])) ++ ([] : Bytes)))) := ⟨_, rfl⟩
  have hmvhd : (mvhd_box info mux).encode =
      encode_section (encode 4 BoxName.BOX_mvhd.code) (encode 4 0 ++ fields) := by
    rw [hfields, mvhd_box, atom_full, atom, encode_mk, encode_all_nil]
    simp [unity_matrix]
  have hfields_length : fields.length = 96 := by
    rw [hfields]
    simp [unity_matrix]
  have hlength : (mvhd_box info mux).encode.length = 108 := by
    rw [hmvhd, length_encode_section, length_encode, List.length_append, length_encode,
      hfields_length]
  rw [hlength] at hremaining hsize hfinishes
  have hheader := run_read_header found (inAtoms_of_forall hatoms) BoxName.BOX_mvhd.code_lt
    (encode 4 0 ++ fields) []
    (by rw [List.length_append, length_encode, hfields_length]; decide) payload_bytes
  have hfull : (some BoxName.BOX_mvhd).bind g_fullbox = some (1, false) := rfl
  have huse : false = true → found.tr = true := Bool.noConfusion
  have hcheck : (check_fullbox
      { box_name := some .BOX_mvhd
        box_bytes := 8 + (4 + 96)
        read_bytes := 8 }).run (found.reading stack (encode 4 0 ++ fields) (4 + 96)) =
      .ok (.box
        { box_name := some .BOX_mvhd
          box_bytes := 108
          read_bytes := 12
          FullAtomVersionAndFlags := 0 }, found.reading stack fields 96) :=
    run_check_fullbox hfull (by decide) huse (by decide) (by decide)
  rw [BoxName.of_code_code, List.length_append, length_encode, hfields_length, List.append_nil,
    List.append_nil, hcheck] at hheader
  have htimes : (be4 [0, 0]).length = 8 := rfl
  have htrailer : (be4 [0x00010000] ++ be2 [0x0100, 0] ++
      be4 ([0, 0] ++ unity_matrix ++ [0, 0, 0, 0, 0, 0, 2])).length = 80 := rfl
  have hread := run_read_mvhd_at found (take_from_parent 108 stack) [] htimes MOOV_TIMESCALE
    (moov_duration info (get_duration mux.smpl)) htrailer
  rw [← hfields] at hread
  have hpass : (read_next_box malloc file_size).run
      (found.reading stack ((mvhd_box info mux).encode ++ []) payload_bytes) =
      .ok (false, { Found.reading
        { found with mp4 := { found.mp4 with
            timescale := MOOV_TIMESCALE
            duration_hi := 0
            duration_lo := moov_duration info (get_duration mux.smpl) % 2 ^ 32 } }
        (without_empty (take_from_parent 108 stack)) [] 0 with eof_flag := true }) := by
    rw [hmvhd, List.append_nil]
    unfold read_next_box
    rw [Demux.run_bind_of_ok hheader]
    have hbody : (read_box_body malloc file_size
        { box_name := some .BOX_mvhd
          box_bytes := 108
          read_bytes := 12
          FullAtomVersionAndFlags := 0 }).run (found.reading stack fields 96) = _ :=
      run_read_box_body (by decide) (Or.inr (le_of_eq hremaining.symm)) hread (fun _ => rfl) rfl
    exact hbody
  exact hfinishes.of_last_pass hpass (inAtoms_without_empty (forall_take_from_parent hatoms _))

end

/-- The file of a recording without pictures is not opened. -/
theorem MP4D_open_without_pictures (malloc : Nat → Bool) (info : MP4E_track_t) {r : Recording}
    (hpictures : r.pictures = []) : MP4D_open malloc (recorded_file info r) = some (.ok none) := by
  have hmedia : media r.pictures = [] := by rw [hpictures, media_nil]
  have hmoov : moov_box info r.mux = atom .BOX_moov [] [mvhd_box info r.mux] := by
    rw [moov_box, if_pos (show r.mux.smpl = [] from sample_table_eq_nil_iff.mpr hpictures)]
  have hfile : (recorded_file info r).length < 0xFFFFFFFF := by
    have hmvhd : (mvhd_box info r.mux).encode.length = ATOM_FULL 96 := by
      simp [mvhd_box, length_atom_full, unity_matrix]
    simp only [recorded_file, List.length_append, length_mdat_header, index_atoms_eq, hmedia, hmoov,
      length_atom, encode_all_cons, encode_all_nil, hmvhd, List.length_nil]
    decide
  have hparses : Parses malloc (recorded_file info r).length 0 [] (moov_box info r.mux).encode
      ⟨false, {}⟩ ⟨false,
        { timescale := MOOV_TIMESCALE
          duration_lo := moov_duration info (get_duration r.mux.smpl) % 2 ^ 32 }⟩ := by
    rw [hmoov]
    apply Parses.container_of_fills hfile (by decide) (encode_all_ne_nil (List.cons_ne_nil _ _))
      (by decide)
    rw [encode_all_cons, encode_all_nil, List.append_nil]
    exact fills_mvhd info r.mux
  exact (parses_of_moov hfile hparses).opened

/-- A size of 64 bits that needs them ends the main loop. -/
theorem run_read_header_of_64_bit {found : Found} {name high payload_bytes : Nat} {more : Bytes}
    (hname : name < 256 ^ 4) (hhigh : high % 256 ^ 4 ≠ 0) :
    read_header.run (found.reading []
        (encode 4 1 ++ (encode 4 name ++ (encode 4 high ++ more))) payload_bytes) =
      .ok (.done, found.reading [] more payload_bytes) := by
  have hread := Demuxing.minimp4_read_encode 4 (by decide) high
    (found.reading [] (encode 4 high ++ more) payload_bytes) rfl
  have hhigh_read : (Demux.read 4).run (found.reading [] (encode 4 high ++ more) payload_bytes) =
      .ok (high % 256 ^ 4, found.reading [] more payload_bytes) := congrArg Except.ok hread
  have hsize : read_64_bit_size.run (found.reading [] (encode 4 high ++ more) payload_bytes) =
      .ok (none, found.reading [] more payload_bytes) := by
    unfold read_64_bit_size
    rw [Demux.run_bind_of_ok hhigh_read, if_pos hhigh]
    rfl
  have hatoms : InAtoms [] := rfl
  rw [run_read_header_fields hatoms (by decide) (by decide) hname]
  unfold read_atom_payload
  rw [if_pos rfl, Demux.run_bind_of_ok hsize]
  rfl

/-- Neither is one whose media data need a size of 64 bits. -/
theorem MP4D_open_large (malloc : Nat → Bool) (info : MP4E_track_t) {r : Recording}
    (hlarge : 2 ^ 32 ≤ 16 + (media r.pictures).length)
    (hsize : 16 + (media r.pictures).length < 2 ^ 64) :
    MP4D_open malloc (recorded_file info r) = some (.ok none) := by
  have hheader : mdat_header r.mux.write_pos = encode 4 1 ++
      (encode 4 BoxName.BOX_mdat.code ++ (encode 4 ((16 + (media r.pictures).length) / 2 ^ 32) ++
        encode 4 (16 + (media r.pictures).length))) := by
    have hpos : r.mux.write_pos - 24 = 16 + (media r.pictures).length := by
      change 40 + (media r.pictures).length - 24 = _
      omega
    unfold mdat_header write_mdat_header
    rw [hpos]
    dsimp only
    rw [if_pos (by omega)]
    simp [Buffer.emit, Buffer.empty]
  obtain ⟨rest, hrest⟩ : ∃ rest, recorded_file info r =
      encode_section (encode 4 0x66747970) (box_ftyp.drop 8) ++ (encode 4 1 ++
        (encode 4 BoxName.BOX_mdat.code ++
          (encode 4 ((16 + (media r.pictures).length) / 2 ^ 32) ++ rest))) := by
    refine ⟨encode 4 (16 + (media r.pictures).length) ++
      (media r.pictures ++ index_atoms info r.mux), ?_⟩
    rw [recorded_file, hheader, ← box_ftyp_eq]
    simp only [List.append_assoc]
  have hfinishes : Finishes malloc (recorded_file info r).length
      (Found.reading ⟨false, {}⟩ [] (encode 4 1 ++ (encode 4 BoxName.BOX_mdat.code ++
        (encode 4 ((16 + (media r.pictures).length) / 2 ^ 32) ++ rest))) 0)
      (Found.reading ⟨false, {}⟩ [] rest 0) := by
    intro fuel hfuel
    obtain ⟨fuel, rfl⟩ := Nat.exists_eq_succ_of_ne_zero (show fuel ≠ 0 by omega)
    have hpass : (read_next_box malloc (recorded_file info r).length).run
        (Found.reading ⟨false, {}⟩ [] (encode 4 1 ++ (encode 4 BoxName.BOX_mdat.code ++
          (encode 4 ((16 + (media r.pictures).length) / 2 ^ 32) ++ rest))) 0) =
        .ok (false, Found.reading ⟨false, {}⟩ [] rest 0) := by
      unfold read_next_box
      rw [Demux.run_bind_of_ok (run_read_header_of_64_bit BoxName.BOX_mdat.code_lt (by omega))]
      rfl
    rw [Nat.succ_eq_add_one, read_boxes, hpass]
    rfl
  have hftyp (more : Bytes) : Parses malloc (recorded_file info r).length 0 more
      (encode_section (encode 4 0x66747970) (box_ftyp.drop 8)) ⟨false, {}⟩ ⟨false, {}⟩ :=
    Parses.skipped_small (by decide) (by decide +kernel) (by decide)
  have hsize_ftyp : (encode_section (encode 4 0x66747970) (box_ftyp.drop 8)).length ≤
      (recorded_file info r).length := by
    conv_rhs => rw [hrest, List.length_append]
    exact Nat.le_add_right _ _
  have hrun := hftyp _ [] 0 le_rfl (List.forall_mem_nil _) (Or.inl rfl) hsize_ftyp _ hfinishes
  rw [← hrest] at hrun
  have hloop := hrun ((recorded_file info r).length + 1) (Nat.lt_succ_self _)
  unfold MP4D_open
  change Option.map _ (read_boxes malloc (recorded_file info r).length _
    (Found.reading ⟨false, {}⟩ [] (recorded_file info r) 0)) = _
  rw [hloop]
  rfl

/-- A picture of four gigabytes. -/
def large_recording : Recording :=
  { Recording.start true with pictures := [⟨List.replicate (2 ^ 32) 0, 1500, true⟩] }

theorem MP4D_open_large_one :
    MP4D_open (fun _ => true) (recorded_file (h26x_track 1920 1080) large_recording) =
      some (.ok none) := by
  have hlength : (media large_recording.pictures).length = 2 ^ 32 := by
    rw [large_recording, media_cons, media_nil, List.append_nil, List.length_replicate]
  exact MP4D_open_large _ _ (by omega) (by omega)

end amldigitalfpv.minimp4

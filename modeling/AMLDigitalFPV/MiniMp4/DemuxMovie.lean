import AMLDigitalFPV.MiniMp4.DemuxPass
import AMLDigitalFPV.MiniMp4.Movie
import AMLDigitalFPV.Library.Items

namespace amldigitalfpv.minimp4

open big_endian sections items run_length

/-- A movie with its only track, which the track pointer points to. -/
def in_track (movie : MP4D_demux_t) (track : MP4D_track_t) : Found :=
  { tr := true, mp4 := { movie with track := [track] } }

/-- The boxes that neither hold a tag nor begin or leave a track. -/
def Ordinary (x : BoxName) : Prop :=
  x ∉ [BoxName.BOX_trak, .BOX_meta, .BOX_calb, .BOX_cART, .BOX_cnam, .BOX_cday, .BOX_ccmt,
    .BOX_cgen]

instance (x : BoxName) : Decidable (Ordinary x) := inferInstanceAs (Decidable (x ∉ _))

theorem Ordinary.run_read_tag_box {x : BoxName} (hx : Ordinary x) (malloc : Nat → Bool)
    (st : Demuxing) : (read_tag_box malloc (some x)).run st = .ok (true, st) := by
  cases x <;> first | rfl | exact absurd hx (by decide)

theorem Ordinary.run_switch_track {x : BoxName} (hx : Ordinary x) (malloc : Nat → Bool)
    (st : Demuxing) : (switch_track malloc (some x)).run st = .ok (true, st) := by
  cases x <;> first | rfl | exact absurd hx (by decide)

section

variable {movie : MP4D_demux_t} {track : MP4D_track_t} {found : Found}
  {stack : List (Nat × boxtype_t)} {more : Bytes} {payload_bytes : Nat}

theorem run_update_track (update : MP4D_track_t → MP4D_track_t) :
    (update_track update).run ((in_track movie track).reading stack more payload_bytes) =
      .ok ((), (in_track movie (update track)).reading stack more payload_bytes) := rfl

theorem run_read_times {times : Bytes} {timescale duration : Nat} (htimes : times.length = 8)
    (hpayload : 16 ≤ payload_bytes) :
    (read_times 0).run (found.reading stack
        (times ++ (encode 4 timescale ++ (encode 4 duration ++ more))) payload_bytes) =
      .ok ((timescale % 2 ^ 32, 0, duration % 2 ^ 32),
        found.reading stack more (payload_bytes - 16)) := by
  have hskip : (SKIP (4 + 4)).run (found.reading stack
      (times ++ (encode 4 timescale ++ (encode 4 duration ++ more))) payload_bytes) =
      .ok ((), found.reading stack (encode 4 timescale ++ (encode 4 duration ++ more))
        (payload_bytes - (4 + 4))) :=
    run_SKIP htimes (by omega) (by simp [encode])
  have hversion : ¬ 0 / 2 ^ 24 = 1 := by decide
  unfold read_times
  rw [if_neg hversion, Demux.run_bind_of_ok hskip,
    Demux.run_bind_of_ok (run_READ (by decide) (by omega) _), read_duration_hi, if_neg hversion,
    Demux.run_bind_of_ok (Demux.run_pure _ _),
    Demux.run_bind_of_ok (run_READ (by decide) (by omega) _), Demux.run_pure, Nat.sub_sub,
    Nat.sub_sub]
  rfl

/-- The entries of a table that each take four bytes. -/
theorem run_read_words (values : List Nat) (hpayload : 4 * values.length ≤ payload_bytes) :
    (read_entries (READ 4) values.length).run
        (found.reading stack (values.flatMap (encode 4) ++ more) payload_bytes) =
      .ok (values.map (· % 2 ^ 32),
        found.reading stack more (payload_bytes - 4 * values.length)) := by
  have hlength : (values.flatMap (encode 4)).length = 4 * values.length := by
    rw [List.length_flatMap]
    simp [Nat.mul_comm]
  rw [← hlength] at hpayload ⊢
  apply run_read_entries values _ hpayload
  intro value _ more payload_bytes hroom
  rw [length_encode] at hroom ⊢
  exact run_READ (by decide) hroom value

theorem run_MALLOC {count size : Nat} (hmalloc : malloc (count * size) = true)
    (hsize : count * size < 2 ^ 32) (fill : Demux Unit) : MALLOC malloc count size fill = fill := by
  unfold MALLOC
  rw [Nat.mod_eq_of_lt hsize, if_pos hmalloc, if_pos hsize]

/-- When samples of given durations begin. -/
def timestamps : Nat → List Nat → List Nat
  | _, [] => []
  | ts, d :: rest => ts :: timestamps ((ts + d) % 2 ^ 32) rest

theorem timestamps_replicate {ts : Nat} (hts : ts < 2 ^ 32) (d sc : Nat) (rest : List Nat) :
    timestamps ts (List.replicate sc d ++ rest) =
      run_timestamps ts d sc ++ timestamps ((ts + d * sc) % 2 ^ 32) rest := by
  induction sc generalizing ts with
  | zero => rw [Nat.mul_zero, Nat.add_zero, Nat.mod_eq_of_lt hts]; rfl
  | succ sc ih =>
    rw [List.replicate_succ, List.cons_append, timestamps, ih (Nat.mod_lt _ (by decide)),
      run_timestamps, List.cons_append, Nat.mod_add_mod, Nat.mul_succ, Nat.add_assoc,
      Nat.add_comm d]

@[simp] theorem length_run_timestamps (ts d sc : Nat) : (run_timestamps ts d sc).length = sc := by
  induction sc generalizing ts with
  | zero => rfl
  | succ sc ih => rw [run_timestamps, List.length_cons, ih]

/-- The loop over the runs of equal durations gives every sample its own. The
tables grow as far as there is room for. -/
theorem run_read_stts_entries {room : Nat} (hroom : 4 * room < 2 ^ 32)
    (hmalloc : ∀ count ≤ room, malloc (count * 4) = true) (entries : List (Nat × Nat))
    {ts_count ts : Nat} (hts : ts < 2 ^ 32) (hcount : ts_count ≤ room)
    (timestamp duration : List Nat)
    (htotal : timestamp.length + (expand entries).length ≤ room)
    (hpayload : 8 * entries.length ≤ payload_bytes) :
    (read_stts_entries malloc entries.length ts_count ts timestamp duration).run
        (found.reading stack ((entries.flatMap fun run => be4 [run.1, run.2]) ++ more)
          payload_bytes) =
      .ok ((timestamp ++ timestamps ts ((expand entries).map (· % 2 ^ 32)),
          duration ++ (expand entries).map (· % 2 ^ 32)),
        found.reading stack more (payload_bytes - 8 * entries.length)) := by
  induction entries generalizing ts_count ts timestamp duration payload_bytes with
  | nil =>
    simp [read_stts_entries, timestamps]
  | cons run rest ih =>
    rw [expand_cons, List.length_append, List.length_replicate] at htotal
    rw [List.length_cons] at hpayload
    have hsc : run.1 % 256 ^ 4 = run.1 := Nat.mod_eq_of_lt (by omega)
    have hneeded : (timestamp.length + run.1) % 2 ^ 32 = timestamp.length + run.1 :=
      Nat.mod_eq_of_lt (by omega)
    rw [List.flatMap_cons, be4_cons, be4_cons, be4_nil, List.append_nil, List.append_assoc,
      List.append_assoc, List.length_cons, read_stts_entries,
      Demux.run_bind_of_ok (run_READ (by decide) (by omega) _),
      Demux.run_bind_of_ok (run_READ (by decide) (by omega) _), hsc]
    dsimp only
    rw [hneeded]
    generalize hgrown : (if timestamp.length + run.1 > ts_count then timestamp.length + run.1
      else ts_count) = grown
    have hgrown_le : timestamp.length + run.1 ≤ grown ∧ grown ≤ room := by
      rw [← hgrown]
      split <;> omega
    have hbytes : grown * 4 % 2 ^ 32 = grown * 4 := Nat.mod_eq_of_lt (by omega)
    have hdefined : ¬ (run.1 ≠ 0 ∧ (¬ malloc (grown * 4 % 2 ^ 32) = true ∧
        timestamp.length + run.1 > ts_count ∨
          timestamp.length + run.1 > grown * 4 % 2 ^ 32 / 4)) := by
      rintro ⟨-, ⟨hfailed, -⟩ | hpast⟩
      · apply hfailed
        rw [hbytes]
        exact hmalloc grown hgrown_le.2
      · omega
    rw [if_neg hdefined, ih (Nat.mod_lt _ (by decide)) hgrown_le.2 _ _
      (by simp only [List.length_append, length_run_timestamps]; omega) (by omega)]
    have htimes : timestamps ts ((expand (run :: rest)).map (· % 2 ^ 32)) =
        run_timestamps ts (run.2 % 256 ^ 4) run.1 ++
          timestamps ((ts + run.2 % 256 ^ 4 * run.1) % 2 ^ 32)
            ((expand rest).map (· % 2 ^ 32)) := by
      rw [expand_cons, List.map_append, List.map_replicate]
      exact timestamps_replicate hts _ _ _
    have hdurations : (expand (run :: rest)).map (· % 2 ^ 32) =
        List.replicate run.1 (run.2 % 256 ^ 4) ++ (expand rest).map (· % 2 ^ 32) := by
      rw [expand_cons, List.map_append, List.map_replicate]
      rfl
    rw [htimes, hdurations, List.append_assoc, List.append_assoc, Nat.sub_sub, Nat.sub_sub,
      Nat.mul_succ]
    congr 3
    omega

/-- A byte that is read comes back. -/
theorem run_read_set (set : Bytes) (hpayload : set.length ≤ payload_bytes) :
    (read_entries (READ 1) set.length).run (found.reading stack (set ++ more) payload_bytes) =
      .ok (set.map UInt8.toNat, found.reading stack more (payload_bytes - set.length)) := by
  have hbyte : ∀ byte : UInt8, [byte] = encode 1 byte.toNat := fun byte =>
    (index_buffer.encode_byte byte).symm
  have hset : set.flatMap (fun byte => [byte]) = set := by simp
  have hentries : (read_entries (READ 1) set.length).run
      (found.reading stack (set.flatMap (fun byte => [byte]) ++ more) payload_bytes) =
      .ok (set.map UInt8.toNat,
        found.reading stack more (payload_bytes - (set.flatMap fun byte => [byte]).length)) := by
    apply run_read_entries set _ (by rwa [hset])
    intro byte _ more payload_bytes hroom
    have hone : 1 ≤ 1 ∧ 1 ≤ 4 := by decide
    have hread : (READ 1).run (found.reading stack (encode 1 byte.toNat ++ more) payload_bytes) =
        .ok (byte.toNat % 256 ^ 1, found.reading stack more (payload_bytes - 1)) :=
      run_READ hone hroom byte.toNat
    rw [Nat.mod_eq_of_lt (by simpa using byte.toNat_lt), ← hbyte] at hread
    exact hread
  rwa [hset] at hentries

/-- The parameter sets of one kind, with their number. -/
theorem run_read_spspps (clear_msb : Bool) {count : Nat} {sets : List Bytes}
    (hcount : (if clear_msb then count % 256 % 32 else count % 256) = sets.length)
    (hsets : ∀ set ∈ sets, Fits set) (hpayload : 1 + (pack sets).length ≤ payload_bytes) :
    (read_spspps clear_msb).run
        (found.reading stack (encode 1 count ++ (pack sets ++ more)) payload_bytes) =
      .ok (UInt8.ofNat sets.length :: pack sets,
        found.reading stack more (payload_bytes - (1 + (pack sets).length))) := by
  have hset : ∀ set : Bytes, Fits set → ∀ more payload_bytes,
      (encode 2 set.length ++ set).length ≤ payload_bytes →
      read_parameter_set.run
          (found.reading stack (encode 2 set.length ++ set ++ more) payload_bytes) =
        .ok (encode 2 set.length ++ set,
          found.reading stack more (payload_bytes - (encode 2 set.length ++ set).length)) := by
    intro set hfits more payload_bytes hroom
    have hlength : set.length % 256 ^ 2 = set.length := Nat.mod_eq_of_lt hfits.2
    have hbytes : (set.map UInt8.toNat).map UInt8.ofNat = set := by
      rw [List.map_map]
      exact List.map_id'' (fun byte => UInt8.ofNat_toNat) set
    rw [List.length_append, length_encode] at hroom ⊢
    unfold read_parameter_set
    rw [List.append_assoc, Demux.run_bind_of_ok (run_READ (by decide) (by omega) _), hlength,
      Demux.run_bind_of_ok (run_read_set set (by omega)), Demux.run_pure, hbytes, encode_two,
      Nat.sub_sub]
    rfl
  have hroom : (sets.flatMap fun set => encode 2 set.length ++ set).length ≤
      payload_bytes - 1 := by
    change (pack sets).length ≤ _
    omega
  have hentries : (read_entries read_parameter_set sets.length).run (found.reading stack
      (sets.flatMap (fun set => encode 2 set.length ++ set) ++ more) (payload_bytes - 1)) =
      .ok (sets.map fun set => encode 2 set.length ++ set,
        found.reading stack more (payload_bytes - 1 - (pack sets).length)) :=
    run_read_entries sets (fun set hmem => hset set (hsets set hmem)) hroom
  unfold read_spspps
  rw [Demux.run_bind_of_ok (run_READ (by decide) (by omega) _)]
  dsimp only
  rw [show (256 ^ 1 : Nat) = 256 from rfl, hcount]
  change Demux.run (read_entries read_parameter_set sets.length >>= _)
    (found.reading stack (sets.flatMap (fun set => encode 2 set.length ++ set) ++ more) _) = _
  rw [Demux.run_bind_of_ok hentries, Demux.run_pure, Nat.sub_sub]
  rfl

end

section

variable (movie : MP4D_demux_t) (track : MP4D_track_t) (found : Found)
  (stack : List (Nat × boxtype_t)) (more : Bytes) {payload_bytes : Nat}

/-- The time scale of the movie and its duration. The rest is skipped, which
may reach the end of the file. -/
theorem run_read_mvhd_at {times trailer : Bytes} (htimes : times.length = 8)
    (timescale duration : Nat) (htrailer : trailer.length = 80) :
    (read_mvhd 0).run (found.reading stack
        (times ++ (encode 4 timescale ++ (encode 4 duration ++ (trailer ++ more)))) 96) =
      .ok ((), { Found.reading
        { found with mp4 := { found.mp4 with
            timescale := timescale % 2 ^ 32
            duration_hi := 0
            duration_lo := duration % 2 ^ 32 } } stack more 0 with
        eof_flag := more.isEmpty }) := by
  have hskip (found : Found) : (SKIP 80).run (found.reading stack (trailer ++ more) 80) =
      .ok ((), { found.reading stack more 0 with eof_flag := more.isEmpty }) :=
    run_SKIP_at htrailer le_rfl
  unfold read_mvhd
  rw [Demux.run_bind_of_ok (run_read_times htimes (by decide)), Demux.run_modify_bind]
  exact hskip { found with mp4 := _ }

theorem run_read_mvhd {times trailer : Bytes} (htimes : times.length = 8)
    (timescale duration : Nat) (htrailer : trailer.length = 80) (hmore : more ≠ []) :
    (read_mvhd 0).run (found.reading stack
        (times ++ (encode 4 timescale ++ (encode 4 duration ++ (trailer ++ more)))) 96) =
      .ok ((), Found.reading
        { found with mp4 := { found.mp4 with
            timescale := timescale % 2 ^ 32
            duration_hi := 0
            duration_lo := duration % 2 ^ 32 } } stack more 0) := by
  rw [run_read_mvhd_at found stack more htimes timescale duration htrailer,
    List.isEmpty_eq_false_iff.mpr hmore]
  rfl

theorem run_read_mdhd {times : Bytes} (htimes : times.length = 8)
    (timescale duration language : Nat) :
    (read_mdhd 0).run ((in_track movie track).reading stack
        (times ++ (encode 4 timescale ++ (encode 4 duration ++ (encode 2 language ++ more)))) 20) =
      .ok ((), (in_track movie { track with
        timescale := timescale % 2 ^ 32
        duration_hi := 0
        duration_lo := duration % 2 ^ 32
        language := [language % 2 ^ 16 / 2 ^ 10 % 32 + 0x60, language % 2 ^ 16 / 2 ^ 5 % 32 + 0x60,
          language % 2 ^ 16 % 32 + 0x60] }).reading stack more 2) := by
  unfold read_mdhd
  rw [Demux.run_bind_of_ok (run_read_times htimes (by decide)),
    Demux.run_bind_of_ok (run_READ (by decide) (by decide) _), run_update_track]
  rfl

theorem run_read_hdlr {pre_defined : Bytes} (hpre : pre_defined.length = 4) (handler_type : Nat)
    (hpayload : 8 ≤ payload_bytes) :
    read_hdlr.run ((in_track movie track).reading stack
        (pre_defined ++ (encode 4 handler_type ++ more)) payload_bytes) =
      .ok ((), (in_track movie { track with
        handler_type := handler_type % 2 ^ 32 }).reading stack more (payload_bytes - 8)) := by
  have hskip : (SKIP 4).run ((in_track movie track).reading stack
      (pre_defined ++ (encode 4 handler_type ++ more)) payload_bytes) =
      .ok ((), (in_track movie track).reading stack (encode 4 handler_type ++ more)
        (payload_bytes - 4)) :=
    run_SKIP hpre (by omega) (by simp [encode])
  unfold read_hdlr
  rw [Demux.run_state_bind, if_pos (by exact rfl), Demux.run_bind_of_ok hskip,
    Demux.run_bind_of_ok (run_READ (by decide) (by omega) _), run_update_track, Nat.sub_sub]
  rfl

/-- The width and the height of the pictures. -/
theorem run_read_avc1 {front back : Bytes} (hfront : front.length = 24) (width height : Nat)
    (hback : back.length = 50) (hmore : more ≠ []) (hpayload : 78 ≤ payload_bytes) :
    read_avc1.run ((in_track movie track).reading stack
        (front ++ (encode 2 width ++ (encode 2 height ++ (back ++ more)))) payload_bytes) =
      .ok ((), (in_track movie { track with
        SampleDescription := (width % 2 ^ 16, height % 2 ^ 16) }).reading stack more
          (payload_bytes - 78)) := by
  have hskip : (SKIP 24).run ((in_track movie track).reading stack
      (front ++ (encode 2 width ++ (encode 2 height ++ (back ++ more)))) payload_bytes) =
      .ok ((), (in_track movie track).reading stack
        (encode 2 width ++ (encode 2 height ++ (back ++ more))) (payload_bytes - 24)) :=
    run_SKIP hfront (by omega) (by simp [encode])
  unfold read_avc1
  rw [Demux.run_state_bind, if_neg (by exact not_not.mpr rfl), Demux.run_bind_of_ok hskip,
    Demux.run_bind_of_ok (run_READ (by decide) (by omega) _),
    Demux.run_bind_of_ok (run_READ (by decide) (by omega) _),
    Demux.run_bind_of_ok (run_update_track _), run_SKIP hback (by omega) hmore, Nat.sub_sub,
    Nat.sub_sub, Nat.sub_sub]
  rfl

section

variable {malloc : Nat → Bool}

/-- Samples of different sizes. -/
theorem run_read_stsz (sizes : List Nat) (hmalloc : malloc (sizes.length * 4) = true)
    (hsize : sizes.length * 4 < 2 ^ 32) :
    (read_stsz malloc .BOX_stsz).run ((in_track movie track).reading stack
        (encode 4 0 ++ (encode 4 sizes.length ++ (sizes.flatMap (encode 4) ++ more)))
        (8 + 4 * sizes.length)) =
      .ok ((), (in_track movie { track with
        sample_count := sizes.length
        entry_size := sizes.map (· % 2 ^ 32) }).reading stack more 0) := by
  have hcount : sizes.length % 256 ^ 4 = sizes.length := Nat.mod_eq_of_lt (by omega)
  have hpayload : 8 + 4 * sizes.length - 4 - 4 - 4 * sizes.length = 0 := by omega
  unfold read_stsz
  rw [Demux.run_bind_of_ok (run_READ (by decide) (by omega) _),
    Demux.run_bind_of_ok (run_READ (by decide) (by omega) _), hcount,
    Demux.run_bind_of_ok (run_update_track _), run_MALLOC hmalloc hsize, read_entry_sizes,
    if_pos rfl, if_neg (by decide), Demux.run_bind_of_ok (run_read_words sizes (by omega)),
    run_update_track, hpayload]

theorem run_read_stco (offsets : List Nat) (hmalloc : malloc (offsets.length * 8) = true)
    (hsize : offsets.length * 8 < 2 ^ 32) :
    (read_stco malloc .BOX_stco).run ((in_track movie track).reading stack
        (encode 4 offsets.length ++ (offsets.flatMap (encode 4) ++ more))
        (4 + 4 * offsets.length)) =
      .ok ((), (in_track movie { track with
        chunk_count := offsets.length
        chunk_offset := offsets.map (· % 2 ^ 32) }).reading stack more 0) := by
  have hcount : offsets.length % 256 ^ 4 = offsets.length := Nat.mod_eq_of_lt (by omega)
  have hoffsets : ∀ offsets : List Nat, read_chunk_offsets false offsets.length =
      read_entries (READ 4) offsets.length := by
    intro offsets
    induction offsets with
    | nil => rfl
    | cons offset rest ih =>
      rw [List.length_cons, read_chunk_offsets, ih]
      rfl
  unfold read_stco
  rw [Demux.run_bind_of_ok (run_READ (by decide) (by omega) _), hcount,
    Demux.run_bind_of_ok (run_update_track _), run_MALLOC hmalloc hsize]
  change Demux.run (read_chunk_offsets false offsets.length >>= _) _ = _
  rw [hoffsets, Demux.run_bind_of_ok (run_read_words offsets (by omega)), run_update_track,
    Nat.add_sub_cancel_left, Nat.sub_self]

/-- The times and durations of the samples, from the runs of equal durations. -/
theorem run_read_stts {room : Nat} (hroom : 4 * room < 2 ^ 32)
    (hmalloc : ∀ count ≤ room, malloc (count * 4) = true) (entries : List (Nat × Nat))
    (hcount : entries.length ≤ room) (htotal : (expand entries).length ≤ room) :
    (read_stts malloc).run ((in_track movie track).reading stack
        (encode 4 entries.length ++ ((entries.flatMap fun run => be4 [run.1, run.2]) ++ more))
        (4 + 8 * entries.length)) =
      .ok ((), (in_track movie { track with
        timestamp := timestamps 0 ((expand entries).map (· % 2 ^ 32))
        duration := (expand entries).map (· % 2 ^ 32) }).reading stack more 0) := by
  have hlength : entries.length % 256 ^ 4 = entries.length := Nat.mod_eq_of_lt (by omega)
  have hbytes : entries.length * 4 % 2 ^ 32 = entries.length * 4 := Nat.mod_eq_of_lt (by omega)
  have hentries : (read_stts_entries malloc entries.length entries.length 0 [] []).run
      ((in_track movie { track with timestamp := [], duration := [] }).reading stack
        ((entries.flatMap fun run => be4 [run.1, run.2]) ++ more) (4 + 8 * entries.length - 4)) =
      .ok ((timestamps 0 ((expand entries).map (· % 2 ^ 32)),
          (expand entries).map (· % 2 ^ 32)),
        (in_track movie { track with timestamp := [], duration := [] }).reading stack more
          (4 + 8 * entries.length - 4 - 8 * entries.length)) :=
    run_read_stts_entries hroom hmalloc entries (by decide) hcount [] []
      (by rwa [List.length_nil, Nat.zero_add]) (by omega)
  unfold read_stts
  rw [Demux.run_bind_of_ok (run_READ (by decide) (by omega) _), hlength,
    Demux.run_bind_of_ok (run_update_track _), hbytes,
    if_neg (not_not.mpr (hmalloc _ hcount)), Demux.run_bind_of_ok hentries, run_update_track,
    Nat.add_sub_cancel_left, Nat.sub_self]

/-- All chunks of one sample. -/
theorem run_read_stsc (hmalloc : malloc 8 = true) (hmore : more ≠ []) :
    (read_stsc malloc).run ((in_track movie track).reading stack
        (encode 4 1 ++ (encode 4 1 ++ (encode 4 1 ++ (encode 4 1 ++ more)))) 16) =
      .ok ((), (in_track movie { track with
        sample_to_chunk_count := 1
        sample_to_chunk := [⟨1, 1⟩] }).reading stack more 0) := by
  unfold read_stsc
  rw [Demux.run_bind_of_ok (run_READ (by decide) (by decide) _),
    Demux.run_bind_of_ok (run_update_track _), run_MALLOC hmalloc (by decide)]
  have hgroup : read_chunk_group.run ((in_track movie
      { track with sample_to_chunk_count := 1, sample_to_chunk := [] }).reading stack
        (encode 4 1 ++ (encode 4 1 ++ (encode 4 1 ++ more))) 12) =
      .ok (⟨1, 1⟩,
        (in_track movie { track with
          sample_to_chunk_count := 1
          sample_to_chunk := [] }).reading stack more 0) := by
    unfold read_chunk_group
    rw [Demux.run_bind_of_ok (run_READ (by decide) (by decide) _),
      Demux.run_bind_of_ok (run_READ (by decide) (by decide) _),
      Demux.run_bind_of_ok (run_SKIP (length_encode 4 1) (by decide) hmore)]
    rfl
  have hgroups : (read_entries read_chunk_group 1).run ((in_track movie
      { track with sample_to_chunk_count := 1, sample_to_chunk := [] }).reading stack
        (encode 4 1 ++ (encode 4 1 ++ (encode 4 1 ++ more))) 12) =
      .ok ([⟨1, 1⟩],
        (in_track movie { track with
          sample_to_chunk_count := 1
          sample_to_chunk := [] }).reading stack more 0) := by
    rw [read_entries, Demux.run_bind_of_ok hgroup]
    rfl
  exact Demux.run_bind_of_ok hgroups _

/-- Both kinds of parameter sets go to the track as they are. -/
theorem run_read_avcC {box_bytes sps_count pps_count : Nat} {sps pps : List Bytes}
    (a b c d e : Nat) (hmalloc : malloc box_bytes = true) (hbox : box_bytes < 2 ^ 32)
    (hroom : 2 + (pack sps).length + (pack pps).length ≤ box_bytes)
    (hsps_count : sps_count % 256 % 32 = sps.length) (hpps_count : pps_count % 256 = pps.length)
    (hsps : ∀ set ∈ sps, Fits set) (hpps : ∀ set ∈ pps, Fits set) :
    (read_avcC malloc box_bytes).run ((in_track movie track).reading stack
        (encode 1 a ++ (encode 1 b ++ (encode 1 c ++ (encode 1 d ++ (encode 1 e ++
          (encode 1 sps_count ++ (pack sps ++ (encode 1 pps_count ++ (pack pps ++ more)))))))))
        (7 + (pack sps).length + (pack pps).length)) =
      .ok ((), (in_track movie { track with
        object_type_indication := MP4_OBJECT_TYPE_AVC
        dsi := some (UInt8.ofNat sps.length :: pack sps ++ (UInt8.ofNat pps.length :: pack pps))
        dsi_bytes := box_bytes }).reading stack more 0) := by
  have hsets : ¬ (¬ malloc (box_bytes % 2 ^ 32) = true ∨
      (UInt8.ofNat sps.length :: pack sps ++ UInt8.ofNat pps.length :: pack pps).length >
        box_bytes % 2 ^ 32) := by
    rw [Nat.mod_eq_of_lt hbox, List.length_append, List.length_cons, List.length_cons]
    rintro (hfailed | hpast)
    · exact hfailed hmalloc
    · omega
  have hpayload : 7 + (pack sps).length + (pack pps).length - 1 - 1 - 1 - 1 - 1 -
      (1 + (pack sps).length) - (1 + (pack pps).length) = 0 := by omega
  unfold read_avcC
  rw [Demux.run_bind_of_ok (run_update_track _),
    Demux.run_bind_of_ok (run_READ (by decide) (by omega) _),
    Demux.run_bind_of_ok (run_READ (by decide) (by omega) _),
    Demux.run_bind_of_ok (run_READ (by decide) (by omega) _),
    Demux.run_bind_of_ok (run_READ (by decide) (by omega) _),
    Demux.run_bind_of_ok (run_READ (by decide) (by omega) _),
    Demux.run_bind_of_ok (run_read_spspps true hsps_count hsps (by omega)),
    Demux.run_bind_of_ok (run_read_spspps false hpps_count hpps (by omega)), if_neg hsets,
    run_update_track, hpayload, Nat.mod_eq_of_lt hbox]

end

end

end amldigitalfpv.minimp4

import AMLDigitalFPV.MiniMp4.RoundTrip
import Mathlib.Data.List.GetD

namespace amldigitalfpv.minimp4

open big_endian sections items run_length

/-- The sample of a picture, which begins where the pictures before it end. -/
theorem sample_table_getElem? (offset : Nat) (pictures : List Picture) (i : Nat) :
    (sample_table offset pictures)[i]? = pictures[i]?.map fun picture =>
      { size := picture.data.length
        offset := offset + (media (pictures.take i)).length
        duration := picture.duration
        flag_random_access := picture.random_access } := by
  induction pictures generalizing offset i with
  | nil => rfl
  | cons picture rest ih =>
    cases i with
    | zero => rfl
    | succ i =>
      rw [sample_table, List.getElem?_cons_succ, ih, List.getElem?_cons_succ, List.take_succ_cons,
        media_cons, List.length_append, Nat.add_assoc]

theorem media_split {pictures : List Picture} {i : Nat} {picture : Picture}
    (hpicture : pictures[i]? = some picture) :
    ((media pictures).drop (media (pictures.take i)).length).take picture.data.length =
      picture.data := by
  obtain ⟨hi, rfl⟩ := List.getElem?_eq_some_iff.mp hpicture
  have hsplit : media pictures =
      media (pictures.take i) ++ (pictures[i].data ++ media (pictures.drop (i + 1))) := by
    rw [← media_cons, ← List.drop_eq_getElem_cons hi, ← media_append, List.take_append_drop]
  rw [hsplit, List.drop_left, List.take_left]

theorem timestamps_getElem? {ts : Nat} (hts : ts < 2 ^ 32) (durations : List Nat) {i : Nat}
    (hi : i < durations.length) :
    (timestamps ts durations)[i]? = some ((ts + (durations.take i).sum) % 2 ^ 32) := by
  induction durations generalizing ts i with
  | nil => cases hi
  | cons d rest ih =>
    cases i with
    | zero =>
      rw [timestamps, List.getElem?_cons_zero, List.take_zero, List.sum_nil, Nat.add_zero,
        Nat.mod_eq_of_lt hts]
    | succ i =>
      rw [timestamps, List.getElem?_cons_succ, ih (Nat.mod_lt _ (by decide))
        (Nat.lt_of_succ_lt_succ hi), List.take_succ_cons, List.sum_cons, Nat.mod_add_mod,
        Nat.add_assoc]

theorem sum_map_mod (values : List Nat) (modulus : Nat) :
    (values.map (· % modulus)).sum % modulus = values.sum % modulus := by
  induction values with
  | nil => rfl
  | cons value rest ih =>
    rw [List.map_cons, List.sum_cons, List.sum_cons, Nat.mod_add_mod]
    exact Nat.ModEq.add_left value ih

/-- With one sample in each chunk the chunk of a sample has its number. -/
theorem sample_to_chunk_loop_eq {tr : MP4D_track_t} (hcount : tr.sample_to_chunk_count = 1)
    (hgroups : tr.sample_to_chunk = [⟨1, 1⟩]) {nsample count nc : Nat}
    (hfrom : nc ≤ nsample) (hto : nsample < nc + count) (hsmall : nc + count < 2 ^ 32) :
    sample_to_chunk_loop tr nsample count nc 0 nc nc = some (nsample, nsample) := by
  induction count generalizing nc with
  | zero => omega
  | succ count ih =>
    have hgroup : ¬ (0 + 1 < tr.sample_to_chunk_count ∧
        some (nc + 1) = tr.sample_to_chunk[0 + 1]?.map (·.first_chunk)) := by
      rw [hcount]
      exact fun h => absurd h.1 (by decide)
    have hsum : (nc + tr.sample_to_chunk[0]?.elim 0 (·.samples_per_chunk)) % 2 ^ 32 = nc + 1 := by
      rw [hgroups]
      exact Nat.mod_eq_of_lt (show nc + 1 < 2 ^ 32 by omega)
    rw [sample_to_chunk_loop, if_neg hgroup, hsum]
    split
    · next hlt =>
      have heq : nc = nsample := by omega
      rw [heq]
    · next hge => exact ih (by omega) (by omega) (by omega)

section

variable (info : MP4E_track_t) (r : Recording)

theorem length_pictures_le : r.pictures.length ≤ (recorded_file info r).length := by
  by_cases hsmpl : r.mux.smpl = []
  · rw [sample_table_eq_nil_iff.mp hsmpl]
    exact Nat.zero_le _
  · have hindex := length_index_atoms info r.mux
    have hsamples : r.mux.smpl.length = r.pictures.length := length_sample_table 40 r.pictures
    rw [index_bytes_eq r.mux hsmpl] at hindex
    unfold sample_table_bytes at hindex
    rw [hsamples] at hindex
    simp only [recorded_file, List.length_append]
    omega

/-- Each sample is alone in the chunk that has its number. -/
theorem sample_to_chunk_recorded {i : Nat} (hi : i < r.pictures.length)
    (hfile : (recorded_file info r).length < 0xFFFFFFFF) :
    sample_to_chunk (recorded_track info r) i = some (i, i) := by
  have hcount := length_pictures_le info r
  have hchunks : (recorded_track info r).chunk_count = r.pictures.length :=
    length_sample_table 40 r.pictures
  unfold sample_to_chunk
  rw [hchunks]
  split
  · have hzero : i = 0 := by omega
    rw [hzero]
  · exact sample_to_chunk_loop_eq rfl rfl (Nat.zero_le _) (by omega) (by omega)

theorem map_duration_sample_table (offset : Nat) (pictures : List Picture) :
    (sample_table offset pictures).map (·.duration % 2 ^ 32) =
      (pictures.map (·.duration)).map (· % 2 ^ 32) := by
  induction pictures generalizing offset with
  | nil => rfl
  | cons picture rest ih =>
    rw [sample_table, List.map_cons, List.map_cons, List.map_cons, ih]

/-- A picture begins after all that were taken before it. -/
theorem recorded_timestamp {i : Nat} (hi : i < r.pictures.length) :
    (recorded_track info r).timestamp.getD i 0 =
      ((r.pictures.take i).map (·.duration)).sum % 2 ^ 32 := by
  change (timestamps 0 ((sample_table 40 r.pictures).map (·.duration % 2 ^ 32))).getD i 0 = _
  rw [map_duration_sample_table, List.getD_eq_getElem?_getD,
    timestamps_getElem? (by decide) _ (by simpa using hi), Option.getD_some, Nat.zero_add,
    ← List.map_take, sum_map_mod, ← List.map_take]

/-- Each picture of a recording is found in its file, with the time when it
begins and how long it lasts. -/
theorem MP4D_frame_offset_recorded {i : Nat} {picture : Picture}
    (hpicture : r.pictures[i]? = some picture)
    (hfile : (recorded_file info r).length < 0xFFFFFFFF) :
    MP4D_frame_offset (recorded_movie info r) 0 i = some
      { offset := 40 + (media (r.pictures.take i)).length
        frame_bytes := picture.data.length
        timestamp := ((r.pictures.take i).map (·.duration)).sum % 2 ^ 32
        duration := picture.duration % 2 ^ 32 } := by
  obtain ⟨hi, -⟩ := List.getElem?_eq_some_iff.mp hpicture
  have hsample := sample_table_getElem? 40 r.pictures i
  rw [hpicture, Option.map_some] at hsample
  have hbound := mem_sample_table (List.mem_of_getElem? hsample)
  dsimp only at hbound
  have hmedia : 40 + (media r.pictures).length ≤ (recorded_file info r).length := by
    simp only [recorded_file, List.length_append, length_mdat_header]
    have hftyp : box_ftyp.length = 24 := rfl
    omega
  have hentry (field : sample_t → Nat) :
      ((sample_table 40 r.pictures).map field).getD i 0 =
        field { size := picture.data.length
                offset := 40 + (media (r.pictures.take i)).length
                duration := picture.duration
                flag_random_access := picture.random_access } := by
    rw [List.getD_eq_getElem?_getD, List.getElem?_map, hsample]
    rfl
  have hoffset : (recorded_track info r).chunk_offset.getD i 0 =
      40 + (media (r.pictures.take i)).length :=
    (hentry (·.offset % 2 ^ 32)).trans (Nat.mod_eq_of_lt (by dsimp only; omega))
  have hsize : (recorded_track info r).entry_size.getD i 0 = picture.data.length :=
    (hentry (·.size % 2 ^ 32)).trans (Nat.mod_eq_of_lt (by dsimp only; omega))
  have hduration : (recorded_track info r).duration.getD i 0 = picture.duration % 2 ^ 32 :=
    hentry (·.duration % 2 ^ 32)
  have hskipped : ((recorded_track info r).entry_size.take i).drop i = [] :=
    List.drop_of_length_le (List.length_take_le _ _)
  unfold MP4D_frame_offset
  change Option.map _ (sample_to_chunk (recorded_track info r) i) = _
  rw [sample_to_chunk_recorded info r hi hfile, Option.map_some]
  dsimp only
  rw [max_self, hoffset, hsize, hduration, hskipped, recorded_timestamp info r hi, List.sum_nil,
    Nat.add_zero, Nat.mod_eq_of_lt (by omega)]

/-- What the demultiplexer gives for a sample is the picture. -/
theorem recorded_picture {i : Nat} {picture : Picture}
    (hpicture : r.pictures[i]? = some picture) :
    ((recorded_file info r).drop (40 + (media (r.pictures.take i)).length)).take
      picture.data.length = picture.data := by
  have hprefix : (box_ftyp ++ mdat_header r.mux.write_pos).length = 40 := by
    rw [List.length_append, length_mdat_header]
    rfl
  have hinside : picture.data.length ≤
      ((media r.pictures).drop (media (r.pictures.take i)).length).length := by
    have hlength := congrArg List.length (media_split hpicture)
    rw [List.length_take] at hlength
    omega
  have hfront : (media (r.pictures.take i)).length ≤ (media r.pictures).length := by
    conv_rhs => rw [← List.take_append_drop i r.pictures, media_append, List.length_append]
    exact Nat.le_add_right _ _
  rw [recorded_file, List.append_assoc, ← hprefix, List.drop_length_add_append,
    List.drop_append_of_le_length hfront, List.take_append_of_le_length hinside,
    media_split hpicture]

end

/-- Going over as many sets as are packed in front ends behind them. -/
theorem skip_spspps_pack {sets : List Bytes} (hsets : ∀ set ∈ sets, Fits set) (front back : Bytes)
    {nbytes : Nat} (hbytes : front.length + (pack sets).length ≤ nbytes) :
    skip_spspps (front ++ (pack sets ++ back)) nbytes front.length sets.length =
      some (front.length + (pack sets).length) := by
  induction sets generalizing front with
  | nil => rfl
  | cons set rest ih =>
    have hsize := size_pack (hsets set List.mem_cons_self) rest
    have hlength := length_pack_cons set rest
    have hbyte (j : Nat) (hj : j < 2) :
        (front ++ (pack (set :: rest) ++ back)).getD (front.length + j) 0 =
          (pack (set :: rest)).getD j 0 := by
      rw [List.getD_append_right _ _ _ _ (Nat.le_add_right _ _), Nat.add_sub_cancel_left,
        List.getD_append _ _ _ _ (by omega)]
    have hfirst := hbyte 0 (by decide)
    rw [Nat.add_zero] at hfirst
    have hnext := ih (fun other hother => hsets other (List.mem_cons_of_mem _ hother))
      (front ++ (encode 2 set.length ++ set))
      (by simp only [List.length_append, length_encode]; omega)
    have hfront : (front ++ (encode 2 set.length ++ set)).length =
        front.length + 2 + set.length := by
      simp only [List.length_append, length_encode]
      omega
    rw [hfront] at hnext
    rw [List.length_cons, skip_spspps, if_neg (by omega), hfirst, hbyte 1 (by decide), hsize]
    rw [pack_cons, List.append_assoc, ← List.append_assoc front, hnext, ← pack_cons, hlength,
      Nat.add_assoc, Nat.add_assoc, Nat.add_assoc]

/-- The bytes of a set, from where its size stands. -/
theorem take_set_of_drop {p set back : Bytes} {rest : List Bytes} {bytepos : Nat}
    (hset : Fits set) (hfound : p.drop bytepos = pack (set :: rest) ++ back) :
    (p.drop (bytepos + 2)).take
      ((p.getD bytepos 0).toNat * 256 + (p.getD (bytepos + 1) 0).toNat) = set := by
  have hlength := length_pack_cons set rest
  have hbyte (j : Nat) (hj : j < 2) :
      p.getD (bytepos + j) 0 = (pack (set :: rest)).getD j 0 := by
    rw [List.getD_eq_getElem?_getD, ← List.getElem?_drop, hfound, ← List.getD_eq_getElem?_getD,
      List.getD_append _ _ _ _ (by omega)]
  have hfirst := hbyte 0 (by decide)
  rw [Nat.add_zero] at hfirst
  rw [hfirst, hbyte 1 (by decide), size_pack hset, ← List.drop_drop, hfound,
    List.drop_append_of_le_length (by omega), List.take_append_of_le_length, take_pack]
  rw [List.length_drop]
  omega

/-- The set with a number is found among those that were packed. -/
theorem read_set_pack {sets : List Bytes} (hsets : ∀ set ∈ sets, Fits set)
    (hcount : sets.length < 256) (front back : Bytes) {dsi_bytes : Nat}
    (hbytes : front.length + 1 + (pack sets).length ≤ dsi_bytes) (n : Nat) :
    read_set (front ++ (UInt8.ofNat sets.length :: (pack sets ++ back))) dsi_bytes front.length n =
      sets[n]? := by
  have hnumber : ((front ++ (UInt8.ofNat sets.length :: (pack sets ++ back))).getD front.length
      0).toNat = sets.length := by
    rw [List.getD_append_right _ _ _ _ le_rfl, Nat.sub_self, List.getD_cons_zero,
      UInt8.toNat_ofNat', Nat.mod_eq_of_lt hcount]
  have hdrop (k : Nat) : (front ++ (UInt8.ofNat sets.length :: (pack sets ++ back))).drop
      (front.length + 1 + k) = (pack sets ++ back).drop k := by
    rw [Nat.add_assoc, List.drop_length_add_append, Nat.add_comm 1 k, List.drop_succ_cons]
  unfold read_set
  dsimp only
  rw [hnumber]
  split
  · next hpast => exact (List.getElem?_eq_none hpast).symm
  · next hwithin =>
    have hn : n < sets.length := by omega
    have hset := hsets sets[n] (List.getElem_mem hn)
    have hsplit : pack sets = pack (sets.take n) ++ pack (sets[n] :: sets.drop (n + 1)) := by
      rw [← List.drop_eq_getElem_cons hn, ← pack_append, List.take_append_drop]
    have hlength := congrArg List.length hsplit
    rw [List.length_append, length_pack_cons] at hlength
    have hbefore : ([] : Bytes).length + (pack (sets.take n)).length ≤
        dsi_bytes - (front.length + 1) := by
      rw [List.length_nil]
      omega
    have hskip := skip_spspps_pack (fun set hmem => hsets set (List.mem_of_mem_take hmem)) []
      (pack (sets[n] :: sets.drop (n + 1)) ++ back) hbefore
    rw [List.nil_append, ← List.append_assoc, ← hsplit, List.length_nil, Nat.zero_add,
      List.length_take, Nat.min_eq_left hn.le] at hskip
    have hrest := hdrop 0
    rw [Nat.add_zero, List.drop_zero] at hrest
    have hfound : (front ++ (UInt8.ofNat sets.length :: (pack sets ++ back))).drop
        (front.length + 1 + (pack (sets.take n)).length) =
        pack (sets[n] :: sets.drop (n + 1)) ++ back := by
      rw [hdrop]
      conv_lhs => rw [hsplit]
      rw [List.append_assoc, List.drop_left]
    rw [hrest, hskip, Option.map_some, List.getElem?_eq_getElem hn]
    congr 1
    exact take_set_of_drop hset hfound

theorem read_spspps_of_h264 (info : MP4E_track_t) {r : Recording} (hh264 : r.is_hevc = false)
    (hstored : r.SetsStored) (hsps : r.sps.length < 32) (hpps : r.pps.length < 256) (n : Nat) :
    MP4D_read_sps (recorded_movie info r) 0 n = r.sps[n]? ∧
      MP4D_read_pps (recorded_movie info r) 0 n = r.pps[n]? := by
  have hdescribed : (recorded_track info r).object_type_indication = MP4_OBJECT_TYPE_AVC ∧
      (recorded_track info r).dsi = some (UInt8.ofNat r.sps.length ::
        (pack r.sps ++ (UInt8.ofNat r.pps.length :: pack r.pps))) ∧
      (recorded_track info r).dsi_bytes = 15 + (pack r.sps).length + (pack r.pps).length := by
    unfold recorded_track with_tables described
    rw [hh264, if_neg Bool.false_ne_true]
    exact ⟨rfl, rfl, rfl⟩
  obtain ⟨hobject, hdsi, hbytes⟩ := hdescribed
  have hrun (pps_flag : Bool) : MP4D_read_spspps (recorded_movie info r) 0 pps_flag n =
      if pps_flag then
        (skip_spspps (pack r.sps ++ (UInt8.ofNat r.pps.length :: pack r.pps))
          (15 + (pack r.sps).length + (pack r.pps).length - 1) 0
          (UInt8.ofNat r.sps.length).toNat).bind fun skip_bytes =>
            read_set (UInt8.ofNat r.sps.length ::
              (pack r.sps ++ (UInt8.ofNat r.pps.length :: pack r.pps)))
              (15 + (pack r.sps).length + (pack r.pps).length) (1 + skip_bytes) n
      else
        read_set (UInt8.ofNat r.sps.length ::
          (pack r.sps ++ (UInt8.ofNat r.pps.length :: pack r.pps)))
          (15 + (pack r.sps).length + (pack r.pps).length) 0 n := by
    unfold MP4D_read_spspps
    change (if (recorded_track info r).object_type_indication ≠ MP4_OBJECT_TYPE_AVC then none
      else (recorded_track info r).dsi.bind _) = _
    rw [hobject, if_neg (not_not.mpr rfl), hdsi, Option.bind_some, hbytes]
    rfl
  constructor
  · rw [MP4D_read_sps, hrun false, if_neg Bool.false_ne_true]
    exact read_set_pack hstored.sps (by omega) [] (UInt8.ofNat r.pps.length :: pack r.pps)
      (by simp only [List.length_nil]; omega) n
  · have hsps_bytes : ([] : Bytes).length + (pack r.sps).length ≤
        15 + (pack r.sps).length + (pack r.pps).length - 1 := by
      rw [List.length_nil]
      omega
    have hpps_bytes : (UInt8.ofNat r.sps.length :: pack r.sps).length + 1 + (pack r.pps).length ≤
        15 + (pack r.sps).length + (pack r.pps).length := by
      rw [List.length_cons]
      omega
    have hskip := skip_spspps_pack hstored.sps [] (UInt8.ofNat r.pps.length :: pack r.pps)
      hsps_bytes
    rw [List.nil_append, List.length_nil, Nat.zero_add] at hskip
    have hcount : (UInt8.ofNat r.sps.length).toNat = r.sps.length := by
      rw [UInt8.toNat_ofNat', Nat.mod_eq_of_lt (by omega)]
    have hread := read_set_pack hstored.pps hpps (UInt8.ofNat r.sps.length :: pack r.sps) []
      hpps_bytes n
    rw [List.append_nil, List.length_cons, Nat.add_comm _ 1] at hread
    rw [MP4D_read_pps, hrun true, if_pos rfl, hcount, hskip, Option.bind_some]
    exact hread

/-- The sets of an H.264 recording are found by their numbers, those of an H.265
recording are not found. -/
theorem MP4D_read_spspps_recorded (info : MP4E_track_t) {r : Recording} (hstored : r.SetsStored)
    (hsets : r.is_hevc = false → r.sps.length < 32 ∧ r.pps.length < 256) (n : Nat) :
    MP4D_read_sps (recorded_movie info r) 0 n = (if r.is_hevc then none else r.sps[n]?) ∧
      MP4D_read_pps (recorded_movie info r) 0 n = (if r.is_hevc then none else r.pps[n]?) := by
  cases hhevc : r.is_hevc with
  | false => exact read_spspps_of_h264 info hhevc hstored (hsets hhevc).1 (hsets hhevc).2 n
  | true =>
    have hobject : (recorded_track info r).object_type_indication ≠ MP4_OBJECT_TYPE_AVC := by
      unfold recorded_track with_tables described
      rw [hhevc, if_pos rfl]
      exact (by decide : (0 : Nat) ≠ MP4_OBJECT_TYPE_AVC)
    have hnone (pps_flag : Bool) : MP4D_read_spspps (recorded_movie info r) 0 pps_flag n = none :=
      if_pos hobject
    exact ⟨hnone false, hnone true⟩

theorem MP4D_read_spspps_recorded_one :
    MP4D_read_sps (recorded_movie (h26x_track 1920 1080) one_picture) 0 0 =
        some [0x67, 0x42, 0x00, 0x1E] ∧
      MP4D_read_pps (recorded_movie (h26x_track 1920 1080) one_picture) 0 0 = some [0x68, 0xCE] :=
  MP4D_read_spspps_recorded _ one_picture_stored (by decide +kernel) 0

theorem setsStored_take_frames {is_hevc : Bool} {frames : List (Bytes × Nat)}
    (hfits : ∀ frame ∈ frames, ∀ nal ∈ nal_units frame.1,
      is_parameter_set is_hevc nal → nal.length < 256 ^ 2) :
    ((Recording.start is_hevc).take_frames frames).SetsStored := by
  let limit := 40 + (media ((Recording.start is_hevc).take_frames frames).pictures).length
  have hstores := stores_file_calls limit
  have hopened := hstores.shows_opened (s := []) trivial rfl (show 32 ≤ limit by omega) is_hevc
  exact (hstores.write_frames hopened hfits le_rfl).sets

/-- Opening a file finds one track, in which each picture is at the place and
has the times that the demultiplexer gives for it. -/
def PlaysBack (malloc : Nat → Bool) (file : Bytes) (pictures : List Picture) : Prop :=
  ∃ mp4, MP4D_open malloc file = some (.ok (some mp4)) ∧
    mp4.track.map (·.sample_count) = [pictures.length] ∧
    ∀ i picture, pictures[i]? = some picture →
      ∃ frame, MP4D_frame_offset mp4 0 i = some frame ∧
        (file.drop frame.offset).take frame.frame_bytes = picture.data ∧
        frame.timestamp = ((pictures.take i).map (·.duration)).sum % 2 ^ 32 ∧
        frame.duration = picture.duration % 2 ^ 32

theorem recorded_file_plays_back {malloc : Nat → Bool} (info : MP4E_track_t) {r : Recording}
    (hstored : r.SetsStored) (hsets : r.is_hevc = false → r.sps.length < 32 ∧ r.pps.length < 256)
    (hpictures : r.pictures ≠ []) (hfile : (recorded_file info r).length < 0xFFFFFFFF)
    (hmalloc : ∀ size ≤ (recorded_file info r).length, malloc size = true) :
    PlaysBack malloc (recorded_file info r) r.pictures := by
  refine ⟨recorded_movie info r,
    (parses_recorded_file info hstored hsets hpictures hfile hmalloc).opened, ?_, ?_⟩
  · exact congrArg (fun count => [count]) (length_sample_table 40 _)
  · intro i picture hpicture
    exact ⟨_, MP4D_frame_offset_recorded info _ hpicture hfile,
      recorded_picture info _ hpicture, rfl, rfl⟩

end amldigitalfpv.minimp4

import AMLDigitalFPV.MiniMp4.Layout
import AMLDigitalFPV.MiniMp4.Movie

namespace amldigitalfpv.minimp4

open big_endian sections run_length

def FILE_HEADER_BYTES : Nat := 256

def TRACK_HEADER_BYTES : Nat := 512

def sizeof_sample_t : Nat := 24

/-- The memory that `mp4e_flush_index` allocates for the index, with sizes and
`unsigned` of 32 bits. -/
def alloc_index_bytes (mux : MP4E_mux_t) : Nat :=
  let smpl_bytes := mux.smpl.length * sizeof_sample_t
  (FILE_HEADER_BYTES + TRACK_HEADER_BYTES +
    smpl_bytes * (sizeof_sample_t + 4 + 4) % 2 ^ 32 / sizeof_sample_t +
    mux.vsps.length + mux.vpps.length) % 2 ^ 32

/-- The bytes of the index that depend on the samples. -/
def sample_table_bytes (mux : MP4E_mux_t) : Nat :=
  8 * (duration_runs mux).length + 4 * mux.smpl.length +
    (if is_64_bit mux then 8 else 4) * mux.smpl.length +
    (if (sync_samples mux).length = mux.smpl.length then 0
      else 16 + 4 * (sync_samples mux).length)

@[simp] theorem length_be2 (values : List Nat) : (be2 values).length = 2 * values.length := by
  induction values with
  | nil => rfl
  | cons value rest ih =>
    rw [be2_cons, List.length_append, length_encode, ih, List.length_cons]
    omega

@[simp] theorem length_be4 (values : List Nat) : (be4 values).length = 4 * values.length := by
  induction values with
  | nil => rfl
  | cons value rest ih =>
    rw [be4_cons, List.length_append, length_encode, ih, List.length_cons]
    omega

theorem length_atom (x : BoxName) (fields : Bytes) (children : List Section) :
    (atom x fields children).encode.length =
      ATOM (fields.length + (encode_all children).length) := by
  simp only [atom, encode_mk, length_encode_section, length_encode, List.length_append, ATOM]

theorem length_atom_full (x : BoxName) (flag : Nat) (fields : Bytes) (children : List Section) :
    (atom_full x flag fields children).encode.length =
      ATOM_FULL (fields.length + (encode_all children).length) := by
  simp only [atom_full, length_atom, List.length_append, length_encode, ATOM, ATOM_FULL]
  omega

theorem stts_entries_eq (smpl : List sample_t) :
    stts_entries smpl = (runs (smpl.map (·.duration))).length := by
  induction smpl with
  | nil => rfl
  | cons sample rest ih =>
    cases rest with
    | nil => rfl
    | cons next others =>
      have hhead := head_runs ((next :: others).map (·.duration))
      rw [stts_entries, ih, List.map_cons (l := next :: others), runs]
      cases hruns : runs ((next :: others).map (·.duration)) with
      | nil =>
        rw [runs_eq_nil_iff] at hruns
        cases hruns
      | cons run entries =>
        rw [hruns] at hhead
        have hnext : run.2 = next.duration := Option.some.inj hhead
        dsimp only
        rw [hnext]
        split
        · simp [Nat.add_comm]
        · next heq => simp [not_not.mp heq]

section

variable (info : MP4E_track_t) (mux : MP4E_mux_t)

theorem length_visual_sample_entry : (visual_sample_entry info).length = 78 := by
  simp [visual_sample_entry]

theorem length_avcC_box :
    (avcC_box mux).encode.length = ATOM (6 + mux.vsps.length + 1 + mux.vpps.length) := by
  rw [avcC_box, length_atom, encode_all_nil]
  simp only [List.length_append, length_encode, List.length_nil, Nat.add_zero]

theorem length_hvcC_array (nal_unit_type count : Nat) (items : Bytes) :
    (hvcC_array nal_unit_type count items).length = 3 + items.length := by
  simp only [hvcC_array, List.length_append, length_encode]

theorem length_hvcC_box :
    (hvcC_box mux).encode.length =
      ATOM (22 + 1 + (3 + mux.vvps.length) + (3 + mux.vsps.length) + (3 + mux.vpps.length)) := by
  rw [hvcC_box, length_atom, encode_all_nil]
  simp only [List.length_append, length_encode, length_hvcC_array, List.length_nil, Nat.add_zero]

theorem length_stsd_box : (stsd_box info mux).encode.length = stsd_bytes mux := by
  rw [stsd_box, length_atom_full, encode_all_cons, encode_all_nil, List.append_nil, length_be4,
    sample_entry_box, stsd_bytes]
  cases mux.is_hevc with
  | false =>
    rw [if_neg Bool.false_ne_true, length_atom, encode_all_cons, encode_all_nil, List.append_nil,
      length_avcC_box, length_visual_sample_entry]
    rfl
  | true =>
    rw [if_pos rfl, length_atom, encode_all_cons, encode_all_nil, List.append_nil,
      length_hvcC_box, length_visual_sample_entry]
    rfl

theorem length_stts_box :
    (stts_box mux).encode.length = ATOM_FULL (4 + 8 * (duration_runs mux).length) := by
  have hentries (entries : List (Nat × Nat)) :
      (entries.flatMap fun run => be4 [run.1, run.2]).length = 8 * entries.length := by
    induction entries with
    | nil => rfl
    | cons run rest ih =>
      rw [List.flatMap_cons, List.length_append, length_be4, ih]
      simp only [List.length_cons, List.length_nil]
      omega
  rw [stts_box, length_atom_full, List.length_append, hentries]
  simp

theorem length_stsz_box : (stsz_box mux).encode.length = ATOM_FULL (8 + 4 * mux.smpl.length) := by
  rw [stsz_box, length_atom_full, List.length_append, length_be4, length_be4, List.length_map,
    encode_all_nil]
  simp only [List.length_cons, List.length_nil, Nat.add_zero]

theorem length_stco_box : (stco_box mux).encode.length = chunk_offset_bytes mux.smpl := by
  have hentries (samples : List sample_t) :
      (samples.flatMap fun sample => encode 8 sample.offset).length = 8 * samples.length := by
    induction samples with
    | nil => rfl
    | cons sample rest ih =>
      rw [List.flatMap_cons, List.length_append, length_encode, ih, List.length_cons]
      omega
  unfold stco_box chunk_offset_bytes
  rw [← is_64_bit]
  cases is_64_bit mux with
  | false => simp [length_atom_full]
  | true => simp [length_atom_full, hentries]

theorem length_stss_boxes : (encode_all (stss_boxes mux)).length = stss_bytes mux.smpl := by
  unfold stss_boxes stss_bytes
  rw [length_sync_samples]
  by_cases hall : random_access_count mux.smpl = mux.smpl.length
  · simp [hall]
  · simp [hall, length_atom_full, length_sync_samples]

/-- The index is as long as its sizes say. -/
theorem length_index_atoms : (index_atoms info mux).length = index_bytes mux := by
  have hduration : (duration_runs mux).length = stts_entries mux.smpl :=
    (stts_entries_eq mux.smpl).symm
  have hmvhd : (mvhd_box info mux).encode.length = ATOM_FULL 96 := by
    simp [mvhd_box, length_atom_full, unity_matrix]
  have htkhd : (tkhd_box info mux).encode.length = ATOM_FULL 80 := by
    simp [tkhd_box, length_atom_full, unity_matrix]
  have hmdhd : (mdhd_box info mux).encode.length = ATOM_FULL 20 := by
    simp [mdhd_box, length_atom_full]
  have hhdlr : hdlr_box.encode.length = ATOM_FULL 33 := by
    simp [hdlr_box, length_atom_full, handler_ascii]
  have hvmhd : vmhd_box.encode.length = ATOM_FULL 8 := by
    simp [vmhd_box, length_atom_full]
  have hdinf : dinf_box.encode.length = ATOM (ATOM_FULL (4 + ATOM_FULL 0)) := by
    simp [dinf_box, length_atom, length_atom_full]
  have hstsc : stsc_box.encode.length = ATOM_FULL 16 := by
    simp [stsc_box, length_atom_full]
  have hstbl : (stbl_box info mux).encode.length = stbl_bytes mux := by
    simp [stbl_box, stbl_bytes, length_atom, length_stsd_box, length_stts_box, hstsc,
      length_stsz_box, length_stco_box, length_stss_boxes, hduration, Nat.add_assoc]
  rw [index_atoms_eq, moov_box, length_atom, index_bytes, trak_bytes]
  split
  · simp [hmvhd]
  · simp [hmvhd, trak_box, length_atom, htkhd, hmdhd, hhdlr, hvmhd, hdinf, hstbl, Nat.add_assoc]

/-- What the tables of the samples take is within what is allocated for them. -/
theorem sample_table_bytes_le : sample_table_bytes mux ≤ 24 * mux.smpl.length + 12 := by
  have hruns : (duration_runs mux).length ≤ mux.smpl.length := by
    have hle := length_runs_le (mux.smpl.map (·.duration))
    rwa [List.length_map] at hle
  have hsync : (sync_samples mux).length ≤ mux.smpl.length := by
    rw [length_sync_samples]
    exact List.length_filter_le _ _
  unfold sample_table_bytes
  split <;> split <;> omega

theorem index_bytes_eq (hsmpl : mux.smpl ≠ []) :
    index_bytes mux =
      (if mux.is_hevc then 595 + mux.vvps.length else 570) + mux.vsps.length + mux.vpps.length +
        sample_table_bytes mux := by
  have hduration : stts_entries mux.smpl = (duration_runs mux).length := stts_entries_eq mux.smpl
  have hoffsets : chunk_offset_bytes mux.smpl =
      16 + (if is_64_bit mux then 8 else 4) * mux.smpl.length := by
    unfold chunk_offset_bytes ATOM_FULL
    dsimp only
    rw [← is_64_bit]
    omega
  have hsync : stss_bytes mux.smpl =
      if (sync_samples mux).length = mux.smpl.length then 0
      else 16 + 4 * (sync_samples mux).length := by
    unfold stss_bytes ATOM_FULL
    rw [length_sync_samples]
    by_cases hall : random_access_count mux.smpl = mux.smpl.length
    · rw [if_neg (not_not.mpr hall), if_pos hall]
    · rw [if_pos hall, if_neg hall]
      omega
  unfold index_bytes trak_bytes stbl_bytes stsd_bytes sample_table_bytes
  rw [if_neg hsmpl, hduration, hoffsets, hsync]
  cases mux.is_hevc with
  | false =>
    simp only [Bool.false_eq_true, if_false, ATOM, ATOM_FULL]
    omega
  | true =>
    simp only [if_true, ATOM, ATOM_FULL]
    omega

/-- What a file takes besides its data. -/
theorem index_bytes_le :
    index_bytes mux ≤
      607 + 24 * mux.smpl.length + mux.vvps.length + mux.vsps.length + mux.vpps.length := by
  by_cases hsmpl : mux.smpl = []
  · have hempty : index_bytes mux = 116 := by
      simp [index_bytes, trak_bytes, hsmpl, ATOM, ATOM_FULL]
    omega
  · have htables := sample_table_bytes_le mux
    rw [index_bytes_eq mux hsmpl]
    split <;> omega

theorem alloc_index_bytes_eq (hcount : mux.smpl.length * sizeof_sample_t * 32 < 2 ^ 32)
    (hsets : 768 + 32 * mux.smpl.length + mux.vsps.length + mux.vpps.length < 2 ^ 32) :
    alloc_index_bytes mux =
      768 + 32 * mux.smpl.length + mux.vsps.length + mux.vpps.length := by
  have hproduct : mux.smpl.length * sizeof_sample_t * (sizeof_sample_t + 4 + 4) % 2 ^ 32 =
      sizeof_sample_t * (32 * mux.smpl.length) := by
    unfold sizeof_sample_t at hcount ⊢
    omega
  unfold alloc_index_bytes FILE_HEADER_BYTES TRACK_HEADER_BYTES
  dsimp only
  rw [hproduct, Nat.mul_div_cancel_left _ (by decide), Nat.mod_eq_of_lt (by omega)]

/-- The index fits into the memory allocated for it, whatever the samples are,
except that the video parameter sets of an H.265 track are not counted: they
must fit into what the other estimates leave over. -/
theorem index_fits_iff (hcount : mux.smpl.length * sizeof_sample_t * 32 < 2 ^ 32)
    (hsets : 768 + 32 * mux.smpl.length + mux.vsps.length + mux.vpps.length < 2 ^ 32) :
    (index_atoms info mux).length ≤ alloc_index_bytes mux ↔
      (mux.smpl ≠ [] → mux.is_hevc = true →
        mux.vvps.length + sample_table_bytes mux ≤ 173 + 32 * mux.smpl.length) := by
  have htables := sample_table_bytes_le mux
  rw [length_index_atoms, alloc_index_bytes_eq mux hcount hsets]
  by_cases hsmpl : mux.smpl = []
  · simp only [index_bytes, trak_bytes, hsmpl, if_true, ATOM, ATOM_FULL, ne_eq, not_true_eq_false,
      false_implies, iff_true]
    omega
  · rw [index_bytes_eq mux hsmpl]
    cases mux.is_hevc with
    | false =>
      simp only [Bool.false_eq_true, if_false, false_implies, implies_true, iff_true]
      omega
    | true =>
      simp only [if_true, ne_eq, hsmpl, not_false_eq_true, true_implies]
      omega

/-- A track with samples whose index the assertion in `mp4e_flush_index` lets pass. -/
structure IndexFits (mux : MP4E_mux_t) : Prop where
  count : mux.smpl.length * sizeof_sample_t * 32 < 2 ^ 32
  sets : 768 + 32 * mux.smpl.length + mux.vsps.length + mux.vpps.length < 2 ^ 32
  vps : mux.is_hevc = true →
    mux.vvps.length + sample_table_bytes mux ≤ 173 + 32 * mux.smpl.length

variable {mux}

theorem IndexFits.length_index_le (h : IndexFits mux) (hsmpl : mux.smpl ≠ []) :
    (index_atoms info mux).length ≤ alloc_index_bytes mux := by
  have htables := sample_table_bytes_le mux
  have hvps := h.vps
  rw [length_index_atoms, alloc_index_bytes_eq mux h.count h.sets, index_bytes_eq mux hsmpl]
  cases hhevc : mux.is_hevc with
  | false =>
    rw [if_neg Bool.false_ne_true]
    omega
  | true =>
    have hroom := hvps hhevc
    rw [if_pos rfl]
    omega

/-- A track with a long video parameter set and one sample. -/
def long_set_mux : MP4E_mux_t :=
  { write_pos := 1000, is_hevc := true, smpl := [⟨900, 40, 3000, true⟩],
    vvps := 0 :: 200 :: List.replicate 200 0x40 }

theorem index_fits_iff_one :
    (index_atoms (h26x_track 1920 1080) long_set_mux).length ≤ alloc_index_bytes long_set_mux ↔
      (long_set_mux.smpl ≠ [] → long_set_mux.is_hevc = true →
        long_set_mux.vvps.length + sample_table_bytes long_set_mux ≤
          173 + 32 * long_set_mux.smpl.length) :=
  index_fits_iff _ _ (by decide +kernel) (by decide +kernel)

end

end amldigitalfpv.minimp4

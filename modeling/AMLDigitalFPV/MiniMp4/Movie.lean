import AMLDigitalFPV.Library.RunLength
import AMLDigitalFPV.MiniMp4.Index

namespace amldigitalfpv.minimp4

open big_endian sections run_length

def be2 (values : List Nat) : Bytes := values.flatMap (encode 2)

def be4 (values : List Nat) : Bytes := values.flatMap (encode 4)

def atom (x : BoxName) (fields : Bytes) (children : List Section) : Section :=
  .mk (encode 4 x.code) fields children

def atom_full (x : BoxName) (flag : Nat) (fields : Bytes) (children : List Section) : Section :=
  atom x (encode 4 flag ++ fields) children

def unity_matrix : List Nat := [0x00010000, 0, 0, 0, 0x00010000, 0, 0, 0, 0x40000000]

section

variable (info : MP4E_track_t) (mux : MP4E_mux_t)

def mvhd_box : Section :=
  atom_full .BOX_mvhd 0
    (be4 [0, 0, MOOV_TIMESCALE, moov_duration info (get_duration mux.smpl), 0x00010000] ++
      be2 [0x0100, 0] ++ be4 ([0, 0] ++ unity_matrix ++ [0, 0, 0, 0, 0, 0, 2])) []

def tkhd_box : Section :=
  atom_full .BOX_tkhd 7
    (be4 [0, 0, 1, 0, moov_duration info (get_duration mux.smpl), 0, 0] ++
      be2 [0, 0, 0x0100, 0] ++
      be4 (unity_matrix ++ [info.width * 0x10000, info.height * 0x10000])) []

def mdhd_box : Section :=
  atom_full .BOX_mdhd 0
    (be4 [0, 0, info.time_scale, get_duration mux.smpl] ++ be2 [lang_code info, 0]) []

def hdlr_box : Section :=
  atom_full .BOX_hdlr 0
    (be4 [0, MP4E_HANDLER_TYPE_VIDE, 0, 0, 0] ++ handler_ascii ++ [0]) []

def vmhd_box : Section := atom_full .BOX_vmhd 1 (be2 [0, 0, 0, 0]) []

def dinf_box : Section :=
  atom .BOX_dinf [] [atom_full .BOX_dref 0 (be4 [1]) [atom_full .BOX_url 1 [] []]]

def avcC_box : Section :=
  atom .BOX_avcC
    (encode 1 1 ++ encode 1 (mux.vsps.getD 3 0).toNat ++ encode 1 (mux.vsps.getD 4 0).toNat ++
      encode 1 (mux.vsps.getD 5 0).toNat ++ encode 1 255 ++
      encode 1 (0xe0 ||| items_count mux.vsps) ++ mux.vsps ++
      encode 1 (items_count mux.vpps) ++ mux.vpps) []

/-- An array of parameter sets behind its type and the number of its items. -/
def hvcC_array (nal_unit_type count : Nat) (items : Bytes) : Bytes :=
  encode 1 (2 ^ 7 ||| nal_unit_type) ++ encode 2 count ++ items

def hvcC_box : Section :=
  atom .BOX_hvcC
    (encode 1 1 ++ encode 1 1 ++ encode 4 0x60000000 ++ encode 2 0 ++ encode 4 0 ++ encode 1 0 ++
      encode 2 0xf000 ++ encode 1 0xfc ++ encode 1 0xfc ++ encode 1 0xf8 ++ encode 1 0xf8 ++
      encode 2 0 ++ encode 1 3 ++ encode 1 3 ++
      hvcC_array HEVC_NAL_VPS (items_count mux.vpps) mux.vvps ++
      hvcC_array HEVC_NAL_SPS (items_count mux.vsps) mux.vsps ++
      hvcC_array HEVC_NAL_PPS (items_count mux.vpps) mux.vpps) []

def visual_sample_entry : Bytes :=
  be2 [0, 0, 0, 1, 0, 0] ++ be4 [0, 0, 0] ++ be2 [info.width, info.height] ++
    be4 [0x00480000, 0x00480000, 0] ++ be2 [1] ++ List.replicate 32 0 ++ be2 [24, 0xffff]

def sample_entry_box : Section :=
  if mux.is_hevc then atom .BOX_hvc1 (visual_sample_entry info) [hvcC_box mux]
  else atom .BOX_avc1 (visual_sample_entry info) [avcC_box mux]

def stsd_box : Section := atom_full .BOX_stsd 0 (be4 [1]) [sample_entry_box info mux]

/-- The runs of equal durations. -/
def duration_runs : List (Nat × Nat) := runs (mux.smpl.map (·.duration))

def stts_box : Section :=
  atom_full .BOX_stts 0
    (be4 [(duration_runs mux).length] ++
      (duration_runs mux).flatMap fun run => be4 [run.1, run.2]) []

def stsc_box : Section := atom_full .BOX_stsc 0 (be4 [1, 1, 1, 1]) []

def stsz_box : Section :=
  atom_full .BOX_stsz 0 (be4 [0, mux.smpl.length] ++ be4 (mux.smpl.map (·.size))) []

def is_64_bit : Bool := mux.smpl.getLast?.any fun sample => sample.offset > 0xffffffff

def stco_box : Section :=
  if is_64_bit mux then
    atom_full .BOX_co64 0
      (be4 [mux.smpl.length] ++ mux.smpl.flatMap fun sample => encode 8 sample.offset) []
  else
    atom_full .BOX_stco 0 (be4 [mux.smpl.length] ++ be4 (mux.smpl.map (·.offset))) []

/-- The numbers of the random access points. -/
def sync_samples : List Nat :=
  (mux.smpl.zipIdx.filter (·.1.flag_random_access)).map (·.2 + 1)

def stss_boxes : List Section :=
  if (sync_samples mux).length = mux.smpl.length then []
  else [atom_full .BOX_stss 0 (be4 ((sync_samples mux).length :: sync_samples mux)) []]

def stbl_box : Section :=
  atom .BOX_stbl []
    ([stsd_box info mux, stts_box mux, stsc_box, stsz_box mux, stco_box mux] ++ stss_boxes mux)

def trak_box : Section :=
  atom .BOX_trak []
    [tkhd_box info mux,
      atom .BOX_mdia []
        [mdhd_box info mux, hdlr_box,
          atom .BOX_minf [] [vmhd_box, dinf_box, stbl_box info mux]]]

/-- The movie that the index describes. -/
def moov_box : Section :=
  atom .BOX_moov []
    (mvhd_box info mux :: if mux.smpl = [] then [] else [trak_box info mux])

end

namespace index_buffer

@[simp] theorem ATOM_eq (x : BoxName) (p : index_buffer) :
    p.ATOM x = Buffer.start (encode 4 x.code) p := rfl

@[simp] theorem ATOM_FULL_eq (x : BoxName) (flag : Nat) (p : index_buffer) :
    p.ATOM_FULL x flag = Buffer.emit (encode 4 flag) (Buffer.start (encode 4 x.code) p) := rfl

@[simp] theorem END_ATOM_eq (p : index_buffer) : p.END_ATOM = Buffer.finish p := rfl

@[simp] theorem WRITE_1_eq (x : Nat) (p : index_buffer) :
    p.WRITE_1 x = Buffer.emit (encode 1 x) p := rfl

@[simp] theorem WRITE_2_eq (x : Nat) (p : index_buffer) :
    p.WRITE_2 x = Buffer.emit (encode 2 x) p := rfl

@[simp] theorem WRITE_4_eq (x : Nat) (p : index_buffer) :
    p.WRITE_4 x = Buffer.emit (encode 4 x) p := rfl

theorem encode_byte (byte : UInt8) : encode 1 byte.toNat = [byte] := by
  simp [encode]

@[simp] theorem WRITE_bytes_eq (data : Bytes) (p : index_buffer) :
    p.WRITE_bytes data = Buffer.emit data p := by
  have hpieces : (data.flatMap fun byte => encode 1 byte.toNat) = data := by
    induction data with
    | nil => rfl
    | cons byte rest ih => rw [List.flatMap_cons, encode_byte, ih, List.singleton_append]
  unfold WRITE_bytes
  simp only [WRITE_1_eq, Buffer.foldl_emit, hpieces]

/-- A field that is filled in later. -/
theorem WR4_emit {old : Bytes} (hlength : old.length = 4) (x : Nat) (rest : Bytes)
    (p : index_buffer) :
    WR4 p.bytes.length x (Buffer.emit (old ++ rest) p) = Buffer.emit (encode 4 x ++ rest) p := by
  have hpatch : old.length = (encode 4 x).length := by rw [hlength, length_encode]
  have hpatched := overwrite_append hpatch p.bytes rest
  simp only [WR4, Buffer.emit, ← List.append_assoc, hpatched]

end index_buffer

@[simp] theorem be2_nil : be2 [] = [] := rfl

@[simp] theorem be2_cons (value : Nat) (rest : List Nat) :
    be2 (value :: rest) = encode 2 value ++ be2 rest := rfl

@[simp] theorem be4_nil : be4 [] = [] := rfl

@[simp] theorem be4_cons (value : Nat) (rest : List Nat) :
    be4 (value :: rest) = encode 4 value ++ be4 rest := rfl

section

variable (info : MP4E_track_t) (mux : MP4E_mux_t) (p : index_buffer)

theorem write_matrix_eq : write_matrix p = Buffer.emit (be4 unity_matrix) p := by
  simp [write_matrix, unity_matrix]

theorem write_mvhd_eq : write_mvhd info mux.smpl p = Buffer.emit (mvhd_box info mux).encode p := by
  simp [write_mvhd, mvhd_box, atom_full, atom, write_matrix_eq, unity_matrix]

theorem write_tkhd_eq : write_tkhd info mux.smpl p = Buffer.emit (tkhd_box info mux).encode p := by
  simp [write_tkhd, tkhd_box, atom_full, atom, write_matrix_eq, unity_matrix]

theorem write_mdhd_eq : write_mdhd info mux.smpl p = Buffer.emit (mdhd_box info mux).encode p := by
  simp [write_mdhd, mdhd_box, atom_full, atom]

theorem write_hdlr_eq : write_hdlr p = Buffer.emit hdlr_box.encode p := by
  simp [write_hdlr, hdlr_box, atom_full, atom]

theorem write_vmhd_eq : write_vmhd p = Buffer.emit vmhd_box.encode p := by
  simp [write_vmhd, vmhd_box, atom_full, atom]

theorem write_dinf_eq : write_dinf p = Buffer.emit dinf_box.encode p := by
  simp [write_dinf, dinf_box, atom_full, atom]

theorem write_visual_sample_entry_eq :
    write_visual_sample_entry info p = Buffer.emit (visual_sample_entry info) p := by
  have hname : (List.range 32).flatMap (fun _ => encode 1 0) = List.replicate 32 0 := by decide
  simp [write_visual_sample_entry, visual_sample_entry, Buffer.foldl_emit, hname]

theorem write_avcC_eq : write_avcC mux p = Buffer.emit (avcC_box mux).encode p := by
  simp [write_avcC, avcC_box, atom]

theorem write_hvcC_eq : write_hvcC mux p = Buffer.emit (hvcC_box mux).encode p := by
  simp [write_hvcC, hvcC_box, hvcC_array, atom]

theorem write_stsd_eq : write_stsd info mux p = Buffer.emit (stsd_box info mux).encode p := by
  unfold write_stsd stsd_box sample_entry_box
  dsimp only
  split
  · simp [write_visual_sample_entry_eq, write_hvcC_eq, atom_full, atom]
  · simp [write_visual_sample_entry_eq, write_avcC_eq, atom_full, atom]

/-- The runs that a loop writes when it begins within one. -/
def lengthen (cnt : Nat) : List (Nat × Nat) → List (Nat × Nat)
  | [] => []
  | run :: rest => (run.1 + cnt, run.2) :: rest

theorem head_runs (items : List Nat) : (runs items).head?.map (·.2) = items.head? := by
  cases items with
  | nil => rfl
  | cons item rest =>
    rw [runs]
    split
    · rfl
    · split
      · next heq => simp [heq]
      · rfl

/-- The loop of the time-to-sample box writes the runs of equal durations. -/
theorem write_stts_entries_eq (smpl : List sample_t) (cnt entry_count : Nat) (p : index_buffer) :
    write_stts_entries smpl (cnt + 1) entry_count p =
      (entry_count + (runs (smpl.map (·.duration))).length,
        Buffer.emit ((lengthen cnt (runs (smpl.map (·.duration)))).flatMap
          fun run => be4 [run.1, run.2]) p) := by
  induction smpl generalizing cnt entry_count p with
  | nil => simp [write_stts_entries, runs, lengthen]
  | cons sample rest ih =>
    have hhead := head_runs (rest.map (·.duration))
    rw [List.head?_map] at hhead
    rw [write_stts_entries, List.map_cons, runs]
    split
    · next hlast =>
      have hentries := ih 0 (entry_count + 1)
        (p |>.WRITE_4 (cnt + 1) |>.WRITE_4 sample.duration)
      rw [zero_add] at hentries
      rw [hentries]
      cases hruns : runs (rest.map (·.duration)) with
      | nil => simp [lengthen, Nat.add_comm]
      | cons run others =>
        rw [hruns] at hhead
        have hne : sample.duration ≠ run.2 := by
          intro heq
          apply hlast
          rw [← hhead, heq]
          rfl
        simp [lengthen, hne, Nat.add_comm, Nat.add_left_comm]
    · next hsame =>
      rw [not_not] at hsame
      rw [ih (cnt + 1) entry_count p]
      cases hruns : runs (rest.map (·.duration)) with
      | nil =>
        rw [hruns, hsame] at hhead
        cases hhead
      | cons run others =>
        rw [hruns, hsame] at hhead
        have heq : sample.duration = run.2 := (Option.some.inj hhead).symm
        simp [lengthen, heq, Nat.add_comm, Nat.add_left_comm]

theorem write_stts_eq : write_stts mux.smpl p = Buffer.emit (stts_box mux).encode p := by
  have hentries := write_stts_entries_eq mux.smpl 0 0
    ((p.ATOM_FULL .BOX_stts 0).WRITE_4 0)
  have hlengthen : lengthen 0 (duration_runs mux) = duration_runs mux := by
    cases duration_runs mux <;> rfl
  rw [zero_add, zero_add, index_buffer.WRITE_4_eq, Buffer.emit_emit] at hentries
  unfold write_stts
  dsimp only
  rw [index_buffer.WRITE_4_eq, hentries, ← duration_runs, hlengthen]
  dsimp only
  rw [index_buffer.WR4_emit (length_encode 4 0)]
  simp [stts_box, atom_full, atom]

theorem write_stsc_eq : write_stsc p = Buffer.emit stsc_box.encode p := by
  simp [write_stsc, stsc_box, atom_full, atom]

theorem write_stsz_eq : write_stsz mux.smpl p = Buffer.emit (stsz_box mux).encode p := by
  simp [write_stsz, stsz_box, atom_full, atom, Buffer.foldl_emit, be4, List.flatMap_map]

theorem write_chunk_offsets_eq :
    write_chunk_offsets mux.smpl p = Buffer.emit (stco_box mux).encode p := by
  have hoffset (offset : Nat) :
      encode 4 (offset / 4294967296) ++ encode 4 offset = encode 8 offset :=
    (encode_add 4 4 offset).symm
  unfold write_chunk_offsets stco_box
  change (if ¬ is_64_bit mux then _ else _) = _
  cases is_64_bit mux with
  | false => simp [atom_full, atom, Buffer.foldl_emit, be4, List.flatMap_map]
  | true => simp [atom_full, atom, Buffer.foldl_emit, hoffset]

theorem length_sync_samples : (sync_samples mux).length = random_access_count mux.smpl := by
  have hitems : (mux.smpl.zipIdx.map Prod.fst).filter (·.flag_random_access) =
      (mux.smpl.zipIdx.filter (·.1.flag_random_access)).map Prod.fst := List.filter_map
  rw [List.zipIdx_map_fst] at hitems
  unfold random_access_count sync_samples
  rw [hitems, List.length_map, List.length_map]

theorem write_stss_eq :
    write_stss mux.smpl p = Buffer.emit (encode_all (stss_boxes mux)) p := by
  have hloop (entries : List (sample_t × Nat)) (p : index_buffer) :
      entries.foldl
          (fun p entry => if entry.1.flag_random_access then p.WRITE_4 (entry.2 + 1) else p) p =
        Buffer.emit (be4 ((entries.filter (·.1.flag_random_access)).map (·.2 + 1))) p := by
    induction entries generalizing p with
    | nil => simp
    | cons entry rest ih =>
      rw [List.foldl_cons, ih, List.filter_cons]
      split
      · simp
      · rfl
  unfold write_stss stss_boxes
  rw [length_sync_samples]
  by_cases hall : random_access_count mux.smpl = mux.smpl.length
  · rw [if_neg (not_not.mpr hall), if_pos hall, encode_all_nil, Buffer.emit_nil]
  · rw [if_pos hall, if_neg hall]
    dsimp only
    rw [hloop, ← sync_samples]
    simp [atom_full, atom]

theorem write_stbl_eq : write_stbl info mux p = Buffer.emit (stbl_box info mux).encode p := by
  simp [write_stbl, stbl_box, atom, write_stsd_eq, write_stts_eq, write_stsc_eq, write_stsz_eq,
    write_chunk_offsets_eq, write_stss_eq]

theorem write_trak_eq : write_trak info mux p = Buffer.emit (trak_box info mux).encode p := by
  simp [write_trak, trak_box, atom, write_tkhd_eq, write_mdhd_eq, write_hdlr_eq, write_vmhd_eq,
    write_dinf_eq, write_stbl_eq]

theorem write_moov_eq : write_moov info mux p = Buffer.emit (moov_box info mux).encode p := by
  unfold write_moov moov_box
  dsimp only
  split
  · simp [write_mvhd_eq, atom]
  · simp [write_mvhd_eq, write_trak_eq, atom]

theorem index_atoms_eq : index_atoms info mux = (moov_box info mux).encode := by
  unfold index_atoms
  rw [write_moov_eq]
  rfl

end

end amldigitalfpv.minimp4

import AMLDigitalFPV.MiniMp4.Index

namespace amldigitalfpv.minimp4

open big_endian

def box_ftyp : Bytes :=
  [0, 0, 0, 0x18] ++
    (['f', 't', 'y', 'p', 'm', 'p', '4', '2'].map fun c => UInt8.ofNat c.toNat) ++ [0, 0, 0, 0] ++
    (['m', 'p', '4', '2', 'i', 's', 'o', 'm'].map fun c => UInt8.ofNat c.toNat)

/-- What the muxer calls, with the data that it writes:
`write_callback offset buffer` and the allocator. -/
structure DataCalls (σ : Type) where
  write_callback : Nat → Bytes → σ → Int × σ
  malloc : σ → Bool × σ

namespace DataCalls

variable {σ : Type} (calls : DataCalls σ)

/-- The allocator alone, for the functions that write nothing. -/
def allocator : Calls σ :=
  { write_callback := fun _ _ s => (0, s)
    malloc := calls.malloc }

def write_sample (data : Bytes) (mux : MP4E_mux_t) (s : σ) : Int × MP4E_mux_t × σ :=
  let reply := calls.write_callback mux.write_pos data s
  if reply.1 ≠ 0 then
    (reply.1, mux, reply.2)
  else
    (MP4E_STATUS_OK, { mux with write_pos := mux.write_pos + data.length }, reply.2)

def MP4E_put_sample (data : Bytes) (duration : Nat) (kind : SampleKind) (mux : MP4E_mux_t) (s : σ) :
    Int × MP4E_mux_t × σ :=
  let indexed := index_sample calls.allocator data.length duration kind mux s
  if indexed.1 ≠ MP4E_STATUS_OK then
    indexed
  else
    calls.write_sample data indexed.2.1 indexed.2.2

/-- A sample of the NAL unit behind its length. -/
def put_nal (nal : Bytes) (duration : Nat) (kind : SampleKind) (h : mp4_h26x_writer_t) (s : σ) :
    Int × mp4_h26x_writer_t × σ :=
  let tmp := calls.malloc s
  if ¬ tmp.1 then
    (MP4E_STATUS_NO_MEMORY, h, tmp.2)
  else
    let data := encode 4 nal.length ++ nal
    let put := calls.MP4E_put_sample data duration kind h.mux tmp.2
    (put.1, { h with mux := put.2.1 }, put.2.2)

def mp4_h265_write_nal (nal : Bytes) (duration : Nat) (h : mp4_h26x_writer_t) (s : σ) :
    Int × mp4_h26x_writer_t × σ :=
  let payload_type := (nal.getD 0 0).toNat / 2 % 64
  let is_intra : Bool := HEVC_NAL_BLA_W_LP ≤ payload_type ∧ payload_type ≤ HEVC_NAL_CRA_NUT
  let h := h.see_slice is_intra
  if payload_type = HEVC_NAL_VPS then
    let set := MP4E_set_vps calls.allocator nal h.mux s
    (MP4E_STATUS_OK, { h with mux := set.2.1, need_vps := false }, set.2.2)
  else if payload_type = HEVC_NAL_SPS then
    let set := MP4E_set_sps calls.allocator nal h.mux s
    (MP4E_STATUS_OK, { h with mux := set.2.1, need_sps := false }, set.2.2)
  else if payload_type = HEVC_NAL_PPS then
    let set := MP4E_set_pps calls.allocator nal h.mux s
    (MP4E_STATUS_OK, { h with mux := set.2.1, need_pps := false }, set.2.2)
  else if h.need_vps ∨ h.need_sps ∨ h.need_pps ∨ h.need_idr then
    (MP4E_STATUS_BAD_ARGUMENTS, h, s)
  else
    calls.put_nal nal duration (if is_intra then .RANDOM_ACCESS else .DEFAULT) h s

/-- The slices of an H.264 frame, `IDR` units included. -/
def mp4_h264_write_slice (nal : Bytes) (payload_type duration : Nat) (h : mp4_h26x_writer_t)
    (s : σ) : Int × mp4_h26x_writer_t × σ :=
  if h.need_sps then
    (MP4E_STATUS_BAD_ARGUMENTS, h, s)
  else
    let h := { h with need_idr := h.need_idr && payload_type ≠ 5 }
    if ¬ h.need_pps ∧ ¬ h.need_idr then
      let first_mb_in_slice := ue_bits (nal.drop 1)
      let sample_kind : SampleKind :=
        if first_mb_in_slice ≠ 0 then .CONTINUATION
        else if payload_type = 5 then .RANDOM_ACCESS
        else .DEFAULT
      calls.put_nal nal duration sample_kind h s
    else
      (MP4E_STATUS_OK, h, s)

/-- The body of the loop of `mp4_h26x_write_nal` for H.264. -/
def mp4_h264_write_nal (nal : Bytes) (duration : Nat) (h : mp4_h26x_writer_t) (s : σ) :
    Int × mp4_h26x_writer_t × σ :=
  let payload_type := (nal.getD 0 0).toNat % 32
  if payload_type = 9 then
    (MP4E_STATUS_OK, h, s) -- access unit delimiter, nothing to be done
  else if payload_type = 7 then
    let set := MP4E_set_sps calls.allocator nal h.mux s
    (MP4E_STATUS_OK, { h with mux := set.2.1, need_sps := false }, set.2.2)
  else if payload_type = 8 then
    let set := MP4E_set_pps calls.allocator nal h.mux s
    (MP4E_STATUS_OK, { h with mux := set.2.1, need_pps := false }, set.2.2)
  else
    calls.mp4_h264_write_slice nal payload_type duration h s

/-- The loop of `mp4_h26x_write_nal` over the NAL units of a frame. -/
def write_nal_units (duration : Nat) : List Bytes → mp4_h26x_writer_t → σ →
    Int × mp4_h26x_writer_t × σ
  | [], h, s => (MP4E_STATUS_OK, h, s)
  | nal :: rest, h, s =>
    let written :=
      if h.is_hevc then calls.mp4_h265_write_nal nal duration h s
      else calls.mp4_h264_write_nal nal duration h s
    if written.1 ≠ MP4E_STATUS_OK then
      written
    else
      write_nal_units duration rest written.2.1 written.2.2

def mp4_h26x_write_nal (nal : Bytes) (timeStamp90kHz_next : Nat) (h : mp4_h26x_writer_t) (s : σ) :
    Int × mp4_h26x_writer_t × σ :=
  calls.write_nal_units timeStamp90kHz_next (nal_units nal) h s

/-- Frames one after the other, each with its duration. -/
def write_frames (frames : List (Bytes × Nat)) (h : mp4_h26x_writer_t) (s : σ) :
    mp4_h26x_writer_t × σ :=
  frames.foldl (fun state frame => (calls.mp4_h26x_write_nal frame.1 frame.2 state.1 state.2).2)
    (h, s)

/-- Opening writes the `ftyp` box and room for the header of the `mdat` box. -/
def MP4E_open (s : σ) : Bool × σ :=
  let ftyp := calls.write_callback 0 box_ftyp s
  if ftyp.1 ≠ 0 then
    (false, ftyp.2)
  else
    let memory := calls.malloc ftyp.2
    if ¬ memory.1 then
      (false, memory.2)
    else
      let filler := calls.write_callback 24 (box_ftyp.take 8) memory.2
      if filler.1 ≠ 0 then (false, filler.2) else (true, filler.2)

/-- Patches the header of the `mdat` box and appends the index. The memory for the
index is as large as `alloc_index_bytes` says, which the source asserts to suffice
once the index is written there. -/
def mp4e_flush_index (info : MP4E_track_t) (mux : MP4E_mux_t) (s : σ) : Int × σ :=
  let memory := calls.malloc s
  if ¬ memory.1 then
    (MP4E_STATUS_NO_MEMORY, memory.2)
  else
    let header := calls.write_callback 24 (mdat_header mux.write_pos) memory.2
    if header.1 ≠ 0 then
      header
    else
      calls.write_callback mux.write_pos (index_atoms info mux) header.2

def MP4E_close (info : MP4E_track_t) (mux : MP4E_mux_t) (s : σ) : Int × σ :=
  calls.mp4e_flush_index info mux s

end DataCalls

end amldigitalfpv.minimp4

import AMLDigitalFPV.MiniMp4.H26x

namespace amldigitalfpv.minimp4

/-- In the states that are ready every call of the write callback succeeds and
makes the file as long as the bytes written require. -/
structure Extends {σ : Type} (calls : Calls σ) (Ready : σ → Prop) (length : σ → Nat) : Prop where
  write_ok : ∀ offset size s, Ready s → (calls.write_callback offset size s).1 = 0
  write_ready : ∀ offset size s, Ready s → Ready (calls.write_callback offset size s).2
  write_length : ∀ offset size s, Ready s → 0 < size →
    length (calls.write_callback offset size s).2 = max (length s) (offset + size)
  malloc_ready : ∀ s, Ready s → Ready (calls.malloc s).2
  malloc_length : ∀ s, Ready s → length (calls.malloc s).2 = length s

/-- The file reaches no further than the muxer's write position, and the
header of the `mdat` box lies before it. -/
structure Within {σ : Type} (Ready : σ → Prop) (length : σ → Nat) (mux : MP4E_mux_t) (s : σ) :
    Prop where
  ready : Ready s
  length_le : length s ≤ mux.write_pos
  header_le : 40 ≤ mux.write_pos

theorem index_bytes_pos (mux : MP4E_mux_t) : 0 < index_bytes mux := by
  unfold index_bytes ATOM
  omega

section

variable {σ : Type} {calls : Calls σ} {Ready : σ → Prop} {length : σ → Nat}
  (hcalls : Extends calls Ready length) {mux : MP4E_mux_t} {s : σ}
include hcalls

theorem Within.malloc (h : Within Ready length mux s) :
    Within Ready length mux (calls.malloc s).2 := by
  refine ⟨hcalls.malloc_ready s h.ready, ?_, h.header_le⟩
  rw [hcalls.malloc_length s h.ready]
  exact h.length_le

omit hcalls in
theorem Within.of_write_pos {mux' : MP4E_mux_t} (h : Within Ready length mux s)
    (hpos : mux'.write_pos = mux.write_pos) : Within Ready length mux' s :=
  ⟨h.ready, hpos ▸ h.length_le, hpos ▸ h.header_le⟩

theorem Within.append_mem (h : Within Ready length mux s) (mem v : Bytes) :
    Within Ready length mux (append_mem calls mem v s).2.2 := by
  have hsize := h.malloc hcalls
  unfold minimp4.append_mem
  dsimp only
  split
  · exact h
  · split
    · exact hsize
    · split
      · exact hsize.malloc hcalls
      · exact hsize.malloc hcalls

theorem Within.index_sample (h : Within Ready length mux s) (data_bytes duration : Nat)
    (kind : SampleKind) :
    Within Ready length (index_sample calls data_bytes duration kind mux s).2.1
      (index_sample calls data_bytes duration kind mux s).2.2 := by
  have hmalloc := h.malloc hcalls
  unfold minimp4.index_sample
  dsimp only
  split
  · split
    · exact hmalloc.of_write_pos rfl
    · exact hmalloc
  · split
    · exact h
    · exact h.of_write_pos rfl

theorem Within.write_sample (h : Within Ready length mux s) {data_bytes : Nat}
    (hpositive : 0 < data_bytes) :
    Within Ready length (write_sample calls data_bytes mux s).2.1
      (write_sample calls data_bytes mux s).2.2 := by
  have hlength := h.length_le
  have hheader := h.header_le
  unfold minimp4.write_sample
  dsimp only
  rw [if_neg (not_not.mpr (hcalls.write_ok _ _ _ h.ready))]
  refine ⟨hcalls.write_ready _ _ _ h.ready, ?_, ?_⟩
  · rw [hcalls.write_length _ _ _ h.ready hpositive]
    dsimp only
    omega
  · dsimp only
    omega

theorem Within.put_sample (h : Within Ready length mux s) {data_bytes : Nat}
    (hpositive : 0 < data_bytes) (duration : Nat) (kind : SampleKind) :
    Within Ready length (MP4E_put_sample calls data_bytes duration kind mux s).2.1
      (MP4E_put_sample calls data_bytes duration kind mux s).2.2 := by
  have hindexed := h.index_sample hcalls data_bytes duration kind
  unfold MP4E_put_sample
  dsimp only
  split
  · exact hindexed
  · exact hindexed.write_sample hcalls hpositive

variable {writer : mp4_h26x_writer_t}

theorem Within.put_nal (h : Within Ready length writer.mux s) (nal : Bytes) (duration : Nat)
    (kind : SampleKind) :
    Within Ready length (put_nal calls nal duration kind writer s).2.1.mux
      (put_nal calls nal duration kind writer s).2.2 := by
  have hmalloc := h.malloc hcalls
  unfold minimp4.put_nal
  dsimp only
  split
  · exact hmalloc
  · exact hmalloc.put_sample hcalls (by omega) duration kind

theorem Within.h265_write_nal (h : Within Ready length writer.mux s) (nal : Bytes)
    (duration : Nat) :
    Within Ready length (mp4_h265_write_nal calls nal duration writer s).2.1.mux
      (mp4_h265_write_nal calls nal duration writer s).2.2 := by
  unfold mp4_h265_write_nal
  dsimp only
  generalize hslice : writer.see_slice _ = sliced
  have hmux : sliced.mux = writer.mux := by
    rw [← hslice, mp4_h26x_writer_t.see_slice]
    split <;> rfl
  rw [← hmux] at h
  split
  · exact (h.append_mem hcalls nal sliced.mux.vvps).of_write_pos rfl
  · split
    · exact (h.append_mem hcalls nal sliced.mux.vsps).of_write_pos rfl
    · split
      · exact (h.append_mem hcalls nal sliced.mux.vpps).of_write_pos rfl
      · split
        · exact h
        · exact h.put_nal hcalls nal duration _

theorem Within.h264_write_nal (h : Within Ready length writer.mux s) (nal : Bytes)
    (duration : Nat) :
    Within Ready length (mp4_h264_write_nal calls nal duration writer s).2.1.mux
      (mp4_h264_write_nal calls nal duration writer s).2.2 := by
  unfold mp4_h264_write_nal
  dsimp only
  split
  · exact h
  · split
    · exact (h.append_mem hcalls nal writer.mux.vsps).of_write_pos rfl
    · split
      · exact (h.append_mem hcalls nal writer.mux.vpps).of_write_pos rfl
      · unfold mp4_h264_write_slice
        split
        · exact h
        · dsimp only
          split
          · refine Within.put_nal hcalls ?_ nal duration _
            exact h
          · exact h

/-- Writing a frame, whatever NAL units it is made of, keeps the file within
the write position. -/
theorem Within.h26x_write_nal (h : Within Ready length writer.mux s) (nal : Bytes)
    (timeStamp90kHz_next : Nat) :
    Within Ready length (mp4_h26x_write_nal calls nal timeStamp90kHz_next writer s).2.1.mux
      (mp4_h26x_write_nal calls nal timeStamp90kHz_next writer s).2.2 := by
  unfold mp4_h26x_write_nal
  induction nal_units nal generalizing writer s with
  | nil => exact h
  | cons unit rest ih =>
    have hwritten : Within Ready length
        (if writer.is_hevc then mp4_h265_write_nal calls unit timeStamp90kHz_next writer s
          else mp4_h264_write_nal calls unit timeStamp90kHz_next writer s).2.1.mux
        (if writer.is_hevc then mp4_h265_write_nal calls unit timeStamp90kHz_next writer s
          else mp4_h264_write_nal calls unit timeStamp90kHz_next writer s).2.2 := by
      split
      · exact h.h265_write_nal hcalls unit timeStamp90kHz_next
      · exact h.h264_write_nal hcalls unit timeStamp90kHz_next
    unfold write_nal_units
    generalize (if writer.is_hevc then mp4_h265_write_nal calls unit timeStamp90kHz_next writer s
      else mp4_h264_write_nal calls unit timeStamp90kHz_next writer s) = written at hwritten
    dsimp only
    split
    · exact hwritten
    · exact ih hwritten

/-- Opening leaves the file within the write position of a new muxer. -/
theorem Within.open (hready : Ready s) (hempty : length s = 0) :
    Within Ready length opened_mux (MP4E_open calls s).2 := by
  have hftyp : Within Ready length opened_mux (calls.write_callback 0 24 s).2 := by
    refine ⟨hcalls.write_ready 0 24 s hready, ?_, le_refl _⟩
    rw [hcalls.write_length 0 24 s hready (by omega), hempty]
    decide
  have hmemory := hftyp.malloc hcalls
  unfold MP4E_open
  dsimp only
  rw [if_neg (not_not.mpr (hcalls.write_ok 0 24 s hready))]
  split
  · exact hmemory
  · have hfiller : Within Ready length opened_mux
        (calls.write_callback 24 8 (calls.malloc (calls.write_callback 0 24 s).2).2).2 := by
      have hlength := hmemory.length_le
      have hlimit : opened_mux.write_pos = 40 := rfl
      refine ⟨hcalls.write_ready 24 8 _ hmemory.ready, ?_, le_refl _⟩
      rw [hcalls.write_length 24 8 _ hmemory.ready (by omega)]
      omega
    split
    · exact hfiller
    · exact hfiller

/-- With memory at hand opening succeeds. -/
theorem open_ok (hmalloc : ∀ s, (calls.malloc s).1 = true) (hready : Ready s) :
    (MP4E_open calls s).1 = true := by
  have hftyp := hcalls.write_ready 0 24 s hready
  unfold MP4E_open
  dsimp only
  rw [if_neg (not_not.mpr (hcalls.write_ok 0 24 s hready)),
    if_neg (not_not.mpr (hmalloc _)),
    if_neg (not_not.mpr (hcalls.write_ok 24 8 _ (hcalls.malloc_ready _ hftyp)))]

/-- Closing makes the file at most as long as the write position and the index
require. -/
theorem Within.close (h : Within Ready length mux s) :
    Ready (MP4E_close calls mux s).2 ∧
      length (MP4E_close calls mux s).2 ≤ mux.write_pos + index_bytes mux := by
  have hmemory := h.malloc hcalls
  have hlength := hmemory.length_le
  have hheader := hmemory.header_le
  have hready := hcalls.write_ready 24 16 _ hmemory.ready
  unfold MP4E_close mp4e_flush_index
  dsimp only
  split
  · exact ⟨hmemory.ready, hlength.trans (Nat.le_add_right _ _)⟩
  · rw [if_neg (not_not.mpr (hcalls.write_ok 24 16 _ hmemory.ready))]
    refine ⟨hcalls.write_ready _ _ _ hready, ?_⟩
    rw [hcalls.write_length _ _ _ hready (index_bytes_pos mux),
      hcalls.write_length 24 16 _ hmemory.ready (by omega)]
    omega

/-- With memory at hand it is exactly that long. -/
theorem Within.close_length (h : Within Ready length mux s)
    (hmalloc : ∀ s, (calls.malloc s).1 = true) :
    length (MP4E_close calls mux s).2 = mux.write_pos + index_bytes mux := by
  have hmemory := h.malloc hcalls
  have hlength := hmemory.length_le
  have hheader := hmemory.header_le
  have hready := hcalls.write_ready 24 16 _ hmemory.ready
  unfold MP4E_close mp4e_flush_index
  dsimp only
  rw [if_neg (not_not.mpr (hmalloc s)),
    if_neg (not_not.mpr (hcalls.write_ok 24 16 _ hmemory.ready)),
    hcalls.write_length _ _ _ hready (index_bytes_pos mux),
    hcalls.write_length 24 16 _ hmemory.ready (by omega)]
  omega

end

/-- The index has a size and an offset entry for every sample. -/
theorem index_bytes_ge (mux : MP4E_mux_t) : 8 * mux.smpl.length ≤ index_bytes mux := by
  cases hsmpl : mux.smpl with
  | nil => simp
  | cons sample samples =>
    have hoffsets : 4 * mux.smpl.length ≤ chunk_offset_bytes mux.smpl := by
      unfold chunk_offset_bytes ATOM_FULL
      dsimp only
      split <;> omega
    have htrak : trak_bytes mux ≥ stbl_bytes mux := by
      unfold trak_bytes ATOM ATOM_FULL
      rw [if_neg (by simp [hsmpl])]
      omega
    have hstbl : stbl_bytes mux ≥ 4 * mux.smpl.length + chunk_offset_bytes mux.smpl := by
      unfold stbl_bytes ATOM ATOM_FULL
      omega
    rw [← hsmpl]
    unfold index_bytes ATOM ATOM_FULL
    omega

end amldigitalfpv.minimp4

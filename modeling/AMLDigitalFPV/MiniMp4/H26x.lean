import AMLDigitalFPV.MiniMp4.Mux

namespace amldigitalfpv.minimp4

def HEVC_NAL_VPS : Nat := 32
def HEVC_NAL_SPS : Nat := 33
def HEVC_NAL_PPS : Nat := 34
def HEVC_NAL_BLA_W_LP : Nat := 16
def HEVC_NAL_CRA_NUT : Nat := 21

/-- The writer with the multiplexer it writes to. -/
structure mp4_h26x_writer_t where
  mux : MP4E_mux_t
  is_hevc : Bool
  need_vps : Bool
  need_sps : Bool
  need_pps : Bool
  need_idr : Bool
deriving DecidableEq, Repr

def mp4_h26x_write_init (mux : MP4E_mux_t) (is_hevc : Bool) : mp4_h26x_writer_t :=
  { mux := { mux with is_hevc := is_hevc }
    is_hevc := is_hevc
    need_vps := is_hevc
    need_sps := true
    need_pps := true
    need_idr := true }

/-- The writer with its flags cleared. -/
def mp4_h26x_write_close (h : mp4_h26x_writer_t) : mp4_h26x_writer_t :=
  { mux := h.mux
    is_hevc := false
    need_vps := false
    need_sps := false
    need_pps := false
    need_idr := false }

/-- With every parameter set at hand, an intra slice ends the wait for a key
frame. -/
def mp4_h26x_writer_t.see_slice (is_intra : Bool) (h : mp4_h26x_writer_t) : mp4_h26x_writer_t :=
  if is_intra ∧ ¬ h.need_sps ∧ ¬ h.need_pps ∧ ¬ h.need_vps then
    { h with need_idr := false }
  else
    h

section

variable {σ : Type} (calls : Calls σ)

/-- A sample of the NAL unit behind its length. -/
def put_nal (nal : Bytes) (duration : Nat) (kind : SampleKind) (h : mp4_h26x_writer_t) (s : σ) :
    Int × mp4_h26x_writer_t × σ :=
  let tmp := calls.malloc s
  if ¬ tmp.1 then
    (MP4E_STATUS_NO_MEMORY, h, tmp.2)
  else
    let put := MP4E_put_sample calls (4 + nal.length) duration kind h.mux tmp.2
    (put.1, { h with mux := put.2.1 }, put.2.2)

def mp4_h265_write_nal (nal : Bytes) (duration : Nat) (h : mp4_h26x_writer_t) (s : σ) :
    Int × mp4_h26x_writer_t × σ :=
  let payload_type := (nal.getD 0 0).toNat / 2 % 64
  let is_intra : Bool := HEVC_NAL_BLA_W_LP ≤ payload_type ∧ payload_type ≤ HEVC_NAL_CRA_NUT
  let h := h.see_slice is_intra
  if payload_type = HEVC_NAL_VPS then
    let set := MP4E_set_vps calls nal h.mux s
    (MP4E_STATUS_OK, { h with mux := set.2.1, need_vps := false }, set.2.2)
  else if payload_type = HEVC_NAL_SPS then
    let set := MP4E_set_sps calls nal h.mux s
    (MP4E_STATUS_OK, { h with mux := set.2.1, need_sps := false }, set.2.2)
  else if payload_type = HEVC_NAL_PPS then
    let set := MP4E_set_pps calls nal h.mux s
    (MP4E_STATUS_OK, { h with mux := set.2.1, need_pps := false }, set.2.2)
  else if h.need_vps ∨ h.need_sps ∨ h.need_pps ∨ h.need_idr then
    (MP4E_STATUS_BAD_ARGUMENTS, h, s)
  else
    put_nal calls nal duration (if is_intra then .RANDOM_ACCESS else .DEFAULT) h s

/-- The slices of an H.264 frame, `IDR` units included. -/
def mp4_h264_write_slice (nal : Bytes) (payload_type duration : Nat) (h : mp4_h26x_writer_t)
    (s : σ) : Int × mp4_h26x_writer_t × σ :=
  if h.need_sps then
    (MP4E_STATUS_BAD_ARGUMENTS, h, s)
  else
    let h := { h with need_idr := h.need_idr && payload_type ≠ 5 }
    if ¬ h.need_pps ∧ ¬ h.need_idr then
      let first_mb_in_slice := ue_bits (nal.drop 1)
      let sample_kind : SampleKind :=
        if first_mb_in_slice ≠ 0 then .CONTINUATION
        else if payload_type = 5 then .RANDOM_ACCESS
        else .DEFAULT
      put_nal calls nal duration sample_kind h s
    else
      (MP4E_STATUS_OK, h, s)

/-- The body of the loop of `mp4_h26x_write_nal` for H.264. -/
def mp4_h264_write_nal (nal : Bytes) (duration : Nat) (h : mp4_h26x_writer_t) (s : σ) :
    Int × mp4_h26x_writer_t × σ :=
  let payload_type := (nal.getD 0 0).toNat % 32
  if payload_type = 9 then
    (MP4E_STATUS_OK, h, s) -- access unit delimiter, nothing to be done
  else if payload_type = 7 then
    let set := MP4E_set_sps calls nal h.mux s
    (MP4E_STATUS_OK, { h with mux := set.2.1, need_sps := false }, set.2.2)
  else if payload_type = 8 then
    let set := MP4E_set_pps calls nal h.mux s
    (MP4E_STATUS_OK, { h with mux := set.2.1, need_pps := false }, set.2.2)
  else
    mp4_h264_write_slice calls nal payload_type duration h s

/-- The loop of `mp4_h26x_write_nal` over the NAL units of a frame. -/
def write_nal_units (duration : Nat) : List Bytes → mp4_h26x_writer_t → σ →
    Int × mp4_h26x_writer_t × σ
  | [], h, s => (MP4E_STATUS_OK, h, s)
  | nal :: rest, h, s =>
    let written :=
      if h.is_hevc then mp4_h265_write_nal calls nal duration h s
      else mp4_h264_write_nal calls nal duration h s
    if written.1 ≠ MP4E_STATUS_OK then
      written
    else
      write_nal_units duration rest written.2.1 written.2.2

def mp4_h26x_write_nal (nal : Bytes) (timeStamp90kHz_next : Nat) (h : mp4_h26x_writer_t) (s : σ) :
    Int × mp4_h26x_writer_t × σ :=
  write_nal_units calls timeStamp90kHz_next (nal_units nal) h s

end

/-- Once the parameter sets and a key frame have been seen, a slice that is not
intra coded becomes a sample. -/
theorem mp4_h265_write_slice {σ : Type} (calls : Calls σ) {nal : Bytes} {h : mp4_h26x_writer_t}
    (htype : (nal.getD 0 0).toNat / 2 % 64 < HEVC_NAL_BLA_W_LP)
    (hseen : h.need_vps = false ∧ h.need_sps = false ∧ h.need_pps = false ∧ h.need_idr = false)
    (duration : Nat) (s : σ) :
    mp4_h265_write_nal calls nal duration h s = put_nal calls nal duration .DEFAULT h s := by
  obtain ⟨hvps, hsps, hpps, hidr⟩ := hseen
  unfold mp4_h265_write_nal
  generalize (nal.getD 0 0).toNat / 2 % 64 = payload_type at htype
  have hintra : decide (HEVC_NAL_BLA_W_LP ≤ payload_type ∧ payload_type ≤ HEVC_NAL_CRA_NUT) =
      false := decide_eq_false fun hintra => absurd hintra.1 (Nat.not_le.mpr htype)
  have hslice : h.see_slice false = h := if_neg fun hand => Bool.noConfusion hand.1
  simp only [HEVC_NAL_BLA_W_LP, HEVC_NAL_CRA_NUT] at htype hintra
  simp only [HEVC_NAL_VPS, HEVC_NAL_SPS, HEVC_NAL_PPS, HEVC_NAL_BLA_W_LP, HEVC_NAL_CRA_NUT,
    hintra, hslice, hvps, hsps, hpps, hidr]
  rw [if_neg (by omega), if_neg (by omega), if_neg (by omega)]
  simp

theorem write_nal_units_single {σ : Type} (calls : Calls σ) {h : mp4_h26x_writer_t}
    (hevc : h.is_hevc = true) (duration : Nat) (nal : Bytes) (s : σ) :
    write_nal_units calls duration [nal] h s = mp4_h265_write_nal calls nal duration h s := by
  simp only [write_nal_units, hevc, if_true]
  generalize mp4_h265_write_nal calls nal duration h s = written
  split
  · rfl
  · next hok => rw [← not_not.mp hok]

/-- A sample that is taken in full. -/
theorem put_nal_of_accepted {σ : Type} {calls : Calls σ} {h : mp4_h26x_writer_t} {nal : Bytes}
    {s s' : σ} (hmalloc : ∀ s, calls.malloc s = (true, s))
    (haccepted : calls.write_callback h.mux.write_pos (4 + nal.length) s = (0, s'))
    (duration : Nat) :
    put_nal calls nal duration .DEFAULT h s =
      (MP4E_STATUS_OK,
        { h with
          mux :=
            { h.mux with
              smpl := h.mux.smpl ++ [⟨4 + nal.length, h.mux.write_pos, duration, false⟩]
              write_pos := h.mux.write_pos + (4 + nal.length) } }, s') := by
  simp [put_nal, hmalloc, MP4E_put_sample, index_sample, write_sample, haccepted]

section Errors

variable {σ : Type} {calls : Calls σ}

/-- No call of the write callback has failed so far, as `Clean` says, and a
call that fails leaves a state that says so together with the value returned. -/
structure TracksErrors (calls : Calls σ) (Clean : σ → Prop) (Failed : Int → σ → Prop) : Prop where
  write_ok : ∀ offset size s, Clean s → (calls.write_callback offset size s).1 = 0 →
    Clean (calls.write_callback offset size s).2
  write_failed : ∀ offset size s, Clean s → (calls.write_callback offset size s).1 ≠ 0 →
    Failed (calls.write_callback offset size s).1 (calls.write_callback offset size s).2
  malloc : ∀ s, Clean s → Clean (calls.malloc s).2

/-- Either no callback call has failed, or the status is the value that the
failing call returned. -/
def HandsBack (Clean : σ → Prop) (Failed : Int → σ → Prop) (res : Int) (s : σ) : Prop :=
  Clean s ∨ Failed res s

variable {Clean : σ → Prop} {Failed : Int → σ → Prop}

theorem TracksErrors.append_mem (htracks : TracksErrors calls Clean Failed) {s : σ}
    (hclean : Clean s) (mem v : Bytes) : Clean (append_mem calls mem v s).2.2 := by
  unfold minimp4.append_mem
  split
  · exact hclean
  · dsimp only
    have hsize := htracks.malloc s hclean
    split
    · exact hsize
    · split
      · exact htracks.malloc _ hsize
      · exact htracks.malloc _ hsize

theorem TracksErrors.index_sample (htracks : TracksErrors calls Clean Failed) {s : σ}
    (hclean : Clean s) (data_bytes duration : Nat) (kind : SampleKind) (mux : MP4E_mux_t) :
    Clean (index_sample calls data_bytes duration kind mux s).2.2 := by
  unfold minimp4.index_sample
  split
  · dsimp only
    split
    · exact htracks.malloc s hclean
    · exact htracks.malloc s hclean
  · split
    · exact hclean
    · exact hclean

theorem TracksErrors.put_sample (htracks : TracksErrors calls Clean Failed) {s : σ}
    (hclean : Clean s) (data_bytes duration : Nat) (kind : SampleKind) (mux : MP4E_mux_t) :
    HandsBack Clean Failed (MP4E_put_sample calls data_bytes duration kind mux s).1
      (MP4E_put_sample calls data_bytes duration kind mux s).2.2 := by
  have hindexed := htracks.index_sample hclean data_bytes duration kind mux
  unfold MP4E_put_sample
  dsimp only
  generalize minimp4.index_sample calls data_bytes duration kind mux s = indexed at hindexed
  split
  · exact Or.inl hindexed
  · unfold write_sample
    dsimp only
    split
    · next hfailed => exact Or.inr (htracks.write_failed _ _ _ hindexed hfailed)
    · next hok => exact Or.inl (htracks.write_ok _ _ _ hindexed (not_not.mp hok))

theorem TracksErrors.put_nal (htracks : TracksErrors calls Clean Failed) {s : σ}
    (hclean : Clean s) (nal : Bytes) (duration : Nat) (kind : SampleKind) (h : mp4_h26x_writer_t) :
    HandsBack Clean Failed (put_nal calls nal duration kind h s).1
      (put_nal calls nal duration kind h s).2.2 := by
  have hmalloc := htracks.malloc s hclean
  unfold minimp4.put_nal
  dsimp only
  split
  · exact Or.inl hmalloc
  · exact htracks.put_sample hmalloc _ _ _ _

theorem TracksErrors.h265_write_nal (htracks : TracksErrors calls Clean Failed) {s : σ}
    (hclean : Clean s) (nal : Bytes) (duration : Nat) (h : mp4_h26x_writer_t) :
    HandsBack Clean Failed (mp4_h265_write_nal calls nal duration h s).1
      (mp4_h265_write_nal calls nal duration h s).2.2 := by
  unfold mp4_h265_write_nal
  dsimp only
  split
  · exact Or.inl (htracks.append_mem hclean _ _)
  · split
    · exact Or.inl (htracks.append_mem hclean _ _)
    · split
      · exact Or.inl (htracks.append_mem hclean _ _)
      · split
        · exact Or.inl hclean
        · exact htracks.put_nal hclean _ _ _ _

theorem TracksErrors.h264_write_nal (htracks : TracksErrors calls Clean Failed) {s : σ}
    (hclean : Clean s) (nal : Bytes) (duration : Nat) (h : mp4_h26x_writer_t) :
    HandsBack Clean Failed (mp4_h264_write_nal calls nal duration h s).1
      (mp4_h264_write_nal calls nal duration h s).2.2 := by
  unfold mp4_h264_write_nal
  dsimp only
  split
  · exact Or.inl hclean
  · split
    · exact Or.inl (htracks.append_mem hclean _ _)
    · split
      · exact Or.inl (htracks.append_mem hclean _ _)
      · unfold mp4_h264_write_slice
        split
        · exact Or.inl hclean
        · dsimp only
          split
          · exact htracks.put_nal hclean _ _ _ _
          · exact Or.inl hclean

/-- A failing callback ends the frame, and its value comes back unchanged. -/
theorem TracksErrors.h26x_write_nal (htracks : TracksErrors calls Clean Failed) {s : σ}
    (hclean : Clean s) (hfailed : ∀ s, ¬ Failed MP4E_STATUS_OK s) (nal : Bytes)
    (timeStamp90kHz_next : Nat) (h : mp4_h26x_writer_t) :
    HandsBack Clean Failed (mp4_h26x_write_nal calls nal timeStamp90kHz_next h s).1
      (mp4_h26x_write_nal calls nal timeStamp90kHz_next h s).2.2 := by
  unfold mp4_h26x_write_nal
  induction nal_units nal generalizing h s with
  | nil => exact Or.inl hclean
  | cons unit rest ih =>
    unfold write_nal_units
    dsimp only
    have hwritten : HandsBack Clean Failed
        (if h.is_hevc then mp4_h265_write_nal calls unit timeStamp90kHz_next h s
          else mp4_h264_write_nal calls unit timeStamp90kHz_next h s).1
        (if h.is_hevc then mp4_h265_write_nal calls unit timeStamp90kHz_next h s
          else mp4_h264_write_nal calls unit timeStamp90kHz_next h s).2.2 := by
      split
      · exact htracks.h265_write_nal hclean unit timeStamp90kHz_next h
      · exact htracks.h264_write_nal hclean unit timeStamp90kHz_next h
    generalize (if h.is_hevc then mp4_h265_write_nal calls unit timeStamp90kHz_next h s
      else mp4_h264_write_nal calls unit timeStamp90kHz_next h s) = written at hwritten
    split
    · exact hwritten
    · next hok =>
      obtain hnext | hnext := hwritten
      · exact ih hnext written.2.1
      · rw [not_not.mp hok] at hnext
        exact (hfailed _ hnext).elim

end Errors

end amldigitalfpv.minimp4

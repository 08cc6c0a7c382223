import AMLDigitalFPV.Library.Items
import AMLDigitalFPV.MiniMp4.Index

namespace amldigitalfpv.minimp4

open big_endian items

/-- A sample with its data. -/
structure Picture where
  data : Bytes
  duration : Nat
  random_access : Bool
deriving DecidableEq, Repr

/-- What a recording is about: the distinct parameter sets in the order in
which they came, and the pictures taken since the first key frame. -/
structure Recording where
  is_hevc : Bool
  need_vps : Bool
  need_sps : Bool
  need_pps : Bool
  need_idr : Bool
  vps : List Bytes
  sps : List Bytes
  pps : List Bytes
  pictures : List Picture
deriving DecidableEq, Repr

def media (pictures : List Picture) : Bytes := pictures.flatMap (·.data)

/-- The samples of pictures that are stored one after the other. -/
def sample_table (offset : Nat) : List Picture → List sample_t
  | [] => []
  | picture :: rest =>
    { size := picture.data.length
      offset := offset
      duration := picture.duration
      flag_random_access := picture.random_access } ::
        sample_table (offset + picture.data.length) rest

namespace Recording

def start (is_hevc : Bool) : Recording :=
  { is_hevc := is_hevc
    need_vps := is_hevc
    need_sps := true
    need_pps := true
    need_idr := true
    vps := []
    sps := []
    pps := []
    pictures := [] }

def see_slice (is_intra : Bool) (r : Recording) : Recording :=
  if is_intra ∧ ¬ r.need_sps ∧ ¬ r.need_pps ∧ ¬ r.need_vps then
    { r with need_idr := false }
  else
    r

/-- A slice becomes a picture or continues the last one. -/
def take_slice (nal : Bytes) (duration : Nat) (kind : SampleKind) (r : Recording) :
    Int × Recording :=
  let data := encode 4 nal.length ++ nal
  if kind ≠ .CONTINUATION then
    let picture : Picture :=
      { data := data
        duration := duration
        random_access := kind = .RANDOM_ACCESS }
    (MP4E_STATUS_OK, { r with pictures := r.pictures ++ [picture] })
  else
    match r.pictures.getLast? with
    | none => (MP4E_STATUS_NO_MEMORY, r)
    | some last =>
      let last := { last with data := last.data ++ data }
      (MP4E_STATUS_OK, { r with pictures := r.pictures.dropLast ++ [last] })

def take_h265_unit (nal : Bytes) (duration : Nat) (r : Recording) : Int × Recording :=
  let payload_type := (nal.getD 0 0).toNat / 2 % 64
  let is_intra : Bool := HEVC_NAL_BLA_W_LP ≤ payload_type ∧ payload_type ≤ HEVC_NAL_CRA_NUT
  let r := r.see_slice is_intra
  if payload_type = HEVC_NAL_VPS then
    (MP4E_STATUS_OK, { r with vps := adjoin nal r.vps, need_vps := false })
  else if payload_type = HEVC_NAL_SPS then
    (MP4E_STATUS_OK, { r with sps := adjoin nal r.sps, need_sps := false })
  else if payload_type = HEVC_NAL_PPS then
    (MP4E_STATUS_OK, { r with pps := adjoin nal r.pps, need_pps := false })
  else if r.need_vps ∨ r.need_sps ∨ r.need_pps ∨ r.need_idr then
    (MP4E_STATUS_BAD_ARGUMENTS, r)
  else
    r.take_slice nal duration (if is_intra then .RANDOM_ACCESS else .DEFAULT)

def take_h264_slice (nal : Bytes) (payload_type duration : Nat) (r : Recording) :
    Int × Recording :=
  if r.need_sps then
    (MP4E_STATUS_BAD_ARGUMENTS, r)
  else
    let r := { r with need_idr := r.need_idr && payload_type ≠ 5 }
    if ¬ r.need_pps ∧ ¬ r.need_idr then
      let sample_kind : SampleKind :=
        if ue_bits (nal.drop 1) ≠ 0 then .CONTINUATION
        else if payload_type = 5 then .RANDOM_ACCESS
        else .DEFAULT
      r.take_slice nal duration sample_kind
    else
      (MP4E_STATUS_OK, r)

def take_h264_unit (nal : Bytes) (duration : Nat) (r : Recording) : Int × Recording :=
  let payload_type := (nal.getD 0 0).toNat % 32
  if payload_type = 9 then
    (MP4E_STATUS_OK, r)
  else if payload_type = 7 then
    (MP4E_STATUS_OK, { r with sps := adjoin nal r.sps, need_sps := false })
  else if payload_type = 8 then
    (MP4E_STATUS_OK, { r with pps := adjoin nal r.pps, need_pps := false })
  else
    r.take_h264_slice nal payload_type duration

/-- A unit that is refused ends its frame. -/
def take_units (duration : Nat) : List Bytes → Recording → Int × Recording
  | [], r => (MP4E_STATUS_OK, r)
  | nal :: rest, r =>
    let taken := if r.is_hevc then r.take_h265_unit nal duration else r.take_h264_unit nal duration
    if taken.1 ≠ MP4E_STATUS_OK then
      taken
    else
      take_units duration rest taken.2

/-- A frame with the duration that it is given. -/
def take_frame (frame : Bytes × Nat) (r : Recording) : Int × Recording :=
  take_units frame.2 (nal_units frame.1) r

def take_frames (frames : List (Bytes × Nat)) (r : Recording) : Recording :=
  frames.foldl (fun r frame => (r.take_frame frame).2) r

/-- The multiplexer that has the recording in its tables. -/
def mux (r : Recording) : MP4E_mux_t :=
  { write_pos := 40 + (media r.pictures).length
    is_hevc := r.is_hevc
    smpl := sample_table 40 r.pictures
    vsps := pack r.sps
    vpps := pack r.pps
    vvps := pack r.vps }

def writer (r : Recording) : mp4_h26x_writer_t :=
  { mux := r.mux
    is_hevc := r.is_hevc
    need_vps := r.need_vps
    need_sps := r.need_sps
    need_pps := r.need_pps
    need_idr := r.need_idr }

/-- The sets can be stored behind sizes of two bytes, and none is stored twice. -/
structure SetsStored (r : Recording) : Prop where
  vps : ∀ set ∈ r.vps, Fits set
  sps : ∀ set ∈ r.sps, Fits set
  pps : ∀ set ∈ r.pps, Fits set
  vps_nodup : r.vps.Nodup
  sps_nodup : r.sps.Nodup
  pps_nodup : r.pps.Nodup

theorem start_setsStored (is_hevc : Bool) : (start is_hevc).SetsStored := by
  constructor <;> simp [start]

end Recording

/-- The NAL units that the writer keeps as parameter sets. -/
def is_parameter_set (is_hevc : Bool) (nal : Bytes) : Bool :=
  if is_hevc then
    (nal.getD 0 0).toNat / 2 % 64 ∈ [HEVC_NAL_VPS, HEVC_NAL_SPS, HEVC_NAL_PPS]
  else
    (nal.getD 0 0).toNat % 32 ∈ [7, 8]

@[simp] theorem media_nil : media [] = [] := rfl

@[simp] theorem media_cons (picture : Picture) (rest : List Picture) :
    media (picture :: rest) = picture.data ++ media rest := rfl

@[simp] theorem media_append (first second : List Picture) :
    media (first ++ second) = media first ++ media second := by
  simp [media]

theorem sample_table_append (offset : Nat) (first second : List Picture) :
    sample_table offset (first ++ second) =
      sample_table offset first ++ sample_table (offset + (media first).length) second := by
  induction first generalizing offset with
  | nil => rfl
  | cons picture rest ih =>
    rw [List.cons_append, sample_table, ih, sample_table, List.cons_append, media_cons,
      List.length_append, Nat.add_assoc]

@[simp] theorem length_sample_table (offset : Nat) (pictures : List Picture) :
    (sample_table offset pictures).length = pictures.length := by
  induction pictures generalizing offset with
  | nil => rfl
  | cons picture rest ih => rw [sample_table, List.length_cons, ih, List.length_cons]

namespace Recording

/-- The second recording has the stream of the first and at least its data. -/
structure Grows (r r' : Recording) : Prop where
  is_hevc : r'.is_hevc = r.is_hevc
  length_le : (media r.pictures).length ≤ (media r'.pictures).length

theorem Grows.refl (r : Recording) : Grows r r := ⟨rfl, le_rfl⟩

theorem Grows.trans {r r' r'' : Recording} (h : Grows r r') (h' : Grows r' r'') : Grows r r'' :=
  ⟨h'.is_hevc.trans h.is_hevc, h.length_le.trans h'.length_le⟩

variable (r : Recording) (nal : Bytes) (duration : Nat)

theorem grows_see_slice (is_intra : Bool) : Grows r (r.see_slice is_intra) := by
  unfold see_slice
  split
  · exact ⟨rfl, le_rfl⟩
  · exact Grows.refl r

theorem grows_take_slice (kind : SampleKind) : Grows r (r.take_slice nal duration kind).2 := by
  unfold take_slice
  dsimp only
  split
  · exact ⟨rfl, by simp⟩
  · split
    · exact Grows.refl r
    · next last hlast =>
      obtain hnil | ⟨front, other, hconcat⟩ := List.eq_nil_or_concat r.pictures
      · rw [hnil] at hlast
        cases hlast
      · rw [List.concat_eq_append] at hconcat
        rw [hconcat, List.getLast?_concat] at hlast
        cases hlast
        refine ⟨rfl, ?_⟩
        simp only [hconcat, List.dropLast_concat, media_append, media_cons, media_nil,
          List.length_append, List.length_nil]
        omega

theorem grows_take_h265_unit : Grows r (r.take_h265_unit nal duration).2 := by
  unfold take_h265_unit
  dsimp only
  have hseen := grows_see_slice r (decide (HEVC_NAL_BLA_W_LP ≤ (nal.getD 0 0).toNat / 2 % 64 ∧
    (nal.getD 0 0).toNat / 2 % 64 ≤ HEVC_NAL_CRA_NUT))
  split
  · exact hseen.trans ⟨rfl, le_rfl⟩
  · split
    · exact hseen.trans ⟨rfl, le_rfl⟩
    · split
      · exact hseen.trans ⟨rfl, le_rfl⟩
      · split
        · exact hseen
        · exact hseen.trans (grows_take_slice _ _ _ _)

theorem grows_take_h264_unit : Grows r (r.take_h264_unit nal duration).2 := by
  unfold take_h264_unit take_h264_slice
  dsimp only
  split
  · exact Grows.refl r
  · split
    · exact ⟨rfl, le_rfl⟩
    · split
      · exact ⟨rfl, le_rfl⟩
      · split
        · exact Grows.refl r
        · split
          · have hslice := grows_take_slice
              { r with need_idr := r.need_idr && decide ((nal.getD 0 0).toNat % 32 ≠ 5) }
              nal duration
            exact ⟨(hslice _).is_hevc, (hslice _).length_le⟩
          · exact ⟨rfl, le_rfl⟩

theorem grows_take_units (units : List Bytes) : Grows r (r.take_units duration units).2 := by
  induction units generalizing r with
  | nil => exact Grows.refl r
  | cons unit rest ih =>
    have htaken : Grows r
        (if r.is_hevc then r.take_h265_unit unit duration
        else r.take_h264_unit unit duration).2 := by
      split
      · exact grows_take_h265_unit r unit duration
      · exact grows_take_h264_unit r unit duration
    unfold take_units
    generalize (if r.is_hevc then r.take_h265_unit unit duration
      else r.take_h264_unit unit duration) = taken at htaken
    dsimp only
    split
    · exact htaken
    · exact htaken.trans (ih _)

theorem grows_take_frames (frames : List (Bytes × Nat)) : Grows r (r.take_frames frames) := by
  induction frames generalizing r with
  | nil => exact Grows.refl r
  | cons frame rest ih => exact (grows_take_units r frame.2 (nal_units frame.1)).trans (ih _)

end Recording

theorem sample_table_eq_nil_iff {offset : Nat} {pictures : List Picture} :
    sample_table offset pictures = [] ↔ pictures = [] := by
  cases pictures <;> simp [sample_table]

end amldigitalfpv.minimp4

import AMLDigitalFPV.Library.RunLength
import AMLDigitalFPV.MiniMp4.KeyFrames

namespace amldigitalfpv.minimp4

open big_endian items run_length

def h264_type (nal : Bytes) : Nat := (nal.getD 0 0).toNat % 32

/-- What the writer takes for a slice: neither a parameter set nor a delimiter. -/
def is_slice (nal : Bytes) : Bool := h264_type nal ∉ [7, 8, 9]

/-- The slice is not the first of its picture. -/
def continues (nal : Bytes) : Bool := ue_bits (nal.drop 1) ≠ 0

/-- Whatever is behind the slice in memory, `ue_bits` passes the assertion in
`show_bits`, and finds the same. -/
def Settled (nal : Bytes) : Prop :=
  ∀ behind, leading_zeros (nal.drop 1 ++ behind) ≤ 16 ∧
    (ue_bits (nal.drop 1 ++ behind) ≠ 0 ↔ continues nal = true)

theorem settled_of_codes_first_mb {nal : Bytes} (hcodes : codes_first_mb nal = true) :
    Settled nal := by
  intro behind
  obtain ⟨hzeros, hsame⟩ := ue_bits_append hcodes behind
  refine ⟨hzeros, ?_⟩
  rw [continues, decide_eq_true_eq]
  exact not_congr hsame

/-- The units of a frame, with the duration of the frame. -/
structure Units where
  units : List Bytes
  duration : Nat

/-- The units of a frame, found by their start codes. -/
def units_of (frame : Bytes × Nat) : Units := ⟨nal_units frame.1, frame.2⟩

/-- Each slice with the duration of its frame. -/
def Units.slices (frame : Units) : List (Bytes × Nat) :=
  (frame.units.filter is_slice).map (·, frame.duration)

/-- Of a frame some of whose units have been dropped: the first slice left
starts a picture. -/
def Units.begins (frame : Units) : Bool :=
  frame.slices.head?.any (fun slice => ¬ continues slice.1)

/-- Looks for the slice that opens the recording: the first one with a picture
parameter set before it and a key frame's slice before it or in it. Until
there is a sequence parameter set a slice ends its frame. -/
def open_in (seen : List Bytes) : List Bytes → List Bytes × List Bytes
  | [] => (seen, [])
  | nal :: rest =>
    if ¬ is_slice nal then
      open_in (seen ++ [nal]) rest
    else if missing h264_type 7 seen then
      (seen, [])
    else if missing h264_type 8 seen ∨ missing h264_type 5 (seen ++ [nal]) then
      open_in (seen ++ [nal]) rest
    else
      (seen, nal :: rest)

/-- The frames from the slice on that opens the recording. -/
def from_open (seen : List Bytes) : List Units → List Units
  | [] => []
  | frame :: rest =>
    let (seen', units) := open_in seen frame.units
    if units = [] then from_open seen' rest else { frame with units := units } :: rest

/-- The picture of slices that go together. It has the duration of the first. -/
def joined (slices : List (Bytes × Nat)) : Picture :=
  { data := slices.flatMap (fun slice => encode 4 slice.1.length ++ slice.1)
    duration := (slices.head?.map (·.2)).getD 0
    random_access := slices.head?.any (h264_type ·.1 = 5) }

/-- A picture goes on until a slice that starts another one. -/
def h264_pictures (slices : List (Bytes × Nat)) : List Picture :=
  (slices.splitBy fun _ slice => continues slice.1).map joined

@[simp] theorem is_slice_iff {nal : Bytes} :
    is_slice nal = true ↔
      h264_type nal ≠ 9 ∧ h264_type nal ≠ 7 ∧ h264_type nal ≠ 8 := by
  unfold is_slice
  simp only [List.mem_cons, List.not_mem_nil, or_false, decide_eq_true_eq]
  omega

theorem h264_pictures_start {slices : List (Bytes × Nat)} {slice : Bytes × Nat}
    (hstart : continues slice.1 = false) :
    h264_pictures (slices ++ [slice]) = h264_pictures slices ++ [joined [slice]] := by
  have hlast : ∀ last ∈ slices.getLast?,
      (fun (_ slice : Bytes × Nat) => continues slice.1) last slice = false := fun _ _ => hstart
  unfold h264_pictures
  rw [splitBy_concat_of_not_rel hlast, List.map_append, List.map_singleton]

/-- The picture that a continuing slice makes of the last one. -/
def Picture.extend (picture : Picture) (nal : Bytes) : Picture :=
  { picture with data := picture.data ++ (encode 4 nal.length ++ nal) }

theorem h264_pictures_continue {slices : List (Bytes × Nat)} (hne : slices ≠ [])
    {slice : Bytes × Nat} (hcontinues : continues slice.1 = true) : ∃ front last,
    h264_pictures slices = front ++ [last] ∧
      h264_pictures (slices ++ [slice]) = front ++ [last.extend slice.1] := by
  obtain hnil | ⟨groups, group, hgroups⟩ :=
    List.eq_nil_or_concat (slices.splitBy fun _ slice => continues slice.1)
  · exact absurd (List.splitBy_eq_nil.mp hnil) hne
  · rw [List.concat_eq_append] at hgroups
    have hgroup : group ≠ [] := List.ne_nil_of_mem_splitBy (hgroups ▸ List.mem_concat_self)
    obtain ⟨first, others, rfl⟩ := List.exists_cons_of_ne_nil hgroup
    refine ⟨groups.map joined, joined (first :: others), ?_, ?_⟩
    · unfold h264_pictures
      rw [hgroups, List.map_append, List.map_singleton]
    · unfold h264_pictures
      rw [splitBy_concat_of_rel hgroups fun _ _ => hcontinues, List.map_append, List.map_singleton]
      simp [joined, Picture.extend]

namespace Recording

/-- Still waiting, with these units seen. -/
structure Seeking (seen : List Bytes) (r : Recording) : Prop where
  is_hevc : r.is_hevc = false
  need_sps : r.need_sps = missing h264_type 7 seen
  need_pps : r.need_pps = missing h264_type 8 seen
  need_idr : r.need_idr = missing h264_type 5 seen
  pictures : r.pictures = []

/-- Nothing is missing any more, and these slices have been recorded. -/
structure Gathering (slices : List (Bytes × Nat)) (r : Recording) : Prop where
  is_hevc : r.is_hevc = false
  need_sps : r.need_sps = false
  need_pps : r.need_pps = false
  need_idr : r.need_idr = false
  pictures : r.pictures = h264_pictures slices

theorem start_seeking : Seeking [] (start false) :=
  ⟨rfl, rfl, rfl, rfl, rfl⟩

variable {r : Recording} {seen : List Bytes} {slices : List (Bytes × Nat)}

/-- The cases of the unit, in terms of its type. -/
theorem take_h264_unit_eq (nal : Bytes) (duration : Nat) :
    r.take_h264_unit nal duration =
      if h264_type nal = 9 then
        (MP4E_STATUS_OK, r)
      else if h264_type nal = 7 then
        (MP4E_STATUS_OK, { r with sps := adjoin nal r.sps, need_sps := false })
      else if h264_type nal = 8 then
        (MP4E_STATUS_OK, { r with pps := adjoin nal r.pps, need_pps := false })
      else
        r.take_h264_slice nal (h264_type nal) duration :=
  rfl

/-- What is no slice is let through. -/
theorem take_h264_unit_other (nal : Bytes) (duration : Nat) (hother : is_slice nal = false) :
    ∃ sps pps, r.take_h264_unit nal duration =
      (MP4E_STATUS_OK,
        { r with
          sps := sps
          pps := pps
          need_sps := r.need_sps && decide (h264_type nal ≠ 7)
          need_pps := r.need_pps && decide (h264_type nal ≠ 8) }) := by
  have htype : h264_type nal = 9 ∨ h264_type nal = 7 ∨ h264_type nal = 8 := by
    have hnot : ¬ (h264_type nal ≠ 9 ∧ h264_type nal ≠ 7 ∧ h264_type nal ≠ 8) := by
      rw [← is_slice_iff, hother]
      exact Bool.false_ne_true
    omega
  rw [take_h264_unit_eq]
  obtain htype | htype | htype := htype
  · exact ⟨r.sps, r.pps, by simp [htype]⟩
  · exact ⟨adjoin nal r.sps, r.pps, by simp [htype]⟩
  · exact ⟨r.sps, adjoin nal r.pps, by simp [htype]⟩

theorem take_h264_unit_slice (nal : Bytes) (duration : Nat) (hslice : is_slice nal = true) :
    r.take_h264_unit nal duration = r.take_h264_slice nal (h264_type nal) duration := by
  obtain ⟨hdelimiter, hsps, hpps⟩ := is_slice_iff.mp hslice
  rw [take_h264_unit_eq, if_neg hdelimiter, if_neg hsps, if_neg hpps]

theorem Gathering.other (h : Gathering slices r) (nal : Bytes) (duration : Nat)
    (hother : is_slice nal = false) : ∃ r',
    r.take_h264_unit nal duration = (MP4E_STATUS_OK, r') ∧ Gathering slices r' := by
  obtain ⟨sps, pps, htaken⟩ := take_h264_unit_other (r := r) nal duration hother
  refine ⟨_, htaken, h.is_hevc, ?_, ?_, h.need_idr, h.pictures⟩
  · simp [h.need_sps]
  · simp [h.need_pps]

/-- Once nothing is missing, every slice is stored. -/
theorem Gathering.take_h264_slice (h : Gathering slices r) (nal : Bytes) (duration : Nat) :
    r.take_h264_slice nal (h264_type nal) duration =
      r.take_slice nal duration
        (if continues nal then .CONTINUATION
        else if h264_type nal = 5 then .RANDOM_ACCESS
        else .DEFAULT) := by
  have hsame : { r with need_idr := r.need_idr && decide (h264_type nal ≠ 5) } = r := by
    rw [h.need_idr, Bool.false_and, ← h.need_idr]
  unfold Recording.take_h264_slice
  rw [if_neg (by simp [h.need_sps])]
  dsimp only
  rw [if_pos ⟨by simp [h.need_pps], by simp [h.need_idr]⟩, hsame]
  unfold continues
  simp

theorem Gathering.slice (h : Gathering slices r) (nal : Bytes) (duration : Nat)
    (hslice : is_slice nal = true) (hfollows : slices = [] → continues nal = false) : ∃ r',
    r.take_h264_unit nal duration = (MP4E_STATUS_OK, r') ∧
      Gathering (slices ++ [(nal, duration)]) r' := by
  rw [take_h264_unit_slice nal duration hslice, h.take_h264_slice nal duration]
  obtain ⟨hhevc, hsps, hpps, hidr, hpictures⟩ := h
  cases hcontinues : continues nal with
  | false =>
    have hkind : (if h264_type nal = 5 then SampleKind.RANDOM_ACCESS else .DEFAULT) ≠
        .CONTINUATION := by
      split <;> decide
    rw [if_neg Bool.false_ne_true, take_slice_of_start hkind]
    refine ⟨_, rfl, hhevc, hsps, hpps, hidr, ?_⟩
    rw [hpictures, h264_pictures_start hcontinues]
    simp [joined]
  | true =>
    have hne : slices ≠ [] := fun hnil => by simp [hfollows hnil] at hcontinues
    have hnext : continues (nal, duration).1 = true := hcontinues
    obtain ⟨front, last, hbefore, hafter⟩ := h264_pictures_continue hne hnext
    rw [hbefore] at hpictures
    refine ⟨{ r with pictures := front ++ [last.extend nal] }, ?_,
      hhevc, hsps, hpps, hidr, hafter.symm⟩
    simp [take_slice, hpictures, Picture.extend]

/-- There is no picture that the slice could go on with. -/
theorem Gathering.refuses (h : Gathering [] r) (nal : Bytes) (duration : Nat)
    (hslice : is_slice nal = true) (hcontinues : continues nal = true) :
    r.take_h264_unit nal duration = (MP4E_STATUS_NO_MEMORY, r) := by
  rw [take_h264_unit_slice nal duration hslice, h.take_h264_slice nal duration, hcontinues]
  have hnone : r.pictures.getLast? = none := by
    rw [h.pictures]
    rfl
  simp [take_slice, hnone]

variable (duration : Nat)

theorem take_units_of_ok {nal : Bytes} {duration : Nat} {r' : Recording}
    (hhevc : r.is_hevc = false)
    (htaken : r.take_h264_unit nal duration = (MP4E_STATUS_OK, r')) (rest : List Bytes) :
    r.take_units duration (nal :: rest) = r'.take_units duration rest := by
  simp [Recording.take_units, hhevc, htaken]

theorem take_units_of_refused {nal : Bytes} {duration : Nat} {status : Int} {r' : Recording}
    (hhevc : r.is_hevc = false) (hstatus : status ≠ MP4E_STATUS_OK)
    (htaken : r.take_h264_unit nal duration = (status, r')) (rest : List Bytes) :
    r.take_units duration (nal :: rest) = (status, r') := by
  simp [Recording.take_units, hhevc, htaken, hstatus]

/-- Once there is a picture, nothing is refused. -/
theorem Gathering.take_more (h : Gathering slices r) (hne : slices ≠ []) (units : List Bytes) :
    Gathering (slices ++ (Units.mk units duration).slices) (r.take_units duration units).2 := by
  induction units generalizing r slices with
  | nil => simpa [Units.slices, Recording.take_units] using h
  | cons nal rest ih =>
    cases hslice : is_slice nal with
    | true =>
      obtain ⟨r', htaken, hgathering⟩ := h.slice nal duration hslice fun hnil => absurd hnil hne
      have hslices : (Units.mk (nal :: rest) duration).slices =
          [(nal, duration)] ++ (Units.mk rest duration).slices := by
        simp [Units.slices, hslice]
      rw [take_units_of_ok h.is_hevc htaken, hslices, ← List.append_assoc]
      exact ih hgathering (by simp)
    | false =>
      obtain ⟨r', htaken, hgathering⟩ := h.other nal duration hslice
      have hslices : (Units.mk (nal :: rest) duration).slices =
          (Units.mk rest duration).slices := by
        simp [Units.slices, hslice]
      rw [take_units_of_ok h.is_hevc htaken, hslices]
      exact ih hgathering hne

/-- As long as there is none, a frame is refused at a slice that continues. -/
theorem Gathering.take_first (h : Gathering [] r) (units : List Bytes) :
    Gathering
      (if (Units.mk units duration).begins then (Units.mk units duration).slices else [])
      (r.take_units duration units).2 := by
  induction units generalizing r with
  | nil => simpa [Units.slices, Recording.take_units] using h
  | cons nal rest ih =>
    cases hslice : is_slice nal with
    | true =>
      have hslices : (Units.mk (nal :: rest) duration).slices =
          (nal, duration) :: (Units.mk rest duration).slices := by
        simp [Units.slices, hslice]
      have hbegins : (Units.mk (nal :: rest) duration).begins = !continues nal := by
        simp [Units.begins, hslices]
      rw [hbegins, hslices]
      cases hcontinues : continues nal with
      | true =>
        rw [take_units_of_refused h.is_hevc (by decide)
          (h.refuses nal duration hslice hcontinues)]
        exact h
      | false =>
        obtain ⟨r', htaken, hgathering⟩ := h.slice nal duration hslice fun _ => hcontinues
        rw [take_units_of_ok h.is_hevc htaken]
        exact hgathering.take_more duration (by simp) rest
    | false =>
      obtain ⟨r', htaken, hgathering⟩ := h.other nal duration hslice
      have hslices : (Units.mk (nal :: rest) duration).slices =
          (Units.mk rest duration).slices := by
        simp [Units.slices, hslice]
      have hbegins : (Units.mk (nal :: rest) duration).begins =
          (Units.mk rest duration).begins := by
        unfold Units.begins
        rw [hslices]
      rw [take_units_of_ok h.is_hevc htaken, hslices, hbegins]
      exact ih hgathering

/-- The frames, given by their units. -/
def take_all (frames : List Units) (r : Recording) : Recording :=
  frames.foldl (fun r frame => (r.take_units frame.duration frame.units).2) r

theorem Gathering.take_all_more (h : Gathering slices r) (hne : slices ≠ [])
    (frames : List Units) :
    Gathering (slices ++ frames.flatMap Units.slices) (r.take_all frames) := by
  induction frames generalizing r slices with
  | nil => simpa [take_all] using h
  | cons frame rest ih =>
    have hframe := h.take_more frame.duration hne frame.units
    rw [List.flatMap_cons, ← List.append_assoc]
    exact ih hframe (List.append_ne_nil_of_left_ne_nil hne _)

theorem Units.slices_ne_nil {frame : Units} (hbegins : frame.begins = true) :
    frame.slices ≠ [] := by
  intro hnil
  simp [Units.begins, hnil] at hbegins

theorem Gathering.take_all_first (h : Gathering [] r) (frames : List Units) :
    Gathering ((frames.dropWhile (fun frame => ¬ frame.begins)).flatMap Units.slices)
      (r.take_all frames) := by
  induction frames generalizing r with
  | nil => exact h
  | cons frame rest ih =>
    have hframe := h.take_first frame.duration frame.units
    cases hbegins : frame.begins with
    | true =>
      rw [if_pos hbegins] at hframe
      rw [List.dropWhile_cons_of_neg (by simp [hbegins]), List.flatMap_cons]
      exact hframe.take_all_more (Units.slices_ne_nil hbegins) rest
    | false =>
      rw [if_neg (by simp [hbegins])] at hframe
      rw [List.dropWhile_cons_of_pos (by simp [hbegins])]
      exact ih hframe

theorem Seeking.other (h : Seeking seen r) (nal : Bytes) (hother : is_slice nal = false) : ∃ r',
    r.take_h264_unit nal duration = (MP4E_STATUS_OK, r') ∧ Seeking (seen ++ [nal]) r' := by
  obtain ⟨sps, pps, htaken⟩ := take_h264_unit_other (r := r) nal duration hother
  have hidr : h264_type nal ≠ 5 := by
    intro hidr
    have hslice : is_slice nal = true := is_slice_iff.mpr (by omega)
    rw [hother] at hslice
    cases hslice
  refine ⟨_, htaken, h.is_hevc, ?_, ?_, ?_, h.pictures⟩
  · rw [h.need_sps, missing_append]
  · rw [h.need_pps, missing_append]
  · rw [h.need_idr, missing_append, decide_eq_true hidr, Bool.and_true]

/-- The state after a slice that is not refused. -/
theorem Seeking.seen_slice (h : Seeking seen r) (nal : Bytes) (hslice : is_slice nal = true) :
    Seeking (seen ++ [nal]) { r with need_idr := r.need_idr && decide (h264_type nal ≠ 5) } := by
  obtain ⟨-, hsps, hpps⟩ := is_slice_iff.mp hslice
  refine ⟨h.is_hevc, ?_, ?_, ?_, h.pictures⟩
  · rw [missing_append, decide_eq_true hsps, Bool.and_true, ← h.need_sps]
  · rw [missing_append, decide_eq_true hpps, Bool.and_true, ← h.need_pps]
  · rw [missing_append, ← h.need_idr]

/-- Before there is a sequence parameter set, slices are refused. -/
theorem Seeking.refuses (h : Seeking seen r) (nal : Bytes) (hslice : is_slice nal = true)
    (hsps : missing h264_type 7 seen = true) :
    r.take_h264_unit nal duration = (MP4E_STATUS_BAD_ARGUMENTS, r) := by
  rw [take_h264_unit_slice nal duration hslice]
  exact if_pos (h.need_sps.trans hsps)

/-- As long as something else is missing, they are passed over. -/
theorem Seeking.passes (h : Seeking seen r) (nal : Bytes) (hslice : is_slice nal = true)
    (hsps : missing h264_type 7 seen = false)
    (hclosed : missing h264_type 8 seen = true ∨ missing h264_type 5 (seen ++ [nal]) = true) :
    ∃ r', r.take_h264_unit nal duration = (MP4E_STATUS_OK, r') ∧ Seeking (seen ++ [nal]) r' := by
  refine ⟨_, ?_, h.seen_slice nal hslice⟩
  have hgate : ¬ (¬ r.need_pps = true ∧ ¬ (r.need_idr && decide (h264_type nal ≠ 5)) = true) := by
    rw [h.need_pps, h.need_idr, ← missing_append]
    simpa [imp_iff_not_or] using hclosed
  rw [take_h264_unit_slice nal duration hslice, Recording.take_h264_slice,
    if_neg (by simp [h.need_sps, hsps])]
  exact if_neg hgate

/-- The slice that opens the recording is taken as if nothing had been missing. -/
theorem Seeking.opens (h : Seeking seen r) (nal : Bytes) (hslice : is_slice nal = true)
    (hsps : missing h264_type 7 seen = false)
    (hopen : ¬ (missing h264_type 8 seen = true ∨ missing h264_type 5 (seen ++ [nal]) = true)) :
    ∃ r', Gathering [] r' ∧ r.take_h264_unit nal duration = r'.take_h264_unit nal duration := by
  obtain ⟨hpps, hidr⟩ := not_or.mp hopen
  have hseen := h.seen_slice nal hslice
  refine ⟨{ r with need_idr := false },
    ⟨h.is_hevc, h.need_sps.trans hsps, ?_, rfl, h.pictures⟩, ?_⟩
  · exact h.need_pps.trans (Bool.eq_false_of_not_eq_true hpps)
  · have hidr' : (r.need_idr && decide (h264_type nal ≠ 5)) = false :=
      hseen.need_idr.trans (Bool.eq_false_of_not_eq_true hidr)
    rw [take_h264_unit_slice nal duration hslice, take_h264_unit_slice nal duration hslice]
    have hsps' : ¬ r.need_sps = true := by simp [h.need_sps, hsps]
    unfold Recording.take_h264_slice
    rw [if_neg hsps', if_neg hsps']
    simp only [hidr', Bool.false_and]

theorem Seeking.take_units (h : Seeking seen r) (units : List Bytes) :
    if (open_in seen units).2 = [] then
      Seeking (open_in seen units).1 (r.take_units duration units).2
    else
      ∃ r', Gathering [] r' ∧
        (r.take_units duration units).2 = (r'.take_units duration (open_in seen units).2).2 := by
  induction units generalizing r seen with
  | nil => exact h
  | cons nal rest ih =>
    rw [open_in]
    split
    · next hother =>
      obtain ⟨r', htaken, hseeking⟩ := h.other duration nal (Bool.eq_false_of_not_eq_true hother)
      rw [take_units_of_ok h.is_hevc htaken]
      exact ih hseeking
    · next hslice =>
      have hslice : is_slice nal = true := by simpa using hslice
      split
      · next hsps =>
        rw [take_units_of_refused h.is_hevc (by decide) (h.refuses duration nal hslice hsps)]
        exact h
      · next hsps =>
        have hsps := Bool.eq_false_of_not_eq_true hsps
        split
        · next hclosed =>
          obtain ⟨r', htaken, hseeking⟩ := h.passes duration nal hslice hsps hclosed
          rw [take_units_of_ok h.is_hevc htaken]
          exact ih hseeking
        · next hopen =>
          obtain ⟨r', hgathering, hsame⟩ := h.opens duration nal hslice hsps hopen
          rw [if_neg (List.cons_ne_nil nal rest)]
          refine ⟨r', hgathering, ?_⟩
          simp [Recording.take_units, h.is_hevc, hgathering.is_hevc, hsame]

theorem Seeking.take_all (h : Seeking seen r) (frames : List Units) :
    (r.take_all frames).pictures = h264_pictures
      (((from_open seen frames).dropWhile (fun frame => ¬ frame.begins)).flatMap Units.slices) := by
  induction frames generalizing r seen with
  | nil => exact h.pictures
  | cons frame rest ih =>
    have hframe := h.take_units frame.duration frame.units
    rw [from_open]
    dsimp only
    split
    · next hnone =>
      rw [if_pos hnone] at hframe
      exact ih hframe
    · next hopen =>
      rw [if_neg hopen] at hframe
      obtain ⟨r', hgathering, hsame⟩ := hframe
      have hstep : r.take_all (frame :: rest) =
          r'.take_all ({ frame with units := (open_in seen frame.units).2 } :: rest) := by
        unfold Recording.take_all
        rw [List.foldl_cons, List.foldl_cons, hsame]
      rw [hstep]
      exact (hgathering.take_all_first _).pictures

theorem take_frames_eq (frames : List (Bytes × Nat)) :
    r.take_frames frames = r.take_all (frames.map units_of) := by
  unfold Recording.take_frames take_all
  rw [List.foldl_map]
  rfl

end Recording

end amldigitalfpv.minimp4

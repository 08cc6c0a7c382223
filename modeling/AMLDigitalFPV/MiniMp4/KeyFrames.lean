import AMLDigitalFPV.MiniMp4.Recording

namespace amldigitalfpv.minimp4

open big_endian items

def h265_type (nal : Bytes) : Nat := (nal.getD 0 0).toNat / 2 % 64

/-- Decoding can start at such a slice. -/
def is_intra (nal : Bytes) : Bool :=
  HEVC_NAL_BLA_W_LP ≤ h265_type nal ∧ h265_type nal ≤ HEVC_NAL_CRA_NUT

/-- The parameter sets at the front of a frame. -/
def header (units : List Bytes) : List Bytes := units.takeWhile (is_parameter_set true)

/-- No unit of the type has been seen. -/
def missing (kind : Bytes → Nat) (type : Nat) (seen : List Bytes) : Bool :=
  seen.all (fun nal => kind nal ≠ type)

/-- Parameter sets of all three kinds have been seen. -/
def complete (seen : List Bytes) : Bool :=
  ¬ missing h265_type HEVC_NAL_VPS seen ∧ ¬ missing h265_type HEVC_NAL_SPS seen ∧
    ¬ missing h265_type HEVC_NAL_PPS seen

/-- Behind its parameter sets the frame goes on with the slice of a key frame. -/
def opens (units : List Bytes) : Bool :=
  (units.dropWhile (is_parameter_set true)).head?.any is_intra

/-- The frames from the first one that a player can start at, given the
parameter sets seen before. -/
def from_opening (seen : List Bytes) : List (Bytes × Nat) → List (Bytes × Nat)
  | [] => []
  | frame :: rest =>
    let units := nal_units frame.1
    if opens units ∧ complete (seen ++ header units) then
      frame :: rest
    else
      from_opening (seen ++ header units) rest

def h265_picture (duration : Nat) (nal : Bytes) : Picture :=
  { data := encode 4 nal.length ++ nal
    duration := duration
    random_access := is_intra nal }

/-- Every unit that is not a parameter set makes a picture, with the duration
of its whole frame. -/
def h265_pictures (duration : Nat) (units : List Bytes) : List Picture :=
  (units.filter (fun nal => ¬ is_parameter_set true nal)).map (h265_picture duration)

@[simp] theorem missing_append (kind : Bytes → Nat) (type : Nat) (seen : List Bytes)
    (nal : Bytes) :
    missing kind type (seen ++ [nal]) = (missing kind type seen && decide (kind nal ≠ type)) := by
  simp [missing]

theorem is_parameter_set_iff {nal : Bytes} :
    is_parameter_set true nal = true ↔
      h265_type nal = HEVC_NAL_VPS ∨ h265_type nal = HEVC_NAL_SPS ∨
        h265_type nal = HEVC_NAL_PPS := by
  unfold is_parameter_set h265_type
  simp

/-- A parameter set is no slice. -/
theorem not_intra_of_set {nal : Bytes} (hset : is_parameter_set true nal = true) :
    is_intra nal = false := by
  have htype := is_parameter_set_iff.mp hset
  simp only [HEVC_NAL_VPS, HEVC_NAL_SPS, HEVC_NAL_PPS] at htype
  simp only [is_intra, HEVC_NAL_BLA_W_LP, HEVC_NAL_CRA_NUT]
  exact decide_eq_false (by omega)

@[simp] theorem h265_pictures_cons (duration : Nat) (nal : Bytes) (rest : List Bytes) :
    h265_pictures duration (nal :: rest) =
      h265_pictures duration [nal] ++ h265_pictures duration rest := by
  unfold h265_pictures
  rw [← List.map_append, ← List.filter_append, List.singleton_append]

namespace Recording

/-- Waiting for a key frame, with these parameter sets seen. -/
structure Waiting (seen : List Bytes) (r : Recording) : Prop where
  is_hevc : r.is_hevc = true
  need_vps : r.need_vps = missing h265_type HEVC_NAL_VPS seen
  need_sps : r.need_sps = missing h265_type HEVC_NAL_SPS seen
  need_pps : r.need_pps = missing h265_type HEVC_NAL_PPS seen
  need_idr : r.need_idr = true
  pictures : r.pictures = []

/-- Nothing is missing any more. -/
structure Running (r : Recording) : Prop where
  is_hevc : r.is_hevc = true
  need_vps : r.need_vps = false
  need_sps : r.need_sps = false
  need_pps : r.need_pps = false
  need_idr : r.need_idr = false

theorem start_waiting : Waiting [] (start true) :=
  ⟨rfl, rfl, rfl, rfl, rfl, rfl⟩

variable {r : Recording} {seen : List Bytes}

theorem see_slice_false : r.see_slice false = r := by simp [see_slice]

theorem take_slice_of_start {kind : SampleKind} (hkind : kind ≠ .CONTINUATION) (nal : Bytes)
    (duration : Nat) :
    r.take_slice nal duration kind =
      (MP4E_STATUS_OK,
        { r with pictures := r.pictures ++ [⟨encode 4 nal.length ++ nal, duration,
          kind = .RANDOM_ACCESS⟩] }) := by
  simp [take_slice, hkind]

/-- The cases of the unit, in terms of its type. -/
theorem take_h265_unit_eq (nal : Bytes) (duration : Nat) :
    r.take_h265_unit nal duration =
      let seen := r.see_slice (is_intra nal)
      if h265_type nal = HEVC_NAL_VPS then
        (MP4E_STATUS_OK, { seen with vps := adjoin nal seen.vps, need_vps := false })
      else if h265_type nal = HEVC_NAL_SPS then
        (MP4E_STATUS_OK, { seen with sps := adjoin nal seen.sps, need_sps := false })
      else if h265_type nal = HEVC_NAL_PPS then
        (MP4E_STATUS_OK, { seen with pps := adjoin nal seen.pps, need_pps := false })
      else if seen.need_vps ∨ seen.need_sps ∨ seen.need_pps ∨ seen.need_idr then
        (MP4E_STATUS_BAD_ARGUMENTS, seen)
      else
        (MP4E_STATUS_OK,
          { seen with pictures := seen.pictures ++ [h265_picture duration nal] }) := by
  have hslice : ∀ seen : Recording,
      seen.take_slice nal duration (if is_intra nal then .RANDOM_ACCESS else .DEFAULT) =
        (MP4E_STATUS_OK,
          { seen with pictures := seen.pictures ++ [h265_picture duration nal] }) := by
    intro seen
    unfold h265_picture
    cases is_intra nal <;> exact take_slice_of_start (by decide) nal duration
  dsimp only
  rw [← hslice]
  rfl

/-- A parameter set is kept, and clears the flag of its kind. -/
theorem take_h265_unit_set (nal : Bytes) (duration : Nat)
    (hset : is_parameter_set true nal = true) : ∃ vps sps pps,
    r.take_h265_unit nal duration =
      (MP4E_STATUS_OK,
        { r with
          vps := vps
          sps := sps
          pps := pps
          need_vps := r.need_vps && decide (h265_type nal ≠ HEVC_NAL_VPS)
          need_sps := r.need_sps && decide (h265_type nal ≠ HEVC_NAL_SPS)
          need_pps := r.need_pps && decide (h265_type nal ≠ HEVC_NAL_PPS) }) := by
  rw [take_h265_unit_eq, not_intra_of_set hset, see_slice_false]
  obtain htype | htype | htype := is_parameter_set_iff.mp hset
  · exact ⟨adjoin nal r.vps, r.sps, r.pps, by
      simp [htype, HEVC_NAL_VPS, HEVC_NAL_SPS, HEVC_NAL_PPS]⟩
  · exact ⟨r.vps, adjoin nal r.sps, r.pps, by
      simp [htype, HEVC_NAL_VPS, HEVC_NAL_SPS, HEVC_NAL_PPS]⟩
  · exact ⟨r.vps, r.sps, adjoin nal r.pps, by
      simp [htype, HEVC_NAL_VPS, HEVC_NAL_SPS, HEVC_NAL_PPS]⟩

/-- Any other unit makes a picture, unless something is still missing. -/
theorem take_h265_unit_other (nal : Bytes) (duration : Nat)
    (hother : is_parameter_set true nal = false) :
    r.take_h265_unit nal duration =
      let seen := r.see_slice (is_intra nal)
      if seen.need_vps ∨ seen.need_sps ∨ seen.need_pps ∨ seen.need_idr then
        (MP4E_STATUS_BAD_ARGUMENTS, seen)
      else
        (MP4E_STATUS_OK,
          { seen with pictures := seen.pictures ++ [h265_picture duration nal] }) := by
  have htype : ¬ (h265_type nal = HEVC_NAL_VPS ∨ h265_type nal = HEVC_NAL_SPS ∨
      h265_type nal = HEVC_NAL_PPS) := by
    rw [← is_parameter_set_iff, hother]
    exact Bool.false_ne_true
  obtain ⟨hvps, hsps, hpps⟩ : _ ∧ _ ∧ _ := by rwa [not_or, not_or] at htype
  rw [take_h265_unit_eq]
  dsimp only
  rw [if_neg hvps, if_neg hsps, if_neg hpps]

theorem Waiting.set_seen (h : Waiting seen r) (nal : Bytes) (duration : Nat)
    (hset : is_parameter_set true nal = true) : ∃ r',
    r.take_h265_unit nal duration = (MP4E_STATUS_OK, r') ∧ Waiting (seen ++ [nal]) r' := by
  obtain ⟨vps, sps, pps, htaken⟩ := take_h265_unit_set (r := r) nal duration hset
  refine ⟨_, htaken, h.is_hevc, ?_, ?_, ?_, h.need_idr, h.pictures⟩
  · rw [h.need_vps, missing_append]
  · rw [h.need_sps, missing_append]
  · rw [h.need_pps, missing_append]

/-- Until the parameter sets are there, or without a key frame, nothing but
parameter sets is let through. -/
theorem Waiting.refuses (h : Waiting seen r) (nal : Bytes) (duration : Nat)
    (hother : is_parameter_set true nal = false)
    (hwait : ¬ (is_intra nal = true ∧ complete seen = true)) :
    r.take_h265_unit nal duration = (MP4E_STATUS_BAD_ARGUMENTS, r) := by
  have hseen : r.see_slice (is_intra nal) = r := by
    unfold see_slice
    rw [h.need_vps, h.need_sps, h.need_pps]
    exact if_neg fun hstart => hwait ⟨hstart.1, by simp_all [complete]⟩
  rw [take_h265_unit_other nal duration hother, hseen]
  exact if_pos (.inr (.inr (.inr h.need_idr)))

theorem Waiting.starts (h : Waiting seen r) (nal : Bytes) (duration : Nat)
    (hother : is_parameter_set true nal = false) (hintra : is_intra nal = true)
    (hcomplete : complete seen = true) : ∃ r',
    r.take_h265_unit nal duration = (MP4E_STATUS_OK, r') ∧ r'.Running ∧
      r'.pictures = h265_pictures duration [nal] := by
  obtain ⟨hvps, hsps, hpps⟩ : r.need_vps = false ∧ r.need_sps = false ∧ r.need_pps = false := by
    rw [h.need_vps, h.need_sps, h.need_pps]
    simpa [complete] using hcomplete
  have hseen : r.see_slice (is_intra nal) = { r with need_idr := false } := by
    unfold see_slice
    exact if_pos ⟨hintra, by simp [hsps], by simp [hpps], by simp [hvps]⟩
  rw [take_h265_unit_other nal duration hother, hseen]
  refine ⟨_, if_neg (by simp [hvps, hsps, hpps]), ⟨h.is_hevc, hvps, hsps, hpps, rfl⟩, ?_⟩
  simp [h.pictures, h265_pictures, hother]

/-- Nothing is refused any more. -/
theorem Running.take_h265_unit (h : r.Running) (nal : Bytes) (duration : Nat) : ∃ r',
    r.take_h265_unit nal duration = (MP4E_STATUS_OK, r') ∧ r'.Running ∧
      r'.pictures = r.pictures ++ h265_pictures duration [nal] := by
  cases hset : is_parameter_set true nal with
  | true =>
    obtain ⟨vps, sps, pps, htaken⟩ := take_h265_unit_set (r := r) nal duration hset
    refine ⟨_, htaken, ⟨h.is_hevc, ?_, ?_, ?_, h.need_idr⟩, ?_⟩
    · simp [h.need_vps]
    · simp [h.need_sps]
    · simp [h.need_pps]
    · simp [h265_pictures, hset]
  | false =>
    have hseen : (r.see_slice (is_intra nal)).Running ∧
        (r.see_slice (is_intra nal)).pictures = r.pictures := by
      unfold see_slice
      split
      · exact ⟨⟨h.is_hevc, h.need_vps, h.need_sps, h.need_pps, rfl⟩, rfl⟩
      · exact ⟨h, rfl⟩
    obtain ⟨⟨hhevc, hvps, hsps, hpps, hidr⟩, hpictures⟩ := hseen
    rw [take_h265_unit_other nal duration hset]
    refine ⟨_, if_neg (by simp [hvps, hsps, hpps, hidr]), ⟨hhevc, hvps, hsps, hpps, hidr⟩, ?_⟩
    simp [hpictures, h265_pictures, hset]

theorem Running.take_units (h : r.Running) (duration : Nat) (units : List Bytes) : ∃ r',
    r.take_units duration units = (MP4E_STATUS_OK, r') ∧ r'.Running ∧
      r'.pictures = r.pictures ++ h265_pictures duration units := by
  induction units generalizing r with
  | nil => exact ⟨r, rfl, h, by simp [h265_pictures]⟩
  | cons nal rest ih =>
    obtain ⟨r', htaken, hrunning, hpictures⟩ := h.take_h265_unit nal duration
    obtain ⟨r'', hrest, hrunning', hpictures'⟩ := ih hrunning
    refine ⟨r'', ?_, hrunning', ?_⟩
    · rw [Recording.take_units, if_pos h.is_hevc, htaken]
      exact hrest
    · rw [hpictures', hpictures, List.append_assoc, ← h265_pictures_cons]

theorem Running.take_frames (h : r.Running) (frames : List (Bytes × Nat)) :
    (r.take_frames frames).pictures =
      r.pictures ++ frames.flatMap (fun frame => h265_pictures frame.2 (nal_units frame.1)) := by
  induction frames generalizing r with
  | nil => exact (List.append_nil _).symm
  | cons frame rest ih =>
    obtain ⟨r', htaken, hrunning, hpictures⟩ := h.take_units frame.2 (nal_units frame.1)
    have hstep : r.take_frames (frame :: rest) = r'.take_frames rest := by
      unfold Recording.take_frames
      rw [List.foldl_cons, take_frame, htaken]
    rw [hstep, ih hrunning, hpictures, List.append_assoc, List.flatMap_cons]

/-- Behind its parameter sets a frame is taken as a whole or not at all. -/
theorem Waiting.take_units (h : Waiting seen r) (duration : Nat) (units : List Bytes) :
    if opens units ∧ complete (seen ++ header units) then
      (r.take_units duration units).2.Running ∧
        (r.take_units duration units).2.pictures = h265_pictures duration units
    else
      Waiting (seen ++ header units) (r.take_units duration units).2 := by
  induction units generalizing r seen with
  | nil => simpa [opens, header, Recording.take_units] using h
  | cons nal rest ih =>
    cases hset : is_parameter_set true nal with
    | true =>
      obtain ⟨r', htaken, hwaiting⟩ := h.set_seen nal duration hset
      have hstep : r.take_units duration (nal :: rest) = r'.take_units duration rest := by
        rw [Recording.take_units, if_pos h.is_hevc, htaken]
        rfl
      have hheader : seen ++ header (nal :: rest) = seen ++ [nal] ++ header rest := by
        unfold header
        rw [List.takeWhile_cons_of_pos hset, List.append_assoc, List.singleton_append]
      have hopens : opens (nal :: rest) = opens rest := by
        unfold opens
        rw [List.dropWhile_cons_of_pos hset]
      have hpictures : h265_pictures duration (nal :: rest) = h265_pictures duration rest := by
        simp [h265_pictures, hset]
      rw [hstep, hheader, hopens, hpictures]
      exact ih hwaiting
    | false =>
      have hheader : header (nal :: rest) = [] := by
        unfold header
        exact List.takeWhile_cons_of_neg (by simp [hset])
      have hopens : opens (nal :: rest) = is_intra nal := by
        unfold opens
        rw [List.dropWhile_cons_of_neg (by simp [hset]), List.head?_cons, Option.any_some]
      rw [hheader, List.append_nil, hopens]
      split
      · next hstarts =>
        obtain ⟨r', htaken, hrunning, hfirst⟩ :=
          h.starts nal duration hset hstarts.1 hstarts.2
        obtain ⟨r'', hrest, hrunning', hpictures⟩ := hrunning.take_units duration rest
        have hstep : r.take_units duration (nal :: rest) = (MP4E_STATUS_OK, r'') := by
          rw [Recording.take_units, if_pos h.is_hevc, htaken]
          exact hrest
        rw [hstep, h265_pictures_cons, ← hfirst]
        exact ⟨hrunning', hpictures⟩
      · next hwaits =>
        have hstep : r.take_units duration (nal :: rest) = (MP4E_STATUS_BAD_ARGUMENTS, r) := by
          rw [Recording.take_units, if_pos h.is_hevc, h.refuses nal duration hset hwaits]
          rfl
        rw [hstep]
        exact h

/-- What is recorded is exactly what comes from the opening frame on. -/
theorem Waiting.take_frames (h : Waiting seen r) (frames : List (Bytes × Nat)) :
    (r.take_frames frames).pictures = (from_opening seen frames).flatMap
      (fun frame => h265_pictures frame.2 (nal_units frame.1)) := by
  induction frames generalizing r seen with
  | nil => exact h.pictures
  | cons frame rest ih =>
    have hframe := h.take_units frame.2 (nal_units frame.1)
    have hstep : r.take_frames (frame :: rest) = (r.take_frame frame).2.take_frames rest := rfl
    rw [hstep, from_opening]
    split at hframe
    · next hopening =>
      rw [if_pos hopening, List.flatMap_cons]
      exact (hframe.1.take_frames rest).trans (by rw [hframe.2])
    · next hwaits =>
      rw [if_neg hwaits]
      exact ih hframe

end Recording

theorem opens_of_from_opening {seen : List Bytes} {frames rest : List (Bytes × Nat)}
    {frame : Bytes × Nat} (hfrom : from_opening seen frames = frame :: rest) :
    opens (nal_units frame.1) = true := by
  induction frames generalizing seen with
  | nil => cases hfrom
  | cons first others ih =>
    rw [from_opening] at hfrom
    split at hfrom
    · next hopening =>
      obtain ⟨rfl, -⟩ := List.cons.inj hfrom
      exact hopening.1
    · exact ih hfrom

/-- The first picture of the opening frame is a key frame. -/
theorem h265_pictures_of_opens {units : List Bytes} (hopens : opens units = true)
    (duration : Nat) : ∃ first rest, h265_pictures duration units = first :: rest ∧
      first.random_access = true := by
  induction units with
  | nil => simp [opens] at hopens
  | cons nal rest ih =>
    cases hset : is_parameter_set true nal with
    | true =>
      have hskip : h265_pictures duration (nal :: rest) = h265_pictures duration rest := by
        simp [h265_pictures, hset]
      rw [hskip]
      exact ih (by simpa [opens, hset] using hopens)
    | false =>
      refine ⟨h265_picture duration nal, h265_pictures duration rest, ?_, ?_⟩
      · simp [h265_pictures, hset]
      · simpa [opens, hset, h265_picture] using hopens

end amldigitalfpv.minimp4

import AMLDigitalFPV.MiniMp4.AccessUnits
import AMLDigitalFPV.MiniMp4.AnnexB
import AMLDigitalFPV.MiniMp4.RecordedFile

namespace amldigitalfpv.minimp4

/-- What of the frames reaches the file, said in terms of the stream alone. -/
def recorded_pictures (is_hevc : Bool) (frames : List (Bytes × Nat)) : List Picture :=
  if is_hevc then
    (from_opening [] frames).flatMap fun frame => h265_pictures frame.2 (nal_units frame.1)
  else
    h264_pictures (((from_open [] (frames.map units_of)).dropWhile
      (fun frame => ¬ frame.begins)).flatMap Units.slices)

theorem pictures_take_frames (is_hevc : Bool) (frames : List (Bytes × Nat)) :
    ((Recording.start is_hevc).take_frames frames).pictures =
      recorded_pictures is_hevc frames := by
  cases is_hevc with
  | true => exact Recording.start_waiting.take_frames frames
  | false =>
    rw [Recording.take_frames_eq]
    exact Recording.start_seeking.take_all (frames.map units_of)

/-- The frames up to this one have shown parameter sets of all three kinds, and
it goes on with a key frame. -/
def Starts (seen : List Bytes) (before : List (Bytes × Nat)) (frame : Bytes × Nat) : Prop :=
  opens (nal_units frame.1) = true ∧
    complete (seen ++ (before ++ [frame]).flatMap fun other => header (nal_units other.1)) = true

theorem from_opening_eq_nil_iff {seen : List Bytes} {frames : List (Bytes × Nat)} :
    from_opening seen frames = [] ↔
      ∀ before frame rest, frames = before ++ frame :: rest → ¬ Starts seen before frame := by
  induction frames generalizing seen with
  | nil => simp [from_opening]
  | cons first others ih =>
    rw [from_opening]
    constructor
    · intro hnone before frame rest hsplit hstarts
      split at hnone
      · cases hnone
      · next hwaits =>
        cases before with
        | nil =>
          obtain ⟨rfl, rfl⟩ := List.cons.inj hsplit
          exact hwaits (by simpa [Starts] using hstarts)
        | cons _ before =>
          obtain ⟨rfl, hothers⟩ := List.cons.inj hsplit
          exact ih.mp hnone before frame rest hothers (by simpa [Starts] using hstarts)
    · intro hnever
      split
      · next hstarts =>
        exact absurd (by simpa [Starts] using hstarts) (hnever [] first others rfl)
      · refine ih.mpr fun before frame rest hothers hstarts => ?_
        exact hnever (first :: before) frame rest (by rw [hothers, List.cons_append])
          (by simpa [Starts] using hstarts)

theorem h265_first_is_key {frames : List (Bytes × Nat)} {first : Picture}
    (hfirst : (recorded_pictures true frames).head? = some first) :
    first.random_access = true := by
  unfold recorded_pictures at hfirst
  rw [if_pos rfl] at hfirst
  cases hfrom : from_opening [] frames with
  | nil =>
    rw [hfrom] at hfirst
    cases hfirst
  | cons frame rest =>
    obtain ⟨picture, others, hpictures, hkey⟩ :=
      h265_pictures_of_opens (opens_of_from_opening hfrom) frame.2
    rw [hfrom, List.flatMap_cons, hpictures] at hfirst
    cases hfirst
    exact hkey

theorem h265_none_recorded_iff {frames : List (Bytes × Nat)} :
    recorded_pictures true frames = [] ↔
      ∀ before frame rest, frames = before ++ frame :: rest → ¬ Starts [] before frame := by
  rw [← from_opening_eq_nil_iff]
  unfold recorded_pictures
  rw [if_pos rfl]
  constructor
  · intro hnone
    cases hfrom : from_opening [] frames with
    | nil => rfl
    | cons frame rest =>
      obtain ⟨picture, others, hpictures, -⟩ :=
        h265_pictures_of_opens (opens_of_from_opening hfrom) frame.2
      rw [hfrom, List.flatMap_cons, hpictures] at hnone
      cases hnone
  · intro hnone
    rw [hnone, List.flatMap_nil]

/-- In front of the first slice of a key frame is a picture parameter set, and
the slice is the first one of its picture. -/
def KeyFrameHeaded (units : List Bytes) : Prop :=
  ∀ front slice back, units = front ++ slice :: back → h264_type slice = 5 →
    (∀ other ∈ front, h264_type other ≠ 5) →
      (∃ pps ∈ front, h264_type pps = 8) ∧ continues slice = false

/-- The recording is opened by the slice of a key frame or not at all. -/
theorem open_in_of_headed {seen units : List Bytes} (front : List Bytes)
    (hheaded : KeyFrameHeaded (front ++ units)) (hseen : ∀ nal ∈ front, nal ∈ seen)
    (hnone : missing h264_type 5 seen = true) :
    if (open_in seen units).2 = [] then
      missing h264_type 5 (open_in seen units).1 = true
    else
      ∃ slice back, (open_in seen units).2 = slice :: back ∧ h264_type slice = 5 ∧
        continues slice = false := by
  have hfront : ∀ other ∈ front, h264_type other ≠ 5 := by
    intro other hother
    have hall := List.all_eq_true.mp hnone other (hseen other hother)
    simpa using hall
  induction units generalizing seen front with
  | nil => exact hnone
  | cons nal rest ih =>
    have hmore (htype : h264_type nal ≠ 5) :
        if (open_in (seen ++ [nal]) rest).2 = [] then
          missing h264_type 5 (open_in (seen ++ [nal]) rest).1 = true
        else
          ∃ slice back, (open_in (seen ++ [nal]) rest).2 = slice :: back ∧
            h264_type slice = 5 ∧ continues slice = false := by
      have hfront' : ∀ other ∈ front ++ [nal], h264_type other ≠ 5 := by
        simpa [or_imp, forall_and] using ⟨hfront, htype⟩
      refine ih (front ++ [nal]) (by simpa using hheaded) ?_ (by simp [hnone, htype]) hfront'
      intro other hother
      rw [List.mem_append] at hother ⊢
      exact hother.imp_left (hseen other)
    rw [open_in]
    split
    · next hother =>
      refine hmore fun htype => hother (is_slice_iff.mpr ?_)
      omega
    · split
      · exact hnone
      · split
        · next hclosed =>
          refine hmore fun htype => ?_
          obtain ⟨⟨pps, hmem, hpps⟩, -⟩ := hheaded front nal rest rfl htype hfront
          obtain hmissing | hmissing := hclosed
          · have hall := List.all_eq_true.mp hmissing pps (hseen pps hmem)
            simp [hpps] at hall
          · simp [htype] at hmissing
        · next hopen =>
          have htype : h264_type nal = 5 := by
            by_contra htype
            exact hopen (.inr (by simp [hnone, htype]))
          rw [if_neg (List.cons_ne_nil nal rest)]
          exact ⟨nal, rest, rfl, htype, (hheaded front nal rest rfl htype hfront).2⟩

theorem from_open_of_headed {seen : List Bytes} {frames : List Units}
    (hheaded : ∀ frame ∈ frames, KeyFrameHeaded frame.units)
    (hnone : missing h264_type 5 seen = true) {frame : Units} {rest : List Units}
    (hfrom : from_open seen frames = frame :: rest) :
    ∃ slice back, frame.units = slice :: back ∧ h264_type slice = 5 ∧
      continues slice = false := by
  induction frames generalizing seen with
  | nil => cases hfrom
  | cons first others ih =>
    have hfirst := open_in_of_headed [] (hheaded first List.mem_cons_self)
      (List.forall_mem_nil _) hnone
    rw [from_open] at hfrom
    dsimp only at hfrom
    split at hfrom
    · next hclosed =>
      rw [if_pos hclosed] at hfirst
      exact ih (fun other hother => hheaded other (List.mem_cons_of_mem _ hother)) hfirst hfrom
    · next hopen =>
      rw [if_neg hopen] at hfirst
      obtain ⟨rfl, -⟩ := List.cons.inj hfrom
      exact hfirst

/-- The first picture is a key frame if and only if its first slice is one. -/
theorem h264_pictures_cons (slice : Bytes × Nat) (others : List (Bytes × Nat)) :
    ∃ first rest, h264_pictures (slice :: others) = first :: rest ∧
      first.random_access = decide (h264_type slice.1 = 5) := by
  have hne : (slice :: others).splitBy (fun _ slice => continues slice.1) ≠ [] :=
    List.splitBy_ne_nil.mpr (List.cons_ne_nil _ _)
  obtain ⟨group, groups, hgroups⟩ := List.exists_cons_of_ne_nil hne
  have hgroup : group ≠ [] := List.ne_nil_of_mem_splitBy (hgroups ▸ List.mem_cons_self)
  obtain ⟨front, same, rfl⟩ := List.exists_cons_of_ne_nil hgroup
  have hflatten := List.flatten_splitBy (fun _ slice => continues slice.1) (slice :: others)
  rw [hgroups, List.flatten_cons, List.cons_append, List.cons.injEq] at hflatten
  refine ⟨joined (front :: same), groups.map joined, ?_, ?_⟩
  · unfold h264_pictures
    rw [hgroups, List.map_cons]
  · simp [joined, hflatten.1]

theorem h264_first_is_key {frames : List (Bytes × Nat)}
    (hheaded : ∀ frame ∈ frames, KeyFrameHeaded (nal_units frame.1)) {first : Picture}
    (hfirst : (recorded_pictures false frames).head? = some first) :
    first.random_access = true := by
  unfold recorded_pictures at hfirst
  rw [if_neg Bool.false_ne_true] at hfirst
  cases hfrom : from_open [] (frames.map units_of) with
  | nil =>
    rw [hfrom] at hfirst
    cases hfirst
  | cons frame rest =>
    have hunits_headed : ∀ frame ∈ frames.map units_of, KeyFrameHeaded frame.units := by
      intro frame hframe
      obtain ⟨other, hother, rfl⟩ := List.mem_map.mp hframe
      exact hheaded other hother
    obtain ⟨slice, back, hunits, htype, hstarts⟩ :=
      from_open_of_headed hunits_headed rfl hfrom
    have hslices : frame.slices = (slice, frame.duration) ::
        (Units.mk back frame.duration).slices := by
      have hslice : is_slice slice = true := is_slice_iff.mpr (by omega)
      simp [Units.slices, hunits, hslice]
    have hbegins : frame.begins = true := by simp [Units.begins, hslices, hstarts]
    obtain ⟨picture, others, hpictures, hkey⟩ := h264_pictures_cons (slice, frame.duration)
      ((Units.mk back frame.duration).slices ++ rest.flatMap Units.slices)
    rw [hfrom, List.dropWhile_cons_of_neg (by simp [hbegins]), List.flatMap_cons, hslices,
      List.cons_append, hpictures] at hfirst
    cases hfirst
    rw [hkey, decide_eq_true htype]

/-- The table says of the first sample what the recording says of the first
picture. -/
theorem first_sample_is_key {offset : Nat} {pictures : List Picture}
    (hkey : ∀ first, pictures.head? = some first → first.random_access = true) {first : sample_t}
    (hfirst : (sample_table offset pictures).head? = some first) :
    first.flag_random_access = true := by
  cases pictures with
  | nil => cases hfirst
  | cons picture others =>
    rw [sample_table, List.head?_cons] at hfirst
    cases hfirst
    exact hkey picture rfl

section

variable {σ : Type} {calls : DataCalls σ} {Ready : σ → Prop} {contents : σ → Bytes} {limit : Nat}
  (hstores : Stores calls Ready contents limit) {s : σ}
include hstores

/-- The sample table of the frames written to a new file. -/
theorem Stores.sample_table_written (hready : Ready s) (hempty : contents s = [])
    (is_hevc : Bool) {frames : List (Bytes × Nat)}
    (hfits : ∀ frame ∈ frames, ∀ nal ∈ nal_units frame.1,
      is_parameter_set is_hevc nal → nal.length < 256 ^ 2)
    (hroom : 40 + (media (recorded_pictures is_hevc frames)).length ≤ limit) :
    (calls.write_frames frames (mp4_h26x_write_init opened_mux is_hevc)
      (calls.MP4E_open s).2).1.mux.smpl = sample_table 40 (recorded_pictures is_hevc frames) := by
  rw [← pictures_take_frames] at hroom ⊢
  have hopened := hstores.shows_opened hready hempty (show 32 ≤ limit by omega) is_hevc
  rw [(hstores.write_frames hopened hfits hroom).writer]
  rfl

/-- The samples are the slices from the opening one on, each behind its length,
whatever the frames are. For H.264 what is in memory behind a slice that holds its
`first_mb` has no say in it. -/
theorem Stores.samples_written (hready : Ready s) (hempty : contents s = []) (is_hevc : Bool)
    {frames : List (Bytes × Nat)}
    (hfits : ∀ frame ∈ frames, ∀ nal ∈ nal_units frame.1,
      is_parameter_set is_hevc nal → nal.length < 256 ^ 2)
    (hslices : is_hevc = false → ∀ frame ∈ frames, ∀ nal ∈ nal_units frame.1,
      is_slice nal = true → codes_first_mb nal = true)
    (hroom : 40 + (media (recorded_pictures is_hevc frames)).length ≤ limit) :
    let opened := calls.MP4E_open s
    let written := calls.write_frames frames (mp4_h26x_write_init opened_mux is_hevc) opened.2
    written.1.mux.smpl = sample_table 40 (recorded_pictures is_hevc frames) ∧
      (contents written.2).takeD (40 + (media (recorded_pictures is_hevc frames)).length) 0 =
        opening ++ media (recorded_pictures is_hevc frames) ∧
      (is_hevc = false → ∀ frame ∈ frames, ∀ nal ∈ nal_units frame.1,
        is_slice nal = true → Settled nal) ∧
      ∀ frame ∈ frames, ∀ past, past ≠ 1 →
        visits past frame.1 = (nal_units frame.1).map some := by
  refine ⟨hstores.sample_table_written hready hempty is_hevc hfits hroom, ?_, ?_, ?_⟩
  · rw [← pictures_take_frames] at hroom ⊢
    have hopened := hstores.shows_opened hready hempty (show 32 ≤ limit by omega) is_hevc
    exact (hstores.write_frames hopened hfits hroom).holds.padded
  · intro hh264 frame hframe nal hnal hslice
    exact settled_of_codes_first_mb (hslices hh264 frame hframe nal hnal hslice)
  · intro frame _ past hpast
    exact visits_of_ne_one hpast frame.1

/-- An H.265 file begins with a key frame, and it is empty exactly if no frame
has such a slice right behind its parameter sets, all three kinds of them being
known by then. -/
theorem Stores.h265_starts_with_key (hready : Ready s) (hempty : contents s = [])
    {frames : List (Bytes × Nat)}
    (hfits : ∀ frame ∈ frames, ∀ nal ∈ nal_units frame.1,
      is_parameter_set true nal → nal.length < 256 ^ 2)
    (hroom : 40 + (media (recorded_pictures true frames)).length ≤ limit) :
    let opened := calls.MP4E_open s
    let smpl :=
      (calls.write_frames frames (mp4_h26x_write_init opened_mux true) opened.2).1.mux.smpl
    (smpl = [] ↔
        ∀ before frame rest, frames = before ++ frame :: rest → ¬ Starts [] before frame) ∧
      ∀ first, smpl.head? = some first → first.flag_random_access = true := by
  dsimp only
  rw [hstores.sample_table_written hready hempty true hfits hroom, sample_table_eq_nil_iff]
  exact ⟨h265_none_recorded_iff, fun _ => first_sample_is_key fun _ => h265_first_is_key⟩

/-- So does an H.264 file, if every frame brings the picture parameter set
before the first slice of its key frame. -/
theorem Stores.h264_starts_with_key (hready : Ready s) (hempty : contents s = [])
    {frames : List (Bytes × Nat)}
    (hheaded : ∀ frame ∈ frames, KeyFrameHeaded (nal_units frame.1))
    (hfits : ∀ frame ∈ frames, ∀ nal ∈ nal_units frame.1,
      is_parameter_set false nal → nal.length < 256 ^ 2)
    (hroom : 40 + (media (recorded_pictures false frames)).length ≤ limit) :
    let opened := calls.MP4E_open s
    let smpl :=
      (calls.write_frames frames (mp4_h26x_write_init opened_mux false) opened.2).1.mux.smpl
    ∀ first, smpl.head? = some first → first.flag_random_access = true := by
  dsimp only
  rw [hstores.sample_table_written hready hempty false hfits hroom]
  exact fun _ => first_sample_is_key fun _ => h264_first_is_key hheaded

end

/-- A slice on its own, a key frame with its parameter sets, and a slice again. -/
def h265_stream : List (Bytes × Nat) :=
  [([0, 0, 1, 0x02, 0x01, 0xD0], 3000),
    ([0, 0, 1, 0x40, 0x01] ++ [0, 0, 1, 0x42, 0x01] ++ [0, 0, 1, 0x44, 0x01] ++
      [0, 0, 1, 0x26, 0x01, 0xAF], 3000),
    ([0, 0, 1, 0x02, 0x01, 0xD0], 1500)]

/-- The same in H.264, with a picture of two slices at the end. -/
def h264_stream : List (Bytes × Nat) :=
  [([0, 0, 1, 0x41, 0x9A], 3000),
    ([0, 0, 1, 0x67, 0x42] ++ [0, 0, 1, 0x68, 0xCE] ++ [0, 0, 1, 0x65, 0x88], 3000),
    ([0, 0, 1, 0x41, 0x9A] ++ [0, 0, 1, 0x41, 0x4A], 1500)]

example : recorded_pictures true h265_stream =
    [⟨[0, 0, 0, 3, 0x26, 0x01, 0xAF], 3000, true⟩,
      ⟨[0, 0, 0, 3, 0x02, 0x01, 0xD0], 1500, false⟩] := by
  decide +kernel

theorem samples_written_three :
    (file_calls.write_frames h264_stream (mp4_h26x_write_init opened_mux false)
      (file_calls.MP4E_open []).2).1.mux.smpl =
        sample_table 40
          [⟨[0, 0, 0, 2, 0x65, 0x88], 3000, true⟩,
            ⟨[0, 0, 0, 2, 0x41, 0x9A, 0, 0, 0, 2, 0x41, 0x4A], 1500, false⟩] := by
  have hstream : recorded_pictures false h264_stream =
      [⟨[0, 0, 0, 2, 0x65, 0x88], 3000, true⟩,
        ⟨[0, 0, 0, 2, 0x41, 0x9A, 0, 0, 0, 2, 0x41, 0x4A], 1500, false⟩] := by
    decide +kernel
  rw [← hstream]
  exact ((stores_file_calls 100).samples_written trivial rfl false (by decide +kernel)
    (by decide +kernel) (by rw [hstream]; decide)).1

theorem h265_starts_with_key_three :
    ∃ first, (file_calls.write_frames h265_stream (mp4_h26x_write_init opened_mux true)
        (file_calls.MP4E_open []).2).1.mux.smpl.head? = some first ∧
      first.flag_random_access = true := by
  have hfits : ∀ frame ∈ h265_stream, ∀ nal ∈ nal_units frame.1,
      is_parameter_set true nal → nal.length < 256 ^ 2 := by
    decide +kernel
  have hkey := (stores_file_calls 100).h265_starts_with_key (s := []) trivial rfl hfits
    (by decide +kernel)
  exact ⟨⟨7, 40, 3000, true⟩, by decide +kernel, hkey.2 _ (by decide +kernel)⟩

theorem headed_of_no_key {units : List Bytes} (hnone : ∀ nal ∈ units, h264_type nal ≠ 5) :
    KeyFrameHeaded units := by
  intro front slice back hsplit htype
  exact absurd htype (hnone slice (by simp [hsplit]))

theorem h264_stream_headed : ∀ frame ∈ h264_stream, KeyFrameHeaded (nal_units frame.1) := by
  intro frame hframe
  simp only [h264_stream, List.mem_cons, List.not_mem_nil, or_false] at hframe
  obtain rfl | rfl | rfl := hframe
  · exact headed_of_no_key (by decide +kernel)
  · intro front slice back hsplit htype hfirst
    have hunits : nal_units ([0, 0, 1, 0x67, 0x42] ++ [0, 0, 1, 0x68, 0xCE] ++
        [0, 0, 1, 0x65, 0x88]) = [[0x67, 0x42], [0x68, 0xCE], [0x65, 0x88]] := by
      decide +kernel
    rw [hunits] at hsplit
    obtain _ | ⟨sps, _ | ⟨pps, _ | ⟨key, others⟩⟩⟩ := front
    · cases hsplit
      cases htype
    · cases hsplit
      cases htype
    · cases hsplit
      exact ⟨⟨[0x68, 0xCE], by simp, rfl⟩, by decide⟩
    · simp at hsplit
  · exact headed_of_no_key (by decide +kernel)

theorem h264_starts_with_key_three :
    ∃ first, (file_calls.write_frames h264_stream (mp4_h26x_write_init opened_mux false)
        (file_calls.MP4E_open []).2).1.mux.smpl.head? = some first ∧
      first.flag_random_access = true := by
  have hfits : ∀ frame ∈ h264_stream, ∀ nal ∈ nal_units frame.1,
      is_parameter_set false nal → nal.length < 256 ^ 2 := by
    decide +kernel
  have hkey := (stores_file_calls 100).h264_starts_with_key (s := []) trivial rfl
    h264_stream_headed hfits (by decide +kernel)
  exact ⟨⟨6, 40, 3000, true⟩, by decide +kernel, hkey _ (by decide +kernel)⟩

end amldigitalfpv.minimp4

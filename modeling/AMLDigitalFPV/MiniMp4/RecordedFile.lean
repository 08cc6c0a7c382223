import AMLDigitalFPV.MiniMp4.FileImage

namespace amldigitalfpv.minimp4

open big_endian items

/-- The file that a recording is closed to. -/
def recorded_file (info : MP4E_track_t) (r : Recording) : Bytes :=
  box_ftyp ++ mdat_header r.mux.write_pos ++ media r.pictures ++ index_atoms info r.mux

/-- A file that takes every write, with memory at hand. -/
def file_calls : DataCalls Bytes :=
  { write_callback := fun offset data contents => (0, put_at offset data contents)
    malloc := fun contents => (true, contents) }

theorem stores_file_calls (limit : Nat) : Stores file_calls (fun _ => True) id limit where
  malloc_ok := by intros; rfl
  malloc_ready := by intros; trivial
  malloc_contents := by intros; rfl
  write_ok := by intros; rfl
  write_ready := by intros; trivial
  write_contents := by intros; rfl

theorem ne_nil_of_mem_nal_units {data nal : Bytes} (hnal : nal ∈ nal_units data) : nal ≠ [] := by
  rw [nal_units, List.reduceOption_mem_iff, visits] at hnal
  generalize data.length = fuel at hnal
  induction fuel generalizing data with
  | zero => cases hnal
  | succ fuel ih =>
    rw [visits_from] at hnal
    split at hnal
    · simp at hnal
    · next found hfound =>
      split at hnal
      · cases hnal
      · next hne =>
        obtain heq | hrest := List.mem_cons.mp hnal
        · cases heq
          exact hne
        · exact ih hrest

theorem length_mdat_header (write_pos : Nat) : (mdat_header write_pos).length = 16 := by
  unfold mdat_header write_mdat_header
  dsimp only
  split <;> simp [sections.Buffer.emit, sections.Buffer.empty]

theorem take_takeD {contents : Bytes} {length length' : Nat} (hle : length ≤ length') :
    (contents.takeD length' 0).take length = contents.takeD length 0 := by
  induction length generalizing contents length' with
  | zero => rfl
  | succ length ih =>
    obtain ⟨length', rfl⟩ := Nat.exists_eq_succ_of_ne_zero (show length' ≠ 0 by omega)
    rw [Nat.succ_eq_add_one, List.takeD_succ, List.takeD_succ, List.take_succ_cons,
      ih (Nat.le_of_succ_le_succ hle)]

theorem takeD_drop (contents : Bytes) (start length : Nat) :
    (contents.drop start).takeD length 0 = (contents.takeD (start + length) 0).drop start := by
  induction start generalizing contents with
  | zero => rw [List.drop_zero, List.drop_zero, Nat.zero_add]
  | succ start ih =>
    rw [Nat.add_right_comm, List.takeD_succ, List.drop_succ_cons, ← ih, List.drop_tail]

theorem takeD_append (front back : Bytes) (length : Nat) :
    (front ++ back).takeD (front.length + length) 0 = front ++ back.takeD length 0 := by
  induction front with
  | nil => rw [List.nil_append, List.nil_append, List.length_nil, Nat.zero_add]
  | cons byte rest ih =>
    rw [List.length_cons, Nat.add_right_comm, List.cons_append, List.takeD_succ, List.tail_cons,
      ih]
    rfl

/-- The new header takes the room that opening left for it. -/
theorem Holds.put_header {pictures : List Picture} {contents header : Bytes}
    (h : Holds pictures contents) (hheader : header.length = 16) :
    (put_at 24 header contents).length ≤ 40 + (media pictures).length ∧
      (put_at 24 header contents).takeD (40 + (media pictures).length) 0 =
        box_ftyp ++ header ++ media pictures := by
  have hle := h.length_le
  have hftyp : contents.takeD 24 0 = box_ftyp := by
    rw [← take_takeD (show 24 ≤ 40 + (media pictures).length by omega), h.padded, opening,
      List.append_assoc, List.append_assoc, show 24 = box_ftyp.length from rfl, List.take_left]
  have hrest : (contents.drop 40).takeD (media pictures).length 0 = media pictures := by
    rw [takeD_drop, h.padded, ← length_opening, List.drop_left]
  have hfront : (box_ftyp ++ header).length = 40 := by
    rw [List.length_append, hheader]
    rfl
  rw [put_at, hftyp, hheader]
  constructor
  · rw [List.length_append, hfront, List.length_drop]
    omega
  · have hlength := takeD_append (box_ftyp ++ header) (contents.drop 40) (media pictures).length
    rw [hfront, hrest] at hlength
    exact hlength

section

variable {σ : Type} {calls : DataCalls σ} {Ready : σ → Prop} {contents : σ → Bytes} {limit : Nat}
  (hstores : Stores calls Ready contents limit) {s : σ}
include hstores

theorem Stores.write_frames {r : Recording} {h : mp4_h26x_writer_t}
    (hshows : Shows Ready contents r h s) {frames : List (Bytes × Nat)}
    (hfits : ∀ frame ∈ frames, ∀ nal ∈ nal_units frame.1,
      is_parameter_set r.is_hevc nal → nal.length < 256 ^ 2)
    (hroom : 40 + (media (r.take_frames frames).pictures).length ≤ limit) :
    Shows Ready contents (r.take_frames frames) (calls.write_frames frames h s).1
      (calls.write_frames frames h s).2 := by
  induction frames generalizing r h s with
  | nil => exact hshows
  | cons frame rest ih =>
    have hgrows := Recording.grows_take_units r frame.2 (nal_units frame.1)
    have hrest := Recording.grows_take_frames (r.take_frame frame).2 rest
    obtain ⟨-, hnext⟩ := hshows.write_nal_units hstores
      (fun nal hnal hset => ⟨ne_nil_of_mem_nal_units hnal,
        hfits frame List.mem_cons_self nal hnal hset⟩) frame.2
      (le_trans (Nat.add_le_add_left hrest.length_le 40) hroom)
    apply ih hnext _ hroom
    intro other hother
    rw [hgrows.is_hevc]
    exact hfits other (List.mem_cons_of_mem _ hother)

theorem Stores.opened (hready : Ready s) (hempty : contents s = []) (hlimit : 32 ≤ limit) :
    (calls.MP4E_open s).1 = true ∧ Ready (calls.MP4E_open s).2 ∧
      contents (calls.MP4E_open s).2 = box_ftyp ++ box_ftyp.take 8 := by
  have hftyp : box_ftyp ≠ [] := by decide
  have hfiller : box_ftyp.take 8 ≠ [] := by decide
  have hend : 0 + box_ftyp.length ≤ limit := le_trans (by decide) hlimit
  have hend' : 24 + (box_ftyp.take 8).length ≤ limit := hlimit
  have hready' := hstores.write_ready 0 box_ftyp s hready hftyp hend
  have hmemory := hstores.malloc_ready _ hready'
  have hcontents := hstores.write_contents 24 (box_ftyp.take 8) _ hmemory hfiller hend'
  rw [hstores.malloc_contents _ hready', hstores.write_contents 0 box_ftyp s hready hftyp hend,
    hempty] at hcontents
  unfold DataCalls.MP4E_open
  dsimp only
  rw [if_neg (not_not.mpr (hstores.write_ok 0 box_ftyp s hready hftyp hend)),
    if_neg (not_not.mpr (hstores.malloc_ok _ hready')),
    if_neg (not_not.mpr (hstores.write_ok 24 _ _ hmemory hfiller hend'))]
  exact ⟨rfl, hstores.write_ready 24 _ _ hmemory hfiller hend', hcontents⟩

omit hstores in
theorem holds_opened : Holds [] (box_ftyp ++ box_ftyp.take 8) := by
  constructor <;> decide

/-- The writer that is set up after opening has nothing recorded yet. -/
theorem Stores.shows_opened (hready : Ready s) (hempty : contents s = []) (hlimit : 32 ≤ limit)
    (is_hevc : Bool) :
    Shows Ready contents (Recording.start is_hevc) (mp4_h26x_write_init opened_mux is_hevc)
      (calls.MP4E_open s).2 := by
  obtain ⟨-, hopened, hcontents⟩ := hstores.opened hready hempty hlimit
  refine ⟨rfl, hopened, ?_, Recording.start_setsStored is_hevc⟩
  rw [hcontents]
  exact holds_opened

theorem Stores.closed {r : Recording} {h : mp4_h26x_writer_t}
    (hshows : Shows Ready contents r h s) (info : MP4E_track_t)
    (hroom : (recorded_file info r).length ≤ limit) :
    (calls.MP4E_close info h.mux s).1 = 0 ∧ Ready (calls.MP4E_close info h.mux s).2 ∧
      contents (calls.MP4E_close info h.mux s).2 = recorded_file info r := by
  obtain ⟨rfl, hready, hholds, -⟩ := hshows
  have hlength := length_mdat_header r.mux.write_pos
  have hindex : index_atoms info r.mux ≠ [] := by
    rw [index_atoms_eq, moov_box, atom]
    simp [sections.encode_section, encode]
  have htotal : (recorded_file info r).length =
      40 + (media r.pictures).length + (index_atoms info r.mux).length := by
    simp only [recorded_file, List.length_append, hlength]
    rfl
  have hheader : mdat_header r.mux.write_pos ≠ [] := by
    intro hnil
    rw [hnil] at hlength
    cases hlength
  have hend : 24 + (mdat_header r.mux.write_pos).length ≤ limit := by omega
  have hpos : r.mux.write_pos = 40 + (media r.pictures).length := rfl
  have hend' : r.mux.write_pos + (index_atoms info r.mux).length ≤ limit := by omega
  have hmemory := hstores.malloc_ready s hready
  have hpatched := hstores.write_ready 24 _ _ hmemory hheader hend
  obtain ⟨hshort, hpadded⟩ := hholds.put_header hlength
  rw [← hpos] at hshort hpadded
  have hcontents := hstores.write_contents r.mux.write_pos _ _ hpatched hindex hend'
  rw [hstores.write_contents 24 _ _ hmemory hheader hend, hstores.malloc_contents s hready]
    at hcontents
  unfold DataCalls.MP4E_close DataCalls.mp4e_flush_index
  dsimp only
  rw [if_neg (not_not.mpr (hstores.malloc_ok s hready)),
    show r.writer.mux = r.mux from rfl,
    if_neg (not_not.mpr (hstores.write_ok 24 _ _ hmemory hheader hend))]
  refine ⟨hstores.write_ok _ _ _ hpatched hindex hend',
    hstores.write_ready _ _ _ hpatched hindex hend', hcontents.trans ?_⟩
  rw [put_at, hpadded, List.drop_of_length_le (by omega), List.append_nil]
  rfl

/-- Frames that are written to an empty file, whatever NAL units they are made
of, leave the header, the data of the pictures and the index in it. -/
theorem Stores.recording_closed (hready : Ready s) (hempty : contents s = []) (is_hevc : Bool)
    {frames : List (Bytes × Nat)} (info : MP4E_track_t)
    (hfits : ∀ frame ∈ frames, ∀ nal ∈ nal_units frame.1,
      is_parameter_set is_hevc nal → nal.length < 256 ^ 2)
    (hroom : (recorded_file info ((Recording.start is_hevc).take_frames frames)).length ≤ limit) :
    let opened := calls.MP4E_open s
    let written := calls.write_frames frames (mp4_h26x_write_init opened_mux is_hevc) opened.2
    let closed := calls.MP4E_close info written.1.mux written.2
    opened.1 = true ∧ closed.1 = 0 ∧
      written.1 = ((Recording.start is_hevc).take_frames frames).writer ∧ Ready closed.2 ∧
      contents closed.2 = recorded_file info ((Recording.start is_hevc).take_frames frames) := by
  have htotal : 40 + (media ((Recording.start is_hevc).take_frames frames).pictures).length ≤
      limit := by
    apply le_trans _ hroom
    simp only [recorded_file, List.length_append, length_mdat_header]
    have hftyp : box_ftyp.length = 24 := rfl
    omega
  have hlimit : 32 ≤ limit := by omega
  have hshows := hstores.write_frames (hstores.shows_opened hready hempty hlimit is_hevc) hfits
    htotal
  obtain ⟨hclosed, hdone, hcontents⟩ := hstores.closed hshows info hroom
  exact ⟨(hstores.opened hready hempty hlimit).1, hclosed, hshows.writer, hdone, hcontents⟩

end

end amldigitalfpv.minimp4

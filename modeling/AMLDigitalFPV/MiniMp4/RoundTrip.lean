import AMLDigitalFPV.MiniMp4.DemuxMovie
import AMLDigitalFPV.MiniMp4.IndexSize
import AMLDigitalFPV.MiniMp4.ParameterSets
import AMLDigitalFPV.MiniMp4.RecordedFile

namespace amldigitalfpv.minimp4

open big_endian sections items run_length

/-- The boxes of a recording that the parser has no case for. -/
def Skipped (box_name : Option BoxName) : Prop :=
  box_name ∈ [none, some BoxName.BOX_free, some .BOX_mdat, some .BOX_tkhd, some .BOX_vmhd,
    some .BOX_dref, some .BOX_stss]

instance (box_name : Option BoxName) : Decidable (Skipped box_name) :=
  inferInstanceAs (Decidable (box_name ∈ _))

section

variable {malloc : Nat → Bool} {file_size level : Nat} {more : Bytes}
  {found found₀ found' found'' : Found}

theorem Parses.skipped_small {name : Nat} (hname : name < 256 ^ 4)
    (hskipped : Skipped (BoxName.of_code name)) {body : Bytes}
    (hbody : 8 + body.length < 0xFFFFFFFF) :
    Parses malloc file_size level more (encode_section (encode 4 name) body) found found := by
  generalize hbox_name : BoxName.of_code name = box_name at hskipped
  have hunknown : box_name.bind g_fullbox = none ∧ box_name.bind g_envelope_box = none ∧
      (∀ box_bytes st, (read_box malloc box_name box_bytes 0).run st = .ok ((), st)) ∧
      (∀ st, (read_tag_box malloc box_name).run st = .ok (true, st)) ∧
      ∀ st, (switch_track malloc box_name).run st = .ok (true, st) := by
    simp only [Skipped, List.mem_cons, List.not_mem_nil, or_false] at hskipped
    obtain rfl | rfl | rfl | rfl | rfl | rfl | rfl := hskipped <;>
      exact ⟨rfl, rfl, fun _ _ => rfl, fun _ => rfl, fun _ => rfl⟩
  obtain ⟨hplain, hleaf, hbox, htag, htrack⟩ := hunknown
  have hreads : ReadsBox malloc file_size more (encode_section (encode 4 name) body) box_name body
      found found :=
    ReadsBox.of_small_box hname hbox_name hbody hplain (fun stack => hbox _ _) htag
      (fun stack unread payload_bytes => htrack _)
  apply hreads.leaf hleaf
  rw [length_encode_section]
  omega

theorem Parses.skipped (hfile : file_size < 0xFFFFFFFF) {name : Nat} (hname : name < 256 ^ 4)
    (hskipped : Skipped (BoxName.of_code name)) (body : Bytes) :
    Parses malloc file_size level more (encode_section (encode 4 name) body) found found := by
  intro stack payload_bytes hstack hatoms hfits hsize
  have hlength : (encode_section (encode 4 name) body).length = 8 + body.length := by
    rw [length_encode_section, length_encode]
  exact Parses.skipped_small hname hskipped (by omega) stack payload_bytes hstack hatoms hfits hsize

theorem Parses.skipped_atom (hfile : file_size < 0xFFFFFFFF) {x : BoxName}
    (hx : Skipped (some x)) (fields : Bytes) (children : List Section) :
    Parses malloc file_size level more (atom x fields children).encode found found := by
  rw [atom, encode_mk]
  apply Parses.skipped hfile x.code_lt
  rw [BoxName.of_code_code]
  exact hx

/-- A box with a version whose fields are read. -/
theorem Parses.full_leaf (hfile : file_size < 0xFFFFFFFF) {x : BoxName} (hx : Ordinary x)
    {max_version : Nat} {use_track_flag : Bool}
    (hfull : g_fullbox x = some (max_version, use_track_flag)) (hleaf : g_envelope_box x = none)
    (huse : use_track_flag → found.tr) {fields : Bytes} (left : Bytes)
    (hleft : left.length ≤ fields.length)
    (hbox : ∀ stack, (read_box malloc (some x) (8 + (4 + fields.length)) 0).run
        (found.reading stack (fields ++ more) fields.length) =
      .ok ((), found'.reading stack (left ++ more) left.length)) :
    Parses malloc file_size level more (atom_full x 0 fields []).encode found found' := by
  have hmeta : some x ≠ some BoxName.BOX_meta := by
    rintro ⟨rfl⟩
    exact absurd hx (by decide)
  have hreads := ReadsBox.of_full_box x.code_lt x.of_code_code hfile hfull hmeta huse
    (show 0 < 2 ^ 24 by decide) hbox (hx.run_read_tag_box malloc)
    (fun stack unread payload_bytes => hx.run_switch_track malloc _)
  rw [atom_full, atom, encode_mk, encode_all_nil, List.append_nil]
  apply hreads.leaf hleaf
  rw [length_encode_section, List.length_append]
  omega

/-- A box without a version whose fields are read. -/
theorem Parses.leaf_atom (hfile : file_size < 0xFFFFFFFF) {x : BoxName} (hx : Ordinary x)
    (hplain : g_fullbox x = none) (hleaf : g_envelope_box x = none) {fields : Bytes} (left : Bytes)
    (hleft : left.length ≤ fields.length)
    (hbox : ∀ stack, (read_box malloc (some x) (8 + fields.length) 0).run
        (found.reading stack (fields ++ more) fields.length) =
      .ok ((), found'.reading stack (left ++ more) left.length)) :
    Parses malloc file_size level more (atom x fields []).encode found found' := by
  have hreads := ReadsBox.of_box x.code_lt x.of_code_code hfile hplain hbox
    (hx.run_read_tag_box malloc) (fun stack unread payload_bytes => hx.run_switch_track malloc _)
  rw [atom, encode_mk, encode_all_nil, List.append_nil]
  apply hreads.leaf hleaf
  rw [length_encode_section]
  omega

/-- A box without a version that others stand in. -/
theorem Parses.envelope_atom (hfile : file_size < 0xFFFFFFFF) {x : BoxName}
    (hplain : g_fullbox x = none) (henvelope : g_envelope_box x = some .BOX_ATOM)
    {fields left : Bytes} {children : List Section} (hne : left ≠ [])
    (hleft : left.length ≤ (fields ++ encode_all children).length)
    (hlevel : level + 1 < MAX_CHUNKS_DEPTH)
    (hbox : ∀ stack, (read_box malloc (some x) (8 + (fields ++ encode_all children).length) 0).run
        (found.reading stack (fields ++ encode_all children ++ more)
          (fields ++ encode_all children).length) =
      .ok ((), found₀.reading stack (left ++ more) left.length))
    (htag : ∀ st, (read_tag_box malloc (some x)).run st = .ok (true, st))
    (htrack : ∀ stack unread payload_bytes, (switch_track malloc (some x)).run
        (found₀.reading stack unread payload_bytes) =
      .ok (true, found'.reading stack unread payload_bytes))
    (hchildren : Fills malloc file_size (level + 1) more left found' found'') :
    Parses malloc file_size level more (atom x fields children).encode found found'' := by
  have hreads := ReadsBox.of_box x.code_lt x.of_code_code hfile hplain hbox htag htrack
  rw [atom, encode_mk]
  apply hreads.envelope henvelope hne _ hlevel hchildren
  rw [length_encode_section]
  omega

/-- A box that is nothing but the boxes in it. -/
theorem Parses.container_of_fills (hfile : file_size < 0xFFFFFFFF) {x : BoxName}
    (hx : x ∈ [BoxName.BOX_moov, .BOX_mdia, .BOX_minf, .BOX_dinf, .BOX_stbl])
    {children : List Section} (hne : encode_all children ≠ [])
    (hlevel : level + 1 < MAX_CHUNKS_DEPTH)
    (hchildren : Fills malloc file_size (level + 1) more (encode_all children) found found') :
    Parses malloc file_size level more (atom x [] children).encode found found' := by
  have hcases : g_fullbox x = none ∧ g_envelope_box x = some .BOX_ATOM ∧ Ordinary x ∧
      ∀ box_bytes st, (read_box malloc (some x) box_bytes 0).run st = .ok ((), st) := by
    simp only [List.mem_cons, List.not_mem_nil, or_false] at hx
    obtain rfl | rfl | rfl | rfl | rfl := hx <;>
      exact ⟨rfl, rfl, by decide, fun _ _ => rfl⟩
  obtain ⟨hplain, henvelope, hordinary, hbox⟩ := hcases
  exact Parses.envelope_atom hfile hplain henvelope hne le_rfl hlevel (fun stack => hbox _ _)
    (hordinary.run_read_tag_box malloc)
    (fun stack unread payload_bytes => hordinary.run_switch_track malloc _) hchildren

theorem Parses.container (hfile : file_size < 0xFFFFFFFF) {x : BoxName}
    (hx : x ∈ [BoxName.BOX_moov, .BOX_mdia, .BOX_minf, .BOX_dinf, .BOX_stbl])
    {children : List Section} (hne : encode_all children ≠ [])
    (hlevel : level + 1 < MAX_CHUNKS_DEPTH)
    (hchildren : Parses malloc file_size (level + 1) more (encode_all children) found found') :
    Parses malloc file_size level more (atom x [] children).encode found found' :=
  Parses.container_of_fills hfile hx hne hlevel hchildren.fills

end

section

variable {malloc : Nat → Bool} {file_size level : Nat} {more : Bytes} {movie : MP4D_demux_t}
  {track : MP4D_track_t} (hfile : file_size < 0xFFFFFFFF) (info : MP4E_track_t) (mux : MP4E_mux_t)
include hfile

theorem parses_mvhd {found : Found} (hmore : more ≠ []) :
    Parses malloc file_size level more (mvhd_box info mux).encode found
      { found with mp4 := { found.mp4 with
          timescale := MOOV_TIMESCALE
          duration_hi := 0
          duration_lo := moov_duration info (get_duration mux.smpl) % 2 ^ 32 } } := by
  have hfull : g_fullbox .BOX_mvhd = some (1, false) := rfl
  have htimescale : MOOV_TIMESCALE % 2 ^ 32 = MOOV_TIMESCALE := rfl
  have htimes : (be4 [0, 0]).length = 8 := rfl
  have htrailer : (be4 [0x00010000] ++ be2 [0x0100, 0] ++
      be4 ([0, 0] ++ unity_matrix ++ [0, 0, 0, 0, 0, 0, 2])).length = 80 := rfl
  apply Parses.full_leaf hfile (by decide) hfull rfl Bool.noConfusion [] (Nat.zero_le _)
  intro stack
  have hread := run_read_mvhd found stack more htimes MOOV_TIMESCALE
    (moov_duration info (get_duration mux.smpl)) htrailer hmore
  rw [htimescale] at hread
  simpa [read_box, unity_matrix] using hread

theorem parses_mdhd :
    Parses malloc file_size level more (mdhd_box info mux).encode (in_track movie track)
      (in_track movie { track with
        timescale := info.time_scale % 2 ^ 32
        duration_hi := 0
        duration_lo := get_duration mux.smpl
        language := [lang_code info % 2 ^ 16 / 2 ^ 10 % 32 + 0x60,
          lang_code info % 2 ^ 16 / 2 ^ 5 % 32 + 0x60, lang_code info % 2 ^ 16 % 32 + 0x60] }) := by
  have hfull : g_fullbox .BOX_mdhd = some (1, true) := rfl
  have htimes : (be4 [0, 0]).length = 8 := rfl
  have hduration : get_duration mux.smpl % 2 ^ 32 = get_duration mux.smpl := Nat.mod_mod _ _
  apply Parses.full_leaf hfile (by decide) hfull rfl (fun _ => rfl) (encode 2 0) (by simp)
  intro stack
  have hread := run_read_mdhd movie track stack (encode 2 0 ++ more) htimes info.time_scale
    (get_duration mux.smpl) (lang_code info)
  rw [hduration] at hread
  simpa [read_box] using hread

theorem parses_hdlr :
    Parses malloc file_size level more hdlr_box.encode (in_track movie track)
      (in_track movie { track with handler_type := MP4E_HANDLER_TYPE_VIDE }) := by
  have hfull : g_fullbox .BOX_hdlr = some (0, false) := rfl
  have hpre : (be4 [0]).length = 4 := rfl
  have hvide : MP4E_HANDLER_TYPE_VIDE % 2 ^ 32 = MP4E_HANDLER_TYPE_VIDE := rfl
  apply Parses.full_leaf hfile (by decide) hfull rfl Bool.noConfusion
    (be4 [0, 0, 0] ++ handler_ascii ++ [0]) (by simp [handler_ascii])
  intro stack
  have hread := run_read_hdlr movie track stack (be4 [0, 0, 0] ++ handler_ascii ++ [0] ++ more) hpre
    MP4E_HANDLER_TYPE_VIDE (show 8 ≤ 33 by decide)
  rw [hvide] at hread
  simpa [read_box, handler_ascii] using hread

theorem parses_stts {room : Nat} (hroom : 4 * room < 2 ^ 32)
    (hmalloc : ∀ count ≤ room, malloc (count * 4) = true) (hcount : mux.smpl.length ≤ room) :
    Parses malloc file_size level more (stts_box mux).encode (in_track movie track)
      (in_track movie { track with
        timestamp := timestamps 0 (mux.smpl.map (·.duration % 2 ^ 32))
        duration := mux.smpl.map (·.duration % 2 ^ 32) }) := by
  have hexpand : expand (duration_runs mux) = mux.smpl.map (·.duration) := expand_runs _
  have hlength : (duration_runs mux).length ≤ mux.smpl.length := by
    have hle := length_runs_le (mux.smpl.map (·.duration))
    rwa [List.length_map] at hle
  have hfull : g_fullbox .BOX_stts = some (0, false) := rfl
  apply Parses.full_leaf hfile (by decide) hfull rfl Bool.noConfusion [] (Nat.zero_le _)
  intro stack
  have hread := run_read_stts movie track stack more hroom hmalloc (duration_runs mux)
    (hlength.trans hcount) (by rw [hexpand, List.length_map]; exact hcount)
  rw [hexpand, List.map_map] at hread
  have hfields : (be4 [(duration_runs mux).length] ++
      (duration_runs mux).flatMap fun run => be4 [run.1, run.2]).length =
      4 + 8 * (duration_runs mux).length := by
    have hbox := length_stts_box mux
    rw [stts_box, length_atom_full, encode_all_nil, List.length_nil, Nat.add_zero] at hbox
    simpa [ATOM_FULL] using hbox
  rw [hfields, be4_cons, be4_nil, List.append_nil, List.append_assoc]
  exact hread

theorem parses_stsc (hmalloc : malloc 8 = true) (hmore : more ≠ []) :
    Parses malloc file_size level more stsc_box.encode (in_track movie track)
      (in_track movie { track with
        sample_to_chunk_count := 1
        sample_to_chunk := [⟨1, 1⟩] }) := by
  have hfull : g_fullbox .BOX_stsc = some (0, true) := rfl
  apply Parses.full_leaf hfile (by decide) hfull rfl (fun _ => rfl) [] (Nat.zero_le _)
  intro stack
  have hread := run_read_stsc movie track stack more hmalloc hmore
  simpa [read_box] using hread

theorem parses_stsz (hmalloc : malloc (mux.smpl.length * 4) = true)
    (hcount : mux.smpl.length * 4 < 2 ^ 32) :
    Parses malloc file_size level more (stsz_box mux).encode (in_track movie track)
      (in_track movie { track with
        sample_count := mux.smpl.length
        entry_size := mux.smpl.map (·.size % 2 ^ 32) }) := by
  have hfull : g_fullbox .BOX_stsz = some (0, true) := rfl
  apply Parses.full_leaf hfile (by decide) hfull rfl (fun _ => rfl) [] (Nat.zero_le _)
  intro stack
  have hread := run_read_stsz movie track stack more
    (mux.smpl.map (·.size)) (by rwa [List.length_map]) (by rwa [List.length_map])
  have hfields : (be4 [0, mux.smpl.length] ++ be4 (mux.smpl.map (·.size))).length =
      8 + 4 * mux.smpl.length := by
    rw [List.length_append, length_be4, length_be4, List.length_map]
    rfl
  rw [List.length_map, List.map_map] at hread
  rw [hfields, be4_cons, be4_cons, be4_nil, List.append_nil, List.append_assoc, List.append_assoc]
  exact hread

theorem parses_stco (hmalloc : malloc (mux.smpl.length * 8) = true)
    (hcount : mux.smpl.length * 8 < 2 ^ 32) (h32 : is_64_bit mux = false) :
    Parses malloc file_size level more (stco_box mux).encode (in_track movie track)
      (in_track movie { track with
        chunk_count := mux.smpl.length
        chunk_offset := mux.smpl.map (·.offset % 2 ^ 32) }) := by
  unfold stco_box
  rw [h32]
  have hfull : g_fullbox .BOX_stco = some (0, true) := rfl
  apply Parses.full_leaf hfile (by decide) hfull rfl (fun _ => rfl) [] (Nat.zero_le _)
  intro stack
  have hread := run_read_stco movie track stack more
    (mux.smpl.map (·.offset)) (by rwa [List.length_map]) (by rwa [List.length_map])
  have hfields : (be4 [mux.smpl.length] ++ be4 (mux.smpl.map (·.offset))).length =
      4 + 4 * mux.smpl.length := by
    rw [List.length_append, length_be4, length_be4, List.length_map]
    rfl
  rw [List.length_map, List.map_map] at hread
  rw [hfields, be4_cons, be4_nil, List.append_nil, List.append_assoc]
  exact hread

theorem parses_avcC {r : Recording} (hmalloc : ∀ size ≤ file_size, malloc size = true)
    (hstored : r.SetsStored) (hsps : r.sps.length < 32) (hpps : r.pps.length < 256)
    (hsize : (avcC_box r.mux).encode.length ≤ file_size) :
    Parses malloc file_size level more (avcC_box r.mux).encode (in_track movie track)
      (in_track movie { track with
        object_type_indication := MP4_OBJECT_TYPE_AVC
        dsi := some (UInt8.ofNat r.sps.length :: pack r.sps ++
          (UInt8.ofNat r.pps.length :: pack r.pps))
        dsi_bytes := 15 + (pack r.sps).length + (pack r.pps).length }) := by
  have hsps_count : ∀ count < 32, (0xe0 ||| count) % 256 % 32 = count := by decide
  have hlength := length_avcC_box r.mux
  change _ = 8 + (6 + (pack r.sps).length + 1 + (pack r.pps).length) at hlength
  rw [hlength] at hsize
  have hsps_items : (0xe0 ||| items_count r.mux.vsps) % 256 % 32 = r.sps.length := by
    rw [show r.mux.vsps = pack r.sps from rfl, items_count_pack hstored.sps]
    exact hsps_count _ hsps
  have hpps_items : items_count r.mux.vpps % 256 = r.pps.length := by
    rw [show r.mux.vpps = pack r.pps from rfl, items_count_pack hstored.pps]
    exact Nat.mod_eq_of_lt hpps
  have hbytes : malloc (15 + (pack r.sps).length + (pack r.pps).length) = true :=
    hmalloc _ (by omega)
  have hread (stack : List (Nat × boxtype_t)) := run_read_avcC movie track stack more 1
    (r.mux.vsps.getD 3 0).toNat (r.mux.vsps.getD 4 0).toNat (r.mux.vsps.getD 5 0).toNat 255 hbytes
    (by omega) (by omega) hsps_items hpps_items hstored.sps hstored.pps
  have hfields : (encode 1 1 ++ encode 1 (r.mux.vsps.getD 3 0).toNat ++
      encode 1 (r.mux.vsps.getD 4 0).toNat ++ encode 1 (r.mux.vsps.getD 5 0).toNat ++
      encode 1 255 ++ encode 1 (0xe0 ||| items_count r.mux.vsps) ++ r.mux.vsps ++
      encode 1 (items_count r.mux.vpps) ++ r.mux.vpps).length =
      7 + (pack r.sps).length + (pack r.pps).length := by
    simp only [List.length_append, length_encode]
    change 6 + (pack r.sps).length + 1 + (pack r.pps).length = _
    omega
  have hbox_bytes : 8 + (7 + (pack r.sps).length + (pack r.pps).length) =
      15 + (pack r.sps).length + (pack r.pps).length := by omega
  apply Parses.leaf_atom hfile (by decide) rfl rfl [] (Nat.zero_le _)
  intro stack
  rw [hfields, hbox_bytes]
  simp only [List.append_assoc]
  change (read_avcC malloc _).run _ = _
  rw [show r.mux.vsps = pack r.sps from rfl, show r.mux.vpps = pack r.pps from rfl] at hread ⊢
  rw [hread, List.nil_append, List.length_nil]

omit hfile in
theorem Parses.single {first : Section} {found found' : Found}
    (hfirst : Parses malloc file_size level more first.encode found found') :
    Parses malloc file_size level more (encode_all [first]) found found' := by
  rw [encode_all_cons, encode_all_nil, List.append_nil]
  exact hfirst

omit hfile in
theorem Parses.cons {first next : Section} {rest : List Section} {found found' found'' : Found}
    (hfirst : Parses malloc file_size level (encode_all (next :: rest) ++ more) first.encode found
      found')
    (hrest : Parses malloc file_size level more (encode_all (next :: rest)) found' found'') :
    Parses malloc file_size level more (encode_all (first :: next :: rest)) found found'' := by
  rw [encode_all_cons]
  exact Parses.append (encode_all_ne_nil (List.cons_ne_nil _ _)) hfirst hrest

/-- What a sample description says of a track. That of an H.265 track is not
looked at: it is taken for a box that is too large. -/
def described (r : Recording) (track : MP4D_track_t) : MP4D_track_t :=
  if r.is_hevc then
    track
  else
    { track with
      object_type_indication := MP4_OBJECT_TYPE_AVC
      dsi := some (UInt8.ofNat r.sps.length :: pack r.sps ++
        (UInt8.ofNat r.pps.length :: pack r.pps))
      dsi_bytes := 15 + (pack r.sps).length + (pack r.pps).length
      SampleDescription := (info.width % 2 ^ 16, info.height % 2 ^ 16) }

theorem parses_avc1 {r : Recording} (hmalloc : ∀ size ≤ file_size, malloc size = true)
    (hstored : r.SetsStored) (hsps : r.sps.length < 32) (hpps : r.pps.length < 256)
    (hlevel : level + 1 < MAX_CHUNKS_DEPTH)
    (hsize : (avcC_box r.mux).encode.length ≤ file_size) :
    Parses malloc file_size level more
      (atom .BOX_avc1 (visual_sample_entry info) [avcC_box r.mux]).encode (in_track movie track)
      (in_track movie { track with
        object_type_indication := MP4_OBJECT_TYPE_AVC
        dsi := some (UInt8.ofNat r.sps.length :: pack r.sps ++
          (UInt8.ofNat r.pps.length :: pack r.pps))
        dsi_bytes := 15 + (pack r.sps).length + (pack r.pps).length
        SampleDescription := (info.width % 2 ^ 16, info.height % 2 ^ 16) }) := by
  have havcC (track : MP4D_track_t) : Parses malloc file_size (level + 1) more
      (encode_all [avcC_box r.mux]) (in_track movie track) _ :=
    Parses.single (parses_avcC hfile hmalloc hstored hsps hpps hsize)
  have hne : encode_all [avcC_box r.mux] ≠ [] := encode_all_ne_nil (List.cons_ne_nil _ _)
  apply Parses.envelope_atom hfile rfl rfl hne (by simp) hlevel _ (fun _ => rfl)
    (fun _ _ _ => rfl)
    (havcC { track with SampleDescription := (info.width % 2 ^ 16, info.height % 2 ^ 16) }).fills
  intro stack
  have hfront : (be2 [0, 0, 0, 1, 0, 0] ++ be4 [0, 0, 0]).length = 24 := rfl
  have hback : (be4 [0x00480000, 0x00480000, 0] ++ be2 [1] ++ List.replicate 32 0 ++
      be2 [24, 0xffff]).length = 50 := rfl
  have hread := run_read_avc1 movie track stack (encode_all [avcC_box r.mux] ++ more) hfront
    info.width info.height hback (List.append_ne_nil_of_left_ne_nil hne _)
    (Nat.le_add_right 78 (encode_all [avcC_box r.mux]).length)
  rw [Nat.add_sub_cancel_left] at hread
  rw [List.length_append, length_visual_sample_entry, ← hread, visual_sample_entry]
  simp only [be2_cons, be2_nil, List.append_nil, List.append_assoc]
  congr 2

theorem parses_hvc1 {r : Recording} (hlevel : level + 1 < MAX_CHUNKS_DEPTH) :
    Parses malloc file_size level more
      (atom .BOX_hvc1 (visual_sample_entry info) [hvcC_box r.mux]).encode (in_track movie track)
      (in_track movie track) := by
  have hchildren : Fills malloc file_size (level + 1) more
      (visual_sample_entry info ++ encode_all [hvcC_box r.mux]) (in_track movie track)
      (in_track movie track) := by
    have hnone : BoxName.of_code 1 = none := by decide +kernel
    exact fills_of_size_zero (by decide) hnone hfile
  apply Parses.envelope_atom hfile rfl rfl _ le_rfl hlevel (fun _ => rfl) (fun _ => rfl)
    (fun _ _ _ => rfl) hchildren
  exact List.append_ne_nil_of_left_ne_nil (by simp [visual_sample_entry, encode]) _

theorem parses_sample_entry {r : Recording} (hmalloc : ∀ size ≤ file_size, malloc size = true)
    (hstored : r.SetsStored)
    (hsets : r.is_hevc = false → r.sps.length < 32 ∧ r.pps.length < 256)
    (hlevel : level + 1 < MAX_CHUNKS_DEPTH)
    (hsize : (sample_entry_box info r.mux).encode.length ≤ file_size) :
    Parses malloc file_size level more (sample_entry_box info r.mux).encode (in_track movie track)
      (in_track movie (described info r track)) := by
  unfold sample_entry_box described at *
  change (if r.is_hevc then _ else _ : Section).encode.length ≤ file_size at hsize
  change Parses malloc file_size level more (if r.is_hevc then _ else _ : Section).encode _ _
  cases hhevc : r.is_hevc with
  | true => exact parses_hvc1 hfile info hlevel
  | false =>
    have havcC : (avcC_box r.mux).encode.length ≤ file_size := by
      rw [hhevc, if_neg Bool.false_ne_true, length_atom, encode_all_cons, encode_all_nil,
        List.append_nil] at hsize
      unfold ATOM at hsize
      omega
    exact parses_avc1 hfile info hmalloc hstored (hsets hhevc).1 (hsets hhevc).2 hlevel havcC

theorem parses_stsd {r : Recording} (hmalloc : ∀ size ≤ file_size, malloc size = true)
    (hstored : r.SetsStored)
    (hsets : r.is_hevc = false → r.sps.length < 32 ∧ r.pps.length < 256)
    (hlevel : level + 2 < MAX_CHUNKS_DEPTH)
    (hsize : (stsd_box info r.mux).encode.length ≤ file_size) :
    Parses malloc file_size level more (stsd_box info r.mux).encode (in_track movie track)
      (in_track movie (described info r track)) := by
  have hne : encode_all [sample_entry_box info r.mux] ≠ [] :=
    encode_all_ne_nil (List.cons_ne_nil _ _)
  have hlength : (stsd_box info r.mux).encode.length =
      8 + (4 + (4 + (encode_all [sample_entry_box info r.mux]).length)) := by
    rw [stsd_box, length_atom_full, length_be4]
    unfold ATOM_FULL
    simp only [List.length_cons, List.length_nil]
    omega
  have hentry : (sample_entry_box info r.mux).encode.length ≤ file_size := by
    rw [encode_all_cons, encode_all_nil, List.append_nil] at hlength
    omega
  have hchildren : Parses malloc file_size (level + 1) more
      (encode_all [sample_entry_box info r.mux]) (in_track movie track)
      (in_track movie (described info r track)) :=
    Parses.single (parses_sample_entry hfile info hmalloc hstored hsets hlevel hentry)
  have hreads : ReadsBox malloc file_size more (stsd_box info r.mux).encode (some .BOX_stsd)
      (encode_all [sample_entry_box info r.mux]) (in_track movie track) (in_track movie track) := by
    rw [stsd_box, atom_full, atom, encode_mk, List.append_assoc]
    have hfull : g_fullbox .BOX_stsd = some (0, false) := rfl
    apply ReadsBox.of_full_box BoxName.BOX_stsd.code_lt (BoxName.of_code_code _) hfile hfull
      (by decide) Bool.noConfusion (by decide) _ (fun _ => rfl) (fun _ _ _ => rfl)
    intro stack
    have hskip : (SKIP 4).run ((in_track movie track).reading stack
        (be4 [1] ++ (encode_all [sample_entry_box info r.mux] ++ more))
        (4 + (encode_all [sample_entry_box info r.mux]).length)) =
        .ok ((), (in_track movie track).reading stack
          (encode_all [sample_entry_box info r.mux] ++ more)
          (4 + (encode_all [sample_entry_box info r.mux]).length - 4)) :=
      run_SKIP rfl (by omega) (List.append_ne_nil_of_left_ne_nil hne _)
    rw [Nat.add_sub_cancel_left] at hskip
    rw [List.length_append, List.append_assoc]
    exact hskip
  exact hreads.envelope rfl hne (by omega) (by omega) hchildren.fills

/-- The tables of a track with one sample in each chunk. -/
def with_tables (smpl : List sample_t) (track : MP4D_track_t) : MP4D_track_t :=
  { track with
    timestamp := timestamps 0 (smpl.map (·.duration % 2 ^ 32))
    duration := smpl.map (·.duration % 2 ^ 32)
    sample_to_chunk_count := 1
    sample_to_chunk := [⟨1, 1⟩]
    sample_count := smpl.length
    entry_size := smpl.map (·.size % 2 ^ 32)
    chunk_count := smpl.length
    chunk_offset := smpl.map (·.offset % 2 ^ 32) }

theorem parses_stbl {r : Recording} (hmalloc : ∀ size ≤ file_size, malloc size = true)
    (hstored : r.SetsStored)
    (hsets : r.is_hevc = false → r.sps.length < 32 ∧ r.pps.length < 256)
    (h32 : is_64_bit r.mux = false) (hlevel : level + 3 < MAX_CHUNKS_DEPTH)
    (hsize : (stbl_box info r.mux).encode.length ≤ file_size) :
    Parses malloc file_size level more (stbl_box info r.mux).encode (in_track movie track)
      (in_track movie (with_tables r.mux.smpl (described info r track))) := by
  have hlength : (stbl_box info r.mux).encode.length =
      8 + ((stsd_box info r.mux).encode.length + ((stts_box r.mux).encode.length +
        (stsc_box.encode.length + ((stsz_box r.mux).encode.length +
          ((stco_box r.mux).encode.length + (encode_all (stss_boxes r.mux)).length))))) := by
    simp only [stbl_box, length_atom, ATOM, List.cons_append, List.nil_append, encode_all_cons,
      List.length_append, List.length_nil, Nat.zero_add]
  have hstsz := length_stsz_box r.mux
  have hstco := length_stco_box r.mux
  unfold chunk_offset_bytes at hstco
  rw [← is_64_bit, h32] at hstco
  unfold ATOM_FULL at hstsz hstco
  dsimp only at hstco
  rw [if_neg Bool.false_ne_true] at hstco
  have hmalloc_stsz : malloc (r.mux.smpl.length * 4) = true := hmalloc _ (by omega)
  have hmalloc_stco : malloc (r.mux.smpl.length * 8) = true := hmalloc _ (by omega)
  have hstts (count : Nat) (hcount : count ≤ r.mux.smpl.length) : malloc (count * 4) = true :=
    hmalloc _ (by omega)
  have hstsd (more : Bytes) : Parses malloc file_size (level + 1) more
      (stsd_box info r.mux).encode (in_track movie track)
      (in_track movie (described info r track)) :=
    parses_stsd hfile info hmalloc hstored hsets (by omega) (by omega)
  have htables : Parses malloc file_size (level + 1) more
      (encode_all ([stts_box r.mux, stsc_box, stsz_box r.mux, stco_box r.mux] ++
        stss_boxes r.mux)) (in_track movie (described info r track))
      (in_track movie (with_tables r.mux.smpl (described info r track))) := by
    apply Parses.cons (parses_stts hfile r.mux (by omega) hstts le_rfl)
    apply Parses.cons (parses_stsc hfile (hmalloc 8 (by omega))
      (List.append_ne_nil_of_left_ne_nil (encode_all_ne_nil (List.cons_ne_nil _ _)) _))
    apply Parses.cons (parses_stsz hfile r.mux hmalloc_stsz (by omega))
    have hstco_read (more : Bytes) (track : MP4D_track_t) : Parses malloc file_size (level + 1) more
        (stco_box r.mux).encode (in_track movie track) (in_track movie { track with
          chunk_count := r.mux.smpl.length
          chunk_offset := r.mux.smpl.map (·.offset % 2 ^ 32) }) :=
      parses_stco hfile r.mux hmalloc_stco (by omega) h32
    unfold stss_boxes
    split
    · exact Parses.single (hstco_read _ _)
    · exact Parses.cons (hstco_read _ _)
        (Parses.single (Parses.skipped_atom hfile (by decide) _ _))
  apply Parses.container hfile (by decide) (encode_all_ne_nil (List.cons_ne_nil _ _)) (by omega)
  exact Parses.cons (hstsd _) htables

/-- What is found of a track. -/
def recorded_track (r : Recording) : MP4D_track_t :=
  with_tables r.mux.smpl
    (described info r
      { timescale := info.time_scale % 2 ^ 32
        duration_lo := get_duration r.mux.smpl
        language := [lang_code info % 2 ^ 16 / 2 ^ 10 % 32 + 0x60,
          lang_code info % 2 ^ 16 / 2 ^ 5 % 32 + 0x60, lang_code info % 2 ^ 16 % 32 + 0x60]
        handler_type := MP4E_HANDLER_TYPE_VIDE })

theorem parses_trak {r : Recording} (hmalloc : ∀ size ≤ file_size, malloc size = true)
    (hstored : r.SetsStored)
    (hsets : r.is_hevc = false → r.sps.length < 32 ∧ r.pps.length < 256)
    (h32 : is_64_bit r.mux = false) (hlevel : level + 6 < MAX_CHUNKS_DEPTH)
    (hsize : (trak_box info r.mux).encode.length ≤ file_size) (hmovie : movie.track = []) :
    Parses malloc file_size level more (trak_box info r.mux).encode ⟨false, movie⟩
      (in_track movie (recorded_track info r)) := by
  have hlength : (stbl_box info r.mux).encode.length + sizeof_MP4D_track_t ≤
      (trak_box info r.mux).encode.length := by
    have htkhd : (tkhd_box info r.mux).encode.length = ATOM_FULL 80 := by
      simp [tkhd_box, length_atom_full, unity_matrix]
    simp only [trak_box, length_atom, ATOM, encode_all_cons, encode_all_nil, List.length_append,
      List.length_nil, Nat.zero_add, htkhd]
    unfold ATOM_FULL sizeof_MP4D_track_t
    omega
  have hminf : Parses malloc file_size (level + 2) more
      (atom .BOX_minf [] [vmhd_box, dinf_box, stbl_box info r.mux]).encode
      (in_track movie { empty_track with
        timescale := info.time_scale % 2 ^ 32
        duration_lo := get_duration r.mux.smpl
        language := [lang_code info % 2 ^ 16 / 2 ^ 10 % 32 + 0x60,
          lang_code info % 2 ^ 16 / 2 ^ 5 % 32 + 0x60, lang_code info % 2 ^ 16 % 32 + 0x60]
        handler_type := MP4E_HANDLER_TYPE_VIDE })
      (in_track movie (recorded_track info r)) := by
    apply Parses.container hfile (by decide) (encode_all_ne_nil (List.cons_ne_nil _ _)) (by omega)
    apply Parses.cons (Parses.skipped_atom hfile (by decide) _ _)
    have hdinf (more : Bytes) (found : Found) :
        Parses malloc file_size (level + 3) more dinf_box.encode found found := by
      apply Parses.container hfile (by decide) (encode_all_ne_nil (List.cons_ne_nil _ _)) (by omega)
      exact Parses.single (Parses.skipped_atom hfile (by decide) _ _)
    apply Parses.cons (hdinf _ _)
    exact Parses.single
      (parses_stbl hfile info hmalloc hstored hsets h32 (by omega) (by omega))
  have hmdia : Parses malloc file_size (level + 1) more
      (atom .BOX_mdia [] [mdhd_box info r.mux, hdlr_box,
        atom .BOX_minf [] [vmhd_box, dinf_box, stbl_box info r.mux]]).encode
      (in_track movie empty_track) (in_track movie (recorded_track info r)) := by
    apply Parses.container hfile (by decide) (encode_all_ne_nil (List.cons_ne_nil _ _)) (by omega)
    apply Parses.cons (parses_mdhd hfile info r.mux)
    apply Parses.cons (parses_hdlr hfile)
    exact Parses.single hminf
  have hchildren : Parses malloc file_size (level + 1) more
      (encode_all [tkhd_box info r.mux, atom .BOX_mdia [] [mdhd_box info r.mux, hdlr_box,
        atom .BOX_minf [] [vmhd_box, dinf_box, stbl_box info r.mux]]])
      (in_track movie empty_track) (in_track movie (recorded_track info r)) :=
    Parses.cons (Parses.skipped_atom hfile (by decide) _ _) (Parses.single hmdia)
  have htrack (stack : List (Nat × boxtype_t)) (unread : Bytes) (payload_bytes : Nat) :
      (switch_track malloc (some .BOX_trak)).run
        (Found.reading ⟨false, movie⟩ stack unread payload_bytes) =
      .ok (true, (in_track movie empty_track).reading stack unread payload_bytes) := by
    have hroom : malloc ((movie.track.length + 1) * sizeof_MP4D_track_t % 2 ^ 32) = true := by
      rw [hmovie]
      exact hmalloc _ (by change sizeof_MP4D_track_t ≤ _; omega)
    unfold switch_track
    rw [Demux.run_state_bind, if_neg (by exact not_not.mpr hroom)]
    have hfirst : movie.track ++ [empty_track] = [empty_track] := by
      rw [hmovie]
      rfl
    change Except.ok (true, Found.reading
      ⟨true, { movie with track := movie.track ++ [empty_track] }⟩ stack unread payload_bytes) = _
    rw [hfirst]
    rfl
  exact Parses.envelope_atom hfile rfl rfl (encode_all_ne_nil (List.cons_ne_nil _ _)) le_rfl
    (by omega) (fun _ => rfl) (fun _ => rfl) htrack hchildren.fills

end

/-- What is found of a whole file. -/
def recorded_movie (info : MP4E_track_t) (r : Recording) : MP4D_demux_t :=
  { timescale := MOOV_TIMESCALE
    duration_lo := moov_duration info (get_duration r.mux.smpl) % 2 ^ 32
    track := [recorded_track info r] }

/-- The samples lie between the header and the index. -/
theorem mem_sample_table {offset : Nat} {pictures : List Picture} {sample : sample_t}
    (hsample : sample ∈ sample_table offset pictures) :
    offset ≤ sample.offset ∧ sample.offset + sample.size ≤ offset + (media pictures).length := by
  induction pictures generalizing offset with
  | nil => cases hsample
  | cons picture rest ih =>
    rw [media_cons, List.length_append]
    obtain rfl | hrest := List.mem_cons.mp hsample
    · dsimp only
      omega
    · have := ih hrest
      omega

theorem box_ftyp_eq : box_ftyp = encode_section (encode 4 0x66747970) (box_ftyp.drop 8) := by
  decide

/-- The header of the media data is that of two boxes. -/
theorem mdat_header_append {data : Bytes} (hsize : 16 + data.length < 0xFFFFFFFF) :
    mdat_header (40 + data.length) ++ data =
      encode_section (encode 4 BoxName.BOX_free.code) [] ++
        encode_section (encode 4 BoxName.BOX_mdat.code) data := by
  have hfree : encode 4 8 = encode 4 (4 + (encode 4 BoxName.BOX_free.code).length + 0) := by
    rw [length_encode]
  have hmdat : 40 + data.length - 24 - 8 =
      4 + (encode 4 BoxName.BOX_mdat.code).length + data.length := by
    rw [length_encode]
    omega
  unfold mdat_header write_mdat_header
  dsimp only
  rw [if_neg (by omega), hmdat]
  simp [encode_section, Buffer.emit, Buffer.empty]

/-- A file that is not too large is four boxes. -/
theorem recorded_file_eq (info : MP4E_track_t) {r : Recording}
    (hsize : 16 + (media r.pictures).length < 0xFFFFFFFF) :
    recorded_file info r =
      encode_section (encode 4 0x66747970) (box_ftyp.drop 8) ++
        (encode_section (encode 4 BoxName.BOX_free.code) [] ++
          (encode_section (encode 4 BoxName.BOX_mdat.code) (media r.pictures) ++
            (moov_box info r.mux).encode)) := by
  rw [recorded_file, index_atoms_eq, List.append_assoc box_ftyp, List.append_assoc box_ftyp,
    ← box_ftyp_eq]
  change box_ftyp ++ (mdat_header (40 + (media r.pictures).length) ++ media r.pictures ++ _) = _
  rw [mdat_header_append hsize, List.append_assoc]

/-- A file is read as its movie box is. -/
theorem parses_of_moov {malloc : Nat → Bool} {info : MP4E_track_t} {r : Recording}
    {found : Found} (hfile : (recorded_file info r).length < 0xFFFFFFFF)
    (hmoov : Parses malloc (recorded_file info r).length 0 [] (moov_box info r.mux).encode
      ⟨false, {}⟩ found) :
    Parses malloc (recorded_file info r).length 0 [] (recorded_file info r) ⟨false, {}⟩ found := by
  have hne : (moov_box info r.mux).encode ≠ [] := encode_ne_nil _
  have hsize : 16 + (media r.pictures).length < 0xFFFFFFFF := by
    simp only [recorded_file, List.length_append, length_mdat_header] at hfile
    have hftyp : box_ftyp.length = 24 := rfl
    omega
  generalize (recorded_file info r).length = file_size at hfile hmoov ⊢
  rw [recorded_file_eq info hsize]
  apply Parses.append (by simp [hne]) (Parses.skipped hfile (by decide) (by decide +kernel) _)
  apply Parses.append (by simp [hne]) (Parses.skipped hfile (BoxName.code_lt _)
    (by decide +kernel) _)
  exact Parses.append hne (Parses.skipped hfile (BoxName.code_lt _) (by decide +kernel) _) hmoov

theorem parses_recorded_file {malloc : Nat → Bool} (info : MP4E_track_t) {r : Recording}
    (hstored : r.SetsStored)
    (hsets : r.is_hevc = false → r.sps.length < 32 ∧ r.pps.length < 256)
    (hpictures : r.pictures ≠ [])
    (hfile : (recorded_file info r).length < 0xFFFFFFFF)
    (hmalloc : ∀ size ≤ (recorded_file info r).length, malloc size = true) :
    Parses malloc (recorded_file info r).length 0 [] (recorded_file info r) ⟨false, {}⟩
      (in_track (recorded_movie info r) (recorded_track info r)) := by
  have hsmpl : r.mux.smpl ≠ [] := fun hnil => hpictures (sample_table_eq_nil_iff.mp hnil)
  have hlength : (recorded_file info r).length =
      24 + 16 + (media r.pictures).length + (moov_box info r.mux).encode.length := by
    simp only [recorded_file, List.length_append, length_mdat_header, index_atoms_eq]
    rfl
  have hmoov : moov_box info r.mux =
      atom .BOX_moov [] [mvhd_box info r.mux, trak_box info r.mux] := by
    rw [moov_box, if_neg hsmpl]
  have htrak : (trak_box info r.mux).encode.length ≤ (moov_box info r.mux).encode.length := by
    rw [hmoov, length_atom, encode_all_cons, encode_all_cons, encode_all_nil, List.append_nil,
      List.length_append]
    unfold ATOM
    omega
  have h32 : is_64_bit r.mux = false := by
    unfold is_64_bit
    rw [Option.any_eq_false]
    intro sample hsample
    have hbound := mem_sample_table (List.mem_of_getLast? hsample)
    exact decide_eq_false (by omega)
  have hparses : Parses malloc (recorded_file info r).length 0 [] (moov_box info r.mux).encode
      ⟨false, {}⟩ (in_track (recorded_movie info r) (recorded_track info r)) := by
    rw [hmoov]
    apply Parses.container hfile (by decide) (encode_all_ne_nil (List.cons_ne_nil _ _)) (by decide)
    apply Parses.cons (parses_mvhd hfile info r.mux
      (List.append_ne_nil_of_left_ne_nil (encode_all_ne_nil (List.cons_ne_nil _ _)) _))
    exact Parses.single (parses_trak hfile info hmalloc hstored hsets h32 (by decide) (by omega)
      rfl)
  exact parses_of_moov hfile hparses

/-- If the index fits, the file of a recording is written to its end, and opening
it finds the recording in it: one track with the place, the size and the times of
every picture. -/
theorem MP4D_open_recorded_file {malloc : Nat → Bool} (info : MP4E_track_t) {r : Recording}
    (hstored : r.SetsStored) (hindex : IndexFits r.mux)
    (hsets : r.is_hevc = false → r.sps.length < 32 ∧ r.pps.length < 256)
    (hpictures : r.pictures ≠ [])
    (hfile : (recorded_file info r).length < 0xFFFFFFFF)
    (hmalloc : ∀ size ≤ (recorded_file info r).length, malloc size = true) :
    (index_atoms info r.mux).length ≤ alloc_index_bytes r.mux ∧
      MP4D_open malloc (recorded_file info r) = some (.ok (some (recorded_movie info r))) :=
  ⟨hindex.length_index_le info (mt sample_table_eq_nil_iff.mp hpictures),
    (parses_recorded_file info hstored hsets hpictures hfile hmalloc).opened⟩

/-- A key frame with its parameter sets. -/
def key_picture : Bytes :=
  [0, 0, 0, 1, 0x67, 0x42, 0x00, 0x1E] ++ [0, 0, 0, 1, 0x68, 0xCE] ++ [0, 0, 1, 0x65, 0x88]

/-- The recording of one key frame. -/
def one_picture : Recording := (Recording.start false).take_frames [(key_picture, 3000)]

theorem one_picture_stored : one_picture.SetsStored := by
  constructor <;> decide +kernel

theorem one_picture_index : IndexFits one_picture.mux := by
  constructor <;> decide +kernel

theorem length_recorded_file_one (width height : Nat) :
    (recorded_file (h26x_track width height) one_picture).length < 0xFFFFFFFF := by
  rw [recorded_file, List.length_append, List.length_append, List.length_append,
    length_index_atoms, length_mdat_header]
  decide +kernel

theorem MP4D_open_recorded_file_one :
    (index_atoms (h26x_track 1920 1080) one_picture.mux).length ≤
        alloc_index_bytes one_picture.mux ∧
      MP4D_open (fun _ => true) (recorded_file (h26x_track 1920 1080) one_picture) =
        some (.ok (some (recorded_movie (h26x_track 1920 1080) one_picture))) :=
  MP4D_open_recorded_file _ one_picture_stored one_picture_index (by decide +kernel)
    (by decide +kernel) (length_recorded_file_one _ _) fun _ _ => rfl

end amldigitalfpv.minimp4

import AMLDigitalFPV.MiniMp4.Data
import AMLDigitalFPV.MiniMp4.Movie
import AMLDigitalFPV.MiniMp4.ParameterSets
import AMLDigitalFPV.MiniMp4.Recording

namespace amldigitalfpv.minimp4

open big_endian items

/-- Data put at a position of a file, with zeros in the gap when it begins past
the end. -/
def put_at (position : Nat) (data contents : Bytes) : Bytes :=
  contents.takeD position 0 ++ data ++ contents.drop (position + data.length)

/-- In the states that are ready memory suffices, and every write that ends
within the limit succeeds and does to the file what its arguments say. -/
structure Stores {σ : Type} (calls : DataCalls σ) (Ready : σ → Prop) (contents : σ → Bytes)
    (limit : Nat) : Prop where
  malloc_ok : ∀ s, Ready s → (calls.malloc s).1 = true
  malloc_ready : ∀ s, Ready s → Ready (calls.malloc s).2
  malloc_contents : ∀ s, Ready s → contents (calls.malloc s).2 = contents s
  write_ok : ∀ offset data s, Ready s → data ≠ [] → offset + data.length ≤ limit →
    (calls.write_callback offset data s).1 = 0
  write_ready : ∀ offset data s, Ready s → data ≠ [] → offset + data.length ≤ limit →
    Ready (calls.write_callback offset data s).2
  write_contents : ∀ offset data s, Ready s → data ≠ [] → offset + data.length ≤ limit →
    contents (calls.write_callback offset data s).2 = put_at offset data (contents s)

/-- What opening leaves before the media data: the `ftyp` box and room for the
header of the `mdat` box. -/
def opening : Bytes := box_ftyp ++ box_ftyp.take 8 ++ List.replicate 8 0

/-- The file of a recording that is still open. It may be shorter than the
write position by the room that is left for the header. -/
structure Holds (pictures : List Picture) (contents : Bytes) : Prop where
  length_le : contents.length ≤ 40 + (media pictures).length
  padded : contents.takeD (40 + (media pictures).length) 0 = opening ++ media pictures

/-- The writer and the file agree with the recording. -/
structure Shows {σ : Type} (Ready : σ → Prop) (contents : σ → Bytes) (r : Recording)
    (h : mp4_h26x_writer_t) (s : σ) : Prop where
  writer : h = r.writer
  ready : Ready s
  holds : Holds r.pictures (contents s)
  sets : r.SetsStored

theorem length_opening : opening.length = 40 := by decide

theorem takeD_of_length_le {contents : Bytes} {length : Nat} (hlength : contents.length ≤ length) :
    contents.takeD length 0 = contents ++ List.replicate (length - contents.length) 0 := by
  induction contents generalizing length with
  | nil => simp
  | cons byte rest ih =>
    cases length with
    | zero => simp at hlength
    | succ length =>
      rw [List.takeD_succ, List.tail_cons, ih (Nat.le_of_succ_le_succ hlength)]
      simp

/-- A write at the end of the media data appends. -/
theorem Holds.append {pictures : List Picture} {contents : Bytes} (h : Holds pictures contents)
    {pictures' : List Picture} {data : Bytes} (hmedia : media pictures' = media pictures ++ data) :
    Holds pictures' (put_at (40 + (media pictures).length) data contents) := by
  have hput : put_at (40 + (media pictures).length) data contents =
      opening ++ media pictures' := by
    have hle := h.length_le
    rw [put_at, h.padded, List.drop_of_length_le (by omega), List.append_nil, List.append_assoc,
      hmedia]
  have hlength : (opening ++ media pictures').length = 40 + (media pictures').length := by
    rw [List.length_append, length_opening]
  rw [hput]
  constructor
  · exact hlength.le
  · rw [takeD_of_length_le hlength.le, hlength, Nat.sub_self, List.replicate_zero, List.append_nil]

/-- The table entry of the last picture. -/
theorem sample_table_concat (offset : Nat) (front : List Picture) (last : Picture) :
    sample_table offset (front ++ [last]) =
      sample_table offset front ++
        [{ size := last.data.length
           offset := offset + (media front).length
           duration := last.duration
           flag_random_access := last.random_access }] := by
  rw [sample_table_append]
  rfl

section

variable {σ : Type} {calls : DataCalls σ} {Ready : σ → Prop} {contents : σ → Bytes} {limit : Nat}
  (hstores : Stores calls Ready contents limit) {r : Recording} {h : mp4_h26x_writer_t} {s : σ}
include hstores

/-- Writing the data of a sample that is in the table already. -/
theorem Stores.write_sample (mux : MP4E_mux_t) (hready : Ready s)
    {pictures pictures' : List Picture} (hholds : Holds pictures (contents s))
    (hpos : mux.write_pos = 40 + (media pictures).length)
    {data : Bytes} (hne : data ≠ []) (hmedia : media pictures' = media pictures ++ data)
    (hroom : 40 + (media pictures').length ≤ limit) :
    (calls.write_sample data mux s).1 = MP4E_STATUS_OK ∧
      (calls.write_sample data mux s).2.1 =
        { mux with write_pos := 40 + (media pictures').length } ∧
      Ready (calls.write_sample data mux s).2.2 ∧
      Holds pictures' (contents (calls.write_sample data mux s).2.2) := by
  have hend : mux.write_pos + data.length = 40 + (media pictures').length := by
    rw [hpos, hmedia, List.length_append, Nat.add_assoc]
  have hlimit : mux.write_pos + data.length ≤ limit := hend ▸ hroom
  have hok := hstores.write_ok mux.write_pos data s hready hne hlimit
  unfold DataCalls.write_sample
  dsimp only
  rw [if_neg (not_not.mpr hok)]
  refine ⟨rfl, ?_, hstores.write_ready _ _ _ hready hne hlimit, ?_⟩
  · rw [hend]
  · dsimp only
    rw [hstores.write_contents _ _ _ hready hne hlimit, hpos]
    exact hholds.append hmedia

/-- Storing a slice, once its sample is in the table. -/
theorem Shows.put_nal_of_indexed (hshows : Shows Ready contents r h s) {nal : Bytes}
    {duration : Nat} {kind : SampleKind} {pictures : List Picture} {s' : σ}
    (hindexed : index_sample calls.allocator (encode 4 nal.length ++ nal).length duration kind
        r.mux (calls.malloc s).2 =
      (MP4E_STATUS_OK, { r.mux with smpl := sample_table 40 pictures }, s'))
    (hready : Ready s') (hcontents : contents s' = contents s)
    (hmedia : media pictures = media r.pictures ++ (encode 4 nal.length ++ nal))
    (hroom : 40 + (media pictures).length ≤ limit) :
    (calls.put_nal nal duration kind h s).1 = MP4E_STATUS_OK ∧
      Shows Ready contents { r with pictures := pictures }
        (calls.put_nal nal duration kind h s).2.1 (calls.put_nal nal duration kind h s).2.2 := by
  obtain ⟨rfl, hfirst, hholds, hsets⟩ := hshows
  have hne : encode 4 nal.length ++ nal ≠ [] := by
    intro hnil
    have hlength := congrArg List.length hnil
    simp at hlength
  obtain ⟨hok, hmux, hready', hholds'⟩ := hstores.write_sample
    { r.mux with smpl := sample_table 40 pictures } hready (hcontents ▸ hholds) rfl hne hmedia hroom
  have hput : calls.put_nal nal duration kind r.writer s =
      (let put := calls.write_sample (encode 4 nal.length ++ nal)
        { r.mux with smpl := sample_table 40 pictures } s'
      (put.1, { r.writer with mux := put.2.1 }, put.2.2)) := by
    unfold DataCalls.put_nal DataCalls.MP4E_put_sample
    dsimp only
    rw [if_neg (not_not.mpr (hstores.malloc_ok s hfirst)),
      show r.writer.mux = r.mux from rfl, hindexed]
    rfl
  rw [hput]
  refine ⟨hok, ?_, hready', hholds', hsets.vps, hsets.sps, hsets.pps, hsets.vps_nodup,
    hsets.sps_nodup, hsets.pps_nodup⟩
  dsimp only
  rw [hmux]
  rfl

/-- A slice reaches the table and the file as it reaches the recording. -/
theorem Shows.put_nal (hshows : Shows Ready contents r h s) (nal : Bytes) (duration : Nat)
    (kind : SampleKind)
    (hroom : 40 + (media (r.take_slice nal duration kind).2.pictures).length ≤ limit) :
    (calls.put_nal nal duration kind h s).1 = (r.take_slice nal duration kind).1 ∧
      Shows Ready contents (r.take_slice nal duration kind).2
        (calls.put_nal nal duration kind h s).2.1 (calls.put_nal nal duration kind h s).2.2 := by
  have hready := hstores.malloc_ready s hshows.ready
  have hcontents := hstores.malloc_contents s hshows.ready
  by_cases hkind : kind = .CONTINUATION
  · subst hkind
    obtain hnil | ⟨front, last, hconcat⟩ := List.eq_nil_or_concat r.pictures
    · have htable : r.mux.smpl.getLast? = none := by
        simp [Recording.mux, hnil, sample_table]
      have hnone : r.pictures.getLast? = none := by rw [hnil]; rfl
      obtain ⟨rfl, hfirst, hholds, hsets⟩ := hshows
      have hrefused : calls.put_nal nal duration .CONTINUATION r.writer s =
          (MP4E_STATUS_NO_MEMORY, r.writer, (calls.malloc s).2) := by
        unfold DataCalls.put_nal DataCalls.MP4E_put_sample index_sample
        dsimp only
        rw [if_neg (not_not.mpr (hstores.malloc_ok s hfirst)),
          show r.writer.mux = r.mux from rfl, htable]
        rfl
      have htaken : r.take_slice nal duration .CONTINUATION = (MP4E_STATUS_NO_MEMORY, r) := by
        unfold Recording.take_slice
        rw [hnone]
        rfl
      rw [hrefused, htaken]
      exact ⟨rfl, rfl, hready, hcontents ▸ hholds, hsets⟩
    · rw [List.concat_eq_append] at hconcat
      have hlast : r.pictures.getLast? = some last := by rw [hconcat, List.getLast?_concat]
      have hfront : r.pictures.dropLast = front := by rw [hconcat, List.dropLast_concat]
      have htaken : r.take_slice nal duration .CONTINUATION =
          (MP4E_STATUS_OK, { r with
            pictures := front ++
              [{ last with data := last.data ++ (encode 4 nal.length ++ nal) }] }) := by
        unfold Recording.take_slice
        dsimp only
        rw [hlast, hfront]
        rfl
      rw [htaken] at hroom ⊢
      apply hshows.put_nal_of_indexed hstores _ hready hcontents _ hroom
      · have hsmpl : r.mux.smpl = sample_table 40 (front ++ [last]) := by
          rw [Recording.mux, hconcat]
        unfold index_sample
        rw [if_neg (not_not.mpr rfl), hsmpl, sample_table_concat, sample_table_concat,
          List.getLast?_concat, List.dropLast_concat]
        dsimp only
        have hgrown : (last.data ++ (encode 4 nal.length ++ nal)).length =
            last.data.length + (encode 4 nal.length ++ nal).length := List.length_append
        rw [hgrown]
      · simp [hconcat]
  · have htaken : r.take_slice nal duration kind =
        (MP4E_STATUS_OK, { r with
          pictures := r.pictures ++
            [⟨encode 4 nal.length ++ nal, duration, kind = .RANDOM_ACCESS⟩] }) :=
      if_pos hkind
    rw [htaken] at hroom ⊢
    apply hshows.put_nal_of_indexed hstores _ (hstores.malloc_ready _ hready)
      ((hstores.malloc_contents _ hready).trans hcontents) _ hroom
    · have hmalloc : (calls.allocator.malloc (calls.malloc s).2).1 = true :=
        hstores.malloc_ok _ hready
      unfold index_sample
      dsimp only
      rw [if_pos hkind, if_pos hmalloc, sample_table_concat]
      rfl
    · simp

theorem Stores.append_mem (hready : Ready s) {sets : List Bytes} (hsets : ∀ set ∈ sets, Fits set)
    (mem : Bytes) : ∃ s', append_mem calls.allocator mem (pack sets) s =
      (true, pack (adjoin mem sets), s') ∧ Ready s' ∧ contents s' = contents s := by
  have hsize := hstores.malloc_ready s hready
  refine ⟨_, append_mem_pack calls.allocator hsets mem (hstores.malloc_ok s hready)
    (hstores.malloc_ok _ hsize), ?_⟩
  split
  · exact ⟨hready, rfl⟩
  · exact ⟨hstores.malloc_ready _ hsize,
      (hstores.malloc_contents _ hsize).trans (hstores.malloc_contents s hready)⟩

theorem Shows.set_vps (hshows : Shows Ready contents r h s) {nal : Bytes} (hfits : Fits nal) :
    Shows Ready contents { r with vps := adjoin nal r.vps, need_vps := false }
      { h with mux := (MP4E_set_vps calls.allocator nal h.mux s).2.1, need_vps := false }
      (MP4E_set_vps calls.allocator nal h.mux s).2.2 := by
  obtain ⟨rfl, hready, hholds, hsets⟩ := hshows
  obtain ⟨s', happended, hready', hcontents⟩ := hstores.append_mem hready hsets.vps nal
  have hset : MP4E_set_vps calls.allocator nal r.writer.mux s =
      (MP4E_STATUS_OK, { r.mux with vvps := pack (adjoin nal r.vps) }, s') := by
    unfold MP4E_set_vps
    rw [show r.writer.mux.vvps = pack r.vps from rfl, happended]
    rfl
  rw [hset]
  exact ⟨rfl, hready', hcontents ▸ hholds, fits_adjoin hfits hsets.vps, hsets.sps, hsets.pps,
    nodup_adjoin hsets.vps_nodup, hsets.sps_nodup, hsets.pps_nodup⟩

theorem Shows.set_sps (hshows : Shows Ready contents r h s) {nal : Bytes} (hfits : Fits nal) :
    Shows Ready contents { r with sps := adjoin nal r.sps, need_sps := false }
      { h with mux := (MP4E_set_sps calls.allocator nal h.mux s).2.1, need_sps := false }
      (MP4E_set_sps calls.allocator nal h.mux s).2.2 := by
  obtain ⟨rfl, hready, hholds, hsets⟩ := hshows
  obtain ⟨s', happended, hready', hcontents⟩ := hstores.append_mem hready hsets.sps nal
  have hset : MP4E_set_sps calls.allocator nal r.writer.mux s =
      (MP4E_STATUS_OK, { r.mux with vsps := pack (adjoin nal r.sps) }, s') := by
    unfold MP4E_set_sps
    rw [show r.writer.mux.vsps = pack r.sps from rfl, happended]
    rfl
  rw [hset]
  exact ⟨rfl, hready', hcontents ▸ hholds, hsets.vps, fits_adjoin hfits hsets.sps, hsets.pps,
    hsets.vps_nodup, nodup_adjoin hsets.sps_nodup, hsets.pps_nodup⟩

theorem Shows.set_pps (hshows : Shows Ready contents r h s) {nal : Bytes} (hfits : Fits nal) :
    Shows Ready contents { r with pps := adjoin nal r.pps, need_pps := false }
      { h with mux := (MP4E_set_pps calls.allocator nal h.mux s).2.1, need_pps := false }
      (MP4E_set_pps calls.allocator nal h.mux s).2.2 := by
  obtain ⟨rfl, hready, hholds, hsets⟩ := hshows
  obtain ⟨s', happended, hready', hcontents⟩ := hstores.append_mem hready hsets.pps nal
  have hset : MP4E_set_pps calls.allocator nal r.writer.mux s =
      (MP4E_STATUS_OK, { r.mux with vpps := pack (adjoin nal r.pps) }, s') := by
    unfold MP4E_set_pps
    rw [show r.writer.mux.vpps = pack r.pps from rfl, happended]
    rfl
  rw [hset]
  exact ⟨rfl, hready', hcontents ▸ hholds, hsets.vps, hsets.sps, fits_adjoin hfits hsets.pps,
    hsets.vps_nodup, hsets.sps_nodup, nodup_adjoin hsets.pps_nodup⟩

omit hstores in
theorem Shows.see_slice (hshows : Shows Ready contents r h s) (is_intra : Bool) :
    Shows Ready contents (r.see_slice is_intra) (h.see_slice is_intra) s := by
  obtain ⟨rfl, hready, hholds, hsets⟩ := hshows
  unfold Recording.see_slice mp4_h26x_writer_t.see_slice
  have hflags : (is_intra ∧ ¬ r.writer.need_sps ∧ ¬ r.writer.need_pps ∧ ¬ r.writer.need_vps) ↔
      (is_intra ∧ ¬ r.need_sps ∧ ¬ r.need_pps ∧ ¬ r.need_vps) := Iff.rfl
  by_cases hseen : is_intra ∧ ¬ r.need_sps ∧ ¬ r.need_pps ∧ ¬ r.need_vps
  · rw [if_pos hseen, if_pos (hflags.mpr hseen)]
    exact ⟨rfl, hready, hholds, hsets.vps, hsets.sps, hsets.pps, hsets.vps_nodup,
      hsets.sps_nodup, hsets.pps_nodup⟩
  · rw [if_neg hseen, if_neg (mt hflags.mp hseen)]
    exact ⟨rfl, hready, hholds, hsets⟩

/-- A unit of an H.265 stream reaches the tables and the file as it reaches the
recording. -/
theorem Shows.h265_unit (hshows : Shows Ready contents r h s) {nal : Bytes}
    (hfits : is_parameter_set true nal → Fits nal) (duration : Nat)
    (hroom : 40 + (media (r.take_h265_unit nal duration).2.pictures).length ≤ limit) :
    (calls.mp4_h265_write_nal nal duration h s).1 = (r.take_h265_unit nal duration).1 ∧
      Shows Ready contents (r.take_h265_unit nal duration).2
        (calls.mp4_h265_write_nal nal duration h s).2.1
        (calls.mp4_h265_write_nal nal duration h s).2.2 := by
  unfold is_parameter_set at hfits
  rw [if_pos rfl] at hfits
  unfold Recording.take_h265_unit at hroom ⊢
  unfold DataCalls.mp4_h265_write_nal
  dsimp only at hroom ⊢
  generalize (nal.getD 0 0).toNat / 2 % 64 = payload_type at hfits hroom ⊢
  have hseen := hshows.see_slice
    (decide (HEVC_NAL_BLA_W_LP ≤ payload_type ∧ payload_type ≤ HEVC_NAL_CRA_NUT))
  generalize decide (HEVC_NAL_BLA_W_LP ≤ payload_type ∧ payload_type ≤ HEVC_NAL_CRA_NUT) =
    is_intra at hroom hseen ⊢
  generalize r.see_slice is_intra = seen at hroom hseen ⊢
  generalize h.see_slice is_intra = writer at hseen ⊢
  by_cases hvps : payload_type = HEVC_NAL_VPS
  · rw [if_pos hvps, if_pos hvps]
    exact ⟨rfl, hseen.set_vps hstores (hfits (by simp [hvps]))⟩
  · rw [if_neg hvps, if_neg hvps]
    rw [if_neg hvps] at hroom
    by_cases hsps : payload_type = HEVC_NAL_SPS
    · rw [if_pos hsps, if_pos hsps]
      exact ⟨rfl, hseen.set_sps hstores (hfits (by simp [hsps]))⟩
    · rw [if_neg hsps, if_neg hsps]
      rw [if_neg hsps] at hroom
      by_cases hpps : payload_type = HEVC_NAL_PPS
      · rw [if_pos hpps, if_pos hpps]
        exact ⟨rfl, hseen.set_pps hstores (hfits (by simp [hpps]))⟩
      · rw [if_neg hpps, if_neg hpps]
        rw [if_neg hpps] at hroom
        have hflags : (writer.need_vps ∨ writer.need_sps ∨ writer.need_pps ∨ writer.need_idr) ↔
            (seen.need_vps ∨ seen.need_sps ∨ seen.need_pps ∨ seen.need_idr) := by
          rw [hseen.writer]
          rfl
        by_cases hneed : seen.need_vps ∨ seen.need_sps ∨ seen.need_pps ∨ seen.need_idr
        · rw [if_pos hneed, if_pos (hflags.mpr hneed)]
          exact ⟨rfl, hseen⟩
        · rw [if_neg hneed, if_neg (mt hflags.mp hneed)]
          rw [if_neg hneed] at hroom
          exact hseen.put_nal hstores nal duration _ hroom

theorem Shows.h264_slice (hshows : Shows Ready contents r h s) (nal : Bytes)
    (payload_type duration : Nat)
    (hroom : 40 + (media (r.take_h264_slice nal payload_type duration).2.pictures).length ≤ limit) :
    (calls.mp4_h264_write_slice nal payload_type duration h s).1 =
        (r.take_h264_slice nal payload_type duration).1 ∧
      Shows Ready contents (r.take_h264_slice nal payload_type duration).2
        (calls.mp4_h264_write_slice nal payload_type duration h s).2.1
        (calls.mp4_h264_write_slice nal payload_type duration h s).2.2 := by
  have hsps : h.need_sps = true ↔ r.need_sps = true := by rw [hshows.writer]; rfl
  have htake : (¬ h.need_pps ∧ ¬ (h.need_idr && decide (payload_type ≠ 5))) ↔
      (¬ r.need_pps ∧ ¬ (r.need_idr && decide (payload_type ≠ 5))) := by
    rw [hshows.writer]
    rfl
  have hidr : Shows Ready contents
      { r with need_idr := r.need_idr && payload_type ≠ 5 }
      { h with need_idr := h.need_idr && payload_type ≠ 5 } s := by
    obtain ⟨rfl, hready, hholds, hsets⟩ := hshows
    exact ⟨rfl, hready, hholds, hsets.vps, hsets.sps, hsets.pps, hsets.vps_nodup,
      hsets.sps_nodup, hsets.pps_nodup⟩
  unfold Recording.take_h264_slice at hroom ⊢
  unfold DataCalls.mp4_h264_write_slice
  dsimp only at hroom ⊢
  by_cases hneed : r.need_sps = true
  · rw [if_pos hneed, if_pos (hsps.mpr hneed)]
    exact ⟨rfl, hshows⟩
  · rw [if_neg hneed, if_neg (mt hsps.mp hneed)]
    rw [if_neg hneed] at hroom
    by_cases hready : ¬ r.need_pps ∧ ¬ (r.need_idr && decide (payload_type ≠ 5))
    · rw [if_pos hready, if_pos (htake.mpr hready)]
      rw [if_pos hready] at hroom
      exact hidr.put_nal hstores nal duration _ hroom
    · rw [if_neg hready, if_neg (mt htake.mp hready)]
      exact ⟨rfl, hidr⟩

/-- The same for a unit of an H.264 stream. -/
theorem Shows.h264_unit (hshows : Shows Ready contents r h s) {nal : Bytes}
    (hfits : is_parameter_set false nal → Fits nal) (duration : Nat)
    (hroom : 40 + (media (r.take_h264_unit nal duration).2.pictures).length ≤ limit) :
    (calls.mp4_h264_write_nal nal duration h s).1 = (r.take_h264_unit nal duration).1 ∧
      Shows Ready contents (r.take_h264_unit nal duration).2
        (calls.mp4_h264_write_nal nal duration h s).2.1
        (calls.mp4_h264_write_nal nal duration h s).2.2 := by
  unfold is_parameter_set at hfits
  rw [if_neg Bool.false_ne_true] at hfits
  unfold Recording.take_h264_unit at hroom ⊢
  unfold DataCalls.mp4_h264_write_nal
  dsimp only at hroom ⊢
  generalize (nal.getD 0 0).toNat % 32 = payload_type at hfits hroom ⊢
  by_cases hdelimiter : payload_type = 9
  · rw [if_pos hdelimiter, if_pos hdelimiter]
    exact ⟨rfl, hshows⟩
  · rw [if_neg hdelimiter, if_neg hdelimiter]
    rw [if_neg hdelimiter] at hroom
    by_cases hsps : payload_type = 7
    · rw [if_pos hsps, if_pos hsps]
      exact ⟨rfl, hshows.set_sps hstores (hfits (by simp [hsps]))⟩
    · rw [if_neg hsps, if_neg hsps]
      rw [if_neg hsps] at hroom
      by_cases hpps : payload_type = 8
      · rw [if_pos hpps, if_pos hpps]
        exact ⟨rfl, hshows.set_pps hstores (hfits (by simp [hpps]))⟩
      · rw [if_neg hpps, if_neg hpps]
        rw [if_neg hpps] at hroom
        exact hshows.h264_slice hstores nal payload_type duration hroom

/-- The parameter sets in the units fit behind a size of two bytes. -/
def SetsFit (is_hevc : Bool) (units : List Bytes) : Prop :=
  ∀ nal ∈ units, is_parameter_set is_hevc nal → Fits nal

/-- A frame reaches the tables and the file as it reaches the recording. -/
theorem Shows.write_nal_units (hshows : Shows Ready contents r h s) {units : List Bytes}
    (hfits : SetsFit r.is_hevc units) (duration : Nat)
    (hroom : 40 + (media (r.take_units duration units).2.pictures).length ≤ limit) :
    (calls.write_nal_units duration units h s).1 = (r.take_units duration units).1 ∧
      Shows Ready contents (r.take_units duration units).2
        (calls.write_nal_units duration units h s).2.1
        (calls.write_nal_units duration units h s).2.2 := by
  induction units generalizing r h s with
  | nil => exact ⟨rfl, hshows⟩
  | cons unit rest ih =>
    have hunit := hfits unit List.mem_cons_self
    have hhevc : h.is_hevc = r.is_hevc := by rw [hshows.writer]; rfl
    have hgrows : r.Grows
        (if r.is_hevc then r.take_h265_unit unit duration
        else r.take_h264_unit unit duration).2 := by
      split
      · exact Recording.grows_take_h265_unit r unit duration
      · exact Recording.grows_take_h264_unit r unit duration
    have hstep :
        40 + (media (if r.is_hevc then r.take_h265_unit unit duration
          else r.take_h264_unit unit duration).2.pictures).length ≤ limit →
        (if h.is_hevc then calls.mp4_h265_write_nal unit duration h s
          else calls.mp4_h264_write_nal unit duration h s).1 =
            (if r.is_hevc then r.take_h265_unit unit duration
              else r.take_h264_unit unit duration).1 ∧
          Shows Ready contents (if r.is_hevc then r.take_h265_unit unit duration
              else r.take_h264_unit unit duration).2
            (if h.is_hevc then calls.mp4_h265_write_nal unit duration h s
              else calls.mp4_h264_write_nal unit duration h s).2.1
            (if h.is_hevc then calls.mp4_h265_write_nal unit duration h s
              else calls.mp4_h264_write_nal unit duration h s).2.2 := by
      intro hroom
      rw [hhevc]
      cases hkind : r.is_hevc with
      | true =>
        rw [hkind] at hunit hroom
        exact hshows.h265_unit hstores hunit duration hroom
      | false =>
        rw [hkind] at hunit hroom
        exact hshows.h264_unit hstores hunit duration hroom
    unfold Recording.take_units at hroom ⊢
    unfold DataCalls.write_nal_units
    generalize (if r.is_hevc then r.take_h265_unit unit duration
      else r.take_h264_unit unit duration) = taken at hgrows hstep hroom ⊢
    generalize (if h.is_hevc then calls.mp4_h265_write_nal unit duration h s
      else calls.mp4_h264_write_nal unit duration h s) = written at hstep ⊢
    dsimp only at hroom ⊢
    by_cases hok : taken.1 ≠ MP4E_STATUS_OK
    · rw [if_pos hok] at hroom
      obtain ⟨hresult, hnext⟩ := hstep hroom
      rw [if_pos hok, if_pos (hresult ▸ hok)]
      exact ⟨hresult, hnext⟩
    · rw [if_neg hok] at hroom
      have hrest := (Recording.grows_take_units taken.2 duration rest).length_le
      obtain ⟨hresult, hnext⟩ := hstep (by omega)
      rw [if_neg hok, if_neg (hresult ▸ hok)]
      apply ih hnext _ hroom
      intro nal hnal
      rw [hgrows.is_hevc]
      exact hfits nal (List.mem_cons_of_mem _ hnal)

end

end amldigitalfpv.minimp4

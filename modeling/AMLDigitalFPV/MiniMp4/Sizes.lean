import AMLDigitalFPV.MiniMp4.IndexSize
import AMLDigitalFPV.MiniMp4.RecordedFile

namespace amldigitalfpv.minimp4

open big_endian

/-- Calls that only get the sizes answer as the calls that get the data do, in
a state that shows what they need of it. -/
structure Forgets {σ ρ : Type} (calls : DataCalls σ) (sizes : Calls ρ) (view : σ → ρ) : Prop where
  write_callback : ∀ offset data s, sizes.write_callback offset data.length (view s) =
    ((calls.write_callback offset data s).1, view (calls.write_callback offset data s).2)
  malloc : ∀ s, sizes.malloc (view s) = ((calls.malloc s).1, view (calls.malloc s).2)

/-- What is left of a result when the state is only viewed. -/
def viewed {α β σ ρ : Type} (view : σ → ρ) (result : α × β × σ) : α × β × ρ :=
  (result.1, result.2.1, view result.2.2)

section

variable {σ ρ : Type} {calls : DataCalls σ} {sizes : Calls ρ} {view : σ → ρ}
  (hforgets : Forgets calls sizes view)
include hforgets

theorem Forgets.append_mem (mem v : Bytes) (s : σ) :
    append_mem sizes mem v (view s) = viewed view (append_mem calls.allocator mem v s) := by
  have hallocator (s : σ) : calls.allocator.malloc s = calls.malloc s := rfl
  unfold minimp4.append_mem
  simp only [hforgets.malloc, hallocator]
  split
  · rfl
  · split
    · rfl
    · split <;> rfl

theorem Forgets.set_vps (nal : Bytes) (mux : MP4E_mux_t) (s : σ) :
    MP4E_set_vps sizes nal mux (view s) =
      viewed view (MP4E_set_vps calls.allocator nal mux s) := by
  unfold MP4E_set_vps
  rw [hforgets.append_mem]
  rfl

theorem Forgets.set_sps (nal : Bytes) (mux : MP4E_mux_t) (s : σ) :
    MP4E_set_sps sizes nal mux (view s) =
      viewed view (MP4E_set_sps calls.allocator nal mux s) := by
  unfold MP4E_set_sps
  rw [hforgets.append_mem]
  rfl

theorem Forgets.set_pps (nal : Bytes) (mux : MP4E_mux_t) (s : σ) :
    MP4E_set_pps sizes nal mux (view s) =
      viewed view (MP4E_set_pps calls.allocator nal mux s) := by
  unfold MP4E_set_pps
  rw [hforgets.append_mem]
  rfl

theorem Forgets.index_sample (data_bytes duration : Nat) (kind : SampleKind) (mux : MP4E_mux_t)
    (s : σ) :
    index_sample sizes data_bytes duration kind mux (view s) =
      viewed view (index_sample calls.allocator data_bytes duration kind mux s) := by
  have hallocator : calls.allocator.malloc s = calls.malloc s := rfl
  unfold minimp4.index_sample
  simp only [hforgets.malloc, hallocator]
  split
  · split <;> rfl
  · split <;> rfl

theorem Forgets.write_sample (data : Bytes) (mux : MP4E_mux_t) (s : σ) :
    write_sample sizes data.length mux (view s) = viewed view (calls.write_sample data mux s) := by
  unfold minimp4.write_sample DataCalls.write_sample
  rw [hforgets.write_callback]
  dsimp only
  split <;> rfl

theorem Forgets.put_sample (data : Bytes) (duration : Nat) (kind : SampleKind) (mux : MP4E_mux_t)
    (s : σ) :
    MP4E_put_sample sizes data.length duration kind mux (view s) =
      viewed view (calls.MP4E_put_sample data duration kind mux s) := by
  unfold minimp4.MP4E_put_sample DataCalls.MP4E_put_sample
  rw [hforgets.index_sample]
  dsimp only [viewed]
  split
  · rfl
  · exact hforgets.write_sample data _ _

theorem Forgets.put_nal (nal : Bytes) (duration : Nat) (kind : SampleKind) (h : mp4_h26x_writer_t)
    (s : σ) :
    put_nal sizes nal duration kind h (view s) =
      viewed view (calls.put_nal nal duration kind h s) := by
  have hlength : (encode 4 nal.length ++ nal).length = 4 + nal.length := by
    rw [List.length_append, length_encode]
  have hput := hforgets.put_sample (encode 4 nal.length ++ nal) duration kind h.mux
  rw [hlength] at hput
  unfold minimp4.put_nal DataCalls.put_nal
  rw [hforgets.malloc]
  dsimp only
  split
  · rfl
  · rw [hput]
    rfl

theorem Forgets.h265_write_nal (nal : Bytes) (duration : Nat) (h : mp4_h26x_writer_t) (s : σ) :
    mp4_h265_write_nal sizes nal duration h (view s) =
      viewed view (calls.mp4_h265_write_nal nal duration h s) := by
  unfold minimp4.mp4_h265_write_nal DataCalls.mp4_h265_write_nal
  dsimp only
  rw [hforgets.set_vps, hforgets.set_sps, hforgets.set_pps, hforgets.put_nal]
  split
  · rfl
  · split
    · rfl
    · split
      · rfl
      · split <;> rfl

theorem Forgets.h264_write_slice (nal : Bytes) (payload_type duration : Nat)
    (h : mp4_h26x_writer_t) (s : σ) :
    mp4_h264_write_slice sizes nal payload_type duration h (view s) =
      viewed view (calls.mp4_h264_write_slice nal payload_type duration h s) := by
  unfold minimp4.mp4_h264_write_slice DataCalls.mp4_h264_write_slice
  dsimp only
  split
  · rfl
  · split
    · exact hforgets.put_nal nal duration _ _ s
    · rfl

theorem Forgets.h264_write_nal (nal : Bytes) (duration : Nat) (h : mp4_h26x_writer_t) (s : σ) :
    mp4_h264_write_nal sizes nal duration h (view s) =
      viewed view (calls.mp4_h264_write_nal nal duration h s) := by
  unfold minimp4.mp4_h264_write_nal DataCalls.mp4_h264_write_nal
  dsimp only
  rw [hforgets.set_sps, hforgets.set_pps, hforgets.h264_write_slice]
  split
  · rfl
  · split
    · rfl
    · split <;> rfl

theorem Forgets.write_nal_units (duration : Nat) (nals : List Bytes) (h : mp4_h26x_writer_t)
    (s : σ) :
    write_nal_units sizes duration nals h (view s) =
      viewed view (calls.write_nal_units duration nals h s) := by
  induction nals generalizing h s with
  | nil => rfl
  | cons nal rest ih =>
    have hwritten : (if h.is_hevc then mp4_h265_write_nal sizes nal duration h (view s)
        else mp4_h264_write_nal sizes nal duration h (view s)) =
        viewed view (if h.is_hevc then calls.mp4_h265_write_nal nal duration h s
          else calls.mp4_h264_write_nal nal duration h s) := by
      split
      · exact hforgets.h265_write_nal nal duration h s
      · exact hforgets.h264_write_nal nal duration h s
    unfold minimp4.write_nal_units DataCalls.write_nal_units
    rw [hwritten]
    generalize (if h.is_hevc then calls.mp4_h265_write_nal nal duration h s
      else calls.mp4_h264_write_nal nal duration h s) = written
    dsimp only [viewed]
    split
    · rfl
    · exact ih _ _

/-- Frames one after the other leave the same writer, with and without their
data. -/
theorem Forgets.write_frames (frames : List (Bytes × Nat)) (h : mp4_h26x_writer_t) (s : σ) :
    frames.foldl (fun state frame => (mp4_h26x_write_nal sizes frame.1 frame.2 state.1 state.2).2)
        (h, view s) =
      ((calls.write_frames frames h s).1, view (calls.write_frames frames h s).2) := by
  induction frames generalizing h s with
  | nil => rfl
  | cons frame rest ih =>
    have hframe : (mp4_h26x_write_nal sizes frame.1 frame.2 h (view s)).2 =
        ((calls.mp4_h26x_write_nal frame.1 frame.2 h s).2.1,
          view (calls.mp4_h26x_write_nal frame.1 frame.2 h s).2.2) :=
      congrArg Prod.snd (hforgets.write_nal_units frame.2 (nal_units frame.1) h s)
    rw [List.foldl_cons, hframe, ih]
    rfl

theorem Forgets.open (s : σ) :
    MP4E_open sizes (view s) = ((calls.MP4E_open s).1, view (calls.MP4E_open s).2) := by
  have hftyp := hforgets.write_callback 0 box_ftyp
  have hfiller := hforgets.write_callback 24 (box_ftyp.take 8)
  have hftyp_length : box_ftyp.length = 24 := rfl
  have hfiller_length : (box_ftyp.take 8).length = 8 := rfl
  rw [hftyp_length] at hftyp
  rw [hfiller_length] at hfiller
  unfold minimp4.MP4E_open DataCalls.MP4E_open
  simp only [hftyp, hforgets.malloc, hfiller]
  split
  · rfl
  · split
    · rfl
    · split <;> rfl

theorem Forgets.close (info : MP4E_track_t) (mux : MP4E_mux_t) (s : σ) :
    MP4E_close sizes mux (view s) =
      ((calls.MP4E_close info mux s).1, view (calls.MP4E_close info mux s).2) := by
  have hheader := hforgets.write_callback 24 (mdat_header mux.write_pos)
  have hindex := hforgets.write_callback mux.write_pos (index_atoms info mux)
  rw [length_mdat_header] at hheader
  rw [length_index_atoms] at hindex
  unfold minimp4.MP4E_close DataCalls.MP4E_close minimp4.mp4e_flush_index
    DataCalls.mp4e_flush_index
  simp only [hforgets.malloc, hheader, hindex]
  split
  · rfl
  · split <;> rfl

end

/-- A recording made by calls that are given the data is, as far as the sizes
show it, the one made by calls that are given only the sizes: the multiplexer
never looks at the data again, and the index is as long as it is said to be. -/
theorem Forgets.session {σ ρ : Type} {calls : DataCalls σ} {sizes : Calls ρ} {view : σ → ρ}
    (hforgets : Forgets calls sizes view) (is_hevc : Bool) (frames : List (Bytes × Nat))
    (info : MP4E_track_t) (s : σ) :
    let opened := calls.MP4E_open s
    let written := calls.write_frames frames (mp4_h26x_write_init opened_mux is_hevc) opened.2
    let closed := calls.MP4E_close info written.1.mux written.2
    let opened_sizes := MP4E_open sizes (view s)
    let written_sizes := frames.foldl
      (fun state frame => (mp4_h26x_write_nal sizes frame.1 frame.2 state.1 state.2).2)
      (mp4_h26x_write_init opened_mux is_hevc, opened_sizes.2)
    let closed_sizes := MP4E_close sizes written_sizes.1.mux written_sizes.2
    opened_sizes.1 = opened.1 ∧ written_sizes.1 = written.1 ∧ closed_sizes.1 = closed.1 ∧
      closed_sizes.2 = view closed.2 := by
  dsimp only
  rw [hforgets.open, hforgets.write_frames, hforgets.close info]
  exact ⟨rfl, rfl, rfl, rfl⟩

/-- The calls of a file that takes every write, given the sizes alone. -/
def size_calls : Calls Unit :=
  { write_callback := fun _ _ _ => (0, ())
    malloc := fun _ => (true, ()) }

theorem forgets_file_calls : Forgets file_calls size_calls fun _ => () :=
  ⟨fun _ _ _ => rfl, fun _ => rfl⟩

/-- A key frame with its parameter sets, and a picture after it. -/
def key_stream : List (Bytes × Nat) :=
  [([0, 0, 1, 0x67, 0x42] ++ [0, 0, 1, 0x68, 0xCE] ++ [0, 0, 1, 0x65, 0x88], 3000),
    ([0, 0, 1, 0x41, 0x9A], 1500)]

theorem session_two :
    (key_stream.foldl
      (fun state frame => (mp4_h26x_write_nal size_calls frame.1 frame.2 state.1 state.2).2)
      (mp4_h26x_write_init opened_mux false, (MP4E_open size_calls ()).2)).1.mux.smpl =
        [⟨6, 40, 3000, true⟩, ⟨6, 46, 1500, false⟩] := by
  have hsame := (forgets_file_calls.session false key_stream (h26x_track 64 48) []).2.1
  have hwritten : (file_calls.write_frames key_stream (mp4_h26x_write_init opened_mux false)
      (file_calls.MP4E_open []).2).1.mux.smpl = [⟨6, 40, 3000, true⟩, ⟨6, 46, 1500, false⟩] := by
    decide +kernel
  exact (congrArg (fun h => h.mux.smpl) hsame).trans hwritten

end amldigitalfpv.minimp4

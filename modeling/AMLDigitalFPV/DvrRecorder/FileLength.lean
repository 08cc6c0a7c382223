import AMLDigitalFPV.DvrRecorder.StorageError
import AMLDigitalFPV.MiniMp4.IndexSize

open Runs amldigitalfpv.frame_ring_buffer amldigitalfpv.minimp4

namespace amldigitalfpv.dvr_recorder

/-- The largest length of a file that FAT32 can hold. -/
def max_file_length : Nat := 2 ^ 32 - 1

/-- All input and output on open files succeeds. -/
structure Machine.Reliable {ω : Type} (M : Machine ω) : Prop where
  fseek : ∀ offset machine, (M.fseek offset machine).1 = true
  fwrite : ∀ size machine, (M.fwrite size machine).1 = size

/-- The allocator never fails. -/
def Machine.Allocates {ω : Type} (M : Machine ω) : Prop :=
  ∀ machine, (M.malloc machine).1 = true

/-- The length that the muxer's state asks of the file when it is closed: the
data written so far and the index of its samples behind them. -/
def Recording.full_length (file : Recording) : Nat :=
  file.mux.write_pos + index_bytes file.mux

section

variable {ω : Type} (M : Machine ω)

/-- No file produced in the run over `cmds` outgrows FAT32. -/
def FitsFat32 (w : Worker (Disk ω)) (cmds : List Command) : Prop :=
  ∀ file ∈ (DvrRecorder.worker_loop M.host w cmds).host.produced, file.length ≤ max_file_length

/-- No longer than the muxer's state asks for, and exactly as long unless an
allocation can fail. -/
def Recording.Bounded (file : Recording) : Prop :=
  file.length ≤ file.full_length ∧ (M.Allocates → file.length = file.full_length)

/-- The file exists as far as the callback is concerned. -/
def Env.HasFile (env : Env ω) : Prop := env.recorder.file_ ≠ none

/-- What the recorder and the files on the disk satisfy throughout a run. -/
structure Sound (w : World (Disk ω)) : Prop where
  produced : ∀ file ∈ w.host.produced, file.Bounded M
  session : w.self.writer_ready_ = true → w.self.mux_ ≠ none ∧
    Within Env.HasFile Env.length w.host.writer.mux (w.host.env w.self)

variable {M}

theorem Machine.Reliable.ask (hio : M.Reliable) {env : Env ω} (hfile : env.HasFile)
    (offset size : Nat) :
    env.ask M offset size = (⟨offset, size, true, size⟩,
      { env with
        machine := (M.fwrite size (M.fseek offset env.machine).2).2
        length := if size = 0 then env.length else max env.length (offset + size) }) := by
  unfold Env.ask
  rw [if_neg hfile]
  simp [hio.fseek, hio.fwrite]

theorem Machine.Reliable.write_callback (hio : M.Reliable) {env : Env ω} (hfile : env.HasFile)
    (offset size : Nat) :
    M.calls.write_callback offset size env = (0,
      { env with
        machine := (M.fwrite size (M.fseek offset env.machine).2).2
        length := if size = 0 then env.length else max env.length (offset + size)
        calls := env.calls ++ [⟨offset, size, true, size⟩] }) := by
  simp only [Machine.calls, hio.ask hfile, DvrRecorder.file_write_callback,
    DvrRecorder.run_callbacks_file]
  rw [if_neg hfile, if_neg (by simp), if_neg (by simp)]

/-- On a reliable machine the muxer's calls extend the file as they should. -/
theorem Machine.Reliable.extends (hio : M.Reliable) :
    Extends M.calls (Env.HasFile (ω := ω)) Env.length := by
  refine ⟨?_, ?_, ?_, fun _ h => h, fun _ _ => rfl⟩
  · intro offset size env hfile
    rw [hio.write_callback hfile]
  · intro offset size env hfile
    rw [hio.write_callback hfile]
    exact hfile
  · intro offset size env hfile hpositive
    rw [hio.write_callback hfile]
    exact if_neg (Nat.ne_of_gt hpositive)

/-- A file that is closed behind its index is bounded. -/
theorem bounded_of_close (hio : M.Reliable) {mux : MP4E_mux_t} {env : Env ω}
    (h : Within Env.HasFile Env.length mux env) :
    Recording.Bounded M ⟨(minimp4.MP4E_close M.calls mux env).2.length, mux⟩ :=
  ⟨(h.close hio.extends).2, fun hmalloc =>
    h.close_length hio.extends fun env => hmalloc env.machine⟩

theorem Sound.neutral {before after : World (Disk ω)} (hneutral : Neutral before after)
    (h : Sound M before) : Sound M after := by
  refine ⟨hneutral.host ▸ h.produced, fun hready => ?_⟩
  rw [hneutral.ready] at hready
  obtain ⟨hmux, hwithin⟩ := h.session hready
  refine ⟨hneutral.mux ▸ hmux, ?_⟩
  rw [hneutral.host]
  refine ⟨?_, hwithin.length_le, hwithin.header_le⟩
  have hfile : before.self.file_ ≠ none := hwithin.ready
  rw [← hneutral.file] at hfile
  exact hfile

theorem Sound.write_nal (hio : M.Reliable) {w : World (Disk ω)} (h : Sound M w) (frame : Frame)
    (duration : Nat) (hready : w.self.writer_ready_ = true) :
    Sound M (mp4_h26x_write_nal M.host frame duration w).2 := by
  refine ⟨h.produced, fun _ => ?_⟩
  obtain ⟨hmux, hwithin⟩ := h.session hready
  have hwrote := hwithin.h26x_write_nal hio.extends frame duration
  refine ⟨?_, ?_, hwrote.length_le, hwrote.header_le⟩
  · exact fun hnone => hmux ((DvrRecorder.run_callbacks_mux _ _).symm.trans hnone)
  · exact fun hnone => hwithin.ready ((DvrRecorder.run_callbacks_file _ _).symm.trans hnone)

/-- Closing the file adds it to those produced, at the length it has got by
then. -/
theorem close_file_produced {w : World (Disk ω)} (hfile : w.self.file_ ≠ none) :
    (DvrRecorder.close_file M.host w).host.produced =
      w.host.produced ++ [⟨w.host.length, w.host.writer.mux⟩] := by
  obtain ⟨file, hfile⟩ := Option.ne_none_iff_exists'.mp hfile
  unfold DvrRecorder.close_file
  rw [hfile]
  rfl

theorem close_nal_writer_host (w : World (Disk ω)) :
    (DvrRecorder.close_nal_writer M.host w).host.produced = w.host.produced ∧
      (DvrRecorder.close_nal_writer M.host w).host.length = w.host.length ∧
      (DvrRecorder.close_nal_writer M.host w).host.writer.mux = w.host.writer.mux := by
  unfold DvrRecorder.close_nal_writer
  split
  · exact ⟨rfl, rfl, rfl⟩
  · exact ⟨rfl, rfl, rfl⟩

theorem close_mux_of_some {H : Host ω} {w : World ω} {mux : Handle}
    (hmux : w.self.mux_ = some mux) :
    DvrRecorder.close_mux H w =
      (MP4E_close H mux w).update fun self => { self with mux_ := none } := by
  unfold DvrRecorder.close_mux
  rw [hmux]

/-- Closing an open writer adds the current file to those produced, with the
index that the muxer appends. -/
theorem close_writer_produced {w : World (Disk ω)} (hready : w.self.writer_ready_ = true)
    (hmux : w.self.mux_ ≠ none) (hfile : w.self.file_ ≠ none) (clear_recording : Bool) :
    (DvrRecorder.close_writer M.host clear_recording w).host.produced =
      w.host.produced ++ [⟨(minimp4.MP4E_close M.calls w.host.writer.mux (w.host.env
        (w.update fun self => { self with writer_ready_ := false }).self)).2.length,
          w.host.writer.mux⟩] := by
  obtain ⟨mux, hmux⟩ := Option.ne_none_iff_exists'.mp hmux
  obtain ⟨bytes, rotate, hself⟩ :=
    close_mux_self M.host (w.update fun self => { self with writer_ready_ := false })
  have hhost := congrArg World.host (close_mux_of_some (H := M.host)
    (w := w.update fun self => { self with writer_ready_ := false }) hmux)
  rw [DvrRecorder.close_writer, if_neg (by simp [hready])]
  dsimp only [World.log, World.perform]
  generalize DvrRecorder.close_mux M.host
    (w.update fun self => { self with writer_ready_ := false }) = muxed at hself hhost
  obtain ⟨hproduced, hlength, hwriter⟩ := close_nal_writer_host (M := M) muxed
  have hopen : (DvrRecorder.close_nal_writer M.host muxed).self.file_ ≠ none := by
    rw [close_nal_writer_self, hself]
    exact hfile
  have hfinal := close_file_produced (M := M) hopen
  rw [hproduced, hlength, hwriter, hhost] at hfinal
  exact hfinal

theorem Sound.close_writer (hio : M.Reliable) {w : World (Disk ω)} (h : Sound M w)
    (clear_recording : Bool) : Sound M (DvrRecorder.close_writer M.host clear_recording w) := by
  have hclosed := close_writer_ready M.host clear_recording w
  refine ⟨?_, fun hready => by rw [hclosed] at hready; cases hready⟩
  cases hready : w.self.writer_ready_ with
  | false =>
    rw [close_writer_of_not_ready M.host hready]
    exact h.produced
  | true =>
    obtain ⟨hmux, hwithin⟩ := h.session hready
    rw [close_writer_produced hready hmux hwithin.ready]
    intro file hmem
    obtain hbefore | hlast := List.mem_append.mp hmem
    · exact h.produced file hbefore
    · rw [List.mem_singleton.mp hlast]
      exact bounded_of_close hio ⟨hwithin.ready, hwithin.length_le, hwithin.header_le⟩

/-- A world between `fopen` and the end of `open_writer`: a new muxer has
written no further than its write position. -/
structure Opening (M : Machine ω) (file : Handle) (w : World (Disk ω)) : Prop where
  produced : ∀ file ∈ w.host.produced, file.Bounded M
  file : w.self.file_ = some file
  within : Within Env.HasFile Env.length w.host.writer.mux (w.host.env w.self)

theorem Opening.init_writer (hio : M.Reliable) {w : World (Disk ω)} {file : Handle}
    (h : Opening M file w) (hready : w.self.writer_ready_ = false) (mark_recording : Bool)
    (path : Path) (mux : Handle) :
    Sound M (DvrRecorder.init_writer M.host mark_recording path file mux w).2 := by
  have hallocated : Opening M file (DvrRecorder.allocate_writer M.host w) ∧
      (DvrRecorder.allocate_writer M.host w).self.writer_ready_ = false := by
    unfold DvrRecorder.allocate_writer
    split
    · exact ⟨h, hready⟩
    · exact ⟨⟨h.produced, h.file, h.within.ready, h.within.length_le, h.within.header_le⟩, hready⟩
  unfold DvrRecorder.init_writer
  generalize DvrRecorder.allocate_writer M.host w = w₁ at hallocated
  obtain ⟨hopening, hready₁⟩ := hallocated
  dsimp only
  split
  · refine ⟨?_, fun hopen => ?_⟩
    · intro recording hmem
      obtain hbefore | hlast := List.mem_append.mp hmem
      · exact hopening.produced recording hbefore
      · rw [List.mem_singleton.mp hlast]
        exact bounded_of_close hio hopening.within
    · have hclosed : (w₁.self.run_callbacks _).writer_ready_ = true := hopen
      rw [DvrRecorder.run_callbacks_writer_ready, hready₁] at hclosed
      cases hclosed
  · next hwriter =>
    have hwriter : w₁.self.writer_ = true := not_not.mp hwriter
    have hinit : (mp4_h26x_write_init M.host w₁).1 = MP4E_STATUS_OK := rfl
    have hself := start_writer_self mark_recording path mux hopening.file hwriter
      (w := (mp4_h26x_write_init M.host w₁).2)
    rw [if_neg (not_not.mpr hinit)]
    refine ⟨hopening.produced, fun _ => ⟨?_, ?_, hopening.within.length_le,
      hopening.within.header_le⟩⟩
    · rw [hself]
      exact Option.some_ne_none mux
    · unfold Env.HasFile Disk.env
      rw [hself]
      exact Option.some_ne_none file

theorem Opening.open_mux (hio : M.Reliable) {w : World (Disk ω)}
    (hproduced : ∀ file ∈ w.host.produced, file.Bounded M) (hlength : w.host.length = 0)
    (hready : w.self.writer_ready_ = false) (mark_recording : Bool) (path : Path)
    (file : Handle) : Sound M (DvrRecorder.open_mux M.host mark_recording path file w).2 := by
  let asked := w.update fun self => { self with file_ := some file }
  have hfile : Env.HasFile (asked.host.env asked.self) := Option.some_ne_none file
  have hwithin := Within.open hio.extends hfile hlength
  have hself := MP4E_open_self M.host asked
  have hhost := MP4E_open_host M.host asked
  have hsome := MP4E_open_isSome M.host asked
  have hopening : Opening M file (MP4E_open M.host asked).2 := by
    refine ⟨hhost ▸ hproduced, ?_, ?_, hhost ▸ hwithin.length_le, hhost ▸ hwithin.header_le⟩
    · rw [hself, DvrRecorder.run_callbacks_file]
      rfl
    · unfold Env.HasFile Disk.env
      rw [hself, DvrRecorder.run_callbacks_file]
      exact hfile
  have hready₁ : (MP4E_open M.host asked).2.self.writer_ready_ = false := by
    rw [hself, DvrRecorder.run_callbacks_writer_ready]
    exact hready
  unfold DvrRecorder.open_mux
  split
  · next w₁ hreply =>
    rw [hreply] at hopening hready₁ hsome
    refine ⟨?_, fun hopen => ?_⟩
    · intro recording hmem
      obtain hbefore | hlast := List.mem_append.mp hmem
      · exact hopening.produced recording hbefore
      · rw [List.mem_singleton.mp hlast]
        refine ⟨hopening.within.length_le.trans (Nat.le_add_right _ _), fun hmalloc => ?_⟩
        have hopened := open_ok hio.extends (fun env => hmalloc env.machine) hfile
        rw [show (minimp4.MP4E_open M.calls (asked.host.env asked.self)).1 = false from
          hsome.symm] at hopened
        cases hopened
    · rw [show w₁.self.writer_ready_ = true from hopen] at hready₁
      cases hready₁
  · next mux w₁ hreply =>
    rw [hreply] at hopening hready₁
    exact hopening.init_writer hio hready₁ mark_recording path mux

theorem Sound.open_writer (hio : M.Reliable) {w : World (Disk ω)} (h : Sound M w)
    (hready : w.self.writer_ready_ = false) (mark_recording : Bool) :
    Sound M (DvrRecorder.open_writer M.host mark_recording w).2 := by
  have closed : ∀ {after : World (Disk ω)}, after.host.produced = w.host.produced →
      after.self.writer_ready_ = false → Sound M after := by
    intro after hproduced hclosed
    refine ⟨hproduced ▸ h.produced, fun hopen => ?_⟩
    rw [hclosed] at hopen
    cases hopen
  unfold DvrRecorder.open_writer
  rw [if_neg (by simp [hready])]
  split
  · exact closed rfl hready
  · dsimp only
    split
    · exact closed rfl hready
    · unfold fopen
      split
      · next w₁ hopen =>
        split at hopen
        · cases hopen
        · cases hopen
          exact closed rfl hready
      · next file w₁ hopen =>
        split at hopen
        · cases hopen
          refine Opening.open_mux hio ?_ ?_ ?_ mark_recording _ _
          · exact h.produced
          · rfl
          · exact hready
        · cases hopen

theorem Sound.monotonic_ms {w : World (Disk ω)} (h : Sound M w) :
    Sound M (monotonic_ms M.host w).2 := by
  refine ⟨h.produced, fun hready => ?_⟩
  obtain ⟨hmux, hwithin⟩ := h.session hready
  exact ⟨hmux, hwithin.ready, hwithin.length_le, hwithin.header_le⟩

theorem sound_preserved (hio : M.Reliable) : Preserved M.host (Sound M) where
  neutral := Sound.neutral
  monotonic_ms h := h.monotonic_ms
  write_nal frame duration hready h := h.write_nal hio frame duration hready
  close_writer clear_recording h := h.close_writer hio clear_recording
  open_writer mark_recording hready h := h.open_writer hio hready mark_recording

/-- Every file that a recorder produces is as long as the muxer's state asks
for at its closing. -/
theorem produced_bounded (hio : M.Reliable) {w : Worker (Disk ω)}
    (hready : w.self.writer_ready_ = false) (hproduced : w.host.produced = [])
    (cmds : List Command) :
    ∀ file ∈ (DvrRecorder.worker_loop M.host w cmds).host.produced, file.Bounded M := by
  have hstart : Sound M w.toWorld := by
    refine ⟨fun file hmem => ?_, fun hopen => ?_⟩
    · rw [hproduced] at hmem
      cases hmem
    · rw [hready] at hopen
      cases hopen
  exact ((sound_preserved hio).worker_loop hstart cmds).produced

/-- Once all input and output succeeds, the files of a run fit on a FAT32
drive if, whenever one is closed, the muxer's data and index take up no more.
Where memory never runs out they fit only then. -/
theorem fits_fat32_iff (hio : M.Reliable) {w : Worker (Disk ω)}
    (hready : w.self.writer_ready_ = false) (hproduced : w.host.produced = [])
    (cmds : List Command) :
    ((∀ file ∈ (DvrRecorder.worker_loop M.host w cmds).host.produced,
        file.full_length ≤ max_file_length) → FitsFat32 M w cmds) ∧
      (M.Allocates → FitsFat32 M w cmds →
        ∀ file ∈ (DvrRecorder.worker_loop M.host w cmds).host.produced,
          file.full_length ≤ max_file_length) := by
  have hbounded := produced_bounded hio hready hproduced cmds
  constructor
  · intro hfull file hmem
    exact (hbounded file hmem).1.trans (hfull file hmem)
  · intro hmalloc hfits file hmem
    rw [← (hbounded file hmem).2 hmalloc]
    exact hfits file hmem

/-- The reserve that `kMaxFat32Size` leaves is enough for a file if the last frame
goes past it by so little, and there are so few samples, that the index still fits:
24 bytes for each of them. -/
theorem fits_fat32_of_reserve (hio : M.Reliable) {w : Worker (Disk ω)}
    (hready : w.self.writer_ready_ = false) (hproduced : w.host.produced = [])
    {cmds : List Command} {past samples sets : Nat}
    (hfiles : ∀ file ∈ (DvrRecorder.worker_loop M.host w cmds).host.produced,
      file.mux.write_pos ≤ kMaxFat32Size + past ∧ file.mux.smpl.length ≤ samples ∧
        file.mux.vvps.length + file.mux.vsps.length + file.mux.vpps.length ≤ sets)
    (hreserve : past + 24 * samples + sets + 608 ≤ 64 * 1024) : FitsFat32 M w cmds := by
  intro file hmem
  obtain ⟨hpos, hsmpl, hsets⟩ := hfiles file hmem
  have hindex := index_bytes_le file.mux
  have hbounded := (produced_bounded hio hready hproduced cmds file hmem).1
  unfold Recording.full_length at hbounded
  unfold kMaxFat32Size at hpos
  unfold max_file_length
  omega

end

/-- A slice of 32764 bytes, none of them zero. -/
@[irreducible]
def large_slice : Bytes := 0x02 :: 0x01 :: List.replicate 32762 0xFF

/-- An access unit of 32 KiB. -/
def large_frame : Frame := [0, 0, 0, 1] ++ large_slice

theorem length_large_slice : large_slice.length = 32764 := by
  simp only [large_slice, List.length_cons, List.length_replicate]

theorem large_slice_type : (large_slice.getD 0 0).toNat / 2 % 64 = 1 := by
  unfold large_slice
  rfl

theorem nal_units_large_frame : nal_units large_frame = [large_slice] := by
  apply nal_units_single (List.ne_nil_of_length_pos (by rw [length_large_slice]; omega))
  intro byte hmem
  simp only [large_slice, List.mem_cons, List.mem_replicate] at hmem
  rcases hmem with rfl | rfl | ⟨-, rfl⟩ <;> decide

theorem endless_drive_reliable : endless_drive.Reliable := ⟨fun _ _ => rfl, fun _ _ => rfl⟩

/-- The commands that hand over so many large frames. -/
def large_frames (count : Nat) : List Command :=
  List.replicate count ⟨.Frame, some large_frame⟩

/-- A recorder on an endless drive, about to be handed the commands below. -/
def endless_recorder : Worker (Disk Drive) := constructed_on { clock := one_second, free := 0 }

/-- A session with one small key frame and then so many large frames. -/
def long_session (count : Nat) : List Command :=
  (warm_up_commands ++ [⟨.Frame, some first_frame⟩]) ++ large_frames count ++ [⟨.Stop, none⟩]

/-- A short recording fits. -/
theorem fits_fat32_iff_recording :
    (DvrRecorder.worker_loop endless_drive.host endless_recorder
        (long_session 0)).host.produced ≠ [] ∧
      FitsFat32 endless_drive endless_recorder (long_session 0) :=
  ⟨by decide +kernel,
    (fits_fat32_iff endless_drive_reliable rfl rfl (long_session 0)).1 (by decide +kernel)⟩

/-- A session in the middle of a file of `samples + 1` samples, all of them
large but for the first. -/
structure Filling (samples : Nat) (w : World (Disk Drive)) : Prop where
  recording : w.self.recording_ = true
  ready : w.self.writer_ready_ = true
  warm : w.self.warmup_done_ = true
  stop : w.self.stop_requested_ = false
  rotate : w.self.rotate_requested_ = false
  ring_wellFormed : w.self.ring_buffer_.WellFormed
  ring_empty : w.self.ring_buffer_.size_ = 0
  file : w.self.file_ ≠ none
  mux : w.self.mux_ ≠ none
  is_hevc : w.host.writer.is_hevc = true
  parameters : w.host.writer.need_vps = false ∧ w.host.writer.need_sps = false ∧
    w.host.writer.need_pps = false ∧ w.host.writer.need_idr = false
  write_pos : w.host.writer.mux.write_pos = 47 + 32768 * samples
  bytes : w.self.current_file_bytes_ ≤ w.host.writer.mux.write_pos
  smpl : w.host.writer.mux.smpl.length = samples + 1

/-- The muxer's answer to a large frame. -/
theorem write_large_frame (self : DvrRecorder) (disk : Disk Drive)
    (hevc : disk.writer.is_hevc = true)
    (hparameters : disk.writer.need_vps = false ∧ disk.writer.need_sps = false ∧
      disk.writer.need_pps = false ∧ disk.writer.need_idr = false)
    (hfile : self.file_ ≠ none) (duration : Nat) :
    ∃ length sample, endless_drive.host.mp4_h26x_write_nal self large_frame duration disk =
      ((MP4E_STATUS_OK, [⟨disk.writer.mux.write_pos, 32768, true, 32768⟩]),
        { disk with
          length := length
          writer :=
            { disk.writer with
              mux :=
                { disk.writer.mux with
                  smpl := disk.writer.mux.smpl ++ [sample]
                  write_pos := disk.writer.mux.write_pos + 32768 } } }) := by
  have henv : (disk.env self).HasFile := hfile
  have hcallback := endless_drive_reliable.write_callback henv
    disk.writer.mux.write_pos (4 + large_slice.length)
  have hput := put_nal_of_accepted (fun _ => rfl) hcallback duration
  rw [← mp4_h265_write_slice _ (by rw [large_slice_type]; decide) hparameters,
    ← write_nal_units_single _ hevc, ← nal_units_large_frame, length_large_slice] at hput
  unfold Machine.host
  dsimp only
  rw [minimp4.mp4_h26x_write_nal, hput]
  exact ⟨_, _, rfl⟩

theorem Filling.pushed {samples : Nat} {w : World (Disk Drive)} (h : Filling samples w) :
    (pushed large_frame w).self.ring_buffer_.pop.1 = some large_frame ∧
      (pushed large_frame w).self.ring_buffer_.size_ = 1 ∧
      (pushed large_frame w).self.ring_buffer_.WellFormed := by
  have hempty : w.self.ring_buffer_.contents = [] := by
    rw [← List.length_eq_zero_iff, FrameRingBuffer.length_contents]
    exact h.ring_empty
  have hcontents : (dvr_recorder.pushed large_frame w).self.ring_buffer_.contents =
      [some large_frame] := by
    apply (h.ring_wellFormed.push_contents (some large_frame)).trans
    rw [hempty]
    exact BoundedQueue.push_of_room _ h.ring_wellFormed.capacity_pos
  have hsize : (dvr_recorder.pushed large_frame w).self.ring_buffer_.size_ = 1 := by
    rw [← FrameRingBuffer.length_contents, hcontents]
    rfl
  have hring : (dvr_recorder.pushed large_frame w).self.ring_buffer_.WellFormed :=
    h.ring_wellFormed.push (some large_frame)
  rw [hring.pop_contents (by omega)] at hcontents
  exact ⟨(List.cons.inj hcontents).1, hsize, hring⟩

theorem write_popped_of_reply {H : Host ω} {frame : Frame} {w : World ω} {res : Int}
    {calls : List WriteCall} {host : ω}
    (hreply : H.mp4_h26x_write_nal (popped w).self frame
      (if w.self.frame_duration_ = 0 then kDefaultFrameDuration else w.self.frame_duration_)
      (popped w).host = ((res, calls), host)) :
    (write_popped H frame w).1 = res ∧
      (write_popped H frame w).2.self = (popped w).self.run_callbacks calls ∧
      (write_popped H frame w).2.host = host := by
  unfold write_popped mp4_h26x_write_nal
  rw [hreply]
  exact ⟨rfl, rfl, rfl⟩

/-- The muxer takes a large frame into the file. -/
theorem Filling.write {samples : Nat} {w : World (Disk Drive)} (h : Filling samples w)
    (hroom : 47 + 32768 * (samples + 1) < kMaxFat32Size) :
    (write_popped endless_drive.host large_frame (dvr_recorder.pushed large_frame w)).1 =
        MP4E_STATUS_OK ∧
      Filling (samples + 1)
        (write_popped endless_drive.host large_frame (dvr_recorder.pushed large_frame w)).2 := by
  obtain ⟨-, hsize, hring⟩ := h.pushed
  let v := popped (dvr_recorder.pushed large_frame w)
  obtain ⟨length, sample, hreply⟩ := write_large_frame v.self v.host h.is_hevc h.parameters h.file
    (if w.self.frame_duration_ = 0 then kDefaultFrameDuration else w.self.frame_duration_)
  obtain ⟨hres, hself, hhost⟩ := write_popped_of_reply hreply
  have hpos : (popped (dvr_recorder.pushed large_frame w)).host.writer.mux.write_pos =
      47 + 32768 * samples := h.write_pos
  have hbytes : w.self.current_file_bytes_ ≤ 47 + 32768 * samples := by
    rw [← h.write_pos]
    exact h.bytes
  have hlimit : decide (kMaxFat32Size ≤ 47 + 32768 * samples + 32768) = false :=
    decide_eq_false (by omega)
  rw [DvrRecorder.run_callbacks, List.foldl_cons, List.foldl_nil,
    DvrRecorder.file_write_callback_accepted (by exact h.file), hpos, hlimit] at hself
  rw [hpos] at hhost
  refine ⟨hres, ?_⟩
  constructor
  all_goals try rw [hself]
  all_goals try rw [hhost]
  case recording => exact h.recording
  case ready => exact h.ready
  case warm => exact h.warm
  case stop => exact h.stop
  case rotate => exact (Bool.or_false _).trans h.rotate
  case ring_wellFormed => exact hring.pop
  case ring_empty => exact congrArg (· - 1) hsize
  case file => exact h.file
  case mux => exact h.mux
  case is_hevc => exact h.is_hevc
  case parameters => exact h.parameters
  case write_pos => exact (Nat.add_assoc _ _ _).trans (congrArg (47 + ·) (Nat.mul_succ _ _).symm)
  case bytes => exact Nat.max_le.mpr ⟨hbytes.trans (Nat.le_add_right _ _), Nat.le_refl _⟩
  case smpl => exact List.length_append.trans (congrArg (· + 1) h.smpl)

/-- Short of the size limit the drain loop goes on after a frame. -/
theorem Filling.after_write {samples : Nat} {w : World (Disk Drive)} (h : Filling samples w)
    (hroom : 47 + 32768 * samples < kMaxFat32Size) :
    DvrRecorder.after_write endless_drive.host w = (true, w) := by
  have hbytes := h.bytes
  have hpos := h.write_pos
  unfold DvrRecorder.after_write
  simp only [h.rotate, Bool.false_eq_true, if_false, h.stop]
  rw [if_neg (by omega)]

theorem process_frame {H : Host ω} {w : World ω} (hrecording : w.self.recording_ = true)
    (hwarm : w.self.warmup_done_ = true) (frame : Frame) :
    DvrRecorder.process_command H ⟨.Frame, some frame⟩ w =
      DvrRecorder.drain H (pushed frame w).self.ring_buffer_.size_ (pushed frame w) := by
  simp [DvrRecorder.process_command, DvrRecorder.handle_command, hrecording, hwarm, pushed]

theorem Filling.frame {samples : Nat} {w : World (Disk Drive)} (h : Filling samples w)
    (hroom : 47 + 32768 * (samples + 1) < kMaxFat32Size) :
    Filling (samples + 1)
      (DvrRecorder.process_command endless_drive.host ⟨.Frame, some large_frame⟩ w) := by
  obtain ⟨hframe, hsize, -⟩ := h.pushed
  obtain ⟨hres, hwritten⟩ := h.write hroom
  have hcond : (dvr_recorder.pushed large_frame w).self.drain_condition = true := by
    rw [drain_condition_iff]
    exact ⟨h.recording, h.ready, h.warm, by omega⟩
  have hbody := drain_body_of_accepted endless_drive.host hframe
    (by rw [hres]; exact not_not.mpr (Or.inl rfl))
  rw [hwritten.after_write hroom] at hbody
  rw [process_frame h.recording h.warm, hsize, DvrRecorder.drain, if_pos hcond, hbody]
  exact hwritten

/-- A file takes large frames until it comes near the size limit. -/
theorem Filling.frames {samples : Nat} {w : Worker (Disk Drive)} (h : Filling samples w.toWorld)
    (hexited : w.exited = false) (count : Nat)
    (hroom : 47 + 32768 * (samples + count) < kMaxFat32Size) :
    (DvrRecorder.worker_loop endless_drive.host w (large_frames count)).exited = false ∧
      Filling (samples + count)
        (DvrRecorder.worker_loop endless_drive.host w (large_frames count)).toWorld := by
  induction count with
  | zero => exact ⟨hexited, h⟩
  | succ count ih =>
    obtain ⟨hexited', hfilling⟩ := ih (by omega)
    rw [large_frames, List.replicate_succ', ← large_frames, worker_loop_concat,
      DvrRecorder.worker_step, if_neg (by rw [hexited']; exact Bool.false_ne_true)]
    exact ⟨rfl, hfilling.frame hroom⟩

theorem filling_after_first_frame :
    Filling 0 (DvrRecorder.worker_loop endless_drive.host endless_recorder
      (warm_up_commands ++ [⟨.Frame, some first_frame⟩])).toWorld where
  recording := by decide +kernel
  ready := by decide +kernel
  warm := by decide +kernel
  stop := by decide +kernel
  rotate := by decide +kernel
  ring_wellFormed :=
    ⟨by decide +kernel, by decide +kernel, by decide +kernel, by decide +kernel⟩
  ring_empty := by decide +kernel
  file := by decide +kernel
  mux := by decide +kernel
  is_hevc := by decide +kernel
  parameters := by decide +kernel
  write_pos := by decide +kernel
  bytes := by decide +kernel
  smpl := by decide +kernel

theorem length_large_frame : large_frame.length = 32768 := by
  rw [large_frame, List.length_append, length_large_slice]
  rfl

theorem long_session_frames (count : Nat) : ∀ cmd ∈ long_session count, ∀ frame,
    cmd.frame = some frame → frame.length ≤ 32768 := by
  have hfirst : ∀ cmd ∈ warm_up_commands ++ [⟨.Frame, some first_frame⟩], ∀ frame,
      cmd.frame = some frame → frame.length ≤ 32768 := by
    intro cmd hmem frame hframe
    simp only [warm_up_commands, List.cons_append, List.nil_append, List.mem_cons,
      List.not_mem_nil, or_false] at hmem
    rcases hmem with rfl | rfl | rfl | rfl <;> cases hframe <;> decide
  intro cmd hmem frame hframe
  obtain hbefore | hstop := List.mem_append.mp hmem
  · obtain hsmall | hlarge := List.mem_append.mp hbefore
    · exact hfirst cmd hsmall frame hframe
    · rw [List.eq_of_mem_replicate hlarge] at hframe
      cases hframe
      rw [length_large_frame]
  · rw [List.mem_singleton.mp hstop] at hframe
    cases hframe

/-- Stopping closes the file, with its index behind the data. -/
theorem Filling.stop_file {samples : Nat} {w : Worker (Disk Drive)}
    (h : Filling samples w.toWorld) (hexited : w.exited = false) :
    ∃ file ∈ (DvrRecorder.worker_step endless_drive.host w ⟨.Stop, none⟩).host.produced,
      47 + 32768 * samples + 8 * (samples + 1) ≤ file.full_length := by
  obtain ⟨length, hproduced⟩ : ∃ length,
      (DvrRecorder.close_writer endless_drive.host true w.toWorld).host.produced =
        w.host.produced ++ [⟨length, w.host.writer.mux⟩] :=
    ⟨_, close_writer_produced h.ready h.mux h.file true⟩
  rw [DvrRecorder.worker_step, if_neg (by rw [hexited]; exact Bool.false_ne_true)]
  refine ⟨⟨length, w.host.writer.mux⟩, ?_, ?_⟩
  · change _ ∈ (DvrRecorder.close_writer endless_drive.host true w.toWorld).host.produced
    rw [hproduced]
    exact List.mem_append_right _ (List.mem_singleton_self _)
  · have hindex := index_bytes_ge w.host.writer.mux
    rw [h.smpl] at hindex
    change _ ≤ w.host.writer.mux.write_pos + index_bytes w.host.writer.mux
    rw [h.write_pos]
    omega

/-- A long session that stays below the size limit produces a file with eight
bytes more for every sample. -/
theorem long_session_length (count : Nat) (hroom : 47 + 32768 * (0 + count) < kMaxFat32Size) :
    ∃ file ∈ (DvrRecorder.worker_loop endless_drive.host endless_recorder
        (long_session count)).host.produced,
      47 + 32768 * (0 + count) + 8 * (0 + count + 1) ≤ file.length := by
  have hfirst : (DvrRecorder.worker_loop endless_drive.host endless_recorder
      (warm_up_commands ++ [⟨.Frame, some first_frame⟩])).exited = false := by
    decide +kernel
  obtain ⟨hexited, hfilling⟩ := filling_after_first_frame.frames hfirst count hroom
  obtain ⟨file, hmem, hfull⟩ := hfilling.stop_file hexited
  rw [DvrRecorder.worker_loop, DvrRecorder.worker_loop, ← List.foldl_append,
    ← DvrRecorder.worker_loop, ← worker_loop_concat, ← long_session] at hmem
  have hbounded := produced_bounded endless_drive_reliable (w := endless_recorder) rfl rfl _ file
    hmem
  have hmalloc : endless_drive.Allocates := fun _ => rfl
  exact ⟨file, hmem, hfull.trans (hbounded.2 hmalloc).ge⟩

/-- The index of 131070 samples does not fit into the reserve. -/
theorem fits_fat32_counterexample :
    ¬ ((∀ cmd ∈ long_session 131069, ∀ frame, cmd.frame = some frame → frame.length ≤ 32768) →
      FitsFat32 endless_drive endless_recorder (long_session 131069)) := by
  intro hfits
  obtain ⟨file, hmem, hlength⟩ := long_session_length 131069 (by decide)
  have hfit := hfits (long_session_frames 131069) file hmem
  unfold max_file_length at hfit
  omega

end amldigitalfpv.dvr_recorder

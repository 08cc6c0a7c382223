import AMLDigitalFPV.DvrRecorder.Footage
import AMLDigitalFPV.MiniMp4.FirstPicture
import AMLDigitalFPV.MiniMp4.Playback
import AMLDigitalFPV.MiniMp4.RefusedFile

open Runs amldigitalfpv.frame_ring_buffer amldigitalfpv.minimp4

namespace amldigitalfpv.dvr_recorder

/-- Input and output succeed as long as files end within the limit, and memory
does not run out. -/
structure Machine.ReliableBelow {ω : Type} (M : Machine ω) (limit : Nat) : Prop where
  fseek : ∀ offset, offset < limit → ∀ machine, (M.fseek offset machine).1 = true
  fwrite : ∀ size machine, (M.fwrite size machine).1 = size
  malloc : M.Allocates

/-- The recording that the muxer makes of frames. -/
def filmed (is_hevc : Bool) (frames : List (Frame × Nat)) : minimp4.Recording :=
  (minimp4.Recording.start is_hevc).take_frames frames

/-- The parameter sets in the frames have sizes that two bytes can hold. -/
def ParameterSetsFit (is_hevc : Bool) (frames : List (Frame × Nat)) : Prop :=
  ∀ frame ∈ frames, ∀ nal ∈ nal_units frame.1,
    is_parameter_set is_hevc nal → nal.length < 256 ^ 2

/-- Unless it is too long for the machine, the file is that of the recording of
the frames. -/
def Film.Shows (limit : Nat) (film : Film) (frames : List (Frame × Nat)) : Prop :=
  ParameterSetsFit film.is_hevc frames →
    (recorded_file film.track (filmed film.is_hevc frames)).length ≤ limit →
    film.contents = recorded_file film.track (filmed film.is_hevc frames)

def FilmEnv.HasFile {ω : Type} (state : FilmEnv ω) : Prop := state.env.HasFile

section

variable {ω : Type} {M : Machine ω} {limit : Nat}

theorem Machine.ReliableBelow.write_callback (hio : M.ReliableBelow limit) {state : FilmEnv ω}
    (hfile : state.HasFile) {offset : Nat} {data : Bytes} (hne : data ≠ [])
    (hend : offset + data.length ≤ limit) : ∃ env,
    M.film_calls.write_callback offset data state =
      (0, { env := env, contents := put_at offset data state.contents }) ∧ env.HasFile := by
  have hpositive : data.length ≠ 0 := fun hzero => hne (List.length_eq_zero_iff.mp hzero)
  have hseek : (M.fseek offset state.env.machine).1 = true := hio.fseek offset (by omega) _
  have hasked : (state.env.ask M offset data.length).1 =
      ⟨offset, data.length, true, data.length⟩ := by
    unfold Env.ask
    rw [if_neg hfile]
    simp [hseek, hio.fwrite]
  have hresult : (M.calls.write_callback offset data.length state.env).1 = 0 := by
    simp only [Machine.calls, hasked, DvrRecorder.file_write_callback,
      DvrRecorder.run_callbacks_file]
    rw [if_neg hfile, if_neg (by simp), if_neg (by simp)]
  have hkept : (M.calls.write_callback offset data.length state.env).2.HasFile := by
    have hrecorder : (state.env.ask M offset data.length).2.recorder = state.env.recorder := by
      unfold Env.ask
      rw [if_neg hfile]
      dsimp only
      rw [if_neg (not_not.mpr hseek)]
    unfold Env.HasFile Machine.calls
    dsimp only
    rw [hrecorder]
    exact hfile
  refine ⟨_, ?_, hkept⟩
  unfold Machine.film_calls
  dsimp only
  rw [hresult, hasked]
  dsimp only
  rw [if_neg hpositive, List.take_length]

theorem Machine.ReliableBelow.stores (hio : M.ReliableBelow limit) :
    Stores M.film_calls (FilmEnv.HasFile (ω := ω)) FilmEnv.contents limit where
  malloc_ok state _ := hio.malloc state.env.machine
  malloc_ready _ hfile := hfile
  malloc_contents _ _ := rfl
  write_ok offset data state hfile hne hend := by
    obtain ⟨env, hcall, -⟩ := hio.write_callback hfile hne hend
    rw [hcall]
  write_ready offset data state hfile hne hend := by
    obtain ⟨env, hcall, hkept⟩ := hio.write_callback hfile hne hend
    rw [hcall]
    exact hkept
  write_contents offset data state hfile hne hend := by
    obtain ⟨env, hcall, -⟩ := hio.write_callback hfile hne hend
    rw [hcall]

end

/-- The file that is being written shows the frames written to it so far. -/
structure Rolling {ω : Type} (limit : Nat) (w : World (Footage ω)) : Prop where
  mux : w.self.mux_ ≠ none
  file : w.self.file_ ≠ none
  shows_frames : ParameterSetsFit w.host.is_hevc (reels w.trace).current →
    40 + (media (filmed w.host.is_hevc (reels w.trace).current).pictures).length ≤ limit →
    Shows FilmEnv.HasFile FilmEnv.contents (filmed w.host.is_hevc (reels w.trace).current)
      w.host.writer (w.host.film_env w.self)

/-- What holds of the files throughout a run. -/
structure Filming {ω : Type} (limit : Nat) (w : World (Footage ω)) : Prop where
  films : List.Forall₂ (Film.Shows limit) w.host.films (reels w.trace).closed
  session : w.self.writer_ready_ = true → Rolling limit w

section

variable {ω : Type} {M : Machine ω} {limit : Nat}

theorem Filming.neutral {before after : World (Footage ω)} (hneutral : Neutral before after)
    (h : Filming limit before) : Filming limit after := by
  obtain ⟨taken, htrace, hlogs⟩ := hneutral.trace
  have hreels : reels after.trace = reels before.trace := by
    rw [htrace]
    apply reels_of_logs
    intro action hmem
    obtain ⟨line, hline, -⟩ := hlogs action hmem
    exact ⟨line, hline⟩
  refine ⟨?_, fun hready => ?_⟩
  · rw [hneutral.host, hreels]
    exact h.films
  · rw [hneutral.ready] at hready
    obtain ⟨hmux, hfile, hshows⟩ := h.session hready
    refine ⟨hneutral.mux ▸ hmux, hneutral.file ▸ hfile, ?_⟩
    rw [hneutral.host, hreels]
    intro hfit hroom
    obtain ⟨hwriter, -, hholds, hsets⟩ := hshows hfit hroom
    refine ⟨hwriter, ?_, hholds, hsets⟩
    change after.self.file_ ≠ none
    rw [hneutral.file]
    exact hfile

theorem Filming.monotonic_ms {w : World (Footage ω)} (h : Filming limit w) :
    Filming limit (monotonic_ms M.film_host w).2 := by
  refine ⟨h.films, fun hready => ?_⟩
  obtain ⟨hmux, hfile, hshows⟩ := h.session hready
  refine ⟨hmux, hfile, fun hfit hroom => ?_⟩
  obtain ⟨hwriter, hready, hholds, hsets⟩ := hshows hfit hroom
  exact ⟨hwriter, hready, hholds, hsets⟩

theorem filmed_concat (is_hevc : Bool) (frames : List (Frame × Nat)) (frame : Frame × Nat) :
    filmed is_hevc (frames ++ [frame]) =
      ((filmed is_hevc frames).take_units frame.2 (nal_units frame.1)).2 := by
  unfold filmed Recording.take_frames
  rw [List.foldl_append]
  rfl

theorem filmed_is_hevc (is_hevc : Bool) (frames : List (Frame × Nat)) :
    (filmed is_hevc frames).is_hevc = is_hevc :=
  (Recording.grows_take_frames _ frames).is_hevc

/-- A frame that is written adds to the recording. -/
theorem Filming.write_nal (hio : M.ReliableBelow limit) {w : World (Footage ω)}
    (h : Filming limit w) (frame : Frame) (duration : Nat) (hready : w.self.writer_ready_ = true) :
    Filming limit (mp4_h26x_write_nal M.film_host frame duration w).2 := by
  obtain ⟨hmux, hfile, hshows⟩ := h.session hready
  have hreels : reels (mp4_h26x_write_nal M.film_host frame duration w).2.trace =
      { reels w.trace with current := (reels w.trace).current ++ [(frame, duration)] } :=
    reels_concat _ _
  refine ⟨?_, fun _ => ⟨?_, ?_, ?_⟩⟩
  · rw [hreels]
    exact h.films
  · exact fun hnone => hmux ((DvrRecorder.run_callbacks_mux _ _).symm.trans hnone)
  · exact fun hnone => hfile ((DvrRecorder.run_callbacks_file _ _).symm.trans hnone)
  · rw [hreels]
    intro hfit hroom
    change ParameterSetsFit w.host.is_hevc _ at hfit
    change 40 + (media (filmed w.host.is_hevc _).pictures).length ≤ limit at hroom
    change Shows _ _ (filmed w.host.is_hevc _) _ _
    rw [filmed_concat] at hroom ⊢
    have hgrows := Recording.grows_take_units
      (filmed w.host.is_hevc (reels w.trace).current) duration (nal_units frame)
    have hbefore := hshows (fun other hother => hfit other (List.mem_append_left _ hother))
      (le_trans (Nat.add_le_add_left hgrows.length_le 40) hroom)
    have hunits : SetsFit (filmed w.host.is_hevc (reels w.trace).current).is_hevc
        (nal_units frame) := by
      rw [filmed_is_hevc]
      intro nal hnal hset
      exact ⟨ne_nil_of_mem_nal_units hnal, hfit (frame, duration)
        (List.mem_append_right _ (List.mem_singleton_self _)) nal hnal hset⟩
    obtain ⟨-, hwriter, -, hholds, hsets⟩ :=
      hbefore.write_nal_units hio.stores hunits duration hroom
    refine ⟨hwriter, ?_, hholds, hsets⟩
    exact fun hnone => hfile ((DvrRecorder.run_callbacks_file _ _).symm.trans hnone)

/-- Closing an open writer adds the current file to those closed so far, with
the index that the muxer appends, and its frames to theirs. -/
theorem close_writer_films {w : World (Footage ω)} (hready : w.self.writer_ready_ = true)
    (hmux : w.self.mux_ ≠ none) (hfile : w.self.file_ ≠ none) (clear_recording : Bool) :
    (DvrRecorder.close_writer M.film_host clear_recording w).host.films =
        w.host.films ++ [⟨(M.film_calls.MP4E_close w.host.track w.host.writer.mux (w.host.film_env
          (w.update fun self => { self with writer_ready_ := false }).self)).2.contents,
            w.host.track, w.host.is_hevc⟩] ∧
      (reels (DvrRecorder.close_writer M.film_host clear_recording w).trace).closed =
        (reels w.trace).closed ++ [(reels w.trace).current] := by
  obtain ⟨mux, hmux⟩ := Option.ne_none_iff_exists'.mp hmux
  obtain ⟨file, hfile⟩ := Option.ne_none_iff_exists'.mp hfile
  obtain ⟨bytes, rotate, hself⟩ :=
    close_mux_self M.film_host (w.update fun self => { self with writer_ready_ := false })
  have hclosed := close_mux_of_some (H := M.film_host)
    (w := w.update fun self => { self with writer_ready_ := false }) hmux
  have hhost := congrArg World.host hclosed
  have htrace := congrArg (fun w => reels w.trace) hclosed
  rw [DvrRecorder.close_writer, if_neg (by simp [hready])]
  dsimp only [World.log, World.perform]
  rw [reels_concat]
  generalize DvrRecorder.close_mux M.film_host
    (w.update fun self => { self with writer_ready_ := false }) = muxed at hself hhost htrace
  have hreset : (DvrRecorder.close_nal_writer M.film_host muxed).host.films = muxed.host.films ∧
      (DvrRecorder.close_nal_writer M.film_host muxed).host.contents = muxed.host.contents ∧
      (DvrRecorder.close_nal_writer M.film_host muxed).host.track = muxed.host.track ∧
      (DvrRecorder.close_nal_writer M.film_host muxed).host.is_hevc = muxed.host.is_hevc ∧
      (DvrRecorder.close_nal_writer M.film_host muxed).trace = muxed.trace := by
    unfold DvrRecorder.close_nal_writer
    split <;> exact ⟨rfl, rfl, rfl, rfl, rfl⟩
  have hopen : (DvrRecorder.close_nal_writer M.film_host muxed).self.file_ = some file := by
    rw [close_nal_writer_self, hself]
    exact hfile
  generalize DvrRecorder.close_nal_writer M.film_host muxed = reset at hreset hopen
  obtain ⟨hfilms, hcontents, htrack, hhevc, hactions⟩ := hreset
  unfold DvrRecorder.close_file
  rw [hopen]
  constructor
  · change reset.host.films ++ [⟨reset.host.contents, reset.host.track, reset.host.is_hevc⟩] = _
    rw [hfilms, hcontents, htrack, hhevc, hhost]
    rfl
  · change (reels (reset.trace ++ [Action.fclose file])).closed = _
    have hmuxed : reels muxed.trace = reels w.trace := by
      rw [htrace]
      exact reels_concat _ _
    rw [reels_concat, hactions, hmuxed]
    rfl

theorem Filming.close_writer (hio : M.ReliableBelow limit) {w : World (Footage ω)}
    (h : Filming limit w) (clear_recording : Bool) :
    Filming limit (DvrRecorder.close_writer M.film_host clear_recording w) := by
  have hclosed := close_writer_ready M.film_host clear_recording w
  refine ⟨?_, fun hready => by rw [hclosed] at hready; cases hready⟩
  cases hready : w.self.writer_ready_ with
  | false =>
    rw [close_writer_of_not_ready M.film_host hready]
    exact h.films
  | true =>
    obtain ⟨hmux, hfile, hshows⟩ := h.session hready
    obtain ⟨hfilms, hreels⟩ := close_writer_films (M := M) hready hmux hfile clear_recording
    rw [hfilms, hreels]
    apply List.rel_append h.films
    apply List.Forall₂.cons _ List.Forall₂.nil
    intro hfit hroom
    dsimp only at hfit hroom ⊢
    have hmedia : 40 + (media (filmed w.host.is_hevc (reels w.trace).current).pictures).length ≤
        limit := by
      apply le_trans _ hroom
      simp only [recorded_file, List.length_append, length_mdat_header]
      have hftyp : box_ftyp.length = 24 := rfl
      omega
    obtain ⟨hwriter, hopen, hholds, hsets⟩ := hshows hfit hmedia
    have hshut : Shows FilmEnv.HasFile FilmEnv.contents
        (filmed w.host.is_hevc (reels w.trace).current) w.host.writer
        (w.host.film_env (w.update fun self => { self with writer_ready_ := false }).self) :=
      ⟨hwriter, hopen, hholds, hsets⟩
    exact (hio.stores.closed hshut w.host.track hroom).2.2

/-- A world between `MP4E_open` and the end of `open_writer`: the file holds the
room for the header and nothing else. -/
structure Opened {ω : Type} (limit : Nat) (file : Handle) (w : World (Footage ω)) : Prop where
  films : List.Forall₂ (Film.Shows limit) w.host.films (reels w.trace).closed
  current : (reels w.trace).current = []
  file : w.self.file_ = some file
  mux : w.host.writer.mux = opened_mux
  holds : minimp4.Holds [] w.host.contents

theorem Opened.init_writer (hmalloc : M.Allocates) {w : World (Footage ω)} {file : Handle}
    (h : Opened limit file w) (mark_recording : Bool) (path : Path) (mux : Handle) :
    Filming limit (DvrRecorder.init_writer M.film_host mark_recording path file mux w).2 := by
  have hallocated : Opened limit file (DvrRecorder.allocate_writer M.film_host w) ∧
      (DvrRecorder.allocate_writer M.film_host w).self.writer_ = true := by
    unfold DvrRecorder.allocate_writer
    split
    · next hwriter => exact ⟨h, hwriter⟩
    · exact ⟨⟨h.films, h.current, h.file, h.mux, h.holds⟩, hmalloc _⟩
  unfold DvrRecorder.init_writer
  generalize DvrRecorder.allocate_writer M.film_host w = w₁ at hallocated
  obtain ⟨⟨hfilms, hcurrent, hfile, hopened, hholds⟩, hwriter⟩ := hallocated
  have hinit : (mp4_h26x_write_init M.film_host w₁).1 = MP4E_STATUS_OK := rfl
  have hself := start_writer_self mark_recording path mux hfile hwriter
    (w := (mp4_h26x_write_init M.film_host w₁).2)
  have hreels : reels (DvrRecorder.start_writer mark_recording path mux
      (mp4_h26x_write_init M.film_host w₁).2).trace = reels w₁.trace := reels_concat _ _
  dsimp only
  rw [if_neg (not_not.mpr hwriter), if_neg (not_not.mpr hinit)]
  refine ⟨?_, fun _ => ⟨?_, ?_, ?_⟩⟩
  · rw [hreels]
    exact hfilms
  · rw [hself]
    exact Option.some_ne_none mux
  · rw [hself]
    exact Option.some_ne_none file
  · rw [hreels, hcurrent]
    intro _ _
    refine ⟨?_, ?_, hholds, Recording.start_setsStored _⟩
    · change minimp4.mp4_h26x_write_init w₁.host.writer.mux _ = _
      rw [hopened]
      rfl
    · change (DvrRecorder.start_writer mark_recording path mux
        (mp4_h26x_write_init M.film_host w₁).2).self.file_ ≠ none
      rw [hself]
      exact Option.some_ne_none file

theorem Opened.open_mux (hio : M.ReliableBelow limit) (hlimit : 32 ≤ limit)
    {w : World (Footage ω)}
    (hfilms : List.Forall₂ (Film.Shows limit) w.host.films (reels w.trace).closed)
    (hcurrent : (reels w.trace).current = []) (hcontents : w.host.contents = [])
    (mark_recording : Bool) (path : Path) (file : Handle) :
    Filming limit (DvrRecorder.open_mux M.film_host mark_recording path file w).2 := by
  let asked := w.update fun self => { self with file_ := some file }
  have hfile : FilmEnv.HasFile (asked.host.film_env asked.self) := Option.some_ne_none file
  obtain ⟨hok, -, hopened⟩ := hio.stores.opened hfile hcontents hlimit
  have hself := MP4E_open_self M.film_host asked
  have hhost := MP4E_open_host M.film_host asked
  have hsome := MP4E_open_isSome M.film_host asked
  have hreels : reels (MP4E_open M.film_host asked).2.trace = reels w.trace := by
    unfold MP4E_open
    dsimp only
    split
    · exact reels_concat _ _
    · rfl
  have hready : Opened limit file (MP4E_open M.film_host asked).2 := by
    refine ⟨?_, ?_, ?_, ?_, ?_⟩
    · rw [hhost, hreels]
      exact hfilms
    · rw [hreels]
      exact hcurrent
    · rw [hself, DvrRecorder.run_callbacks_file]
      rfl
    · rw [hhost]
      rfl
    · rw [hhost]
      change minimp4.Holds [] (M.film_calls.MP4E_open (asked.host.film_env asked.self)).2.contents
      rw [hopened]
      exact holds_opened
  unfold DvrRecorder.open_mux
  split
  · next w₁ hreply =>
    rw [hreply] at hsome
    rw [show (M.film_host.MP4E_open asked.self asked.host).1.1 = true from hok] at hsome
    cases hsome
  · next mux w₁ hreply =>
    rw [hreply] at hready
    exact hready.init_writer hio.malloc mark_recording path mux

theorem Filming.open_writer (hio : M.ReliableBelow limit) (hlimit : 32 ≤ limit)
    {w : World (Footage ω)} (h : Filming limit w) (hready : w.self.writer_ready_ = false)
    (mark_recording : Bool) :
    Filming limit (DvrRecorder.open_writer M.film_host mark_recording w).2 := by
  have closed : ∀ {after : World (Footage ω)}, after.host.films = w.host.films →
      reels after.trace = reels w.trace → after.self.writer_ready_ = false →
      Filming limit after := by
    intro after hfilms hreels hclosed
    refine ⟨?_, fun hopen => ?_⟩
    · rw [hfilms, hreels]
      exact h.films
    · rw [hclosed] at hopen
      cases hopen
  unfold DvrRecorder.open_writer
  rw [if_neg (by simp [hready])]
  split
  · exact closed rfl (reels_concat _ _) hready
  · dsimp only
    split
    · exact closed rfl (reels_concat _ _) hready
    · unfold fopen
      split
      · next w₁ hopen =>
        split at hopen
        · cases hopen
        · cases hopen
          exact closed rfl (reels_concat _ _) hready
      · next file w₁ hopen =>
        split at hopen
        · cases hopen
          apply Opened.open_mux hio hlimit
          · rw [reels_concat]
            exact h.films
          · rw [reels_concat]
            rfl
          · rfl
        · cases hopen

theorem filming_preserved (hio : M.ReliableBelow limit) (hlimit : 32 ≤ limit) :
    Preserved M.film_host (Filming (ω := ω) limit) where
  neutral := Filming.neutral
  monotonic_ms h := h.monotonic_ms
  write_nal frame duration hready h := h.write_nal hio frame duration hready
  close_writer clear_recording h := h.close_writer hio clear_recording
  open_writer mark_recording hready h := h.open_writer hio hlimit hready mark_recording

theorem filming_worker_loop (hio : M.ReliableBelow limit) (hlimit : 32 ≤ limit)
    {w : Worker (Footage ω)} (hready : w.self.writer_ready_ = false) (hfilms : w.host.films = [])
    (htrace : w.trace = []) (cmds : List Command) :
    Filming limit (DvrRecorder.worker_loop M.film_host w cmds).toWorld := by
  have hstart : Filming limit w.toWorld := by
    refine ⟨?_, fun hopen => ?_⟩
    · rw [hfilms, htrace]
      exact List.Forall₂.nil
    · rw [hready] at hopen
      cases hopen
  exact (filming_preserved hio hlimit).worker_loop hstart cmds

/-- Every file that a recorder closes, in whatever way its commands come, shows
the frames that were written while it was open. -/
theorem films_show_frames (hio : M.ReliableBelow limit) (hlimit : 32 ≤ limit)
    {w : Worker (Footage ω)} (hready : w.self.writer_ready_ = false) (hfilms : w.host.films = [])
    (htrace : w.trace = []) (cmds : List Command) :
    List.Forall₂ (Film.Shows limit) (DvrRecorder.worker_loop M.film_host w cmds).host.films
      (reels (DvrRecorder.worker_loop M.film_host w cmds).trace).closed :=
  (filming_worker_loop hio hlimit hready hfilms htrace cmds).films

/-- What a player finds in a file that shows its frames. -/
theorem Film.Shows.plays_back {film : Film} {frames : List (Frame × Nat)}
    (hshows : Film.Shows limit film frames) (hsmall : limit < 0xFFFFFFFF)
    (hfit : ParameterSetsFit film.is_hevc frames)
    (hroom : (recorded_file film.track (filmed film.is_hevc frames)).length ≤ limit)
    (hsets : film.is_hevc = false → (filmed film.is_hevc frames).sps.length < 32 ∧
      (filmed film.is_hevc frames).pps.length < 256) {malloc : Nat → Bool}
    (hmalloc : ∀ size ≤ film.contents.length, malloc size = true) :
    if (filmed film.is_hevc frames).pictures = [] then
      MP4D_open malloc film.contents = some (.ok none)
    else
      PlaysBack malloc film.contents (filmed film.is_hevc frames).pictures := by
  have hcontents := hshows hfit hroom
  rw [hcontents] at hmalloc ⊢
  split
  · next hpictures => exact MP4D_open_without_pictures malloc film.track hpictures
  · next hpictures =>
    have hstored : (filmed film.is_hevc frames).SetsStored := setsStored_take_frames hfit
    apply recorded_file_plays_back film.track hstored _ hpictures (by omega) hmalloc
    rw [filmed_is_hevc]
    exact hsets

theorem film_shows (hio : M.ReliableBelow limit) (hlimit : 32 ≤ limit)
    {w : Worker (Footage ω)} (hready : w.self.writer_ready_ = false) (hfilms : w.host.films = [])
    (htrace : w.trace = []) (cmds : List Command) {i : Nat} {film : Film}
    {frames : List (Frame × Nat)}
    (hfilm : (DvrRecorder.worker_loop M.film_host w cmds).host.films[i]? = some film)
    (hframes : (reels (DvrRecorder.worker_loop M.film_host w cmds).trace).closed[i]? =
      some frames) :
    Film.Shows limit film frames := by
  have hall := (filming_worker_loop hio hlimit hready hfilms htrace cmds).films
  obtain ⟨hi, rfl⟩ := List.getElem?_eq_some_iff.mp hfilm
  obtain ⟨hi', rfl⟩ := List.getElem?_eq_some_iff.mp hframes
  exact hall.get hi hi'

/-- And it plays them back, provided that its index fits, that it is not too long
and that there are no more parameter sets than the format can count. Without
pictures it is not opened. -/
theorem films_play_back (hio : M.ReliableBelow limit) (hlimit : 32 ≤ limit)
    (hsmall : limit < 0xFFFFFFFF) {w : Worker (Footage ω)} (hready : w.self.writer_ready_ = false)
    (hfilms : w.host.films = []) (htrace : w.trace = []) (cmds : List Command) {i : Nat}
    {film : Film} {frames : List (Frame × Nat)}
    (hfilm : (DvrRecorder.worker_loop M.film_host w cmds).host.films[i]? = some film)
    (hframes : (reels (DvrRecorder.worker_loop M.film_host w cmds).trace).closed[i]? = some frames)
    (hfit : ParameterSetsFit film.is_hevc frames)
    (hindex : IndexFits (filmed film.is_hevc frames).mux)
    (hroom : (recorded_file film.track (filmed film.is_hevc frames)).length ≤ limit)
    (hsets : film.is_hevc = false → (filmed film.is_hevc frames).sps.length < 32 ∧
      (filmed film.is_hevc frames).pps.length < 256) {malloc : Nat → Bool}
    (hmalloc : ∀ size ≤ film.contents.length, malloc size = true) :
    if (filmed film.is_hevc frames).pictures = [] then
      MP4D_open malloc film.contents = some (.ok none)
    else
      (index_atoms film.track (filmed film.is_hevc frames).mux).length ≤
          alloc_index_bytes (filmed film.is_hevc frames).mux ∧
        PlaysBack malloc film.contents (filmed film.is_hevc frames).pictures := by
  have hplays := (film_shows hio hlimit hready hfilms htrace cmds hfilm hframes).plays_back hsmall
    hfit hroom hsets hmalloc
  split at hplays
  · next hnone =>
    rw [if_pos hnone]
    exact hplays
  · next hsome =>
    rw [if_neg hsome]
    exact ⟨hindex.length_index_le film.track (mt sample_table_eq_nil_iff.mp hsome), hplays⟩

/-- Each file stands alone: what other files have been given is no help, so that a
file can be opened exactly if parameter sets and then a key frame have been
written to it. -/
theorem h265_film_opens_iff (hio : M.ReliableBelow limit) (hlimit : 32 ≤ limit)
    (hsmall : limit < 0xFFFFFFFF) {w : Worker (Footage ω)} (hready : w.self.writer_ready_ = false)
    (hfilms : w.host.films = []) (htrace : w.trace = []) (cmds : List Command) {i : Nat}
    {film : Film} {frames : List (Frame × Nat)}
    (hfilm : (DvrRecorder.worker_loop M.film_host w cmds).host.films[i]? = some film)
    (hframes : (reels (DvrRecorder.worker_loop M.film_host w cmds).trace).closed[i]? = some frames)
    (hhevc : film.is_hevc = true) (hfit : ParameterSetsFit true frames)
    (hroom : (recorded_file film.track (filmed true frames)).length ≤ limit) {malloc : Nat → Bool}
    (hmalloc : ∀ size ≤ film.contents.length, malloc size = true) :
    (∃ mp4, MP4D_open malloc film.contents = some (.ok (some mp4))) ↔
      ∃ before frame rest, frames = before ++ frame :: rest ∧ Starts [] before frame := by
  have hshows := film_shows hio hlimit hready hfilms htrace cmds hfilm hframes
  have hplays := hshows.plays_back hsmall (hhevc ▸ hfit) (hhevc ▸ hroom)
    (fun hnot => by rw [hhevc] at hnot; cases hnot) hmalloc
  have hpictures : (filmed film.is_hevc frames).pictures = recorded_pictures true frames := by
    rw [hhevc]
    exact pictures_take_frames true frames
  rw [hpictures] at hplays
  split at hplays
  · next hnone =>
    have hnever := h265_none_recorded_iff.mp hnone
    constructor
    · rintro ⟨mp4, hopened⟩
      rw [hplays] at hopened
      cases hopened
    · rintro ⟨before, frame, rest, hsplit, hstarts⟩
      exact absurd hstarts (hnever before frame rest hsplit)
  · next hsome =>
    obtain ⟨mp4, hopened, -⟩ := hplays
    refine ⟨fun _ => ?_, fun _ => ⟨mp4, hopened⟩⟩
    by_contra hnever
    exact hsome (h265_none_recorded_iff.mpr fun before frame rest hsplit hstarts =>
      hnever ⟨before, frame, rest, hsplit, hstarts⟩)

end

theorem endless_drive_reliableBelow (limit : Nat) : endless_drive.ReliableBelow limit :=
  ⟨fun _ _ _ => rfl, fun _ _ => rfl, fun _ => rfl⟩

/-- A camera's first frame: the three parameter sets and the slice of a key
frame. -/
def opening_frame : Frame :=
  [0, 0, 0, 1, 0x40, 0x01] ++ [0, 0, 0, 1, 0x42, 0x01] ++ [0, 0, 0, 1, 0x44, 0x01] ++ key_frame

/-- A recorder that has no files yet. -/
def blank_recorder : Worker (Footage Drive) :=
  { self := (constructed_on (⟨one_second, 0⟩ : Drive)).self
    host :=
      { toDisk := (constructed_on (⟨one_second, 0⟩ : Drive)).host
        track := h26x_track 0 0
        is_hevc := false } }

/-- A session of two frames. -/
def two_pictures : Worker (Footage Drive) :=
  DvrRecorder.worker_loop endless_drive.film_host blank_recorder
    (warm_up_commands ++
      [⟨.Frame, some opening_frame⟩, ⟨.Frame, some key_frame⟩, ⟨.Stop, none⟩])

theorem films_show_frames_two :
    List.Forall₂ (Film.Shows (2 ^ 31)) two_pictures.host.films (reels two_pictures.trace).closed :=
  films_show_frames (endless_drive_reliableBelow _) (by decide) rfl rfl rfl _

/-- The frames of the session, with the durations that it gives them. -/
def two_frames_written : List (Frame × Nat) := [(opening_frame, 45000), (key_frame, 45000)]

theorem two_pictures_fit : ParameterSetsFit true two_frames_written := by
  unfold ParameterSetsFit
  decide +kernel

theorem two_pictures_room :
    (recorded_file (h26x_track 1920 1080) (filmed true two_frames_written)).length ≤ 2 ^ 31 := by
  rw [recorded_file, List.length_append, List.length_append, List.length_append,
    length_index_atoms, length_mdat_header]
  decide +kernel

theorem two_pictures_filmed : ∃ film, two_pictures.host.films = [film] ∧
    film.track = h26x_track 1920 1080 ∧ film.is_hevc = true ∧
      (reels two_pictures.trace).closed = [two_frames_written] := by
  have hrun : (two_pictures.host.films.map (fun film => (film.track, film.is_hevc)),
      (reels two_pictures.trace).closed) =
      ([(h26x_track 1920 1080, true)], [two_frames_written]) := by
    decide +kernel
  obtain ⟨hsettings, hframes⟩ := Prod.mk.inj hrun
  obtain ⟨film, hfilms⟩ : ∃ film, two_pictures.host.films = [film] := by
    have hlength := congrArg List.length hsettings
    rw [List.length_map] at hlength
    exact List.length_eq_one_iff.mp hlength
  rw [hfilms, List.map_singleton, List.singleton_inj, Prod.mk.injEq] at hsettings
  exact ⟨film, hfilms, hsettings.1, hsettings.2, hframes⟩

theorem two_pictures_index : IndexFits (filmed true two_frames_written).mux := by
  constructor <;> decide +kernel

theorem films_play_back_two : ∃ film, two_pictures.host.films = [film] ∧
    (index_atoms film.track (filmed true two_frames_written).mux).length ≤
        alloc_index_bytes (filmed true two_frames_written).mux ∧
      PlaysBack (fun _ => true) film.contents (filmed true two_frames_written).pictures := by
  obtain ⟨film, hfilms, htrack, hhevc, hframes⟩ := two_pictures_filmed
  have hpictures : ¬ (filmed true two_frames_written).pictures = [] := by decide +kernel
  have hfilm : two_pictures.host.films[0]? = some film := by rw [hfilms]; rfl
  have hreel : (reels two_pictures.trace).closed[0]? = some two_frames_written := by
    rw [hframes]
    rfl
  have hplays := films_play_back (endless_drive_reliableBelow (2 ^ 31)) (by decide) (by decide)
    rfl rfl rfl _ hfilm hreel (hhevc ▸ two_pictures_fit) (hhevc ▸ two_pictures_index)
    (htrack ▸ hhevc ▸ two_pictures_room) (by simp [hhevc]) (fun _ _ => rfl)
  rw [hhevc, if_neg hpictures] at hplays
  exact ⟨film, hfilms, hplays⟩

theorem h265_film_opens_iff_two : ∃ film, two_pictures.host.films = [film] ∧
    ∃ mp4, MP4D_open (fun _ => true) film.contents = some (.ok (some mp4)) := by
  obtain ⟨film, hfilms, htrack, hhevc, hframes⟩ := two_pictures_filmed
  have hfilm : two_pictures.host.films[0]? = some film := by rw [hfilms]; rfl
  have hreel : (reels two_pictures.trace).closed[0]? = some two_frames_written := by
    rw [hframes]
    rfl
  have hstarts : Starts [] [] (opening_frame, 45000) := by
    unfold Starts
    decide +kernel
  have hopens := h265_film_opens_iff (endless_drive_reliableBelow (2 ^ 31)) (by decide)
    (by decide) rfl rfl rfl _ hfilm hreel hhevc two_pictures_fit (htrack ▸ two_pictures_room)
    (fun _ _ => rfl)
  exact ⟨film, hfilms, hopens.mpr ⟨[], (opening_frame, 45000), [(key_frame, 45000)], rfl, hstarts⟩⟩

end amldigitalfpv.dvr_recorder

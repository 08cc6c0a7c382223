import AMLDigitalFPV.DvrRecorder.FileLength
import AMLDigitalFPV.MiniMp4.Sizes

open amldigitalfpv.minimp4

namespace amldigitalfpv.dvr_recorder

/-- A file that has been closed, with the track that the muxer had for it. -/
structure Film where
  contents : Bytes
  track : MP4E_track_t
  is_hevc : Bool
deriving DecidableEq

/-- A disk with the contents of the current file, and of those closed so far.
`track` is the track that `mp4_h26x_write_init` added. -/
structure Footage (ω : Type) extends Disk ω where
  contents : Bytes := []
  track : MP4E_track_t
  is_hevc : Bool
  films : List Film := []
deriving DecidableEq

/-- What a call into the muxer works on, with the contents of the file. -/
structure FilmEnv (ω : Type) where
  env : Env ω
  contents : Bytes
deriving DecidableEq

section

variable {ω : Type} (M : Machine ω)

/-- The muxer's calls. What `fwrite` reports as written is in the file. -/
def Machine.film_calls : DataCalls (FilmEnv ω) where
  write_callback offset data state :=
    let asked := (state.env.ask M offset data.length).1
    let reply := M.calls.write_callback offset data.length state.env
    (reply.1,
      { env := reply.2
        contents :=
          if asked.fwrite_count = 0 then state.contents
          else put_at offset (data.take asked.fwrite_count) state.contents })
  malloc state :=
    ((M.calls.malloc state.env).1, { state with env := (M.calls.malloc state.env).2 })

def Footage.film_env (self : DvrRecorder) (footage : Footage ω) : FilmEnv ω :=
  { env := footage.toDisk.env self, contents := footage.contents }

def Footage.after (state : FilmEnv ω) (writer : mp4_h26x_writer_t) (footage : Footage ω) :
    Footage ω :=
  { footage with
    toDisk := footage.toDisk.after state.env writer
    contents := state.contents }

/-- The host made of a machine and the muxer, with the data that it writes. -/
def Machine.film_host : Host (Footage ω) where
  monotonic_ms footage :=
    let reply := M.host.monotonic_ms footage.toDisk
    (reply.1, { footage with toDisk := reply.2 })
  resolve_target_file path footage :=
    let reply := M.host.resolve_target_file path footage.toDisk
    (reply.1, { footage with toDisk := reply.2 })
  fopen path footage :=
    let reply := M.host.fopen path footage.toDisk
    (reply.1, { footage with toDisk := reply.2, contents := [] })
  fclose footage :=
    { footage with
      toDisk := M.host.fclose footage.toDisk
      films := footage.films ++ [⟨footage.contents, footage.track, footage.is_hevc⟩] }
  malloc footage :=
    let reply := M.host.malloc footage.toDisk
    (reply.1, { footage with toDisk := reply.2 })
  MP4E_open self footage :=
    let opened := M.film_calls.MP4E_open (footage.film_env self)
    ((opened.1, opened.2.env.calls),
      footage.after opened.2 { footage.writer with mux := opened_mux })
  MP4E_close self footage :=
    let closed := M.film_calls.MP4E_close footage.track footage.writer.mux (footage.film_env self)
    (closed.2.env.calls, footage.after closed.2 footage.writer)
  mp4_h26x_write_init self footage :=
    let reply := M.host.mp4_h26x_write_init self footage.toDisk
    (reply.1,
      { footage with
        toDisk := reply.2
        track := h26x_track self.video_width_ self.video_height_
        is_hevc := self.codec_ = .H265 })
  mp4_h26x_write_nal self frame duration footage :=
    let wrote := M.film_calls.mp4_h26x_write_nal frame duration footage.writer
      (footage.film_env self)
    ((wrote.1, wrote.2.2.env.calls), footage.after wrote.2.2 wrote.2.1)
  mp4_h26x_write_close footage :=
    { footage with toDisk := M.host.mp4_h26x_write_close footage.toDisk }

/-- The muxer that gets the data makes the calls that the one with the sizes
makes. -/
theorem Machine.forgets_film_calls : Forgets M.film_calls M.calls (FilmEnv.env (ω := ω)) :=
  ⟨fun _ _ _ => rfl, fun _ => rfl⟩

end

/-- The frames written to the file that is open, and those of each file that
has been closed. -/
structure Reels where
  current : List (Frame × Nat) := []
  closed : List (List (Frame × Nat)) := []
deriving DecidableEq

def Reels.take (reels : Reels) : Action → Reels
  | .fopen _ _ => { reels with current := [] }
  | .fclose _ => { reels with closed := reels.closed ++ [reels.current] }
  | .write_nal frame duration _ _ => { reels with current := reels.current ++ [(frame, duration)] }
  | _ => reels

/-- The frames of each file, read off the actions. -/
def reels (trace : List Action) : Reels := trace.foldl Reels.take {}

theorem reels_concat (trace : List Action) (action : Action) :
    reels (trace ++ [action]) = (reels trace).take action := by
  unfold reels
  rw [List.foldl_append]
  rfl

/-- Lines logged do not count. -/
theorem reels_of_logs {trace taken : List Action}
    (hlogs : ∀ action ∈ taken, ∃ line, action = .log line) :
    reels (trace ++ taken) = reels trace := by
  induction taken using List.reverseRecOn with
  | nil => rw [List.append_nil]
  | append_singleton taken action ih =>
    obtain ⟨line, rfl⟩ := hlogs action (by simp)
    rw [← List.append_assoc, reels_concat]
    exact ih fun action hmem => hlogs action (List.mem_append_left _ hmem)

end amldigitalfpv.dvr_recorder

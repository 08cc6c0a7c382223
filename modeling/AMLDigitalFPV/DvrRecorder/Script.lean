import AMLDigitalFPV.DvrRecorder.Worker

namespace amldigitalfpv.dvr_recorder

/-- Surroundings whose answers are fixed in advance, a list for each question
the worker can ask. -/
structure Script where
  clock : List Nat := []
  paths : List Path := []
  fopens : List Bool := []
  mallocs : List Bool := []
  opens : List (Bool × List WriteCall) := []
  inits : List Int := []
  writes : List (Int × List WriteCall) := []
  closes : List (List WriteCall) := []
deriving DecidableEq

/-- The host that reads its answers off a script, and reports success without
calling back once a list is used up. -/
def scripted : Host Script where
  monotonic_ms script := (script.clock.headD 0, { script with clock := script.clock.tail })
  resolve_target_file _ script :=
    (script.paths.headD [], { script with paths := script.paths.tail })
  fopen _ script := (script.fopens.headD true, { script with fopens := script.fopens.tail })
  fclose script := script
  malloc script := (script.mallocs.headD true, { script with mallocs := script.mallocs.tail })
  MP4E_open _ script := (script.opens.headD (true, []), { script with opens := script.opens.tail })
  MP4E_close _ script := (script.closes.headD [], { script with closes := script.closes.tail })
  mp4_h26x_write_init _ script :=
    (script.inits.headD MP4E_STATUS_OK, { script with inits := script.inits.tail })
  mp4_h26x_write_nal _ _ _ script :=
    (script.writes.headD (MP4E_STATUS_OK, []), { script with writes := script.writes.tail })
  mp4_h26x_write_close script := script

/-- The recorder as its constructor leaves it, after `set_video_params`. -/
def constructed (script : Script) : Worker Script :=
  { self := ({} : DvrRecorder).set_video_params 1920 1080 0 .H265, host := script }

/-- A clock that reads one second more at the second frame of a session. -/
def one_second : List Nat := [1, 1, 1001]

/-- The slice of an H.265 key frame, cut short. -/
def key_frame : Frame := [0, 0, 0, 1, 0x26, 0x01, 0xAF]

/-- A session's first commands. With `one_second` the second frame completes
the warm-up. -/
def warm_up_commands : List Command :=
  [⟨.Start, none⟩, ⟨.Frame, some key_frame⟩, ⟨.Frame, some key_frame⟩]

end amldigitalfpv.dvr_recorder

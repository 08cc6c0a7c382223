import AMLDigitalFPV.DvrRecorder.Iterations
import AMLDigitalFPV.MiniMp4.H26x

open Runs

namespace amldigitalfpv.dvr_recorder

/-- The C library and the file system below the recorder. `fwrite` answers
with the number of bytes written. -/
structure Machine (ω : Type) where
  monotonic_ms : ω → Nat × ω
  resolve_target_file : Path → ω → Path × ω
  fopen : Path → ω → Bool × ω
  fclose : ω → ω
  malloc : ω → Bool × ω
  fseek : Nat → ω → Bool × ω
  fwrite : Nat → ω → Nat × ω

/-- A file that has been closed: its length, and the muxer as it was then. -/
structure Recording where
  length : Nat
  mux : minimp4.MP4E_mux_t
deriving DecidableEq

/-- A machine with the muxer on it. `length` is the length of the current file
and `produced` lists the files closed so far. -/
structure Disk (ω : Type) where
  machine : ω
  writer : minimp4.mp4_h26x_writer_t
  length : Nat := 0
  produced : List Recording := []
deriving DecidableEq

/-- What a call into the muxer works on: the recorder as the call found it,
the machine, the length of the file and the callback calls made so far. -/
structure Env (ω : Type) where
  recorder : DvrRecorder
  machine : ω
  length : Nat
  calls : List WriteCall := []
deriving DecidableEq

section

variable {ω : Type} (M : Machine ω)

/-- The answers of the C library in one call of `file_write_callback`, which
asks for nothing when there is no file. -/
def Env.ask (offset size : Nat) (env : Env ω) : WriteCall × Env ω :=
  if env.recorder.file_ = none then
    ({ offset := offset, size := size, fseek_ok := false, fwrite_count := 0 }, env)
  else
    let seek := M.fseek offset env.machine
    if ¬ seek.1 then
      ({ offset := offset, size := size, fseek_ok := false, fwrite_count := 0 },
        { env with machine := seek.2 })
    else
      let wrote := M.fwrite size seek.2
      ({ offset := offset, size := size, fseek_ok := true, fwrite_count := wrote.1 },
        { env with
          machine := wrote.2
          length := if wrote.1 = 0 then env.length else max env.length (offset + wrote.1) })

/-- The muxer's calls: the recorder's write callback, and the allocator. -/
def Machine.calls : minimp4.Calls (Env ω) where
  write_callback offset size env :=
    let asked := env.ask M offset size
    let self := env.recorder.run_callbacks env.calls
    ((self.file_write_callback asked.1).1,
      { asked.2 with calls := asked.2.calls ++ [asked.1] })
  malloc env :=
    ((M.malloc env.machine).1, { env with machine := (M.malloc env.machine).2 })

def Disk.env (self : DvrRecorder) (disk : Disk ω) : Env ω :=
  { recorder := self, machine := disk.machine, length := disk.length }

def Disk.after (env : Env ω) (writer : minimp4.mp4_h26x_writer_t) (disk : Disk ω) : Disk ω :=
  { disk with machine := env.machine, length := env.length, writer := writer }

/-- The host made of a machine and the muxer. -/
def Machine.host : Host (Disk ω) where
  monotonic_ms disk :=
    ((M.monotonic_ms disk.machine).1, { disk with machine := (M.monotonic_ms disk.machine).2 })
  resolve_target_file path disk :=
    ((M.resolve_target_file path disk.machine).1,
      { disk with machine := (M.resolve_target_file path disk.machine).2 })
  fopen path disk :=
    ((M.fopen path disk.machine).1,
      { disk with machine := (M.fopen path disk.machine).2, length := 0 })
  fclose disk :=
    { disk with
      machine := M.fclose disk.machine
      produced := disk.produced ++ [{ length := disk.length, mux := disk.writer.mux }] }
  malloc disk :=
    ((M.malloc disk.machine).1, { disk with machine := (M.malloc disk.machine).2 })
  MP4E_open self disk :=
    let opened := minimp4.MP4E_open M.calls (disk.env self)
    ((opened.1, opened.2.calls),
      disk.after opened.2 { disk.writer with mux := minimp4.opened_mux })
  MP4E_close self disk :=
    let closed := minimp4.MP4E_close M.calls disk.writer.mux (disk.env self)
    (closed.2.calls, disk.after closed.2 disk.writer)
  mp4_h26x_write_init self disk :=
    (MP4E_STATUS_OK,
      { disk with
        writer := minimp4.mp4_h26x_write_init disk.writer.mux (self.codec_ = .H265) })
  mp4_h26x_write_nal self frame duration disk :=
    let wrote := minimp4.mp4_h26x_write_nal M.calls frame duration disk.writer (disk.env self)
    ((wrote.1, wrote.2.2.calls), disk.after wrote.2.2 wrote.2.1)
  mp4_h26x_write_close disk :=
    { disk with writer := minimp4.mp4_h26x_write_close disk.writer }

end

/-- The recorder on a machine, as its constructor leaves it, after
`set_video_params`. -/
def constructed_on {ω : Type} (machine : ω) : Worker (Disk ω) :=
  { self := ({} : DvrRecorder).set_video_params 1920 1080 0 .H265
    host :=
      { machine := machine
        writer := minimp4.mp4_h26x_write_close
          (minimp4.mp4_h26x_write_init minimp4.opened_mux false) } }

/-- A clock and a drive with room for so many more bytes. -/
structure Drive where
  clock : List Nat
  free : Nat
deriving DecidableEq

/-- The machine with such a drive, on which nothing fails while there is room. -/
def drive : Machine Drive where
  monotonic_ms machine := (machine.clock.headD 0, { machine with clock := machine.clock.tail })
  resolve_target_file _ machine := (['r'], machine)
  fopen _ machine := (true, machine)
  fclose machine := machine
  malloc machine := (true, machine)
  fseek _ machine := (true, machine)
  fwrite size machine := (min size machine.free, { machine with free := machine.free - size })

/-- The machine with a drive that never fills up. -/
def endless_drive : Machine Drive where
  monotonic_ms := drive.monotonic_ms
  resolve_target_file := drive.resolve_target_file
  fopen := drive.fopen
  fclose := drive.fclose
  malloc := drive.malloc
  fseek := drive.fseek
  fwrite size machine := (size, machine)

end amldigitalfpv.dvr_recorder

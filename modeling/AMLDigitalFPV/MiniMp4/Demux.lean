import AMLDigitalFPV.MiniMp4.Boxes
import AMLDigitalFPV.MiniMp4.Nal

namespace amldigitalfpv.minimp4

def MAX_CHUNKS_DEPTH : Nat := 64

def MP4_OBJECT_TYPE_AVC : Nat := 0x21

def sizeof_MP4D_track_t : Nat := 80

inductive boxtype_t where
  | BOX_ATOM
  | BOX_OD
deriving DecidableEq, Repr

structure MP4D_sample_to_chunk_t where
  first_chunk : Nat
  samples_per_chunk : Nat
deriving DecidableEq, Repr

/-- A track as the demultiplexer finds it. `SampleDescription` is a union, whose
first field is the width or the number of channels. -/
structure MP4D_track_t where
  sample_count : Nat := 0
  dsi : Option Bytes := none
  dsi_bytes : Nat := 0
  object_type_indication : Nat := 0
  handler_type : Nat := 0
  duration_hi : Nat := 0
  duration_lo : Nat := 0
  timescale : Nat := 0
  avg_bitrate_bps : Nat := 0
  language : List Nat := [0, 0, 0]
  stream_type : Nat := 0
  SampleDescription : Nat × Nat := (0, 0)
  entry_size : List Nat := []
  sample_to_chunk_count : Nat := 0
  sample_to_chunk : List MP4D_sample_to_chunk_t := []
  chunk_count : Nat := 0
  chunk_offset : List Nat := []
  timestamp : List Nat := []
  duration : List Nat := []
deriving DecidableEq, Repr

/-- A track just found, all its fields zero. -/
def empty_track : MP4D_track_t := {}

structure MP4D_tag_t where
  title : Option Bytes := none
  artist : Option Bytes := none
  album : Option Bytes := none
  year : Option Bytes := none
  comment : Option Bytes := none
  genre : Option Bytes := none
deriving DecidableEq, Repr

structure MP4D_demux_t where
  track : List MP4D_track_t := []
  duration_hi : Nat := 0
  duration_lo : Nat := 0
  timescale : Nat := 0
  tag : MP4D_tag_t := {}
deriving DecidableEq, Repr

/-- What `MP4D_open` works on. `unread` are the bytes of the file from
`read_pos` on, `stack` goes from `stack[depth]` down to `stack[1]`, and
`box_bytes` is the size that the repair of a bad `meta` box has read already. -/
structure Demuxing where
  unread : Bytes
  eof_flag : Bool := false
  payload_bytes : Nat := 0
  stack : List (Nat × boxtype_t) := []
  box_bytes : Option Nat := none
  tr : Bool := false
  mp4 : MP4D_demux_t := {}
deriving DecidableEq, Repr

/-- Why a run of `MP4D_open` ends early: it returns 0, or it does something that
C leaves undefined, such as a write past the end of a table. From there it may
also never return: the 32-bit index of the loop over an `OD_DSI` descriptor does
not reach a length of 2^32 or more. -/
inductive Stop where
  | returned
  | undefined
deriving DecidableEq, Repr

namespace Demuxing

/-- Whether the track pointer is valid decides what `tr->` does. -/
def last_track (st : Demuxing) : Option MP4D_track_t :=
  if st.tr then st.mp4.track.getLast? else none

def set_last_track (track : MP4D_track_t) (st : Demuxing) : Demuxing :=
  { st with mp4 := { st.mp4 with track := st.mp4.track.dropLast ++ [track] } }

/-- One byte, or nothing at the end of the file. -/
def minimp4_fgets (st : Demuxing) : Option UInt8 × Demuxing :=
  match st.unread with
  | [] => (none, st)
  | byte :: rest => (some byte, { st with unread := rest })

/-- The value of `nb` bytes. A byte that is missing turns all bits on. -/
def read_bytes : Nat → Nat → Demuxing → Nat × Demuxing
  | 0, v, st => (v, st)
  | nb + 1, v, st =>
    let read := st.minimp4_fgets
    match read.1 with
    | some byte => read_bytes nb ((v * 256 + byte.toNat) % 2 ^ 32) read.2
    | none => read_bytes nb 0xFFFFFFFF { read.2 with eof_flag := true }

/-- For any other count than 2, 3 and 4 one byte is read, also for none. -/
def minimp4_read (nb : Nat) (st : Demuxing) : Nat × Demuxing :=
  st.read_bytes (if nb = 2 ∨ nb = 3 ∨ nb = 4 then nb else 1) 0

def read_payload (nb : Nat) (st : Demuxing) : Nat × Demuxing :=
  if st.payload_bytes < nb then
    minimp4_read st.payload_bytes { st with eof_flag := true, payload_bytes := 0 }
  else
    minimp4_read nb { st with payload_bytes := st.payload_bytes - nb }

def my_fseek (pos : Nat) (st : Demuxing) : Demuxing :=
  { st with
    unread := st.unread.drop pos
    eof_flag := st.eof_flag || (st.unread.drop pos).isEmpty }

def skip (n : Nat) (st : Demuxing) : Demuxing :=
  let t := min st.payload_bytes n
  { st.my_fseek t with payload_bytes := st.payload_bytes - t }

end Demuxing

theorem Demuxing.read_bytes_of_nil {st : Demuxing} (hunread : st.unread = []) (nb v : Nat) :
    st.read_bytes (nb + 1) v = read_bytes nb 0xFFFFFFFF { st with eof_flag := true } := by
  cases st
  subst hunread
  rfl

theorem Demuxing.read_bytes_of_cons {st : Demuxing} {byte : UInt8} {rest : Bytes}
    (hunread : st.unread = byte :: rest) (nb v : Nat) :
    st.read_bytes (nb + 1) v =
      read_bytes nb ((v * 256 + byte.toNat) % 2 ^ 32) { st with unread := rest } := by
  cases st
  subst hunread
  rfl

/-- Nothing is read twice, and the end of the file is not forgotten. -/
structure Demuxing.Forward (st st' : Demuxing) : Prop where
  unread : st'.unread <:+ st.unread
  eof_flag : st.eof_flag = true → st'.eof_flag = true

namespace Demuxing.Forward

theorem refl (st : Demuxing) : st.Forward st := ⟨List.suffix_refl _, id⟩

theorem trans {st st' st'' : Demuxing} (first : st.Forward st') (rest : st'.Forward st'') :
    st.Forward st'' :=
  ⟨rest.unread.trans first.unread, rest.eof_flag ∘ first.eof_flag⟩

theorem at_end (st : Demuxing) : st.Forward { st with eof_flag := true } :=
  ⟨List.suffix_refl _, fun _ => rfl⟩

theorem length_le {st st' : Demuxing} (forward : st.Forward st') :
    st'.unread.length ≤ st.unread.length :=
  forward.unread.length_le

end Demuxing.Forward

theorem Demuxing.forward_read_bytes (nb v : Nat) (st : Demuxing) :
    st.Forward (st.read_bytes nb v).2 := by
  induction nb generalizing v st with
  | zero => exact .refl st
  | succ nb ih =>
    cases hunread : st.unread with
    | nil =>
      rw [read_bytes_of_nil hunread]
      exact (Forward.at_end st).trans (ih _ _)
    | cons byte rest =>
      rw [read_bytes_of_cons hunread]
      apply Forward.trans _ (ih _ _)
      refine ⟨?_, id⟩
      rw [hunread]
      exact List.suffix_cons byte rest

theorem Demuxing.forward_minimp4_read (nb : Nat) (st : Demuxing) :
    st.Forward (st.minimp4_read nb).2 :=
  forward_read_bytes _ _ st

theorem Demuxing.forward_read_payload (nb : Nat) (st : Demuxing) :
    st.Forward (st.read_payload nb).2 := by
  unfold read_payload
  split
  · apply Forward.trans _ (forward_minimp4_read _ _)
    exact ⟨List.suffix_refl _, fun _ => rfl⟩
  · apply Forward.trans _ (forward_minimp4_read _ _)
    exact ⟨List.suffix_refl _, id⟩

theorem Demuxing.forward_skip (n : Nat) (st : Demuxing) : st.Forward (st.skip n) where
  unread := List.drop_suffix _ _
  eof_flag heof := Bool.or_eq_true_iff.mpr (Or.inl heof)

/-- A piece of the parser. It only goes forward in the file, so every piece
made of such pieces does. -/
structure Demux (α : Type) where
  run : Demuxing → Except Stop (α × Demuxing)
  forward : ∀ {st a st'}, run st = .ok (a, st') → st.Forward st'

namespace Demux

instance : Monad Demux where
  pure a :=
    { run := fun st => .ok (a, st)
      forward := by
        intro st b st' hrun
        cases hrun
        exact .refl st }
  bind m f :=
    { run := fun st =>
        match m.run st with
        | .error stop => .error stop
        | .ok (a, st') => (f a).run st'
      forward := by
        intro st b st' hrun
        split at hrun
        · cases hrun
        · next hfirst => exact (m.forward hfirst).trans ((f _).forward hrun) }

def stop {α : Type} (stop : Stop) : Demux α :=
  { run := fun _ => .error stop
    forward := nofun }

def state : Demux Demuxing :=
  { run := fun st => .ok (st, st)
    forward := by
      intro st a st' hrun
      cases hrun
      exact .refl st }

def modify (f : Demuxing → Demuxing)
    (forward : ∀ st, Demuxing.Forward st (f st) := by
      intro st
      exact ⟨List.suffix_refl _, id⟩) :
    Demux Unit :=
  { run := fun st => .ok ((), f st)
    forward := by
      intro st a st' hrun
      cases hrun
      exact forward st }

def read (nb : Nat) : Demux Nat :=
  { run := fun st => .ok (st.minimp4_read nb)
    forward := by
      intro st a st' hrun
      rw [← (Prod.mk.inj (Except.ok.inj hrun)).2]
      exact Demuxing.forward_minimp4_read nb st }

section

variable {α β : Type} (st : Demuxing)

@[simp] theorem run_pure (a : α) : (pure a : Demux α).run st = .ok (a, st) := rfl

@[simp] theorem run_stop (stop : Stop) : (Demux.stop stop : Demux α).run st = .error stop := rfl

@[simp] theorem run_state : Demux.state.run st = .ok (st, st) := rfl

@[simp] theorem run_modify (f : Demuxing → Demuxing)
    (forward : ∀ st : Demuxing, st.Forward (f st)) :
    (Demux.modify f forward).run st = .ok ((), f st) := rfl

@[simp] theorem run_state_bind (f : Demuxing → Demux β) :
    (Demux.state >>= f).run st = (f st).run st := rfl

@[simp] theorem run_modify_bind (g : Demuxing → Demuxing)
    (forward : ∀ st : Demuxing, st.Forward (g st)) (f : Unit → Demux β) :
    (Demux.modify g forward >>= f).run st = (f ()).run (g st) := rfl

theorem run_bind (m : Demux α) (f : α → Demux β) :
    (m >>= f).run st =
      match m.run st with
      | .error stop => .error stop
      | .ok (a, st') => (f a).run st' := rfl

variable {st}

/-- Once the first piece has run the rest follows from where it left off. -/
theorem run_bind_of_ok {m : Demux α} {a : α} {st' : Demuxing} (hrun : m.run st = .ok (a, st'))
    (f : α → Demux β) : (m >>= f).run st = (f a).run st' := by
  rw [run_bind, hrun]

theorem run_bind_ok_iff {m : Demux α} {f : α → Demux β} {b : β} {st'' : Demuxing} :
    (m >>= f).run st = .ok (b, st'') ↔
      ∃ a st', m.run st = .ok (a, st') ∧ (f a).run st' = .ok (b, st'') := by
  rw [run_bind]
  constructor
  · intro hrun
    split at hrun
    · cases hrun
    · next hfirst => exact ⟨_, _, hfirst, hrun⟩
  · rintro ⟨a, st', hfirst, hrest⟩
    rw [hfirst]
    exact hrest

end

end Demux

def READ (nb : Nat) : Demux Nat :=
  { run := fun st => .ok (st.read_payload nb)
    forward := by
      intro st a st' hrun
      rw [← (Prod.mk.inj (Except.ok.inj hrun)).2]
      exact Demuxing.forward_read_payload nb st }

def SKIP (n : Nat) : Demux Unit :=
  Demux.modify (Demuxing.skip n) (Demuxing.forward_skip n)

/-- At the top level an error only breaks off the innermost loop. -/
def ERROR : Demux Unit := do
  if (← Demux.state).stack = [] then pure () else Demux.stop .returned

def undefined {α : Type} : Demux α := Demux.stop .undefined

/-- What is assigned through the track pointer. -/
def update_track (update : MP4D_track_t → MP4D_track_t) : Demux Unit := do
  match (← Demux.state).last_track with
  | some track => Demux.modify (Demuxing.set_last_track (update track))
  | none => undefined

/-- A loop that reads `count` entries. -/
def read_entries {α : Type} (entry : Demux α) : Nat → Demux (List α)
  | 0 => pure []
  | count + 1 => do
    let first ← entry
    let rest ← read_entries entry count
    pure (first :: rest)

section

variable (malloc : Nat → Bool)

/-- Room for `count` entries of a size, which is computed in 32 bits. Entries
past the end of what is allocated are written all the same. -/
def MALLOC (count size : Nat) (fill : Demux Unit) : Demux Unit :=
  if malloc (count * size % 2 ^ 32) then
    if count * size < 2 ^ 32 then fill else undefined
  else
    ERROR

/-- The entry of a `stz2` box. Sizes of four bits share a byte, which `size`
holds. An entry that is not set is taken as zero. -/
def read_stz2_entries (sample_size : Nat) : Nat → Nat → Nat → Demux (List Nat)
  | _, _, 0 => pure []
  | i, size, count + 1 => do
    let entry ←
      if sample_size % 256 = 16 then do let v ← READ 2; pure (v, size)
      else if sample_size % 256 = 8 then do let v ← READ 1; pure (v, size)
      else if sample_size % 256 = 4 then
        if i % 2 = 1 then pure (size % 16, size)
        else do let size ← READ 1; pure (size / 16, size)
      else pure (0, size)
    let rest ← read_stz2_entries sample_size (i + 1) entry.2 count
    pure (entry.1 :: rest)

def read_entry_sizes (box_name : BoxName) (sample_size sample_count : Nat) : Demux (List Nat) :=
  if box_name = .BOX_stsz then
    read_entries (if sample_size ≠ 0 then pure sample_size else READ 4) sample_count
  else
    read_stz2_entries sample_size 0 0 sample_count

def read_stsz (box_name : BoxName) : Demux Unit := do
  let sample_size ← READ 4
  let sample_count ← READ 4
  update_track fun tr => { tr with sample_count := sample_count, entry_size := [] }
  MALLOC malloc sample_count 4 do
    let entry_size ← read_entry_sizes box_name sample_size sample_count
    update_track fun tr => { tr with entry_size := entry_size }

def read_chunk_group : Demux MP4D_sample_to_chunk_t := do
  let first_chunk ← READ 4
  let samples_per_chunk ← READ 4
  SKIP 4
  pure ⟨first_chunk, samples_per_chunk⟩

def read_stsc : Demux Unit := do
  let count ← READ 4
  update_track fun tr => { tr with sample_to_chunk_count := count, sample_to_chunk := [] }
  MALLOC malloc count 8 do
    let entries ← read_entries read_chunk_group count
    update_track fun tr => { tr with sample_to_chunk := entries }

/-- The times of `sc` samples of duration `d` from `ts` on. -/
def run_timestamps (ts d : Nat) : Nat → List Nat
  | 0 => []
  | sc + 1 => ts :: run_timestamps ((ts + d) % 2 ^ 32) d sc

/-- The loop over the entries of the `stts` box, with the times and durations
so far and the number of samples that there is room for. -/
def read_stts_entries : Nat → Nat → Nat → List Nat → List Nat → Demux (List Nat × List Nat)
  | 0, _, _, timestamp, duration => pure (timestamp, duration)
  | count + 1, ts_count, ts, timestamp, duration => do
    let sc ← READ 4
    let d ← READ 4
    let k := timestamp.length
    let needed := (k + sc) % 2 ^ 32
    let grown := if needed > ts_count then needed else ts_count
    -- the result of the reallocation is not checked
    if sc ≠ 0 ∧
        (¬ malloc (grown * 4 % 2 ^ 32) ∧ needed > ts_count ∨ k + sc > grown * 4 % 2 ^ 32 / 4) then
      undefined
    else
      read_stts_entries count grown ((ts + d * sc) % 2 ^ 32) (timestamp ++ run_timestamps ts d sc)
        (duration ++ List.replicate sc d)

def read_stts : Demux Unit := do
  let count ← READ 4
  update_track fun tr => { tr with timestamp := [], duration := [] }
  if ¬ malloc (count * 4 % 2 ^ 32) then
    ERROR
  else
    let times ← read_stts_entries malloc count count 0 [] []
    update_track fun tr => { tr with timestamp := times.1, duration := times.2 }

def read_ctts : Demux Unit := do
  let count ← READ 4
  let _ ← read_entries (do let _ ← READ 4; READ 4) count
  pure ()

/-- A 64-bit offset that needs more than 32 bits is an error. At the top level
the loop ends there. -/
def read_chunk_offsets (is_co64 : Bool) : Nat → Demux (List Nat)
  | 0 => pure []
  | count + 1 => do
    let offset ← READ 4
    if is_co64 then
      if offset ≠ 0 then do
        ERROR
        pure [offset]
      else do
        let offset ← READ 4
        let rest ← read_chunk_offsets is_co64 count
        pure (offset :: rest)
    else do
      let rest ← read_chunk_offsets is_co64 count
      pure (offset :: rest)

def read_stco (box_name : BoxName) : Demux Unit := do
  let count ← READ 4
  update_track fun tr => { tr with chunk_count := count, chunk_offset := [] }
  MALLOC malloc count 8 do
    let offsets ← read_chunk_offsets (box_name = .BOX_co64) count
    update_track fun tr => { tr with chunk_offset := offsets }

def read_duration_hi (FullAtomVersionAndFlags : Nat) : Demux Nat :=
  if FullAtomVersionAndFlags / 2 ^ 24 = 1 then READ 4 else pure 0

/-- The time scale and both halves of the duration. -/
def read_times (FullAtomVersionAndFlags : Nat) : Demux (Nat × Nat × Nat) := do
  SKIP (if FullAtomVersionAndFlags / 2 ^ 24 = 1 then 8 + 8 else 4 + 4)
  let timescale ← READ 4
  let duration_hi ← read_duration_hi FullAtomVersionAndFlags
  let duration_lo ← READ 4
  pure (timescale, duration_hi, duration_lo)

def read_mvhd (FullAtomVersionAndFlags : Nat) : Demux Unit := do
  let times ← read_times FullAtomVersionAndFlags
  Demux.modify fun st => { st with
    mp4 := { st.mp4 with
      timescale := times.1, duration_hi := times.2.1, duration_lo := times.2.2 } }
  SKIP (4 + 2 + 2 + 4 * 2 + 4 * 9 + 4 * 6 + 4)

def read_mdhd (FullAtomVersionAndFlags : Nat) : Demux Unit := do
  let times ← read_times FullAtomVersionAndFlags
  let ISO_639_2_T ← READ 2
  update_track fun tr => { tr with
    timescale := times.1
    duration_hi := times.2.1
    duration_lo := times.2.2
    language :=
      [ISO_639_2_T / 2 ^ 10 % 32 + 0x60, ISO_639_2_T / 2 ^ 5 % 32 + 0x60,
        ISO_639_2_T % 32 + 0x60] }

def read_hdlr : Demux Unit := do
  if (← Demux.state).tr then
    SKIP 4
    let handler_type ← READ 4
    update_track fun tr => { tr with handler_type := handler_type }

def read_btrt : Demux Unit := do
  if ¬ (← Demux.state).tr then
    ERROR
  else
    SKIP (4 + 4)
    let avg_bitrate_bps ← READ 4
    update_track fun tr => { tr with avg_bitrate_bps := avg_bitrate_bps }

def read_mp4s : Demux Unit := do
  if ¬ (← Demux.state).tr then ERROR else SKIP (6 * 1 + 2)

def read_mp4a : Demux Unit := do
  if ¬ (← Demux.state).tr then
    ERROR
  else
    SKIP (6 * 1 + 2 + 4 * 2)
    let channelcount ← READ 2
    SKIP (2 + 2 + 2)
    let samplerate ← READ 4
    update_track fun tr => { tr with SampleDescription := (channelcount, samplerate / 2 ^ 16) }

def read_avc1 : Demux Unit := do
  if ¬ (← Demux.state).tr then
    ERROR
  else
    SKIP (6 * 1 + 2 + 2 + 2 + 4 * 3)
    let width ← READ 2
    let height ← READ 2
    update_track fun tr => { tr with SampleDescription := (width, height) }
    SKIP (4 + 4 + 4 + 2 + 32 + 2 + 2)

def read_parameter_set : Demux Bytes := do
  let length ← READ 2
  let set ← read_entries (READ 1) length
  pure (UInt8.ofNat (length / 256) :: UInt8.ofNat length :: set.map UInt8.ofNat)

/-- The parameter sets of an `avcC` box, each with the size before it. -/
def read_spspps (clear_msb : Bool) : Demux Bytes := do
  let count ← READ 1
  let count := if clear_msb then count % 32 else count
  let sets ← read_entries read_parameter_set count
  pure (UInt8.ofNat count :: sets.flatten)

/-- The parameter sets go to memory as large as the box. Neither its
allocation nor its end is checked. -/
def read_avcC (box_bytes : Nat) : Demux Unit := do
  update_track fun tr => { tr with object_type_indication := MP4_OBJECT_TYPE_AVC }
  let _ ← READ 1
  let _ ← READ 1
  let _ ← READ 1
  let _ ← READ 1
  let _ ← READ 1
  let sps ← read_spspps true
  let pps ← read_spspps false
  if ¬ malloc (box_bytes % 2 ^ 32) ∨ (sps ++ pps).length > box_bytes % 2 ^ 32 then
    undefined
  else
    update_track fun tr => { tr with dsi := some (sps ++ pps), dsi_bytes := box_bytes % 2 ^ 32 }

def read_OD_ESD : Demux Unit := do
  let flags ← READ 3
  if flags.testBit 7 then SKIP 2
  if flags.testBit 6 then do
    let bytecount ← READ 1
    SKIP bytecount
  if flags.testBit 5 then SKIP 2

def read_OD_DCD : Demux Unit := do
  let object_type_indication ← READ 1
  update_track fun tr => { tr with object_type_indication := object_type_indication }
  let stream_type ← READ 1
  update_track fun tr => { tr with stream_type := stream_type / 4 }
  SKIP (3 + 4)
  let avg_bitrate_bps ← READ 4
  update_track fun tr => { tr with avg_bitrate_bps := avg_bitrate_bps }

def read_OD_DSI : Demux Unit := do
  let st ← Demux.state
  match st.last_track with
  | none => undefined
  | some track =>
    if track.dsi = none ∧ st.payload_bytes ≠ 0 then
      MALLOC malloc st.payload_bytes 1 do
        let dsi ← read_entries (Demux.read 1) st.payload_bytes
        update_track fun tr => { tr with
          dsi := some (dsi.map UInt8.ofNat), dsi_bytes := st.payload_bytes }
        Demux.modify fun st => { st with payload_bytes := 0 }

/-- The switch over the name of the box. -/
def read_box (box_name : Option BoxName) (box_bytes FullAtomVersionAndFlags : Nat) : Demux Unit :=
  match box_name with
  | some .BOX_stz2 => read_stsz malloc .BOX_stz2
  | some .BOX_stsz => read_stsz malloc .BOX_stsz
  | some .BOX_stsc => read_stsc malloc
  | some .BOX_stts => read_stts malloc
  | some .BOX_ctts => read_ctts
  | some .BOX_stco => read_stco malloc .BOX_stco
  | some .BOX_co64 => read_stco malloc .BOX_co64
  | some .BOX_mvhd => read_mvhd FullAtomVersionAndFlags
  | some .BOX_mdhd => read_mdhd FullAtomVersionAndFlags
  | some .BOX_hdlr => read_hdlr
  | some .BOX_btrt => read_btrt
  | some .BOX_stsd => SKIP 4
  | some .BOX_mp4s => read_mp4s
  | some .BOX_mp4a => read_mp4a
  | some .BOX_avc1 => read_avc1
  | some .BOX_mp4v => read_avc1
  | some .BOX_avcC => read_avcC malloc box_bytes
  | some .OD_ESD => read_OD_ESD
  | some .OD_DCD => read_OD_DCD
  | some .OD_DSI => read_OD_DSI malloc
  | _ => pure ()

/-- The tag that a box holds, with its new value. -/
def read_tag (value : Option Bytes) (assign : Bytes → MP4D_tag_t → MP4D_tag_t) : Demux Bool := do
  if value = none ∧ (← Demux.state).payload_bytes > 16 then
    SKIP (4 + 4 + 4 + 4)
    let payload_bytes := (← Demux.state).payload_bytes
    -- one byte more for the zero at the end
    if ¬ malloc ((payload_bytes + 1) % 2 ^ 32) then do
      ERROR
      pure false
    else if payload_bytes + 1 ≥ 2 ^ 32 then
      undefined
    else do
      let tag ← read_entries (READ 1) payload_bytes
      Demux.modify fun st => { st with
        mp4 := { st.mp4 with tag := assign (tag.map UInt8.ofNat ++ [0]) st.mp4.tag } }
      pure true
  else
    pure true

/-- Whether the main loop goes on after the tag, if the box holds one. -/
def read_tag_box (box_name : Option BoxName) : Demux Bool := do
  let tag := (← Demux.state).mp4.tag
  match box_name with
  | some .BOX_calb => read_tag malloc tag.album fun v tag => { tag with album := some v }
  | some .BOX_cART => read_tag malloc tag.artist fun v tag => { tag with artist := some v }
  | some .BOX_cnam => read_tag malloc tag.title fun v tag => { tag with title := some v }
  | some .BOX_cday => read_tag malloc tag.year fun v tag => { tag with year := some v }
  | some .BOX_ccmt => read_tag malloc tag.comment fun v tag => { tag with comment := some v }
  | some .BOX_cgen => read_tag malloc tag.genre fun v tag => { tag with genre := some v }
  | _ => pure true

/-- Boxes whose version is checked: the highest version known, and whether the
box belongs to a track. -/
def g_fullbox : BoxName → Option (Nat × Bool)
  | .BOX_mdhd => some (1, true)
  | .BOX_mvhd => some (1, false)
  | .BOX_hdlr => some (0, false)
  | .BOX_meta => some (0, false)
  | .BOX_stts => some (0, false)
  | .BOX_ctts => some (0, false)
  | .BOX_stz2 => some (0, true)
  | .BOX_stsz => some (0, true)
  | .BOX_stsc => some (0, true)
  | .BOX_stco => some (0, true)
  | .BOX_co64 => some (0, true)
  | .BOX_stsd => some (0, false)
  | .BOX_esds => some (0, true)
  | _ => none

/-- Boxes that contain other boxes, with the kind of these. -/
def g_envelope_box : BoxName → Option boxtype_t
  | .BOX_esds => some .BOX_OD
  | .OD_ESD => some .BOX_OD
  | .OD_DCD => some .BOX_OD
  | .OD_DSI => some .BOX_OD
  | .BOX_trak => some .BOX_ATOM
  | .BOX_moov => some .BOX_ATOM
  | .BOX_mdia => some .BOX_ATOM
  | .BOX_tref => some .BOX_ATOM
  | .BOX_minf => some .BOX_ATOM
  | .BOX_dinf => some .BOX_ATOM
  | .BOX_stbl => some .BOX_ATOM
  | .BOX_stsd => some .BOX_ATOM
  | .BOX_mp4a => some .BOX_ATOM
  | .BOX_mp4s => some .BOX_ATOM
  | .BOX_mp4v => some .BOX_ATOM
  | .BOX_avc1 => some .BOX_ATOM
  | .BOX_hvc1 => some .BOX_ATOM
  | .BOX_udta => some .BOX_ATOM
  | .BOX_meta => some .BOX_ATOM
  | .BOX_ilst => some .BOX_ATOM
  | _ => none

/-- The header of a box. -/
structure box_header where
  box_name : Option BoxName
  box_bytes : Nat
  read_bytes : Nat
  FullAtomVersionAndFlags : Nat := 0
deriving DecidableEq, Repr

/-- After the header the loop goes on with the box, it ends, or it reads
another header. -/
inductive HeaderRead where
  | box (header : box_header)
  | done
  | again
deriving DecidableEq, Repr

/-- What the boxes of the stack still have for their children. Nothing is known
of the file as a whole. -/
def remaining (stack : List (Nat × boxtype_t)) : Nat := stack.head?.elim 0 Prod.fst

def take_from_parent (bytes : Nat) (stack : List (Nat × boxtype_t)) : List (Nat × boxtype_t) :=
  stack.modifyHead fun parent => (parent.1 - bytes, parent.2)

/-- The check of a box with a version. A `meta` box without a version begins
with the size of its first child, which then is read next. -/
def check_fullbox (header : box_header) : Demux HeaderRead := do
  match header.box_name.bind g_fullbox with
  | none => pure (.box header)
  | some (max_version, use_track_flag) =>
    let flags ← READ 4
    let header := { header with
      read_bytes := header.read_bytes + 4, FullAtomVersionAndFlags := flags }
    let st ← Demux.state
    if header.box_name = some .BOX_meta ∧ flags ≥ 8 ∧ flags < st.payload_bytes then
      if header.box_bytes > remaining st.stack then do
        ERROR
        pure (.box header)
      else if st.stack.length + 1 ≥ MAX_CHUNKS_DEPTH then
        undefined
      else do
        Demux.modify fun st => { st with
          stack := ((st.payload_bytes + 4) % 2 ^ 64, .BOX_ATOM) ::
            take_from_parent header.box_bytes st.stack
          box_bytes := some flags }
        pure .again
    else if flags / 2 ^ 24 > max_version then do
      ERROR
      pure (.box header)
    else if use_track_flag ∧ ¬ st.tr then do
      ERROR
      pure (.box header)
    else
      pure (.box header)

/-- The second part of the header of a box with a 64-bit size, of which only
the lower half is supported. -/
def read_64_bit_size : Demux (Option Nat) := do
  let high ← Demux.read 4
  if high ≠ 0 then do
    ERROR
    pure none
  else do
    let low ← Demux.read 4
    if low < 16 then do
      ERROR
      pure none
    else
      pure (some low)

def set_payload (payload_bytes : Nat) : Demux Unit :=
  Demux.modify fun st => { st with payload_bytes := payload_bytes }

@[simp] theorem run_set_payload_bind {α : Type} (payload_bytes : Nat) (f : Unit → Demux α)
    (st : Demuxing) :
    (set_payload payload_bytes >>= f).run st =
      (f ()).run { st with payload_bytes := payload_bytes } :=
  rfl

/-- The size before the name, which may have been read already. -/
def read_box_size : Demux Nat := do
  match (← Demux.state).box_bytes with
  | some box_bytes => do
    Demux.modify fun st => { st with box_bytes := none }
    pure box_bytes
  | none => Demux.read 4

/-- What follows the name. -/
def read_atom_payload (box_name : Option BoxName) (box_bytes : Nat) : Demux HeaderRead :=
  if box_bytes = 1 then do
    match ← read_64_bit_size with
    | none => pure .done
    | some box_bytes =>
      set_payload (box_bytes - 16)
      check_fullbox { box_name := box_name, box_bytes := box_bytes, read_bytes := 8 }
  else do
    -- these sizes mean up to the end of the file
    let box_bytes := if box_bytes = 0 ∨ box_bytes = 0xFFFFFFFF then 2 ^ 64 - 1 else box_bytes
    set_payload (box_bytes - 8)
    check_fullbox { box_name := box_name, box_bytes := box_bytes, read_bytes := 8 }

def read_atom_header : Demux HeaderRead := do
  let box_bytes ← read_box_size
  if (← Demux.state).eof_flag then
    pure .done
  else if box_bytes ≥ 2 ∧ box_bytes < 8 then do
    ERROR
    pure .done
  else do
    let name ← Demux.read 4
    read_atom_payload (BoxName.of_code name) box_bytes

/-- The length of a descriptor: seven bits in each byte, all but the last of
them marked. It returns the length, the number of bytes and what follows. -/
def read_od_length : Nat → Nat → Bytes → Option (Nat × Nat × Bytes)
  | _, _, [] => none
  | payload_bytes, count, val :: rest =>
    let payload_bytes := (payload_bytes * 2 ^ 7 + val.toNat % 2 ^ 7) % 2 ^ 64
    if val.toNat ≥ 2 ^ 7 then
      read_od_length payload_bytes (count + 1) rest
    else
      some (payload_bytes, count + 1, rest)

theorem suffix_of_read_od_length {payload_bytes count : Nat} {bytes : Bytes}
    {result : Nat × Nat × Bytes} (hread : read_od_length payload_bytes count bytes = some result) :
    result.2.2 <:+ bytes := by
  induction bytes generalizing payload_bytes count with
  | nil => cases hread
  | cons val rest ih =>
    rw [read_od_length] at hread
    split at hread
    · exact (ih hread).trans (List.suffix_cons val rest)
    · cases hread
      exact List.suffix_cons val rest

/-- The length of a descriptor is its payload. It must not break off. -/
def set_od_payload : Demux Nat :=
  { run := fun st =>
      match read_od_length 0 0 st.unread with
      | none => .error .returned
      | some (payload_bytes, count, rest) =>
        .ok (count, { st with unread := rest, payload_bytes := payload_bytes })
    forward := by
      intro st a st' hrun
      split at hrun
      · cases hrun
      · next hread =>
        cases hrun
        exact ⟨suffix_of_read_od_length hread, id⟩ }

def read_od_header : Demux HeaderRead := do
  let name ← Demux.read 1
  if (← Demux.state).eof_flag then
    pure .done
  else do
    let count ← set_od_payload
    pure (.box
      { box_name := BoxName.of_code (OD_BASE + name)
        box_bytes := (1 + count + (← Demux.state).payload_bytes) % 2 ^ 64
        read_bytes := 1 + count })

/-- A box that is larger than its parent is cut off there and loses its name. -/
def check_parent (header : box_header) : Demux box_header := do
  let st ← Demux.state
  if st.stack = [] then
    pure header
  else if header.box_bytes = 0 then
    undefined
  else if header.box_bytes > remaining st.stack then do
    Demux.modify fun st => { st with
      stack := take_from_parent (remaining st.stack) st.stack
      payload_bytes := (remaining st.stack + 2 ^ 64 - header.read_bytes) % 2 ^ 64 }
    pure { header with box_name := none, box_bytes := remaining st.stack }
  else do
    Demux.modify fun st => { st with stack := take_from_parent header.box_bytes st.stack }
    pure header

/-- A new track begins, or the current one is left. -/
def switch_track (box_name : Option BoxName) : Demux Bool := do
  match box_name with
  | some .BOX_trak =>
    let st ← Demux.state
    if ¬ malloc ((st.mp4.track.length + 1) * sizeof_MP4D_track_t % 2 ^ 32) then do
      ERROR
      pure false
    else do
      Demux.modify fun st => { st with
        tr := true, mp4 := { st.mp4 with track := st.mp4.track ++ [empty_track] } }
      pure true
  | some .BOX_meta => do
    Demux.modify fun st => { st with tr := false }
    pure true
  | _ => pure true

/-- An envelope goes onto the stack, any other box is skipped. -/
def enter_or_skip (file_size : Nat) (box_name : Option BoxName) : Demux Unit := do
  let st ← Demux.state
  match box_name.bind g_envelope_box with
  | some format =>
    if st.stack.length + 1 ≥ MAX_CHUNKS_DEPTH then
      ERROR
    else
      Demux.modify fun st => { st with stack := (st.payload_bytes, format) :: st.stack }
  | none =>
    if st.payload_bytes > file_size then
      Demux.modify (fun st => { st with eof_flag := true }) Demuxing.Forward.at_end
    else
      SKIP st.payload_bytes

/-- Boxes that have nothing left are removed from the stack. -/
def without_empty (stack : List (Nat × boxtype_t)) : List (Nat × boxtype_t) :=
  stack.dropWhile fun parent => parent.1 = 0

def leave_box (file_size : Nat) (box_name : Option BoxName) : Demux Unit := do
  enter_or_skip file_size box_name
  Demux.modify fun st => { st with stack := without_empty st.stack }

def read_header : Demux HeaderRead := do
  match (← Demux.state).stack.head?.elim .BOX_ATOM Prod.snd with
  | .BOX_ATOM => read_atom_header
  | .BOX_OD => read_od_header

/-- What is done about a box once its header is read. It says whether the loop
goes on. -/
def read_box_body (file_size : Nat) (header : box_header) : Demux Bool := do
  let header ← check_parent header
  read_box malloc header.box_name header.box_bytes header.FullAtomVersionAndFlags
  if ¬ (← read_tag_box malloc header.box_name) then
    pure false
  else if ¬ (← switch_track malloc header.box_name) then
    pure false
  else do
    leave_box file_size header.box_name
    pure !(← Demux.state).eof_flag

/-- One pass of the main loop. -/
def read_next_box (file_size : Nat) : Demux Bool := do
  match ← read_header with
  | .done => pure false
  | .again => pure true
  | .box header => read_box_body malloc file_size header

/-- The main loop, for a number of passes that has to suffice. -/
def read_boxes (file_size : Nat) : Nat → Demuxing → Option (Except Stop Demuxing)
  | 0, _ => none
  | fuel + 1, st =>
    match (read_next_box malloc file_size).run st with
    | .error stop => some (.error stop)
    | .ok (again, st) => if again then read_boxes file_size fuel st else some (.ok st)

/-- The result of opening a file: what is in it, or nothing when it has no
track or is broken. -/
def MP4D_open (file : Bytes) : Option (Except Stop (Option MP4D_demux_t)) :=
  (read_boxes malloc file.length (file.length + 1) { unread := file }).map fun result =>
    match result with
    | .ok st => .ok (if st.mp4.track = [] then none else some st.mp4)
    | .error .returned => .ok none
    | .error .undefined => .error .undefined

end

/-- The chunk that holds a sample, and the first sample in it. -/
def sample_to_chunk_loop (tr : MP4D_track_t) (nsample : Nat) :
    Nat → Nat → Nat → Nat → Nat → Option (Nat × Nat)
  | 0, _, _, _, _ => none
  | count + 1, nc, chunk_group, sum, nfirst =>
    let chunk_group :=
      if chunk_group + 1 < tr.sample_to_chunk_count ∧
          some (nc + 1) = tr.sample_to_chunk[chunk_group + 1]?.map (·.first_chunk) then
        chunk_group + 1
      else
        chunk_group
    let sum := (sum + tr.sample_to_chunk[chunk_group]?.elim 0 (·.samples_per_chunk)) % 2 ^ 32
    if nsample < sum then some (nc, nfirst)
    else sample_to_chunk_loop tr nsample count (nc + 1) chunk_group sum sum

def sample_to_chunk (tr : MP4D_track_t) (nsample : Nat) : Option (Nat × Nat) :=
  if tr.chunk_count ≤ 1 then some (0, 0)
  else sample_to_chunk_loop tr nsample tr.chunk_count 0 0 0 0

/-- Where a sample is in the file and what is known of it. -/
structure frame_info where
  offset : Nat
  frame_bytes : Nat
  timestamp : Nat
  duration : Nat
deriving DecidableEq, Repr

/-- Nothing is returned for a sample that is in no chunk. The tables are read
without regard to their ends, past which zero stands for what is there. -/
def MP4D_frame_offset (mp4 : MP4D_demux_t) (ntrack nsample : Nat) : Option frame_info :=
  mp4.track[ntrack]?.bind fun tr =>
    (sample_to_chunk tr nsample).map fun chunk =>
      let ns := max chunk.2 nsample
      { offset :=
          (tr.chunk_offset.getD chunk.1 0 + ((tr.entry_size.take ns).drop chunk.2).sum) % 2 ^ 64
        frame_bytes := tr.entry_size.getD ns 0
        timestamp := tr.timestamp.getD ns 0
        duration := tr.duration.getD ns 0 }

/-- The sizes before the sets say how far to go. -/
def skip_spspps (p : Bytes) (nbytes : Nat) : Nat → Nat → Option Nat
  | k, 0 => some k
  | k, nskip + 1 =>
    if k + 2 > nbytes then none
    else skip_spspps p nbytes (k + 2 + ((p.getD k 0).toNat * 256 + (p.getD (k + 1) 0).toNat)) nskip

/-- The set with a number, from the list that begins with the count. -/
def read_set (p : Bytes) (dsi_bytes bytepos nsps : Nat) : Option Bytes :=
  let sps_count := (p.getD bytepos 0).toNat
  let bytepos := bytepos + 1
  if nsps ≥ sps_count then none
  else
    (skip_spspps (p.drop bytepos) (dsi_bytes - bytepos) 0 nsps).map fun skip_bytes =>
      let bytepos := bytepos + skip_bytes
      let sps_bytes := (p.getD bytepos 0).toNat * 256 + (p.getD (bytepos + 1) 0).toNat
      (p.drop (bytepos + 2)).take sps_bytes

def MP4D_read_spspps (mp4 : MP4D_demux_t) (ntrack : Nat) (pps_flag : Bool) (nsps : Nat) :
    Option Bytes :=
  mp4.track[ntrack]?.bind fun tr =>
    if tr.object_type_indication ≠ MP4_OBJECT_TYPE_AVC then none
    else
      tr.dsi.bind fun p =>
        if pps_flag then
          (skip_spspps (p.drop 1) (tr.dsi_bytes - 1) 0 (p.getD 0 0).toNat).bind fun skip_bytes =>
            read_set p tr.dsi_bytes (1 + skip_bytes) nsps
        else
          read_set p tr.dsi_bytes 0 nsps

def MP4D_read_sps (mp4 : MP4D_demux_t) (ntrack nsps : Nat) : Option Bytes :=
  MP4D_read_spspps mp4 ntrack false nsps

def MP4D_read_pps (mp4 : MP4D_demux_t) (ntrack npps : Nat) : Option Bytes :=
  MP4D_read_spspps mp4 ntrack true npps

end amldigitalfpv.minimp4

import AMLDigitalFPV.MiniMp4.Nal

namespace amldigitalfpv.minimp4

def MP4E_STATUS_OK : Int := 0

def MP4E_STATUS_BAD_ARGUMENTS : Int := -1

def MP4E_STATUS_NO_MEMORY : Int := -2

/-- Sample kinds of `MP4E_put_sample`. -/
inductive SampleKind where
  | DEFAULT
  | RANDOM_ACCESS
  | CONTINUATION
deriving DecidableEq, Repr

structure sample_t where
  size : Nat
  offset : Nat
  duration : Nat
  flag_random_access : Bool
deriving DecidableEq, Repr

/-- A multiplexer with one video track, neither sequential nor fragmented and
without a text comment, as `MP4E_open(0, 0, ..)` and `mp4_h26x_write_init` set
it up. -/
structure MP4E_mux_t where
  write_pos : Nat
  is_hevc : Bool
  smpl : List sample_t := []
  vsps : Bytes := []
  vpps : Bytes := []
  vvps : Bytes := []
deriving DecidableEq, Repr

/-- What the muxer calls: `write_callback offset size` and the allocator. -/
structure Calls (σ : Type) where
  write_callback : Nat → Nat → σ → Int × σ
  malloc : σ → Bool × σ

section

variable {σ : Type} (calls : Calls σ)

/-- Whether a list of two-byte sizes and items holds `mem`. The walk visits at
most as many items as there are bytes. -/
def holds_item (mem : Bytes) : Nat → Bytes → Bool
  | 0, _ => false
  | fuel + 1, v =>
    if v.length ≤ 2 then
      false
    else
      let cb := (v.getD 0 0).toNat * 256 + (v.getD 1 0).toNat
      if cb = mem.length ∧ (v.drop 2).take cb = mem then
        true
      else
        holds_item mem fuel (v.drop (2 + cb))

theorem holds_item_congr {mem v : Bytes} {fuel fuel' : Nat} (hfuel : v.length ≤ fuel)
    (hfuel' : v.length ≤ fuel') : holds_item mem fuel v = holds_item mem fuel' v := by
  have hshort {v : Bytes} (hlength : v.length ≤ 2) (fuel : Nat) :
      holds_item mem fuel v = false := by
    cases fuel with
    | zero => rfl
    | succ fuel => exact if_pos hlength
  induction fuel generalizing v fuel' with
  | zero => rw [hshort (by omega), hshort (by omega)]
  | succ fuel ih =>
    by_cases hlength : v.length ≤ 2
    · rw [hshort hlength, hshort hlength]
    · obtain ⟨fuel', rfl⟩ := Nat.exists_eq_succ_of_ne_zero (show fuel' ≠ 0 by omega)
      rw [holds_item, holds_item, if_neg hlength, if_neg hlength]
      dsimp only
      split
      · rfl
      · refine ih ?_ ?_ <;> rw [List.length_drop] <;> omega

/-- The walk of `append_mem`, which the length of the list bounds. -/
theorem holds_item_eq (mem v : Bytes) :
    holds_item mem v.length v =
      if v.length ≤ 2 then
        false
      else
        let cb := (v.getD 0 0).toNat * 256 + (v.getD 1 0).toNat
        if cb = mem.length ∧ (v.drop 2).take cb = mem then
          true
        else
          holds_item mem (v.drop (2 + cb)).length (v.drop (2 + cb)) := by
  rw [holds_item_congr le_rfl (Nat.le_succ _), holds_item]
  split
  · rfl
  · dsimp only
    split
    · rfl
    · refine holds_item_congr ?_ le_rfl
      rw [List.length_drop]
      omega

/-- The flag says whether the memory sufficed. -/
def append_mem (mem v : Bytes) (s : σ) : Bool × Bytes × σ :=
  if holds_item mem v.length v then
    (true, v, s)
  else
    let size := calls.malloc s
    if ¬ size.1 then
      (false, v, size.2)
    else
      let v := v ++ [UInt8.ofNat (mem.length / 256), UInt8.ofNat mem.length]
      let item := calls.malloc size.2
      if item.1 then (true, v ++ mem, item.2) else (false, v, item.2)

def MP4E_set_vps (vps : Bytes) (mux : MP4E_mux_t) (s : σ) : Int × MP4E_mux_t × σ :=
  let appended := append_mem calls vps mux.vvps s
  (if appended.1 then MP4E_STATUS_OK else MP4E_STATUS_NO_MEMORY,
    { mux with vvps := appended.2.1 }, appended.2.2)

def MP4E_set_sps (sps : Bytes) (mux : MP4E_mux_t) (s : σ) : Int × MP4E_mux_t × σ :=
  let appended := append_mem calls sps mux.vsps s
  (if appended.1 then MP4E_STATUS_OK else MP4E_STATUS_NO_MEMORY,
    { mux with vsps := appended.2.1 }, appended.2.2)

def MP4E_set_pps (pps : Bytes) (mux : MP4E_mux_t) (s : σ) : Int × MP4E_mux_t × σ :=
  let appended := append_mem calls pps mux.vpps s
  (if appended.1 then MP4E_STATUS_OK else MP4E_STATUS_NO_MEMORY,
    { mux with vpps := appended.2.1 }, appended.2.2)

/-- The part of `MP4E_put_sample` that enters the data into the index. -/
def index_sample (data_bytes duration : Nat) (kind : SampleKind) (mux : MP4E_mux_t) (s : σ) :
    Int × MP4E_mux_t × σ :=
  if kind ≠ .CONTINUATION then
    let memory := calls.malloc s
    if memory.1 then
      let smp : sample_t :=
        { size := data_bytes
          offset := mux.write_pos
          duration := duration
          flag_random_access := kind = .RANDOM_ACCESS }
      (MP4E_STATUS_OK, { mux with smpl := mux.smpl ++ [smp] }, memory.2)
    else
      (MP4E_STATUS_NO_MEMORY, mux, memory.2)
  else
    match mux.smpl.getLast? with
    | none => (MP4E_STATUS_NO_MEMORY, mux, s)
    | some smpl_desc =>
      let smpl_desc := { smpl_desc with size := smpl_desc.size + data_bytes }
      (MP4E_STATUS_OK, { mux with smpl := mux.smpl.dropLast ++ [smpl_desc] }, s)

/-- The part of `MP4E_put_sample` that writes the data. -/
def write_sample (data_bytes : Nat) (mux : MP4E_mux_t) (s : σ) : Int × MP4E_mux_t × σ :=
  let reply := calls.write_callback mux.write_pos data_bytes s
  if reply.1 ≠ 0 then
    (reply.1, mux, reply.2)
  else
    (MP4E_STATUS_OK, { mux with write_pos := mux.write_pos + data_bytes }, reply.2)

def MP4E_put_sample (data_bytes duration : Nat) (kind : SampleKind) (mux : MP4E_mux_t) (s : σ) :
    Int × MP4E_mux_t × σ :=
  let indexed := index_sample calls data_bytes duration kind mux s
  if indexed.1 ≠ MP4E_STATUS_OK then
    indexed
  else
    write_sample calls data_bytes indexed.2.1 indexed.2.2

end

/-- The bytes of an atom around a body. -/
def ATOM (body : Nat) : Nat := 8 + body

/-- The same for an atom with a `FullAtomVersionFlags` field. -/
def ATOM_FULL (body : Nat) : Nat := 12 + body

/-- The entries of the time-to-sample box, one for each run of equal durations. -/
def stts_entries : List sample_t → Nat
  | [] => 0
  | [_] => 1
  | sample :: next :: rest =>
    (if sample.duration ≠ next.duration then 1 else 0) + stts_entries (next :: rest)

def random_access_count (samples : List sample_t) : Nat :=
  (samples.filter (·.flag_random_access)).length

/-- The bytes of the sample description, `avc1` or `hvc1` with its
configuration record. -/
def stsd_bytes (mux : MP4E_mux_t) : Nat :=
  let record :=
    if mux.is_hevc then
      22 + 1 + (3 + mux.vvps.length) + (3 + mux.vsps.length) + (3 + mux.vpps.length)
    else
      6 + mux.vsps.length + 1 + mux.vpps.length
  ATOM_FULL (4 + ATOM (78 + ATOM record))

/-- The bytes of the chunk offsets, of 64 bits each once the last sample lies
past 4 GiB. -/
def chunk_offset_bytes (samples : List sample_t) : Nat :=
  let is_64_bit := samples.getLast?.any fun sample => sample.offset > 0xffffffff
  ATOM_FULL (4 + (if is_64_bit then 8 else 4) * samples.length)

/-- The bytes of the sync sample box, which is left out when every sample is a
random access point. -/
def stss_bytes (samples : List sample_t) : Nat :=
  if random_access_count samples ≠ samples.length then
    ATOM_FULL (4 + 4 * random_access_count samples)
  else
    0

def stbl_bytes (mux : MP4E_mux_t) : Nat :=
  ATOM (stsd_bytes mux + ATOM_FULL (4 + 8 * stts_entries mux.smpl) + ATOM_FULL 16 +
    ATOM_FULL (8 + 4 * mux.smpl.length) + chunk_offset_bytes mux.smpl + stss_bytes mux.smpl)

/-- The bytes of the track, with its header, media header, handler, media
information and sample table. A track without samples is skipped. -/
def trak_bytes (mux : MP4E_mux_t) : Nat :=
  if mux.smpl = [] then
    0
  else
    ATOM (ATOM_FULL 80 +
      ATOM (ATOM_FULL 20 + ATOM_FULL 33 +
        ATOM (ATOM_FULL 8 + ATOM (ATOM_FULL (4 + ATOM_FULL 0)) + stbl_bytes mux)))

/-- The bytes of the `moov` box that `mp4e_flush_index` writes. -/
def index_bytes (mux : MP4E_mux_t) : Nat := ATOM (ATOM_FULL 96 + trak_bytes mux)

section

variable {σ : Type} (calls : Calls σ)

/-- Opening writes the `ftyp` box and room for the header of the `mdat` box. -/
def MP4E_open (s : σ) : Bool × σ :=
  let ftyp := calls.write_callback 0 24 s
  if ftyp.1 ≠ 0 then
    (false, ftyp.2)
  else
    let memory := calls.malloc ftyp.2
    if ¬ memory.1 then
      (false, memory.2)
    else
      let filler := calls.write_callback 24 8 memory.2
      if filler.1 ≠ 0 then (false, filler.2) else (true, filler.2)

/-- The multiplexer that `MP4E_open` returns. -/
def opened_mux : MP4E_mux_t := { write_pos := 40, is_hevc := false }

/-- Patches the header of the `mdat` box and appends the index. -/
def mp4e_flush_index (mux : MP4E_mux_t) (s : σ) : Int × σ :=
  let memory := calls.malloc s
  if ¬ memory.1 then
    (MP4E_STATUS_NO_MEMORY, memory.2)
  else
    let header := calls.write_callback 24 16 memory.2
    if header.1 ≠ 0 then
      header
    else
      calls.write_callback mux.write_pos (index_bytes mux) header.2

def MP4E_close (mux : MP4E_mux_t) (s : σ) : Int × σ := mp4e_flush_index calls mux s

end

end amldigitalfpv.minimp4

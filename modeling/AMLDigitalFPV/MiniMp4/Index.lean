import AMLDigitalFPV.MiniMp4.Boxes
import AMLDigitalFPV.MiniMp4.H26x

namespace amldigitalfpv.minimp4

open big_endian

def MP4E_HANDLER_TYPE_VIDE : Nat := 0x76696465

def MOOV_TIMESCALE : Nat := 1000

/-- What the multiplexer knows of a video track beside its samples. -/
structure MP4E_track_t where
  language : List Char
  time_scale : Nat
  default_duration : Nat
  width : Nat
  height : Nat
deriving DecidableEq, Repr

/-- The track that `mp4_h26x_write_init` adds. -/
def h26x_track (width height : Nat) : MP4E_track_t :=
  { language := ['u', 'n', 'd']
    time_scale := 90000
    default_duration := 0
    width := width
    height := height }

/-- The memory that the index is written to, with the stack of atoms that are
open. -/
abbrev index_buffer : Type := sections.Buffer

namespace index_buffer

def WRITE_1 (x : Nat) (p : index_buffer) : index_buffer := p.emit (encode 1 x)

def WRITE_2 (x : Nat) (p : index_buffer) : index_buffer := p.emit (encode 2 x)

def WRITE_4 (x : Nat) (p : index_buffer) : index_buffer := p.emit (encode 4 x)

/-- A loop that writes the bytes of a vector. -/
def WRITE_bytes (data : Bytes) (p : index_buffer) : index_buffer :=
  data.foldl (fun p byte => p.WRITE_1 byte.toNat) p

def ATOM (x : BoxName) (p : index_buffer) : index_buffer := p.start (encode 4 x.code)

def ATOM_FULL (x : BoxName) (flag : Nat) (p : index_buffer) : index_buffer :=
  (p.ATOM x).WRITE_4 flag

def END_ATOM (p : index_buffer) : index_buffer := p.finish

/-- Writes a field whose place was passed before. -/
def WR4 (position x : Nat) (p : index_buffer) : index_buffer :=
  { p with bytes := sections.overwrite position (encode 4 x) p.bytes }

end index_buffer

def get_duration (smpl : List sample_t) : Nat := (smpl.map (·.duration)).sum % 2 ^ 32

/-- The number of items in a list of two-byte sizes and items. -/
def items_count_from : Nat → Bytes → Nat
  | 0, _ => 0
  | fuel + 1, v =>
    if v.length ≤ 2 then
      0
    else
      let cb := (v.getD 0 0).toNat * 256 + (v.getD 1 0).toNat
      1 + items_count_from fuel (v.drop (2 + cb))

def items_count (v : Bytes) : Nat := items_count_from v.length v

section

variable (info : MP4E_track_t)

def moov_duration (duration : Nat) : Nat := duration * MOOV_TIMESCALE / info.time_scale

/-- The unity matrix. -/
def write_matrix (p : index_buffer) : index_buffer :=
  p |>.WRITE_4 0x00010000 |>.WRITE_4 0 |>.WRITE_4 0
    |>.WRITE_4 0 |>.WRITE_4 0x00010000 |>.WRITE_4 0
    |>.WRITE_4 0 |>.WRITE_4 0 |>.WRITE_4 0x40000000

def write_mvhd (smpl : List sample_t) (p : index_buffer) : index_buffer :=
  let p := p |>.ATOM_FULL .BOX_mvhd 0
    |>.WRITE_4 0 |>.WRITE_4 0 -- creation_time, modification_time
    |>.WRITE_4 MOOV_TIMESCALE
    |>.WRITE_4 (moov_duration info (get_duration smpl))
    |>.WRITE_4 0x00010000 -- rate
    |>.WRITE_2 0x0100 -- volume
    |>.WRITE_2 0 |>.WRITE_4 0 |>.WRITE_4 0
  write_matrix p
    |>.WRITE_4 0 |>.WRITE_4 0 |>.WRITE_4 0 -- pre_defined[6]
    |>.WRITE_4 0 |>.WRITE_4 0 |>.WRITE_4 0
    |>.WRITE_4 2 -- next_track_ID
    |>.END_ATOM

def write_tkhd (smpl : List sample_t) (p : index_buffer) : index_buffer :=
  let p := p |>.ATOM_FULL .BOX_tkhd 7
    |>.WRITE_4 0 |>.WRITE_4 0 -- creation_time, modification_time
    |>.WRITE_4 1 -- track_ID
    |>.WRITE_4 0
    |>.WRITE_4 (moov_duration info (get_duration smpl))
    |>.WRITE_4 0 |>.WRITE_4 0
    |>.WRITE_2 0 |>.WRITE_2 0 -- layer, alternate_group
    |>.WRITE_2 0x0100 |>.WRITE_2 0 -- volume
  write_matrix p
    |>.WRITE_4 (info.width * 0x10000)
    |>.WRITE_4 (info.height * 0x10000)
    |>.END_ATOM

def lang_code : Nat :=
  (info.language.getD 0 'u').toNat % 32 * 2 ^ 10 + (info.language.getD 1 'n').toNat % 32 * 2 ^ 5 +
    (info.language.getD 2 'd').toNat % 32

def write_mdhd (smpl : List sample_t) (p : index_buffer) : index_buffer :=
  p |>.ATOM_FULL .BOX_mdhd 0
    |>.WRITE_4 0 |>.WRITE_4 0 -- creation_time, modification_time
    |>.WRITE_4 info.time_scale
    |>.WRITE_4 (get_duration smpl)
    |>.WRITE_2 (lang_code info)
    |>.WRITE_2 0
    |>.END_ATOM

def handler_ascii : Bytes :=
  ['V', 'i', 'd', 'e', 'o', 'H', 'a', 'n', 'd', 'l', 'e', 'r'].map fun c => UInt8.ofNat c.toNat

def write_hdlr (p : index_buffer) : index_buffer :=
  p |>.ATOM_FULL .BOX_hdlr 0
    |>.WRITE_4 0
    |>.WRITE_4 MP4E_HANDLER_TYPE_VIDE
    |>.WRITE_4 0 |>.WRITE_4 0 |>.WRITE_4 0
    |>.WRITE_bytes (handler_ascii ++ [0])
    |>.END_ATOM

def write_vmhd (p : index_buffer) : index_buffer :=
  p |>.ATOM_FULL .BOX_vmhd 1
    |>.WRITE_2 0 -- graphicsmode
    |>.WRITE_2 0 |>.WRITE_2 0 |>.WRITE_2 0 -- opcolor[3]
    |>.END_ATOM

def write_dinf (p : index_buffer) : index_buffer :=
  p |>.ATOM .BOX_dinf
    |>.ATOM_FULL .BOX_dref 0
    |>.WRITE_4 1 -- entry_count
    |>.ATOM_FULL .BOX_url 1
    |>.END_ATOM
    |>.END_ATOM
    |>.END_ATOM

/-- The fields of a `VisualSampleEntry`. -/
def write_visual_sample_entry (p : index_buffer) : index_buffer :=
  let p := p |>.WRITE_2 0 |>.WRITE_2 0 |>.WRITE_2 0
    |>.WRITE_2 1 -- data_reference_index
    |>.WRITE_2 0 |>.WRITE_2 0 |>.WRITE_4 0 |>.WRITE_4 0 |>.WRITE_4 0
    |>.WRITE_2 info.width
    |>.WRITE_2 info.height
    |>.WRITE_4 0x00480000 |>.WRITE_4 0x00480000 -- resolution
    |>.WRITE_4 0
    |>.WRITE_2 1 -- frame_count
  let p := (List.range 32).foldl (fun p _ => p.WRITE_1 0) p -- compressorname
  p |>.WRITE_2 24 |>.WRITE_2 0xffff

def write_avcC (mux : MP4E_mux_t) (p : index_buffer) : index_buffer :=
  p |>.ATOM .BOX_avcC
    |>.WRITE_1 1 -- configurationVersion
    |>.WRITE_1 (mux.vsps.getD (2 + 1) 0).toNat
    |>.WRITE_1 (mux.vsps.getD (2 + 2) 0).toNat
    |>.WRITE_1 (mux.vsps.getD (2 + 3) 0).toNat
    |>.WRITE_1 255
    |>.WRITE_1 (0xe0 ||| items_count mux.vsps)
    |>.WRITE_bytes mux.vsps
    |>.WRITE_1 (items_count mux.vpps)
    |>.WRITE_bytes mux.vpps
    |>.END_ATOM

def write_hvcC (mux : MP4E_mux_t) (p : index_buffer) : index_buffer :=
  let numOfVPS := items_count mux.vpps
  p |>.ATOM .BOX_hvcC
    |>.WRITE_1 1 |>.WRITE_1 1 |>.WRITE_4 0x60000000 |>.WRITE_2 0 |>.WRITE_4 0 |>.WRITE_1 0
    |>.WRITE_2 0xf000 |>.WRITE_1 0xfc |>.WRITE_1 0xfc |>.WRITE_1 0xf8 |>.WRITE_1 0xf8
    |>.WRITE_2 0 |>.WRITE_1 3
    |>.WRITE_1 3 -- Num Of Arrays
    |>.WRITE_1 (2 ^ 7 ||| HEVC_NAL_VPS)
    |>.WRITE_2 numOfVPS
    |>.WRITE_bytes mux.vvps
    |>.WRITE_1 (2 ^ 7 ||| HEVC_NAL_SPS)
    |>.WRITE_2 (items_count mux.vsps)
    |>.WRITE_bytes mux.vsps
    |>.WRITE_1 (2 ^ 7 ||| HEVC_NAL_PPS)
    |>.WRITE_2 (items_count mux.vpps)
    |>.WRITE_bytes mux.vpps
    |>.END_ATOM

def write_stsd (mux : MP4E_mux_t) (p : index_buffer) : index_buffer :=
  let p := p |>.ATOM_FULL .BOX_stsd 0 |>.WRITE_4 1
  let p := p.ATOM (if mux.is_hevc then .BOX_hvc1 else .BOX_avc1)
  let p := write_visual_sample_entry info p
  let p := if mux.is_hevc then write_hvcC mux p else write_avcC mux p
  p |>.END_ATOM |>.END_ATOM

/-- The loop over the samples, with the length of the run so far and the
entries written. -/
def write_stts_entries : List sample_t → Nat → Nat → index_buffer → Nat × index_buffer
  | [], _, entry_count, p => (entry_count, p)
  | sample :: rest, cnt, entry_count, p =>
    if rest.head?.map (·.duration) ≠ some sample.duration then
      write_stts_entries rest 1 (entry_count + 1) (p |>.WRITE_4 cnt |>.WRITE_4 sample.duration)
    else
      write_stts_entries rest (cnt + 1) entry_count p

def write_stts (smpl : List sample_t) (p : index_buffer) : index_buffer :=
  let p := p.ATOM_FULL .BOX_stts 0
  let pentry_count := p.bytes.length
  let entries := write_stts_entries smpl 1 0 (p.WRITE_4 0)
  entries.2 |>.WR4 pentry_count entries.1 |>.END_ATOM

def write_stsc (p : index_buffer) : index_buffer :=
  p |>.ATOM_FULL .BOX_stsc 0
    |>.WRITE_4 1 -- entry_count
    |>.WRITE_4 1 |>.WRITE_4 1 |>.WRITE_4 1
    |>.END_ATOM

def write_stsz (smpl : List sample_t) (p : index_buffer) : index_buffer :=
  let p := p |>.ATOM_FULL .BOX_stsz 0
    |>.WRITE_4 0 -- sample_size
    |>.WRITE_4 smpl.length
  let p := smpl.foldl (fun p sample => p.WRITE_4 sample.size) p
  p.END_ATOM

/-- Offsets of 64 bits are written as soon as the last one needs them. -/
def write_chunk_offsets (smpl : List sample_t) (p : index_buffer) : index_buffer :=
  let is_64_bit := smpl.getLast?.any fun sample => sample.offset > 0xffffffff
  if ¬ is_64_bit then
    let p := p |>.ATOM_FULL .BOX_stco 0 |>.WRITE_4 smpl.length
    let p := smpl.foldl (fun p sample => p.WRITE_4 sample.offset) p
    p.END_ATOM
  else
    let p := p |>.ATOM_FULL .BOX_co64 0 |>.WRITE_4 smpl.length
    let p := smpl.foldl
      (fun p sample => p |>.WRITE_4 (sample.offset / 2 ^ 32) |>.WRITE_4 sample.offset) p
    p.END_ATOM

/-- The numbers of the random access points, which count from one. -/
def write_stss (smpl : List sample_t) (p : index_buffer) : index_buffer :=
  if random_access_count smpl ≠ smpl.length then
    let p := p |>.ATOM_FULL .BOX_stss 0 |>.WRITE_4 (random_access_count smpl)
    let p := smpl.zipIdx.foldl
      (fun p entry => if entry.1.flag_random_access then p.WRITE_4 (entry.2 + 1) else p) p
    p.END_ATOM
  else
    p

def write_stbl (mux : MP4E_mux_t) (p : index_buffer) : index_buffer :=
  let p := p.ATOM .BOX_stbl
  let p := write_stsd info mux p
  let p := write_stts mux.smpl p
  let p := write_stsc p
  let p := write_stsz mux.smpl p
  let p := write_chunk_offsets mux.smpl p
  let p := write_stss mux.smpl p
  p.END_ATOM

def write_trak (mux : MP4E_mux_t) (p : index_buffer) : index_buffer :=
  let p := p.ATOM .BOX_trak
  let p := write_tkhd info mux.smpl p
  let p := p.ATOM .BOX_mdia
  let p := write_mdhd info mux.smpl p
  let p := write_hdlr p
  let p := p.ATOM .BOX_minf
  let p := write_vmhd p
  let p := write_dinf p
  let p := write_stbl info mux p
  p |>.END_ATOM |>.END_ATOM |>.END_ATOM

/-- The atoms of `mp4e_flush_index`. A track without samples is skipped. -/
def write_moov (mux : MP4E_mux_t) (p : index_buffer) : index_buffer :=
  let p := p.ATOM .BOX_moov
  let p := write_mvhd info mux.smpl p
  let p := if mux.smpl = [] then p else write_trak info mux p
  p.END_ATOM

/-- The new header of the media data, which follows the `ftyp` box: room for
sizes of 64 bits is filled by a `free` box as long as 32 bits suffice. -/
def write_mdat_header (write_pos : Nat) (p : index_buffer) : index_buffer :=
  let size := write_pos - 24
  if size > 0xfffffffe then
    p |>.WRITE_4 1 |>.WRITE_4 BoxName.BOX_mdat.code
      |>.WRITE_4 (size / 2 ^ 32) |>.WRITE_4 size
  else
    p |>.WRITE_4 8 |>.WRITE_4 BoxName.BOX_free.code
      |>.WRITE_4 (size - 8) |>.WRITE_4 BoxName.BOX_mdat.code

def mdat_header (write_pos : Nat) : Bytes := (write_mdat_header write_pos .empty).bytes

/-- The bytes of the index. -/
def index_atoms (mux : MP4E_mux_t) : Bytes := (write_moov info mux .empty).bytes

end

end amldigitalfpv.minimp4

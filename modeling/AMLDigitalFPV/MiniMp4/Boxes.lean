import AMLDigitalFPV.Library.Sections

namespace amldigitalfpv.minimp4

/-- The boxes that the multiplexer writes or the demultiplexer knows, with the
descriptors of an `esds` box. -/
inductive BoxName where
  | BOX_free | BOX_mdat | BOX_moov | BOX_mvhd | BOX_trak | BOX_tkhd | BOX_mdia | BOX_mdhd
  | BOX_hdlr | BOX_minf | BOX_vmhd | BOX_dinf | BOX_dref | BOX_url | BOX_stbl | BOX_stsd
  | BOX_avc1 | BOX_hvc1 | BOX_avcC | BOX_hvcC | BOX_stts | BOX_stsc | BOX_stsz | BOX_stco
  | BOX_co64 | BOX_stss | BOX_meta | BOX_ctts | BOX_stz2 | BOX_esds | BOX_tref | BOX_mp4a
  | BOX_mp4s | BOX_mp4v | BOX_udta | BOX_ilst | BOX_btrt | BOX_calb | BOX_cART | BOX_cnam
  | BOX_cday | BOX_ccmt | BOX_cgen | OD_ESD | OD_DCD | OD_DSI
deriving DecidableEq, Repr

def FOUR_CHAR_INT (a b c d : Char) : Nat :=
  a.toNat * 2 ^ 24 + b.toNat * 2 ^ 16 + c.toNat * 2 ^ 8 + d.toNat

def OD_BASE : Nat := FOUR_CHAR_INT '$' '$' '$' '0'

def BoxName.code : BoxName → Nat
  | .BOX_free => FOUR_CHAR_INT 'f' 'r' 'e' 'e'
  | .BOX_mdat => FOUR_CHAR_INT 'm' 'd' 'a' 't'
  | .BOX_moov => FOUR_CHAR_INT 'm' 'o' 'o' 'v'
  | .BOX_mvhd => FOUR_CHAR_INT 'm' 'v' 'h' 'd'
  | .BOX_trak => FOUR_CHAR_INT 't' 'r' 'a' 'k'
  | .BOX_tkhd => FOUR_CHAR_INT 't' 'k' 'h' 'd'
  | .BOX_mdia => FOUR_CHAR_INT 'm' 'd' 'i' 'a'
  | .BOX_mdhd => FOUR_CHAR_INT 'm' 'd' 'h' 'd'
  | .BOX_hdlr => FOUR_CHAR_INT 'h' 'd' 'l' 'r'
  | .BOX_minf => FOUR_CHAR_INT 'm' 'i' 'n' 'f'
  | .BOX_vmhd => FOUR_CHAR_INT 'v' 'm' 'h' 'd'
  | .BOX_dinf => FOUR_CHAR_INT 'd' 'i' 'n' 'f'
  | .BOX_dref => FOUR_CHAR_INT 'd' 'r' 'e' 'f'
  | .BOX_url => FOUR_CHAR_INT 'u' 'r' 'l' ' '
  | .BOX_stbl => FOUR_CHAR_INT 's' 't' 'b' 'l'
  | .BOX_stsd => FOUR_CHAR_INT 's' 't' 's' 'd'
  | .BOX_avc1 => FOUR_CHAR_INT 'a' 'v' 'c' '1'
  | .BOX_hvc1 => FOUR_CHAR_INT 'h' 'v' 'c' '1'
  | .BOX_avcC => FOUR_CHAR_INT 'a' 'v' 'c' 'C'
  | .BOX_hvcC => FOUR_CHAR_INT 'h' 'v' 'c' 'C'
  | .BOX_stts => FOUR_CHAR_INT 's' 't' 't' 's'
  | .BOX_stsc => FOUR_CHAR_INT 's' 't' 's' 'c'
  | .BOX_stsz => FOUR_CHAR_INT 's' 't' 's' 'z'
  | .BOX_stco => FOUR_CHAR_INT 's' 't' 'c' 'o'
  | .BOX_co64 => FOUR_CHAR_INT 'c' 'o' '6' '4'
  | .BOX_stss => FOUR_CHAR_INT 's' 't' 's' 's'
  | .BOX_meta => FOUR_CHAR_INT 'm' 'e' 't' 'a'
  | .BOX_ctts => FOUR_CHAR_INT 'c' 't' 't' 's'
  | .BOX_stz2 => FOUR_CHAR_INT 's' 't' 'z' '2'
  | .BOX_esds => FOUR_CHAR_INT 'e' 's' 'd' 's'
  | .BOX_tref => FOUR_CHAR_INT 't' 'r' 'e' 'f'
  | .BOX_mp4a => FOUR_CHAR_INT 'm' 'p' '4' 'a'
  | .BOX_mp4s => FOUR_CHAR_INT 'm' 'p' '4' 's'
  | .BOX_mp4v => FOUR_CHAR_INT 'm' 'p' '4' 'v'
  | .BOX_udta => FOUR_CHAR_INT 'u' 'd' 't' 'a'
  | .BOX_ilst => FOUR_CHAR_INT 'i' 'l' 's' 't'
  | .BOX_btrt => FOUR_CHAR_INT 'b' 't' 'r' 't'
  | .BOX_calb => FOUR_CHAR_INT '\xa9' 'a' 'l' 'b'
  | .BOX_cART => FOUR_CHAR_INT '\xa9' 'A' 'R' 'T'
  | .BOX_cnam => FOUR_CHAR_INT '\xa9' 'n' 'a' 'm'
  | .BOX_cday => FOUR_CHAR_INT '\xa9' 'd' 'a' 'y'
  | .BOX_ccmt => FOUR_CHAR_INT '\xa9' 'c' 'm' 't'
  | .BOX_cgen => FOUR_CHAR_INT '\xa9' 'g' 'e' 'n'
  | .OD_ESD => OD_BASE + 3
  | .OD_DCD => OD_BASE + 4
  | .OD_DSI => OD_BASE + 5

def BoxName.all : List BoxName :=
  [.BOX_free, .BOX_mdat, .BOX_moov, .BOX_mvhd, .BOX_trak, .BOX_tkhd, .BOX_mdia, .BOX_mdhd,
    .BOX_hdlr, .BOX_minf, .BOX_vmhd, .BOX_dinf, .BOX_dref, .BOX_url, .BOX_stbl, .BOX_stsd,
    .BOX_avc1, .BOX_hvc1, .BOX_avcC, .BOX_hvcC, .BOX_stts, .BOX_stsc, .BOX_stsz, .BOX_stco,
    .BOX_co64, .BOX_stss, .BOX_meta, .BOX_ctts, .BOX_stz2, .BOX_esds, .BOX_tref, .BOX_mp4a,
    .BOX_mp4s, .BOX_mp4v, .BOX_udta, .BOX_ilst, .BOX_btrt, .BOX_calb, .BOX_cART, .BOX_cnam,
    .BOX_cday, .BOX_ccmt, .BOX_cgen, .OD_ESD, .OD_DCD, .OD_DSI]

/-- The box with a name, when there is one that the source has a constant for. -/
def BoxName.of_code (name : Nat) : Option BoxName := BoxName.all.find? fun box => box.code = name

@[simp] theorem BoxName.of_code_code (box : BoxName) : BoxName.of_code box.code = some box := by
  cases box <;> decide +kernel

theorem BoxName.code_lt (box : BoxName) : box.code < 256 ^ 4 := by
  cases box <;> decide

end amldigitalfpv.minimp4

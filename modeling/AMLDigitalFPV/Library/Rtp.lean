import Mathlib.Data.List.Basic
import Mathlib.Tactic.Common

namespace Rtp

def octet (packet : List UInt8) (index : Nat) : Nat := (packet.getD index 0).toNat

def version (packet : List UInt8) : Nat := octet packet 0 / 64

def padding (packet : List UInt8) : Bool := octet packet 0 / 32 % 2 = 1

def extension (packet : List UInt8) : Bool := octet packet 0 / 16 % 2 = 1

def csrc_count (packet : List UInt8) : Nat := octet packet 0 % 16

/-- The length of the fixed header and the CSRC list. -/
def header_length (packet : List UInt8) : Nat := 12 + 4 * csrc_count packet

/-- The extension starts with 16 bits of its own and the number of 32-bit words
that follow. -/
def extension_length (packet : List UInt8) : Nat :=
  if extension packet then
    4 + 4 * (256 * octet packet (header_length packet + 2) +
      octet packet (header_length packet + 3))
  else
    0

/-- The last octet of the padding counts the padding, itself included. -/
def padding_length (packet : List UInt8) : Nat :=
  if padding packet then octet packet (packet.length - 1) else 0

def payload_start (packet : List UInt8) : Nat := header_length packet + extension_length packet

def payload (packet : List UInt8) : List UInt8 :=
  (packet.drop (payload_start packet)).take
    (packet.length - payload_start packet - padding_length packet)

structure WellFormed (packet : List UInt8) : Prop where
  version_two : version packet = 2
  header : header_length packet ≤ packet.length
  extension_header : extension packet = true → header_length packet + 4 ≤ packet.length
  length : payload_start packet + padding_length packet ≤ packet.length
  padded : padding packet = true → 0 < padding_length packet

/-- The fixed header stands alone and nothing follows the payload. -/
structure Plain (packet : List UInt8) : Prop where
  no_csrc : csrc_count packet = 0
  no_extension : extension packet = false
  no_padding : padding packet = false

variable {packet : List UInt8}

theorem length_payload (h : WellFormed packet) :
    (payload packet).length + payload_start packet + padding_length packet = packet.length := by
  have hlength := h.length
  simp only [payload, List.length_take, List.length_drop]
  omega

theorem twelve_le_payload_start (packet : List UInt8) : 12 ≤ payload_start packet := by
  rw [payload_start, header_length]
  omega

/-- What follows the fixed header is the payload in the plain packets only. -/
theorem drop_eq_payload_iff (h : WellFormed packet) :
    packet.drop 12 = payload packet ↔ Plain packet := by
  have hpayload := length_payload h
  constructor
  · intro heq
    have hlength := congrArg List.length heq
    rw [List.length_drop] at hlength
    have hstart := twelve_le_payload_start packet
    have htotal : payload_start packet = 12 ∧ padding_length packet = 0 := by omega
    rw [payload_start, header_length] at htotal
    constructor
    · omega
    · by_contra hextension
      rw [Bool.not_eq_false] at hextension
      rw [extension_length, if_pos hextension] at htotal
      omega
    · by_contra hpadding
      rw [Bool.not_eq_false] at hpadding
      have hpositive := h.padded hpadding
      omega
  · rintro ⟨hcsrc, hextension, hpadding⟩
    have hstart : payload_start packet = 12 := by
      simp [payload_start, header_length, extension_length, hcsrc, hextension]
    have hnone : padding_length packet = 0 := by simp [padding_length, hpadding]
    rw [payload, hstart, hnone, Nat.sub_zero, ← List.length_drop, List.take_length]

end Rtp

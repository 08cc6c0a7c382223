import AMLDigitalFPV.Library.BigEndian

namespace amldigitalfpv.sections

open big_endian

/-- The bytes of a section: its size on four bytes, its name and its body. -/
def encode_section (name body : List UInt8) : List UInt8 :=
  encode 4 (4 + name.length + body.length) ++ name ++ body

/-- A section with the sections inside it. The fields come before them. -/
inductive Section where
  | mk (name fields : List UInt8) (children : List Section)

mutual

def Section.encode : Section → List UInt8
  | .mk name fields children => encode_section name (fields ++ encode_all children)

def encode_all : List Section → List UInt8
  | [] => []
  | first :: rest => first.encode ++ encode_all rest

end

/-- Bytes put at a position over those that are there. -/
def overwrite (position : Nat) (patch bytes : List UInt8) : List UInt8 :=
  bytes.take position ++ patch ++ bytes.drop (position + patch.length)

/-- A buffer that grows at its end, with the positions where the sections that
are still open begin. -/
structure Buffer where
  bytes : List UInt8
  opened : List Nat
deriving DecidableEq, Repr

namespace Buffer

def empty : Buffer := { bytes := [], opened := [] }

def emit (out : List UInt8) (buffer : Buffer) : Buffer :=
  { buffer with bytes := buffer.bytes ++ out }

/-- Leaves room for the size. -/
def start (name : List UInt8) (buffer : Buffer) : Buffer :=
  { bytes := buffer.bytes ++ [0, 0, 0, 0] ++ name
    opened := buffer.bytes.length :: buffer.opened }

/-- Fills in the size of the section opened last. -/
def finish (buffer : Buffer) : Buffer :=
  match buffer.opened with
  | [] => buffer
  | position :: opened =>
    { bytes := overwrite position (encode 4 (buffer.bytes.length - position)) buffer.bytes
      opened := opened }

end Buffer

@[simp] theorem length_encode_section (name body : List UInt8) :
    (encode_section name body).length = 4 + name.length + body.length := by
  simp only [encode_section, List.length_append, length_encode]

@[simp] theorem encode_mk (name fields : List UInt8) (children : List Section) :
    (Section.mk name fields children).encode =
      encode_section name (fields ++ encode_all children) := by
  rw [Section.encode]

@[simp] theorem encode_all_nil : encode_all [] = [] := by
  rw [encode_all]

@[simp] theorem encode_all_cons (first : Section) (rest : List Section) :
    encode_all (first :: rest) = first.encode ++ encode_all rest := by
  rw [encode_all]

theorem encode_ne_nil (first : Section) : first.encode ≠ [] := by
  obtain ⟨name, fields, children⟩ := first
  intro hnil
  have hlength := congrArg List.length hnil
  rw [encode_mk, length_encode_section, List.length_nil] at hlength
  omega

theorem encode_all_ne_nil {pieces : List Section} (hpieces : pieces ≠ []) :
    encode_all pieces ≠ [] := by
  obtain ⟨first, rest, rfl⟩ := List.exists_cons_of_ne_nil hpieces
  rw [encode_all_cons]
  exact List.append_ne_nil_of_left_ne_nil (encode_ne_nil first) _

theorem overwrite_append {old patch : List UInt8} (hlength : old.length = patch.length)
    (before after : List UInt8) :
    overwrite before.length patch (before ++ old ++ after) = before ++ patch ++ after := by
  unfold overwrite
  rw [List.append_assoc before old, List.take_left, List.drop_append, ← hlength,
    List.drop_of_length_le (by omega), Nat.add_sub_cancel_left, List.drop_left, List.nil_append]

namespace Buffer

@[simp] theorem emit_emit (first second : List UInt8) (buffer : Buffer) :
    emit second (emit first buffer) = emit (first ++ second) buffer := by
  simp only [emit, List.append_assoc]

@[simp] theorem emit_nil (buffer : Buffer) : emit [] buffer = buffer := by
  simp only [emit, List.append_nil]

/-- A section that is opened, written and closed comes out with its size. -/
@[simp] theorem finish_emit_start (name body : List UInt8) (buffer : Buffer) :
    finish (emit body (start name buffer)) = emit (encode_section name body) buffer := by
  have hsize : (buffer.bytes ++ [0, 0, 0, 0] ++ name ++ body).length - buffer.bytes.length =
      4 + name.length + body.length := by
    simp only [List.length_append, List.length_cons, List.length_nil]
    omega
  have hlength : ([0, 0, 0, 0] : List UInt8).length =
      (encode 4 (4 + name.length + body.length)).length := by
    rw [length_encode]
    rfl
  have hpatched := overwrite_append hlength buffer.bytes (name ++ body)
  simp only [finish, emit, start, hsize]
  simp only [List.append_assoc] at hpatched ⊢
  simp only [encode_section, hpatched, List.append_assoc]

@[simp] theorem finish_start (name : List UInt8) (buffer : Buffer) :
    finish (start name buffer) = emit (encode_section name []) buffer := by
  rw [← finish_emit_start, emit_nil]

theorem foldl_emit {α : Type} (piece : α → List UInt8) (items : List α) (buffer : Buffer) :
    items.foldl (fun buffer item => emit (piece item) buffer) buffer =
      emit (items.flatMap piece) buffer := by
  induction items generalizing buffer with
  | nil => simp
  | cons item items ih => rw [List.foldl_cons, ih, emit_emit, List.flatMap_cons]

end Buffer

end amldigitalfpv.sections

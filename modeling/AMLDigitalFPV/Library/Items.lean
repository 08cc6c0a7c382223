import AMLDigitalFPV.Library.BigEndian
import Mathlib.Data.List.Nodup

namespace amldigitalfpv.items

open big_endian

/-- A list of items, each behind its size on two bytes. -/
def pack (items : List (List UInt8)) : List UInt8 :=
  items.flatMap fun item => encode 2 item.length ++ item

/-- An item that a size of two bytes can describe and that is not empty. -/
def Fits (item : List UInt8) : Prop := item ≠ [] ∧ item.length < 256 ^ 2

instance : DecidablePred Fits := fun _ => inferInstanceAs (Decidable (_ ∧ _))

/-- The item joins the list unless it is there already. -/
def adjoin (item : List UInt8) (items : List (List UInt8)) : List (List UInt8) :=
  if item ∈ items then items else items ++ [item]

@[simp] theorem pack_nil : pack [] = [] := rfl

@[simp] theorem pack_cons (item : List UInt8) (items : List (List UInt8)) :
    pack (item :: items) = encode 2 item.length ++ item ++ pack items := rfl

theorem pack_append (first second : List (List UInt8)) :
    pack (first ++ second) = pack first ++ pack second := by
  simp [pack]

theorem pack_concat (items : List (List UInt8)) (item : List UInt8) :
    pack (items ++ [item]) = pack items ++ encode 2 item.length ++ item := by
  simp [pack]

/-- The two bytes of a size. -/
theorem encode_two (value : Nat) :
    encode 2 value = [UInt8.ofNat (value / 256), UInt8.ofNat value] := rfl

/-- The size that the first two bytes give. -/
theorem size_pack {item : List UInt8} (hfits : Fits item) (items : List (List UInt8)) :
    ((pack (item :: items)).getD 0 0).toNat * 256 + ((pack (item :: items)).getD 1 0).toNat =
      item.length := by
  have hlt := hfits.2
  simp only [pack_cons, encode_two, List.cons_append, List.getD_cons_zero, List.getD_cons_succ,
    UInt8.toNat_ofNat']
  omega

theorem drop_pack (item : List UInt8) (items : List (List UInt8)) :
    (pack (item :: items)).drop (2 + item.length) = pack items := by
  have hlength : 2 + item.length = (encode 2 item.length ++ item).length := by
    rw [List.length_append, length_encode]
  rw [pack_cons, hlength, List.drop_left]

theorem take_pack (item : List UInt8) (items : List (List UInt8)) :
    ((pack (item :: items)).drop 2).take item.length = item := by
  rw [pack_cons, encode_two, List.append_assoc]
  exact List.take_left

theorem length_pack_cons (item : List UInt8) (items : List (List UInt8)) :
    (pack (item :: items)).length = 2 + item.length + (pack items).length := by
  rw [pack_cons, List.length_append, List.length_append, length_encode]

theorem fits_adjoin {item : List UInt8} {items : List (List UInt8)} (hitem : Fits item)
    (hitems : ∀ other ∈ items, Fits other) : ∀ other ∈ adjoin item items, Fits other := by
  intro other hother
  unfold adjoin at hother
  split at hother
  · exact hitems other hother
  · obtain hmem | hmem := List.mem_append.mp hother
    · exact hitems other hmem
    · rwa [List.mem_singleton.mp hmem]

theorem nodup_adjoin {item : List UInt8} {items : List (List UInt8)} (hitems : items.Nodup) :
    (adjoin item items).Nodup := by
  unfold adjoin
  split
  · exact hitems
  · next hnew =>
    apply List.Nodup.append hitems (List.nodup_singleton item)
    rwa [List.disjoint_singleton]

end amldigitalfpv.items

import AMLDigitalFPV.MiniMp4.DemuxProgress

namespace amldigitalfpv.minimp4

open big_endian sections

/-- What has been found so far. -/
structure Found where
  tr : Bool
  mp4 : MP4D_demux_t

/-- The parser in the middle of a file. -/
def Found.reading (found : Found) (stack : List (Nat × boxtype_t)) (unread : Bytes)
    (payload_bytes : Nat) : Demuxing :=
  { unread := unread
    payload_bytes := payload_bytes
    stack := stack
    tr := found.tr
    mp4 := found.mp4 }

theorem foldl_mod (bytes : Bytes) (modulus value : Nat) :
    bytes.foldl (fun value byte => 256 * value + byte.toNat) (value % modulus) % modulus =
      bytes.foldl (fun value byte => 256 * value + byte.toNat) value % modulus := by
  induction bytes using List.reverseRecOn with
  | nil => exact Nat.mod_mod _ _
  | append_singleton bytes byte ih =>
    rw [List.foldl_append, List.foldl_append]
    exact ((Nat.ModEq.mul_left 256 ih).add_right byte.toNat)

namespace Demuxing

/-- Bytes that are there are read as the number that they stand for. -/
theorem read_bytes_append (bytes more : Bytes) (value : Nat) {st : Demuxing}
    (hvalue : value < 2 ^ 32) (hunread : st.unread = bytes ++ more) :
    st.read_bytes bytes.length value =
      (bytes.foldl (fun value byte => 256 * value + byte.toNat) value % 2 ^ 32,
        { st with unread := more }) := by
  induction bytes generalizing value st with
  | nil =>
    rw [List.nil_append] at hunread
    subst hunread
    exact congrArg (·, st) (Nat.mod_eq_of_lt hvalue).symm
  | cons byte rest ih =>
    rw [List.length_cons, read_bytes_of_cons hunread,
      ih ((value * 256 + byte.toNat) % 2 ^ 32) (Nat.mod_lt _ (by decide)) rfl, foldl_mod,
      List.foldl_cons, Nat.mul_comm value 256]

theorem minimp4_read_encode (count : Nat) (hcount : 1 ≤ count ∧ count ≤ 4) (value : Nat)
    (st : Demuxing) {more : Bytes} (hunread : st.unread = encode count value ++ more) :
    st.minimp4_read count = (value % 256 ^ count, { st with unread := more }) := by
  have hbytes : (if count = 2 ∨ count = 3 ∨ count = 4 then count else 1) =
      (encode count value).length := by
    rw [length_encode]
    split <;> omega
  have hread := read_bytes_append (encode count value) more 0 (by decide) hunread
  have hsmall : value % 256 ^ count < 2 ^ 32 := by
    have hpow : 256 ^ count ≤ 256 ^ 4 := Nat.pow_le_pow_right (by decide) hcount.2
    exact (Nat.mod_lt _ (Nat.pow_pos (by decide))).trans_le hpow
  unfold minimp4_read
  rw [hbytes, hread, ← decode, decode_encode, Nat.mod_eq_of_lt hsmall]

end Demuxing

section

variable {found : Found} {stack : List (Nat × boxtype_t)} {more : Bytes} {payload_bytes : Nat}

@[simp] theorem run_READ {count : Nat} (hcount : 1 ≤ count ∧ count ≤ 4)
    (hpayload : count ≤ payload_bytes) (value : Nat) :
    (READ count).run (found.reading stack (encode count value ++ more) payload_bytes) =
      .ok (value % 256 ^ count, found.reading stack more (payload_bytes - count)) := by
  have hread := Demuxing.minimp4_read_encode count hcount value
    (found.reading stack (encode count value ++ more) (payload_bytes - count)) rfl
  have hpay : ¬ (found.reading stack (encode count value ++ more) payload_bytes).payload_bytes <
      count := Nat.not_lt.mpr hpayload
  change Except.ok (Demuxing.read_payload count _) = _
  rw [Demuxing.read_payload, if_neg hpay]
  exact congrArg Except.ok hread

/-- Skipping sets the flag when nothing is left of the file. -/
theorem run_SKIP_at {skipped : Bytes} {count : Nat} (hlength : skipped.length = count)
    (hpayload : count ≤ payload_bytes) :
    (SKIP count).run (found.reading stack (skipped ++ more) payload_bytes) =
      .ok ((), { found.reading stack more (payload_bytes - count) with
        eof_flag := more.isEmpty }) := by
  have hmin : min payload_bytes count = skipped.length := by omega
  have hdrop : (skipped ++ more).drop (min payload_bytes count) = more := by
    rw [hmin, List.drop_left]
  unfold SKIP
  rw [Demux.run_modify]
  unfold Demuxing.skip Demuxing.my_fseek Found.reading
  dsimp only
  rw [hdrop, hmin, hlength, Bool.false_or]

theorem run_SKIP {skipped : Bytes} {count : Nat} (hlength : skipped.length = count)
    (hpayload : count ≤ payload_bytes) (hmore : more ≠ []) :
    (SKIP count).run (found.reading stack (skipped ++ more) payload_bytes) =
      .ok ((), found.reading stack more (payload_bytes - count)) := by
  have hempty : more.isEmpty = false := List.isEmpty_eq_false_iff.mpr hmore
  rw [run_SKIP_at hlength hpayload, hempty]
  rfl

/-- A loop over entries that are encoded one after the other reads each of them. -/
theorem run_read_entries {α β : Type} {entry : Demux α} {encoding : β → Bytes} {value : β → α}
    (items : List β)
    (hentry : ∀ item ∈ items, ∀ more payload_bytes, (encoding item).length ≤ payload_bytes →
      entry.run (found.reading stack (encoding item ++ more) payload_bytes) =
        .ok (value item, found.reading stack more (payload_bytes - (encoding item).length)))
    (hpayload : (items.flatMap encoding).length ≤ payload_bytes) :
    (read_entries entry items.length).run
        (found.reading stack (items.flatMap encoding ++ more) payload_bytes) =
      .ok (items.map value,
        found.reading stack more (payload_bytes - (items.flatMap encoding).length)) := by
  induction items generalizing payload_bytes with
  | nil => rfl
  | cons item rest ih =>
    rw [List.flatMap_cons, List.length_append] at hpayload
    have hfirst := hentry item List.mem_cons_self (rest.flatMap encoding ++ more) payload_bytes
      (by omega)
    have hrest : (rest.flatMap encoding).length ≤ payload_bytes - (encoding item).length := by
      omega
    have hloop := ih (fun item hitem => hentry item (List.mem_cons_of_mem _ hitem)) hrest
    rw [List.length_cons, List.flatMap_cons, List.append_assoc, read_entries,
      Demux.run_bind_of_ok hfirst, Demux.run_bind_of_ok hloop, Demux.run_pure, List.map_cons,
      List.length_append, Nat.sub_sub]

/-- Whether the children of the innermost box are atoms. -/
def InAtoms (stack : List (Nat × boxtype_t)) : Prop :=
  stack.head?.elim .BOX_ATOM Prod.snd = .BOX_ATOM

/-- A box opens with its size and its name, whatever they are. -/
theorem run_read_header_fields (hstack : InAtoms stack) {size name : Nat} (hsize : size < 256 ^ 4)
    (hvalid : ¬ (size ≥ 2 ∧ size < 8)) (hname : name < 256 ^ 4) :
    read_header.run
        (found.reading stack (encode 4 size ++ (encode 4 name ++ more)) payload_bytes) =
      (read_atom_payload (BoxName.of_code name) size).run
        (found.reading stack more payload_bytes) := by
  have hfirst : read_box_size.run
      (found.reading stack (encode 4 size ++ (encode 4 name ++ more)) payload_bytes) =
      .ok (size, found.reading stack (encode 4 name ++ more) payload_bytes) := by
    have hread := Demuxing.minimp4_read_encode 4 (by decide) size
      (found.reading stack (encode 4 size ++ (encode 4 name ++ more)) payload_bytes) rfl
    rw [Nat.mod_eq_of_lt hsize] at hread
    exact congrArg Except.ok hread
  have hsecond : (Demux.read 4).run
      (found.reading stack (encode 4 name ++ more) payload_bytes) =
      .ok (name, found.reading stack more payload_bytes) := by
    have hread := Demuxing.minimp4_read_encode 4 (by decide) name
      (found.reading stack (encode 4 name ++ more) payload_bytes) rfl
    rw [Nat.mod_eq_of_lt hname] at hread
    exact congrArg Except.ok hread
  have hformat : read_header.run
      (found.reading stack (encode 4 size ++ (encode 4 name ++ more)) payload_bytes) =
      read_atom_header.run
        (found.reading stack (encode 4 size ++ (encode 4 name ++ more)) payload_bytes) := by
    unfold read_header
    rw [Demux.run_state_bind]
    split
    · rfl
    · next hod => exact absurd (hstack.symm.trans hod) nofun
  rw [hformat]
  unfold read_atom_header
  rw [Demux.run_bind_of_ok hfirst, Demux.run_state_bind, if_neg (by exact Bool.false_ne_true),
    if_neg hvalid, Demux.run_bind_of_ok hsecond]

/-- A size that means up to the end of the file. -/
def extended_size (size : Nat) : Nat :=
  if size = 0 ∨ size = 0xFFFFFFFF then 2 ^ 64 - 1 else size

theorem run_read_header_of_size (found : Found) (hstack : InAtoms stack) {size name : Nat}
    (hsize : size < 256 ^ 4) (hvalid : size = 0 ∨ 8 ≤ size) (hname : name < 256 ^ 4) (more : Bytes)
    (payload_bytes : Nat) :
    read_header.run
        (found.reading stack (encode 4 size ++ (encode 4 name ++ more)) payload_bytes) =
      (check_fullbox
        { box_name := BoxName.of_code name
          box_bytes := extended_size size
          read_bytes := 8 }).run (found.reading stack more (extended_size size - 8)) := by
  rw [run_read_header_fields hstack hsize (by omega) hname]
  unfold read_atom_payload
  rw [if_neg (by omega), run_set_payload_bind]
  rfl

theorem run_read_header (found : Found) (hstack : InAtoms stack) {name : Nat}
    (hname : name < 256 ^ 4) (body more : Bytes) (hbody : 8 + body.length < 0xFFFFFFFF)
    (payload_bytes : Nat) :
    read_header.run
        (found.reading stack (encode_section (encode 4 name) body ++ more) payload_bytes) =
      (check_fullbox
        { box_name := BoxName.of_code name
          box_bytes := 8 + body.length
          read_bytes := 8 }).run (found.reading stack (body ++ more) body.length) := by
  have hextended : extended_size (8 + body.length) = 8 + body.length := if_neg (by omega)
  rw [encode_section, length_encode, List.append_assoc, List.append_assoc,
    run_read_header_of_size found hstack (by omega) (by omega) hname, hextended,
    Nat.add_sub_cancel_left]

theorem run_check_fullbox_none {header : box_header}
    (hplain : header.box_name.bind g_fullbox = none) (st : Demuxing) :
    (check_fullbox header).run st = .ok (.box header, st) := by
  unfold check_fullbox
  rw [hplain]
  rfl

/-- The version of a box is read and checked. -/
theorem run_check_fullbox {header : box_header} {max_version : Nat} {use_track_flag : Bool}
    (hfull : header.box_name.bind g_fullbox = some (max_version, use_track_flag))
    (hmeta : header.box_name ≠ some .BOX_meta) (htrack : use_track_flag → found.tr)
    {flags : Nat} (hflags : flags < 2 ^ 24) (hpayload : 4 ≤ payload_bytes) :
    (check_fullbox header).run (found.reading stack (encode 4 flags ++ more) payload_bytes) =
      .ok (.box { header with
          read_bytes := header.read_bytes + 4, FullAtomVersionAndFlags := flags },
        found.reading stack more (payload_bytes - 4)) := by
  have hvalue : flags % 256 ^ 4 = flags := Nat.mod_eq_of_lt (by omega)
  have hread : (READ 4).run (found.reading stack (encode 4 flags ++ more) payload_bytes) =
      .ok (flags % 256 ^ 4, found.reading stack more (payload_bytes - 4)) :=
    run_READ (by decide) hpayload flags
  have hversion : ¬ flags / 2 ^ 24 > max_version := by
    rw [Nat.div_eq_of_lt hflags]
    exact Nat.not_lt_zero _
  rw [hvalue] at hread
  unfold check_fullbox
  rw [hfull]
  dsimp only
  rw [Demux.run_bind_of_ok hread, Demux.run_state_bind, if_neg (fun h => hmeta h.1),
    if_neg hversion, if_neg (fun h => h.2 (htrack h.1))]
  rfl

theorem run_check_parent {header : box_header} (hpos : header.box_bytes ≠ 0)
    (hfits : stack = [] ∨ header.box_bytes ≤ remaining stack) :
    (check_parent header).run (found.reading stack more payload_bytes) =
      .ok (header,
        found.reading (take_from_parent header.box_bytes stack) more payload_bytes) := by
  unfold check_parent
  rw [Demux.run_state_bind]
  by_cases hstack : stack = []
  · subst hstack
    rfl
  · rw [if_neg (by exact hstack), if_neg hpos,
      if_neg (by exact Nat.not_lt.mpr (hfits.resolve_left hstack))]
    rfl

end

section

variable (malloc : Nat → Bool) (file_size : Nat)

/-- The main loop ends with a result from here on. -/
def Finishes (st result : Demuxing) : Prop :=
  ∀ fuel, st.unread.length < fuel → read_boxes malloc file_size fuel st = some (.ok result)

/-- The main loop takes the boxes at the front of the file for what they are,
within whatever boxes they stand. `level` bounds how many these are. -/
def Parses (level : Nat) (more bytes : Bytes) (found found' : Found) : Prop :=
  ∀ stack payload_bytes, stack.length ≤ level → (∀ parent ∈ stack, parent.2 = .BOX_ATOM) →
    (stack = [] ∨ bytes.length ≤ remaining stack) → bytes.length ≤ file_size →
    ∀ result,
      Finishes malloc file_size
        (found'.reading (without_empty (take_from_parent bytes.length stack)) more 0) result →
      Finishes malloc file_size (found.reading stack (bytes ++ more) payload_bytes) result

/-- The same for boxes that fill the innermost box they stand in. -/
def Fills (level : Nat) (more bytes : Bytes) (found found' : Found) : Prop :=
  ∀ stack payload_bytes, stack.length ≤ level → (∀ parent ∈ stack, parent.2 = .BOX_ATOM) →
    stack ≠ [] → remaining stack = bytes.length → bytes.length ≤ file_size →
    ∀ result,
      Finishes malloc file_size
        (found'.reading (without_empty (take_from_parent bytes.length stack)) more 0) result →
      Finishes malloc file_size (found.reading stack (bytes ++ more) payload_bytes) result

/-- A box is read up to what is left of it, its header and its fields being
taken from it. -/
def ReadsBox (more box : Bytes) (box_name : Option BoxName) (left : Bytes)
    (found found' : Found) : Prop :=
  ∀ stack payload_bytes, InAtoms stack → (stack = [] ∨ box.length ≤ remaining stack) →
    box.length ≤ file_size →
    (read_next_box malloc file_size).run (found.reading stack (box ++ more) payload_bytes) =
      (do
        leave_box file_size box_name
        pure !(← Demux.state).eof_flag).run
        (found'.reading (take_from_parent box.length stack) (left ++ more) left.length)

end

theorem inAtoms_of_forall {stack : List (Nat × boxtype_t)}
    (hatoms : ∀ parent ∈ stack, parent.2 = .BOX_ATOM) : InAtoms stack := by
  cases stack with
  | nil => rfl
  | cons parent rest => exact hatoms parent List.mem_cons_self

section

variable {malloc : Nat → Bool} {file_size : Nat}

/-- At the end of the file the loop ends, too. -/
theorem Finishes.eq_of_end {found : Found} {stack : List (Nat × boxtype_t)} {result : Demuxing}
    (hstack : InAtoms stack)
    (hfinishes : Finishes malloc file_size (found.reading stack [] 0) result) :
    result = { found.reading stack [] 0 with eof_flag := true } := by
  have hheader : read_header.run (found.reading stack [] 0) =
      .ok (.done, { found.reading stack [] 0 with eof_flag := true }) := by
    have hformat : (found.reading stack [] 0).stack.head?.elim .BOX_ATOM Prod.snd = .BOX_ATOM :=
      hstack
    unfold read_header
    rw [Demux.run_state_bind, hformat]
    rfl
  have hpass : (read_next_box malloc file_size).run (found.reading stack [] 0) =
      .ok (false, { found.reading stack [] 0 with eof_flag := true }) := by
    unfold read_next_box
    rw [Demux.run_bind_of_ok hheader]
    rfl
  have hloop := hfinishes 1 Nat.zero_lt_one
  rw [read_boxes, hpass] at hloop
  exact (Except.ok.inj (Option.some.inj hloop)).symm

/-- A pass after which the loop goes on. -/
theorem Finishes.of_pass {st st' result : Demuxing}
    (hpass : (read_next_box malloc file_size).run st = .ok (true, st'))
    (hfinishes : Finishes malloc file_size st' result) :
    Finishes malloc file_size st result := by
  intro fuel hfuel
  have hlt := length_read_next_box_lt hpass
  obtain ⟨fuel, rfl⟩ := Nat.exists_eq_succ_of_ne_zero (show fuel ≠ 0 by omega)
  rw [Nat.succ_eq_add_one, read_boxes, hpass]
  exact hfinishes fuel (by omega)

section

variable {level : Nat} {more box left : Bytes} {box_name : Option BoxName}
  {found found' found'' : Found}

theorem run_leave_leaf (hleaf : box_name.bind g_envelope_box = none)
    (hleft : left.length ≤ file_size) (stack : List (Nat × boxtype_t)) :
    (leave_box file_size box_name).run (found.reading stack (left ++ more) left.length) =
      .ok ((), { found.reading (without_empty stack) more 0 with eof_flag := more.isEmpty }) := by
  have hskip : (SKIP left.length).run (found.reading stack (left ++ more) left.length) =
      .ok ((), { found.reading stack more (left.length - left.length) with
        eof_flag := more.isEmpty }) := run_SKIP_at rfl le_rfl
  rw [Nat.sub_self] at hskip
  have hpayload : ¬ (found.reading stack (left ++ more) left.length).payload_bytes > file_size :=
    Nat.not_lt.mpr hleft
  have hleave : (enter_or_skip file_size box_name).run
      (found.reading stack (left ++ more) left.length) =
      .ok ((), { found.reading stack more 0 with eof_flag := more.isEmpty }) := by
    unfold enter_or_skip
    rw [hleaf, Demux.run_state_bind]
    dsimp only
    rw [if_neg hpayload]
    exact hskip
  unfold leave_box
  rw [Demux.run_bind_of_ok hleave]
  rfl

theorem run_leave_envelope (henvelope : box_name.bind g_envelope_box = some .BOX_ATOM)
    {stack : List (Nat × boxtype_t)} (hdepth : stack.length + 1 < MAX_CHUNKS_DEPTH)
    {children : Bytes} (hchildren : children ≠ []) :
    (leave_box file_size box_name).run
        (found.reading stack (children ++ more) children.length) =
      .ok ((), found.reading ((children.length, .BOX_ATOM) :: stack) (children ++ more)
        children.length) := by
  have hlength : children.length ≠ 0 := fun hzero => hchildren (List.length_eq_zero_iff.mp hzero)
  have hroom : ¬ (found.reading stack (children ++ more) children.length).stack.length + 1 ≥
      MAX_CHUNKS_DEPTH := Nat.not_le.mpr hdepth
  have henter : (enter_or_skip file_size box_name).run
      (found.reading stack (children ++ more) children.length) =
      .ok ((), found.reading ((children.length, .BOX_ATOM) :: stack) (children ++ more)
        children.length) := by
    unfold enter_or_skip
    rw [henvelope, Demux.run_state_bind]
    dsimp only
    rw [if_neg hroom]
    rfl
  have hkept : without_empty ((children.length, boxtype_t.BOX_ATOM) :: stack) =
      (children.length, boxtype_t.BOX_ATOM) :: stack :=
    List.dropWhile_cons_of_neg (by simpa using hlength)
  unfold leave_box
  rw [Demux.run_bind_of_ok henter, Demux.run_modify]
  exact congrArg
    (fun stack => Except.ok ((), found.reading stack (children ++ more) children.length)) hkept

theorem forall_take_from_parent {stack : List (Nat × boxtype_t)}
    (hatoms : ∀ parent ∈ stack, parent.2 = .BOX_ATOM) (bytes : Nat) :
    ∀ parent ∈ take_from_parent bytes stack, parent.2 = .BOX_ATOM := by
  cases stack with
  | nil => exact hatoms
  | cons parent rest =>
    intro other hother
    obtain rfl | hother := List.mem_cons.mp hother
    · exact hatoms parent List.mem_cons_self
    · exact hatoms other (List.mem_cons_of_mem _ hother)

theorem length_take_from_parent (bytes : Nat) (stack : List (Nat × boxtype_t)) :
    (take_from_parent bytes stack).length = stack.length := by
  cases stack <;> rfl

/-- The pass that reaches the end of the file is the last. -/
theorem Finishes.of_last_pass {st result : Demuxing} {stack : List (Nat × boxtype_t)}
    (hpass : (read_next_box malloc file_size).run st =
      .ok (false, { found.reading stack [] 0 with eof_flag := true }))
    (hstack : InAtoms stack)
    (hfinishes : Finishes malloc file_size (found.reading stack [] 0) result) :
    Finishes malloc file_size st result := by
  intro fuel hfuel
  obtain ⟨fuel, rfl⟩ := Nat.exists_eq_succ_of_ne_zero (show fuel ≠ 0 by omega)
  rw [Nat.succ_eq_add_one, read_boxes, hpass, hfinishes.eq_of_end hstack]
  rfl

theorem inAtoms_without_empty {stack : List (Nat × boxtype_t)}
    (hatoms : ∀ parent ∈ stack, parent.2 = .BOX_ATOM) : InAtoms (without_empty stack) := by
  apply inAtoms_of_forall
  intro parent hparent
  exact hatoms parent ((List.dropWhile_sublist _).subset hparent)

/-- What is left of a box that contains no others is skipped. -/
theorem Finishes.of_leaf {st result : Demuxing} {stack : List (Nat × boxtype_t)}
    (hpass : (read_next_box malloc file_size).run st =
      (do
        leave_box file_size box_name
        pure !(← Demux.state).eof_flag).run (found.reading stack (left ++ more) left.length))
    (hleaf : box_name.bind g_envelope_box = none) (hleft : left.length ≤ file_size)
    (hatoms : ∀ parent ∈ stack, parent.2 = .BOX_ATOM)
    (hfinishes : Finishes malloc file_size (found.reading (without_empty stack) more 0) result) :
    Finishes malloc file_size st result := by
  rw [Demux.run_bind_of_ok (run_leave_leaf hleaf hleft stack), Demux.run_state_bind,
    Demux.run_pure] at hpass
  cases more with
  | nil => exact hfinishes.of_last_pass hpass (inAtoms_without_empty hatoms)
  | cons byte rest => exact hfinishes.of_pass hpass

theorem ReadsBox.leaf (hreads : ReadsBox malloc file_size more box box_name left found found')
    (hleaf : box_name.bind g_envelope_box = none) (hleft : left.length ≤ box.length) :
    Parses malloc file_size level more box found found' := by
  intro stack payload_bytes hlevel hatoms hfits hsize result hfinishes
  exact hfinishes.of_leaf (hreads stack payload_bytes (inAtoms_of_forall hatoms) hfits hsize) hleaf
    (hleft.trans hsize) (forall_take_from_parent hatoms _)

theorem Parses.fills (hparses : Parses malloc file_size level more box found found') :
    Fills malloc file_size level more box found found' := by
  intro stack payload_bytes hstack hatoms _ hremaining
  exact hparses stack payload_bytes hstack hatoms (Or.inr (le_of_eq hremaining.symm))

/-- The boxes inside a box are read one after the other. -/
theorem ReadsBox.envelope {children : Bytes}
    (hreads : ReadsBox malloc file_size more box box_name children found found')
    (henvelope : box_name.bind g_envelope_box = some .BOX_ATOM) (hne : children ≠ [])
    (hlength : children.length ≤ box.length) (hlevel : level + 1 < MAX_CHUNKS_DEPTH)
    (hchildren : Fills malloc file_size (level + 1) more children found' found'') :
    Parses malloc file_size level more box found found'' := by
  intro stack payload_bytes hstack hatoms hfits hsize result hfinishes
  have hdepth : (take_from_parent box.length stack).length + 1 < MAX_CHUNKS_DEPTH := by
    rw [length_take_from_parent]
    omega
  have hpass := hreads stack payload_bytes (inAtoms_of_forall hatoms) hfits hsize
  rw [Demux.run_bind_of_ok (run_leave_envelope henvelope hdepth hne), Demux.run_state_bind,
    Demux.run_pure] at hpass
  apply Finishes.of_pass hpass
  apply hchildren
  · rw [List.length_cons, length_take_from_parent]
    omega
  · intro parent hparent
    obtain rfl | hparent := List.mem_cons.mp hparent
    · rfl
    · exact forall_take_from_parent hatoms _ parent hparent
  · exact nofun
  · rfl
  · exact hlength.trans hsize
  · have hpopped : without_empty (take_from_parent children.length
        ((children.length, .BOX_ATOM) :: take_from_parent box.length stack)) =
        without_empty (take_from_parent box.length stack) := by
      unfold take_from_parent without_empty
      rw [List.modifyHead_cons, List.dropWhile_cons_of_pos (by simp)]
    rw [hpopped]
    exact hfinishes

/-- Boxes that follow each other. -/
theorem Parses.append {first second : Bytes} (hne : second ≠ [])
    (hfirst : Parses malloc file_size level (second ++ more) first found found')
    (hsecond : Parses malloc file_size level more second found' found'') :
    Parses malloc file_size level more (first ++ second) found found'' := by
  intro stack payload_bytes hstack hatoms hfits hsize result hfinishes
  have hpos : second.length ≠ 0 := fun hzero => hne (List.length_eq_zero_iff.mp hzero)
  rw [List.length_append] at hfits hsize hfinishes
  have hkept : without_empty (take_from_parent first.length stack) =
      take_from_parent first.length stack := by
    cases stack with
    | nil => rfl
    | cons parent rest =>
      have hroom : first.length + second.length ≤ parent.1 := hfits.resolve_left nofun
      exact List.dropWhile_cons_of_neg (by simp only [decide_eq_true_eq]; omega)
  have htaken : take_from_parent second.length (take_from_parent first.length stack) =
      take_from_parent (first.length + second.length) stack := by
    cases stack with
    | nil => rfl
    | cons parent rest =>
      unfold take_from_parent
      rw [List.modifyHead_cons, List.modifyHead_cons, List.modifyHead_cons, Nat.sub_sub]
  rw [List.append_assoc]
  apply hfirst stack payload_bytes hstack hatoms
  · exact hfits.imp_right (le_trans (Nat.le_add_right _ _))
  · omega
  · rw [hkept]
    apply hsecond
    · rw [length_take_from_parent]
      exact hstack
    · exact forall_take_from_parent hatoms _
    · cases stack with
      | nil => exact Or.inl rfl
      | cons parent rest =>
        have hroom : first.length + second.length ≤ parent.1 := hfits.resolve_left nofun
        exact Or.inr (by change second.length ≤ parent.1 - first.length; omega)
    · omega
    · rw [htaken]
      exact hfinishes

section

variable {found₀ : Found} {body fields : Bytes} {payload_bytes : Nat}

/-- From the header on a box is what its case in the parser makes of it. -/
theorem run_read_box_body {header : box_header} {stack : List (Nat × boxtype_t)}
    {st st' : Demuxing} (hpos : header.box_bytes ≠ 0)
    (hfits : stack = [] ∨ header.box_bytes ≤ remaining stack)
    (hbox : (read_box malloc header.box_name header.box_bytes
        header.FullAtomVersionAndFlags).run
        (found.reading (take_from_parent header.box_bytes stack) more payload_bytes) =
      .ok ((), st))
    (htag : ∀ st, (read_tag_box malloc header.box_name).run st = .ok (true, st))
    (htrack : (switch_track malloc header.box_name).run st = .ok (true, st')) :
    (read_box_body malloc file_size header).run (found.reading stack more payload_bytes) =
      (do
        leave_box file_size header.box_name
        pure !(← Demux.state).eof_flag).run st' := by
  unfold read_box_body
  rw [Demux.run_bind_of_ok (run_check_parent hpos hfits), Demux.run_bind_of_ok hbox,
    Demux.run_bind_of_ok (htag _), if_neg (not_not.mpr rfl), Demux.run_bind_of_ok htrack,
    if_neg (not_not.mpr rfl)]

/-- A box without a version. -/
theorem ReadsBox.of_small_box {name : Nat} (hname : name < 256 ^ 4)
    (hbox_name : BoxName.of_code name = box_name) (hbody : 8 + body.length < 0xFFFFFFFF)
    (hplain : box_name.bind g_fullbox = none)
    (hbox : ∀ stack, (read_box malloc box_name (8 + body.length) 0).run
        (found.reading stack (body ++ more) body.length) =
      .ok ((), found₀.reading stack (left ++ more) left.length))
    (htag : ∀ st, (read_tag_box malloc box_name).run st = .ok (true, st))
    (htrack : ∀ stack unread payload_bytes, (switch_track malloc box_name).run
        (found₀.reading stack unread payload_bytes) =
      .ok (true, found'.reading stack unread payload_bytes)) :
    ReadsBox malloc file_size more (encode_section (encode 4 name) body) box_name left found
      found' := by
  intro stack payload_bytes hstack hfits _
  have hlength : (encode_section (encode 4 name) body).length = 8 + body.length := by
    rw [length_encode_section, length_encode]
  rw [hlength] at hfits ⊢
  have hheader := run_read_header found hstack hname body more hbody payload_bytes
  rw [hbox_name, run_check_fullbox_none hplain] at hheader
  unfold read_next_box
  rw [Demux.run_bind_of_ok hheader]
  exact run_read_box_body (by dsimp only; omega) hfits (hbox _) htag (htrack _ _ _)

theorem ReadsBox.of_box {name : Nat} (hname : name < 256 ^ 4)
    (hbox_name : BoxName.of_code name = box_name) (hfile : file_size < 0xFFFFFFFF)
    (hplain : box_name.bind g_fullbox = none)
    (hbox : ∀ stack, (read_box malloc box_name (8 + body.length) 0).run
        (found.reading stack (body ++ more) body.length) =
      .ok ((), found₀.reading stack (left ++ more) left.length))
    (htag : ∀ st, (read_tag_box malloc box_name).run st = .ok (true, st))
    (htrack : ∀ stack unread payload_bytes, (switch_track malloc box_name).run
        (found₀.reading stack unread payload_bytes) =
      .ok (true, found'.reading stack unread payload_bytes)) :
    ReadsBox malloc file_size more (encode_section (encode 4 name) body) box_name left found
      found' := by
  intro stack payload_bytes hstack hfits hsize
  have hlength : (encode_section (encode 4 name) body).length = 8 + body.length := by
    rw [length_encode_section, length_encode]
  exact ReadsBox.of_small_box hname hbox_name (by omega) hplain hbox htag htrack stack
    payload_bytes hstack hfits hsize

/-- A box with a version. -/
theorem ReadsBox.of_full_box {name flags max_version : Nat} {use_track_flag : Bool}
    (hname : name < 256 ^ 4) (hbox_name : BoxName.of_code name = box_name)
    (hfile : file_size < 0xFFFFFFFF)
    (hfull : box_name.bind g_fullbox = some (max_version, use_track_flag))
    (hmeta : box_name ≠ some .BOX_meta) (huse : use_track_flag → found.tr)
    (hflags : flags < 2 ^ 24)
    (hbox : ∀ stack, (read_box malloc box_name (8 + (4 + fields.length)) flags).run
        (found.reading stack (fields ++ more) fields.length) =
      .ok ((), found₀.reading stack (left ++ more) left.length))
    (htag : ∀ st, (read_tag_box malloc box_name).run st = .ok (true, st))
    (htrack : ∀ stack unread payload_bytes, (switch_track malloc box_name).run
        (found₀.reading stack unread payload_bytes) =
      .ok (true, found'.reading stack unread payload_bytes)) :
    ReadsBox malloc file_size more (encode_section (encode 4 name) (encode 4 flags ++ fields))
      box_name left found found' := by
  intro stack payload_bytes hstack hfits hsize
  have hbody : (encode 4 flags ++ fields).length = 4 + fields.length := by
    rw [List.length_append, length_encode]
  have hlength : (encode_section (encode 4 name) (encode 4 flags ++ fields)).length =
      8 + (4 + fields.length) := by
    rw [length_encode_section, length_encode, hbody]
  rw [hlength] at hfits hsize ⊢
  have hheader := run_read_header found hstack hname (encode 4 flags ++ fields) more (by omega)
    payload_bytes
  rw [hbox_name, hbody, List.append_assoc, run_check_fullbox hfull hmeta huse hflags (by omega),
    Nat.add_sub_cancel_left] at hheader
  unfold read_next_box
  rw [Demux.run_bind_of_ok hheader]
  exact run_read_box_body (by dsimp only; omega) hfits (hbox _) htag (htrack _ _ _)

/-- A box whose size is zero reaches to the end of the box that it stands in. -/
theorem fills_of_size_zero {name : Nat} (hname : name < 256 ^ 4)
    (hnone : BoxName.of_code name = none) (hfile : file_size < 0xFFFFFFFF) :
    Fills malloc file_size level more (encode 4 0 ++ (encode 4 name ++ body)) found found := by
  intro stack payload_bytes hstack hatoms hne hremaining hsize result hfinishes
  have hlength : (encode 4 0 ++ (encode 4 name ++ body)).length = 8 + body.length := by
    rw [List.length_append, List.length_append, length_encode, length_encode, ← Nat.add_assoc]
  rw [hlength] at hremaining hsize hfinishes
  have hheader := run_read_header_of_size found (inAtoms_of_forall hatoms)
    (show 0 < 256 ^ 4 by decide) (Or.inl rfl) hname (body ++ more) payload_bytes
  rw [hnone, run_check_fullbox_none rfl] at hheader
  have hparent : (check_parent
      { box_name := none, box_bytes := extended_size 0, read_bytes := 8 }).run
        (found.reading stack (body ++ more) (extended_size 0 - 8)) =
      .ok ({ box_name := none, box_bytes := 8 + body.length, read_bytes := 8 },
        found.reading (take_from_parent (8 + body.length) stack) (body ++ more) body.length) := by
    have hcut : 2 ^ 64 - 1 > remaining stack := by omega
    have hpayload : (8 + body.length + 2 ^ 64 - 8) % 2 ^ 64 = body.length := by omega
    unfold check_parent
    rw [Demux.run_state_bind, if_neg (by exact hne), if_neg (by decide), if_pos (by exact hcut)]
    change Except.ok (({ box_name := none, box_bytes := remaining stack, read_bytes := 8 } :
      box_header), found.reading (take_from_parent (remaining stack) stack) (body ++ more)
        ((remaining stack + 2 ^ 64 - 8) % 2 ^ 64)) = _
    rw [hremaining, hpayload]
  have hpass : (read_next_box malloc file_size).run
      (found.reading stack (encode 4 0 ++ (encode 4 name ++ (body ++ more))) payload_bytes) =
      (do
        leave_box file_size none
        pure !(← Demux.state).eof_flag).run
        (found.reading (take_from_parent (8 + body.length) stack) (body ++ more) body.length) := by
    unfold read_next_box
    rw [Demux.run_bind_of_ok hheader]
    unfold read_box_body
    dsimp only
    rw [Demux.run_bind_of_ok hparent]
    rfl
  rw [List.append_assoc, List.append_assoc]
  exact Finishes.of_leaf hpass rfl (by omega) (forall_take_from_parent hatoms _) hfinishes

end

/-- A file that is boxes and nothing else is opened with what they hold. -/
theorem Parses.opened {file : Bytes} {level : Nat}
    (hparses : Parses malloc file.length level [] file ⟨false, {}⟩ found) :
    MP4D_open malloc file =
      some (.ok (if found.mp4.track = [] then none else some found.mp4)) := by
  have hfinishes : Finishes malloc file.length (found.reading [] [] 0)
      { found.reading [] [] 0 with eof_flag := true } := by
    intro fuel hfuel
    obtain ⟨fuel, rfl⟩ := Nat.exists_eq_succ_of_ne_zero (show fuel ≠ 0 by omega)
    rfl
  have hrun := hparses [] 0 (Nat.zero_le _) (List.forall_mem_nil _) (Or.inl rfl) le_rfl _ hfinishes
  rw [List.append_nil] at hrun
  have hloop := hrun (file.length + 1) (Nat.lt_succ_self _)
  unfold MP4D_open
  change Option.map _ (read_boxes malloc file.length (file.length + 1)
    (Found.reading ⟨false, {}⟩ [] file 0)) = _
  rw [hloop]
  rfl

end

end

end amldigitalfpv.minimp4

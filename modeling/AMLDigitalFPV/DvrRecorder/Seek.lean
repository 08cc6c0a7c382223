import AMLDigitalFPV.DvrRecorder.WriterSpec

namespace amldigitalfpv.dvr_recorder

/-- The value that a 64-bit position has in the 32-bit `long` of `fseek`. -/
def to_long (position : Int) : Int := position.bmod (2 ^ 32)

/-- The contents of a file after a write, with zeros in the gap when the write
begins past the end. -/
def write_at (position : Nat) (buffer contents : List UInt8) : List UInt8 :=
  if buffer = [] then contents
  else contents.takeD position 0 ++ buffer ++ contents.drop (position + buffer.length)

/-- The arguments of one call of `file_write_callback`. -/
structure Write where
  offset : Int
  buffer : List UInt8
deriving DecidableEq

/-- A recorder and the contents of its file. -/
structure Stream where
  self : DvrRecorder
  contents : List UInt8
deriving DecidableEq

/-- The call of `fseek` in the write callback. A negative position makes it
fail. -/
def fseek_position (write : Write) : Option Nat :=
  let position := to_long (clamp_positive write.offset)
  if position < 0 then none else some position.toNat

/-- The write callback on the 32-bit target, over a file that takes every write
at every position. -/
def Stream.file_write_callback (stream : Stream) (write : Write) : Int × Stream :=
  let position := fseek_position write
  let call : WriteCall :=
    { offset := write.offset
      size := write.buffer.length
      fseek_ok := position.isSome
      fwrite_count := if position.isSome then write.buffer.length else 0 }
  let result := stream.self.file_write_callback call
  let contents :=
    match stream.self.file_, position with
    | some _, some position => write_at position write.buffer stream.contents
    | _, _ => stream.contents
  (result.1, { self := result.2, contents := contents })

def Stream.run (stream : Stream) (writes : List Write) : Stream :=
  writes.foldl (fun stream write => (stream.file_write_callback write).2) stream

/-- The end of the farthest write, given how far the file reached before. -/
def farthest_end (reached : Nat) (writes : List Write) : Nat :=
  writes.foldl (fun reached write => max reached (write.offset.toNat + write.buffer.length)) reached

/-- What the same writes make of the contents at their full offsets. -/
def intended (contents : List UInt8) (writes : List Write) : List UInt8 :=
  writes.foldl (fun contents write => write_at write.offset.toNat write.buffer contents) contents

/-- Every call succeeds, and after each the contents and the counter are what
the offsets asked for. -/
def WritesLand (stream : Stream) (writes : List Write) : Prop :=
  ∀ pre write post, writes = pre ++ write :: post →
    ((stream.run pre).file_write_callback write).1 = 0 ∧
      (stream.run (pre ++ [write])).contents = intended stream.contents (pre ++ [write]) ∧
      (stream.run (pre ++ [write])).self.current_file_bytes_ =
        farthest_end stream.self.current_file_bytes_ (pre ++ [write])

/-- A write that the size limit allows. -/
def Write.WithinLimit (write : Write) : Prop :=
  0 ≤ write.offset ∧ write.offset + write.buffer.length ≤ kMaxFat32Size

instance : DecidablePred Write.WithinLimit := fun _ => inferInstanceAs (Decidable (_ ∧ _))

/-- The narrowing keeps a position below 2 GiB and makes any other negative. -/
theorem fseek_position_eq {write : Write} (hlimit : write.WithinLimit) :
    fseek_position write =
      if write.offset < 2 ^ 31 then some write.offset.toNat else none := by
  obtain ⟨hnonneg, hend⟩ := hlimit
  have hclamp : clamp_positive write.offset = write.offset := if_neg (by omega)
  unfold fseek_position to_long
  rw [hclamp]
  dsimp only
  by_cases hlow : write.offset < 2 ^ 31
  · have hkept : write.offset.bmod (2 ^ 32) = write.offset := by
      rw [Int.bmod_def]
      omega
    rw [hkept, if_neg (by omega), if_pos hlow]
  · have hwrapped : write.offset.bmod (2 ^ 32) < 0 := by
      unfold kMaxFat32Size at hend
      rw [Int.bmod_def]
      omega
    rw [if_pos hwrapped, if_neg hlow]

/-- A call below 2 GiB does what its arguments say. -/
theorem file_write_callback_low {stream : Stream} {write : Write}
    (hfile : stream.self.file_ ≠ none) (hlimit : write.WithinLimit)
    (hlow : write.offset < 2 ^ 31) : ∃ rotate,
    stream.file_write_callback write =
      (0, { self := stream.self.with_counters
              (max stream.self.current_file_bytes_ (write.offset.toNat + write.buffer.length))
              rotate
            contents := write_at write.offset.toNat write.buffer stream.contents }) := by
  obtain ⟨file, hsome⟩ := Option.ne_none_iff_exists'.mp hfile
  have hposition : fseek_position write = some write.offset.toNat := by
    rw [fseek_position_eq hlimit, if_pos hlow]
  have hoffset : (write.offset.toNat : Int) = write.offset := Int.toNat_of_nonneg hlimit.1
  have hcall := DvrRecorder.file_write_callback_accepted hfile write.offset.toNat
    write.buffer.length
  rw [hoffset] at hcall
  refine ⟨stream.self.rotate_requested_ ||
    decide (kMaxFat32Size ≤ write.offset.toNat + write.buffer.length), ?_⟩
  unfold Stream.file_write_callback
  simp only [hposition, Option.isSome_some, if_true, hcall, hsome]

/-- A call from 2 GiB on fails. -/
theorem file_write_callback_high {stream : Stream} {write : Write} (hlimit : write.WithinLimit)
    (hhigh : ¬ write.offset < 2 ^ 31) : (stream.file_write_callback write).1 = -1 := by
  have hposition : fseek_position write = none := by
    rw [fseek_position_eq hlimit, if_neg hhigh]
  unfold Stream.file_write_callback DvrRecorder.file_write_callback
  simp [hposition]

/-- As long as all writes begin below 2 GiB a run of the callback is what the
offsets ask for. -/
theorem run_low {stream : Stream} {writes : List Write} (hfile : stream.self.file_ ≠ none)
    (hlimit : ∀ write ∈ writes, write.WithinLimit)
    (hlow : ∀ write ∈ writes, write.offset < 2 ^ 31) :
    (stream.run writes).self.file_ ≠ none ∧
      (stream.run writes).contents = intended stream.contents writes ∧
      (stream.run writes).self.current_file_bytes_ =
        farthest_end stream.self.current_file_bytes_ writes := by
  induction writes generalizing stream with
  | nil => exact ⟨hfile, rfl, rfl⟩
  | cons write rest ih =>
    obtain ⟨rotate, hcall⟩ := file_write_callback_low hfile (hlimit write List.mem_cons_self)
      (hlow write List.mem_cons_self)
    have hstill : (stream.file_write_callback write).2.self.file_ ≠ none := by
      rw [hcall]
      exact hfile
    obtain ⟨hopen, hcontents, hbytes⟩ := ih hstill
      (fun other hmem => hlimit other (List.mem_cons_of_mem _ hmem))
      (fun other hmem => hlow other (List.mem_cons_of_mem _ hmem))
    refine ⟨hopen, hcontents.trans ?_, hbytes.trans ?_⟩
    · rw [hcall]
      rfl
    · rw [hcall]
      rfl

/-- On the 32-bit target a sequence of writes within the size limit lands where
the muxer asked exactly when each of them begins below 2 GiB. -/
theorem writes_land_iff {stream : Stream} {writes : List Write}
    (hfile : stream.self.file_ ≠ none) (hlimit : ∀ write ∈ writes, write.WithinLimit) :
    WritesLand stream writes ↔ ∀ write ∈ writes, write.offset < 2 ^ 31 := by
  constructor
  · intro hland write hmem
    obtain ⟨pre, post, hsplit⟩ := List.append_of_mem hmem
    obtain ⟨hresult, -, -⟩ := hland pre write post hsplit
    by_contra hhigh
    rw [file_write_callback_high (hlimit write hmem) hhigh] at hresult
    cases hresult
  · intro hlow pre write post hsplit
    have hpre : ∀ other ∈ pre ++ [write], other ∈ writes := by
      intro other hmem
      rw [hsplit, List.append_cons]
      exact List.mem_append_left _ hmem
    have hmem := hpre write (List.mem_append_right _ (List.mem_singleton_self _))
    have hbefore : ∀ other ∈ pre, other ∈ writes := fun other h =>
      hpre other (List.mem_append_left _ h)
    obtain ⟨hopen, -, -⟩ := run_low hfile (fun other h => hlimit other (hbefore other h))
      (fun other h => hlow other (hbefore other h))
    obtain ⟨rotate, hcall⟩ := file_write_callback_low hopen (hlimit write hmem) (hlow write hmem)
    obtain ⟨-, hcontents, hbytes⟩ := run_low hfile (fun other h => hlimit other (hpre other h))
      (fun other h => hlow other (hpre other h))
    exact ⟨congrArg Prod.fst hcall, hcontents, hbytes⟩

/-- A stream just opened. -/
def empty_stream : Stream := { self := { file_ := some 0 }, contents := [] }

/-- The header is patched after some data has been written. -/
theorem writes_land_iff_patch :
    WritesLand empty_stream [⟨0, [1, 2, 3, 4]⟩, ⟨6, [5]⟩, ⟨1, [6, 7]⟩] ∧
      (empty_stream.run [⟨0, [1, 2, 3, 4]⟩, ⟨6, [5]⟩, ⟨1, [6, 7]⟩]).contents =
        [1, 6, 7, 4, 0, 0, 5] :=
  ⟨(writes_land_iff (by decide) (by decide)).mpr (by decide), by decide⟩

/-- The first write at 2 GiB fails. -/
theorem writes_land_counterexample : ¬ WritesLand empty_stream [⟨2 ^ 31, [1]⟩] := by
  intro hland
  obtain ⟨hresult, -, -⟩ := hland [] ⟨2 ^ 31, [1]⟩ [] rfl
  exact absurd hresult (by decide)

end amldigitalfpv.dvr_recorder

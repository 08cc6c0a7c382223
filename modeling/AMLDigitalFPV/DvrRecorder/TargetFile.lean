import AMLDigitalFPV.DvrRecorder.Iterations
import AMLDigitalFPV.DvrRecorder.Script
import Mathlib.Data.List.DropRight
import Mathlib.Data.List.TakeWhile

open Runs

namespace amldigitalfpv.dvr_recorder

/-- The part of a path after its last slash. -/
def filename (path : Path) : Path := path.rtakeWhile (· ≠ '/')

/-- The stem and the extension of a file name. A dot in front begins no
extension. -/
def stem_extension (name : Path) : Path × Path :=
  let suffix := name.rtakeWhile (· ≠ '.')
  let stem := name.take (name.length - suffix.length - 1)
  if suffix.length = name.length ∨ stem = [] ∨ name = ['.', '.'] then (name, [])
  else (stem, '.' :: suffix)

def extension (path : Path) : Path := (stem_extension (filename path)).2

def parent_path (path : Path) : Path :=
  let dir := path.take (path.length - (filename path).length)
  if dir.all (· = '/') then dir.take 1 else dir.rdropWhile (· = '/')

/-- The `/` of paths. -/
def path_append (dir name : Path) : Path :=
  if dir = [] ∨ dir.getLast? = some '/' then dir ++ name else dir ++ '/' :: name

def mp4 : Path := ['.', 'm', 'p', '4']

/-- An entry of a directory, by its name in it. -/
structure Entry where
  name : Path
  is_regular_file : Bool
deriving DecidableEq

/-- `std::stoi` on digits, with `none` for a number out of range. -/
def stoi (digits : List Char) : Option Nat :=
  let value := Nat.ofDigitChars 10 digits 0
  if value ≤ 2147483647 then some value else none

/-- The number that `make_incremental_filename` sees in an entry. -/
def entry_index (entry : Entry) : Option Nat :=
  if ¬ entry.is_regular_file then
    none
  else if extension entry.name ≠ mp4 then
    none
  else
    let digits := (stem_extension (filename entry.name)).1.takeWhile Char.isDigit
    if digits = [] then none else stoi digits

/-- The body of the loop in `make_incremental_filename`. -/
def update_max (max_index : Int) (entry : Entry) : Int :=
  match entry_index entry with
  | some value => if (value : Int) > max_index then value else max_index
  | none => max_index

def max_index (entries : List Entry) : Int := entries.foldl update_max (-1)

def int_digits : Int → List Char
  | .ofNat n => Nat.toDigits 10 n
  | .negSucc n => '-' :: Nat.toDigits 10 (n + 1)

/-- The name for a number, padded to four characters. -/
def incremental_name (next_index : Int) : Path := (int_digits next_index).leftpad 4 '0' ++ mp4

/-- The addition wraps around like that of a 32-bit `int`. -/
def make_incremental_filename (dir : Path) (entries : List Entry) : Path :=
  path_append dir (incremental_name ((max_index entries + 1).bmod (2 ^ 32)))

/-- The file system as the recorder sees it. What a directory lists depends on
the files that the recorder has created, and on whatever else is there; those
files are never missing from it. -/
structure FileSystem (ω : Type) where
  find_default_media_root : ω → Path × ω
  create_directories : Path → ω → Bool × ω
  directory_iterator : List Path → Path → ω → List Entry
  lists_created : ∀ created dir name machine, dir ≠ [] → '/' ∉ name →
    path_append dir name ∈ created →
      { name := name, is_regular_file := true } ∈ directory_iterator created dir machine

/-- A machine, with the paths that the recorder has opened for writing. -/
structure Stored (ω : Type) where
  machine : ω
  created : List Path := []
deriving DecidableEq

section

variable {ω : Type} (FS : FileSystem ω)

/-- The directory to record to, before it is created. -/
def FileSystem.choose_dir (custom_path : Path) (machine : ω) : Path × ω :=
  if custom_path ≠ [] then
    (custom_path, machine)
  else
    let root := FS.find_default_media_root machine
    (if root.1 = [] then [] else path_append root.1 ['R', 'E', 'C', 'O', 'R', 'D'], root.2)

/-- The directory to record to, created if need be, or the empty path. -/
def FileSystem.record_dir (custom_path : Path) (stored : Stored ω) : Path × Stored ω :=
  let root := FS.choose_dir custom_path stored.machine
  if root.1 = [] then
    ([], { stored with machine := root.2 })
  else
    let made := FS.create_directories root.1 root.2
    (if made.1 then root.1 else [], { stored with machine := made.2 })

/-- What the directory to record to lists. -/
def FileSystem.listing (custom_path : Path) (stored : Stored ω) : List Entry :=
  let dir := FS.record_dir custom_path stored
  FS.directory_iterator stored.created dir.1 dir.2.machine

def FileSystem.resolve_target_file (custom_path : Path) (stored : Stored ω) : Path × Stored ω :=
  if custom_path ≠ [] ∧ extension custom_path = mp4 then
    (custom_path,
      if parent_path custom_path ≠ [] then
        { stored with
          machine := (FS.create_directories (parent_path custom_path) stored.machine).2 }
      else
        stored)
  else
    let dir := FS.record_dir custom_path stored
    if dir.1 = [] then
      ([], dir.2)
    else
      (make_incremental_filename dir.1 (FS.listing custom_path stored), dir.2)

/-- A host whose recordings go to the file system. -/
def FileSystem.host (H : Host ω) : Host (Stored ω) where
  monotonic_ms stored :=
    ((H.monotonic_ms stored.machine).1,
      { stored with machine := (H.monotonic_ms stored.machine).2 })
  resolve_target_file := FS.resolve_target_file
  fopen path stored :=
    ((H.fopen path stored.machine).1,
      { machine := (H.fopen path stored.machine).2
        created :=
          if (H.fopen path stored.machine).1 then stored.created ++ [path] else stored.created })
  fclose stored := { stored with machine := H.fclose stored.machine }
  malloc stored :=
    ((H.malloc stored.machine).1, { stored with machine := (H.malloc stored.machine).2 })
  MP4E_open self stored :=
    ((H.MP4E_open self stored.machine).1,
      { stored with machine := (H.MP4E_open self stored.machine).2 })
  MP4E_close self stored :=
    ((H.MP4E_close self stored.machine).1,
      { stored with machine := (H.MP4E_close self stored.machine).2 })
  mp4_h26x_write_init self stored :=
    ((H.mp4_h26x_write_init self stored.machine).1,
      { stored with machine := (H.mp4_h26x_write_init self stored.machine).2 })
  mp4_h26x_write_nal self frame duration stored :=
    ((H.mp4_h26x_write_nal self frame duration stored.machine).1,
      { stored with machine := (H.mp4_h26x_write_nal self frame duration stored.machine).2 })
  mp4_h26x_write_close stored :=
    { stored with machine := H.mp4_h26x_write_close stored.machine }

end

theorem update_max_cases (max_index : Int) (entry : Entry) :
    (entry_index entry = none ∧ update_max max_index entry = max_index) ∨
      ∃ value : Nat, entry_index entry = some value ∧
        update_max max_index entry = max max_index value := by
  unfold update_max
  cases hindex : entry_index entry with
  | none => exact Or.inl ⟨rfl, rfl⟩
  | some value =>
    refine Or.inr ⟨value, rfl, ?_⟩
    dsimp only
    split <;> omega

theorem foldl_update_max (start : Int) (entries : List Entry) :
    start ≤ entries.foldl update_max start ∧
      (∀ entry ∈ entries, ∀ value : Nat, entry_index entry = some value →
        value ≤ entries.foldl update_max start) ∧
      (entries.foldl update_max start = start ∨ ∃ entry ∈ entries, ∃ value : Nat,
        entry_index entry = some value ∧ entries.foldl update_max start = value) := by
  induction entries generalizing start with
  | nil => exact ⟨Int.le_refl _, by simp, Or.inl rfl⟩
  | cons entry rest ih =>
    obtain ⟨hstart, hbound, hattained⟩ := ih (update_max start entry)
    have hstep := update_max_cases start entry
    rw [List.foldl_cons]
    refine ⟨?_, ?_, ?_⟩
    · rcases hstep with ⟨-, heq⟩ | ⟨value, -, heq⟩ <;> omega
    · intro other hmem value hindex
      cases hmem with
      | head =>
        obtain ⟨hnone, -⟩ | ⟨value', hsome, heq⟩ := hstep
        · rw [hnone] at hindex
          cases hindex
        · rw [hsome] at hindex
          cases hindex
          omega
      | tail _ hrest => exact hbound other hrest value hindex
    · obtain heq | ⟨other, hmem, value, hindex, heq⟩ := hattained
      · obtain ⟨-, hkept⟩ | ⟨value, hindex, hmax⟩ := hstep
        · exact Or.inl (heq.trans hkept)
        · by_cases hgrow : start ≤ value
          · exact Or.inr ⟨entry, List.mem_cons_self, value, hindex, by omega⟩
          · exact Or.inl (by omega)
      · exact Or.inr ⟨other, List.mem_cons_of_mem _ hmem, value, hindex, heq⟩

theorem entry_index_le {entry : Entry} {value : Nat} (hindex : entry_index entry = some value) :
    value ≤ 2147483647 := by
  unfold entry_index stoi at hindex
  dsimp only at hindex
  split at hindex
  · cases hindex
  · split at hindex
    · cases hindex
    · split at hindex
      · cases hindex
      · split at hindex
        · next hrange =>
          cases hindex
          exact hrange
        · cases hindex

theorem filename_of_no_slash {name : Path} (hslash : '/' ∉ name) : filename name = name := by
  unfold filename
  rw [List.rtakeWhile_eq_self_iff]
  intro c hmem
  have hne : c ≠ '/' := fun heq => hslash (heq ▸ hmem)
  simpa using hne

theorem stem_extension_mp4 {stem : Path} (hne : stem ≠ []) :
    stem_extension (stem ++ mp4) = (stem, mp4) := by
  have hsuffix : (stem ++ mp4).rtakeWhile (· ≠ '.') = ['m', 'p', '4'] := by
    simp [mp4, List.rtakeWhile]
  have hlength : (stem ++ mp4).length = stem.length + 4 := by simp [mp4]
  unfold stem_extension
  simp only [hsuffix, hlength]
  have hstem : (stem ++ mp4).take (stem.length + 4 - ['m', 'p', '4'].length - 1) = stem :=
    List.take_left' (by simp)
  have hdots : stem ++ mp4 ≠ ['.', '.'] := by
    intro heq
    have hlengths := congrArg List.length heq
    rw [hlength] at hlengths
    simp at hlengths
  rw [hstem, if_neg]
  · rfl
  · rintro (heq | heq | heq)
    · simp at heq
    · exact hne heq
    · exact hdots heq

/-- The digits of a number behind any padding. -/
theorem leftpad_digits (value : Nat) :
    (∀ c ∈ (Nat.toDigits 10 value).leftpad 4 '0', c.isDigit = true) ∧
      Nat.ofDigitChars 10 ((Nat.toDigits 10 value).leftpad 4 '0') 0 = value := by
  constructor
  · intro c hmem
    obtain hpad | hdigit := List.mem_append.mp hmem
    · rw [List.eq_of_mem_replicate hpad]
      rfl
    · exact Nat.isDigit_of_mem_toDigits (by omega) (by omega) hdigit
  · rw [List.leftpad, Nat.ofDigitChars_append, Nat.ofDigitChars_replicate_zero, Nat.mul_zero,
      Nat.ofDigitChars_ten_toDigits]

theorem incremental_name_natCast (value : Nat) :
    incremental_name value = (Nat.toDigits 10 value).leftpad 4 '0' ++ mp4 := rfl

theorem incremental_name_no_slash (value : Nat) : '/' ∉ incremental_name value := by
  intro hmem
  obtain hdigit | hdot := List.mem_append.mp hmem
  · exact absurd ((leftpad_digits value).1 '/' hdigit) (by decide)
  · exact absurd hdot (by decide)

/-- The number in a name that the recorder has made is read back. -/
theorem entry_index_incremental {value : Nat} (hvalue : value ≤ 2147483647) :
    entry_index { name := incremental_name value, is_regular_file := true } = some value := by
  obtain ⟨hdigits, hread⟩ := leftpad_digits value
  have hne : (Nat.toDigits 10 value).leftpad 4 '0' ≠ [] :=
    List.append_ne_nil_of_right_ne_nil _ Nat.toDigits_ne_nil
  have hstem : ((Nat.toDigits 10 value).leftpad 4 '0').takeWhile Char.isDigit =
      (Nat.toDigits 10 value).leftpad 4 '0' := List.takeWhile_eq_self_iff.mpr hdigits
  unfold entry_index extension
  simp only [filename_of_no_slash (incremental_name_no_slash value)]
  rw [incremental_name_natCast]
  simp only [stem_extension_mp4 hne, hstem, hread, stoi]
  rw [if_neg (by simp), if_neg (by simp), if_neg hne, if_pos hvalue]

section

variable {ω : Type} (FS : FileSystem ω)

theorem record_dir_created (custom_path : Path) (stored : Stored ω) :
    (FS.record_dir custom_path stored).2.created = stored.created := by
  unfold FileSystem.record_dir
  dsimp only
  split <;> rfl

/-- As long as no file listed has the largest number of an `int`, the next
number is a natural number above all those listed. -/
theorem next_index_above {entries : List Entry}
    (hentries : ∀ entry ∈ entries, entry_index entry ≠ some 2147483647) :
    ∃ value : Nat, (max_index entries + 1).bmod (2 ^ 32) = value ∧ value ≤ 2147483647 ∧
      ∀ entry ∈ entries, ∀ index : Nat, entry_index entry = some index → index < value := by
  obtain ⟨hlow, hbound, hattained⟩ := foldl_update_max (-1) entries
  change -1 ≤ max_index entries at hlow
  have hhigh : max_index entries < 2147483647 := by
    obtain heq | ⟨entry, hmem, value, hindex, heq⟩ := hattained
    · change max_index entries = -1 at heq
      omega
    · change max_index entries = value at heq
      have hle := entry_index_le hindex
      have hne : value ≠ 2147483647 := fun h => hentries entry hmem (h ▸ hindex)
      omega
  refine ⟨(max_index entries + 1).toNat, ?_, by omega, ?_⟩
  · rw [Int.bmod_def]
    omega
  · intro entry hmem index hindex
    have hle := hbound entry hmem index hindex
    change _ ≤ max_index entries at hle
    omega

/-- A file name that is made up is not that of a file the recorder has created. -/
theorem resolve_target_file_fresh {custom_path : Path} {stored : Stored ω}
    (hpath : extension custom_path ≠ mp4)
    (hlisting : ∀ entry ∈ FS.listing custom_path stored, entry_index entry ≠ some 2147483647)
    (hresolved : (FS.resolve_target_file custom_path stored).1 ≠ []) :
    (FS.resolve_target_file custom_path stored).1 ∉ stored.created := by
  obtain ⟨value, hnext, hvalue, habove⟩ := next_index_above hlisting
  unfold FileSystem.resolve_target_file at hresolved ⊢
  rw [if_neg fun h => hpath h.2] at hresolved ⊢
  dsimp only at hresolved ⊢
  split at hresolved
  · exact absurd rfl hresolved
  · next hdir =>
    rw [if_neg hdir]
    intro hmem
    unfold make_incremental_filename at hmem
    rw [hnext] at hmem
    have hlisted := FS.lists_created stored.created (FS.record_dir custom_path stored).1
      (incremental_name value) (FS.record_dir custom_path stored).2.machine hdir
      (incremental_name_no_slash value) hmem
    exact absurd (habove _ hlisted value (entry_index_incremental hvalue)) (by omega)

theorem resolve_target_file_created (custom_path : Path) (stored : Stored ω) :
    (FS.resolve_target_file custom_path stored).2.created = stored.created := by
  unfold FileSystem.resolve_target_file
  split
  · dsimp only
    split <;> rfl
  · dsimp only
    split
    · exact record_dir_created FS custom_path stored
    · exact record_dir_created FS custom_path stored

end

/-- The path that an action opens for writing. -/
def Action.opens : Action → Option Path
  | .fopen _ path => some path
  | _ => none

/-- The paths opened for writing, in order. -/
def opened_paths (taken : List Action) : List Path := taken.filterMap Action.opens

/-- How an action changes the paths opened in the current session. -/
def session_step (paths : List Path) (action : Action) : List Path :=
  if action = .log .warm_up_started then [] else paths ++ action.opens.toList

/-- The paths opened since recording was last started. -/
def session_paths (taken : List Action) : List Path := taken.foldl session_step []

section

variable {ω : Type} (FS : FileSystem ω) (H : Host ω)

/-- The rotation makes up a file name, and can: no file it finds has the
largest number of an `int`. -/
def Nameable (w : World (Stored ω)) : Prop :=
  extension w.self.override_path_ ≠ mp4 ∧
    ∀ entry ∈ FS.listing w.self.override_path_
        (DvrRecorder.close_writer (FS.host H) false w).host,
      entry_index entry ≠ some 2147483647

instance (w : World (Stored ω)) : Decidable (Nameable FS H w) :=
  inferInstanceAs (Decidable (_ ∧ _))

/-- What a trace and the files created amount to. -/
structure Ledger (w : World (Stored ω)) (opened session created : List Path) : Prop where
  opened : opened_paths w.trace = opened
  session : session_paths w.trace = session
  created : w.host.created = created

/-- An action that opens no file and starts no session leaves the ledger as it
is. -/
theorem Ledger.of_emits {P : Action → Prop} {before after : World (Stored ω)}
    {opened session created : List Path}
    (hP : ∀ action, P action → action.opens = none ∧ action ≠ .log .warm_up_started)
    (hhost : after.host.created = before.host.created)
    (htrace : Emits World.trace P before after) (h : Ledger before opened session created) :
    Ledger after opened session created := by
  obtain ⟨new, htrace, hnew⟩ := htrace
  have hnone : ∀ action ∈ new, action.opens = none ∧ action ≠ .log .warm_up_started :=
    fun action hmem => hP action (hnew action hmem)
  refine ⟨?_, ?_, hhost.trans h.created⟩
  · rw [opened_paths, htrace, List.filterMap_append, ← opened_paths, h.opened,
      List.filterMap_eq_nil_iff.mpr fun action hmem => (hnone action hmem).1, List.append_nil]
  · rw [session_paths, htrace, List.foldl_append, ← session_paths, h.session]
    clear htrace hnew
    induction new with
    | nil => rfl
    | cons action rest ih =>
      obtain ⟨hopens, hstart⟩ := hnone action List.mem_cons_self
      rw [List.foldl_cons, session_step, if_neg hstart, hopens, Option.toList_none,
        List.append_nil]
      exact ih fun other hmem => hnone other (List.mem_cons_of_mem _ hmem)

theorem Ledger.of_append {before after : World (Stored ω)} {action : Action}
    {opened session created : List Path} (h : Ledger before opened session created)
    (htrace : after.trace = before.trace ++ [action])
    (hhost : after.host.created = before.host.created) (hopens : action.opens = none)
    (hstart : action ≠ .log .warm_up_started) : Ledger after opened session created :=
  h.of_emits (P := (· = action)) (by rintro _ rfl; exact ⟨hopens, hstart⟩) hhost
    (Emits.of_append htrace rfl)

theorem ledger_framed (opened session created : List Path) :
    Framed (FS.host H) (Ledger · opened session created) where
  silent := by
    intro before after hhost htrace h
    refine h.of_emits ?_ (congrArg Stored.created hhost) htrace
    rintro action ⟨line, rfl, hline⟩
    exact ⟨rfl, fun heq => hline (Action.log.inj heq)⟩
  malloc h := ⟨h.opened, h.session, h.created⟩
  fclose _ h := h.of_append rfl rfl rfl Action.noConfusion
  MP4E_open := by
    intro w h
    unfold MP4E_open
    dsimp only
    split
    · exact h.of_append rfl rfl rfl Action.noConfusion
    · exact ⟨h.opened, h.session, h.created⟩
  MP4E_close _ h := h.of_append rfl rfl rfl Action.noConfusion
  write_init h := ⟨h.opened, h.session, h.created⟩
  write_close h := ⟨h.opened, h.session, h.created⟩

/-- Opening a writer enters at most one file into the ledger, the one that
`resolve_target_file` has chosen. -/
theorem Ledger.open_writer {w : World (Stored ω)} {opened session created : List Path}
    (h : Ledger w opened session created) (hready : w.self.writer_ready_ = false)
    (mark_recording : Bool) :
    Ledger (DvrRecorder.open_writer (FS.host H) mark_recording w).2 opened session created ∨
      ∃ path, path ≠ [] ∧ path = (FS.resolve_target_file w.self.override_path_ w.host).1 ∧
        Ledger (DvrRecorder.open_writer (FS.host H) mark_recording w).2 (opened ++ [path])
          (session ++ [path]) (created ++ [path]) := by
  have hcreated := resolve_target_file_created FS w.self.override_path_ w.host
  unfold DvrRecorder.open_writer
  rw [if_neg (by simp [hready])]
  split
  · exact Or.inl (h.of_append rfl rfl rfl (by simp))
  · dsimp only
    split
    · exact Or.inl (h.of_append rfl hcreated rfl (by simp))
    · next hpath =>
      unfold fopen
      split
      · next w₁ hopen =>
        split at hopen
        · cases hopen
        · next hfailed =>
          cases hopen
          exact Or.inl (h.of_append rfl ((if_neg hfailed).trans hcreated) rfl (by simp))
      · next file w₁ hopen =>
        split at hopen
        · next hopened =>
          cases hopen
          refine Or.inr ⟨_, hpath, rfl, (ledger_framed FS H _ _ _).open_mux _ _ _ ?_⟩
          refine ⟨?_, ?_, ?_⟩
          · rw [← h.opened]
            exact List.filterMap_append
          · rw [← h.session]
            exact List.foldl_append
          · rw [← h.created, ← hcreated]
            exact if_pos hopened
        · cases hopen

/-- Every path of the current session has been created. -/
def Recorded (w : World (Stored ω)) : Prop :=
  ∀ path ∈ session_paths w.trace, path ∈ w.host.created

theorem Ledger.recorded {w : World (Stored ω)} {opened session created : List Path}
    (h : Ledger w opened session created) (hsub : ∀ path ∈ session, path ∈ created) :
    Recorded w := by
  unfold Recorded
  rw [h.session, h.created]
  exact hsub

theorem recorded_preserved : Preserved (FS.host H) (Recorded (ω := ω)) where
  neutral := by
    intro before after hneutral h
    obtain ⟨new, htrace, hnew⟩ := hneutral.trace
    unfold Recorded
    rw [hneutral.host, session_paths, htrace, List.foldl_append, ← session_paths]
    clear htrace
    unfold Recorded at h
    generalize session_paths before.trace = paths at h
    induction new generalizing paths with
    | nil => exact h
    | cons action rest ih =>
      obtain ⟨line, rfl, -⟩ := hnew action List.mem_cons_self
      apply ih (fun other hmem => hnew other (List.mem_cons_of_mem _ hmem)) _
      unfold session_step
      split
      · simp
      · simpa [Action.opens] using h
  monotonic_ms h := h
  write_nal := by
    intro w frame duration _ h
    have hledger : Ledger w (opened_paths w.trace) (session_paths w.trace) w.host.created :=
      ⟨rfl, rfl, rfl⟩
    have hwrote : Ledger (mp4_h26x_write_nal (FS.host H) frame duration w).2 _ _ _ :=
      hledger.of_append rfl rfl rfl (by simp)
    exact hwrote.recorded h
  close_writer clear_recording h :=
    ((ledger_framed FS H _ _ _).close_writer clear_recording ⟨rfl, rfl, rfl⟩).recorded h
  open_writer := by
    intro w mark_recording hready h
    obtain hsame | ⟨path, -, -, hopened⟩ :=
      Ledger.open_writer FS H (w := w) ⟨rfl, rfl, rfl⟩ hready mark_recording
    · exact hsame.recorded h
    · apply hopened.recorded
      intro other hmem
      obtain hbefore | hlast := List.mem_append.mp hmem
      · exact List.mem_append_left _ (h other hbefore)
      · exact List.mem_append_right _ hlast

/-- The file that a rotation opens, if any, is none of those that the session
has already opened. -/
def OpensFresh (w : World (Stored ω)) : Prop :=
  ∀ path ∈ opened_paths
      (emitted World.trace w (DvrRecorder.rotate_recording_file (FS.host H) w).2),
    path ∉ session_paths w.trace

instance (w : World (Stored ω)) : Decidable (OpensFresh FS H w) :=
  inferInstanceAs (Decidable (∀ path ∈ _, path ∉ _))

theorem opened_paths_emitted {before after : World (Stored ω)} {new : List Path}
    (hgrow : before.trace <+: after.trace)
    (hopened : opened_paths after.trace = opened_paths before.trace ++ new) :
    opened_paths (emitted World.trace before after) = new := by
  have htrace := congrArg opened_paths (log_eq_append_emitted hgrow)
  rw [hopened, opened_paths, opened_paths, List.filterMap_append] at htrace
  exact (List.append_cancel_left htrace).symm

/-- A rotation that can make up a name opens a file that is new. -/
theorem Recorded.opensFresh {w : World (Stored ω)} (h : Recorded w) (hname : Nameable FS H w) :
    OpensFresh FS H w := by
  unfold OpensFresh DvrRecorder.rotate_recording_file
  split
  · rw [emitted_self]
    simp [opened_paths]
  · have hready := close_writer_ready (FS.host H) false w
    have hgrow := ((close_writer_quiet (FS.host H) false w).trans
      (open_writer_spec (FS.host H) hready false).1).log_extends
    have hclosed := (ledger_framed FS H _ _ _).close_writer (w := w) false ⟨rfl, rfl, rfl⟩
    have hpath : (DvrRecorder.close_writer (FS.host H) false w).self.override_path_ =
        w.self.override_path_ := by
      rw [close_writer_self]
      split <;> rfl
    obtain hsame | ⟨path, hne, hresolved, hopened⟩ := hclosed.open_writer FS H hready false
    · have hnone : opened_paths _ = opened_paths w.trace ++ [] :=
        hsame.opened.trans (List.append_nil _).symm
      rw [opened_paths_emitted hgrow hnone]
      simp
    · rw [opened_paths_emitted hgrow hopened.opened]
      intro other hmem hsession
      rw [List.mem_singleton.mp hmem] at hsession
      rw [hpath] at hresolved
      have hfresh := resolve_target_file_fresh FS hname.1 hname.2 (by rw [← hresolved]; exact hne)
      rw [← hresolved, hclosed.created] at hfresh
      exact hfresh (h path hsession)

/-- As long as every rotation of a run makes up its file name, and no file it
finds has the largest number, none of them opens a file of its session again. -/
theorem rotations_open_fresh {w : Worker (Stored ω)} (hrecorded : Recorded w.toWorld)
    (cmds : List Command) (hname : ∀ v ∈ rotations (FS.host H) w cmds, Nameable FS H v) :
    ∀ v ∈ rotations (FS.host H) w cmds, OpensFresh FS H v := by
  intro v hmem
  have hv := (recorded_preserved FS H).rotations hrecorded hmem
  exact hv.opensFresh FS H (hname v hmem)

end

/-- A file system that holds nothing but the files created, with one medium. -/
def bare_files {ω : Type} : FileSystem ω where
  find_default_media_root machine := (['m'], machine)
  create_directories _ machine := (true, machine)
  directory_iterator created dir _ :=
    created.filterMap fun path =>
      if path_append dir [] <+: path ∧ '/' ∉ path.drop (path_append dir []).length then
        some { name := path.drop (path_append dir []).length, is_regular_file := true }
      else
        none
  lists_created := by
    intro created dir name _ _ hslash hmem
    have hpath : path_append dir name = path_append dir [] ++ name := by
      unfold path_append
      split
      · rw [List.append_nil]
      · rw [List.append_assoc]
        rfl
    rw [List.mem_filterMap]
    refine ⟨_, hmem, ?_⟩
    rw [hpath, List.drop_left, if_pos ⟨List.prefix_append _ _, hslash⟩]

/-- The recorder with a path to record to, on a host whose first frame fills up
the first file. -/
def overridden (path : Path) : Worker (Stored Script) :=
  { self := (({} : DvrRecorder).set_video_params 1920 1080 0 .H265).set_override_path path
    host :=
      { machine :=
          { clock := one_second
            writes := [(MP4E_STATUS_OK, [⟨kMaxFat32Size - 1, 1, true, 1⟩])] } } }

/-- A session of two frames past the warm-up. -/
def two_frames : List Command :=
  warm_up_commands ++ [⟨.Frame, some key_frame⟩, ⟨.Frame, some key_frame⟩]

/-- In a directory the second file is a new one. -/
theorem rotations_open_fresh_directory :
    (DvrRecorder.worker_loop (bare_files.host scripted) (overridden ['d'])
        two_frames).host.created =
        [['d', '/', '0', '0', '0', '0', '.', 'm', 'p', '4'],
          ['d', '/', '0', '0', '0', '1', '.', 'm', 'p', '4']] ∧
      ∀ v ∈ rotations (bare_files.host scripted) (overridden ['d']) two_frames,
        OpensFresh bare_files scripted v :=
  ⟨by decide +kernel,
    rotations_open_fresh bare_files scripted (fun _ hmem => absurd hmem List.not_mem_nil)
      two_frames (by decide +kernel)⟩

/-- A path that ends in `.mp4` is opened again, and the first file is gone. -/
theorem rotations_open_fresh_counterexample :
    ¬ ∀ v ∈ rotations (bare_files.host scripted) (overridden ['r', '.', 'm', 'p', '4']) two_frames,
      OpensFresh bare_files scripted v := by
  decide +kernel

end amldigitalfpv.dvr_recorder

import AMLDigitalFPV.DvrRecorder.TargetFile

namespace amldigitalfpv.dvr_recorder

/-- The number of the next file in a directory. -/
def next_index (entries : List Entry) : Int := (max_index entries + 1).bmod (2 ^ 32)

/-- The regular files in a directory. -/
def regular_files (dir : Path) (entries : List Entry) : List Path :=
  (entries.filter (·.is_regular_file)).map fun entry => path_append dir entry.name

/-- A file in the directory has the largest number of an `int`. -/
def Exhausted (entries : List Entry) : Prop :=
  ∃ entry ∈ entries, entry_index entry = some 2147483647

instance (entries : List Entry) : Decidable (Exhausted entries) :=
  inferInstanceAs (Decidable (∃ entry ∈ entries, entry_index entry = some 2147483647))

/-- The name that the number after the largest `int` comes to. -/
def wrapped_name : Path := incremental_name (-2147483648)

/-- What the directory lists at one call of `make_incremental_filename` after
another. The file of a call has been created by the next. -/
def Successive (dir : Path) (listings : List (List Entry)) : Prop :=
  listings.IsChain fun before after =>
    make_incremental_filename dir before ∈ regular_files dir after

/-- No call returns the path of a file that is there, and the calls count up. -/
structure NamesFresh (dir : Path) (listings : List (List Entry)) : Prop where
  fresh : ∀ entries ∈ listings,
    make_incremental_filename dir entries ∉ regular_files dir entries
  increasing : (listings.map next_index).Pairwise (· < ·)
  distinct : (listings.map (make_incremental_filename dir)).Nodup

theorem path_append_inj {dir name other : Path} :
    path_append dir name = path_append dir other ↔ name = other := by
  simp only [path_append]
  split <;> simp

theorem make_incremental_filename_eq (dir : Path) (entries : List Entry) :
    make_incremental_filename dir entries =
      path_append dir (incremental_name (next_index entries)) := rfl

theorem mem_regular_files {dir name : Path} {entries : List Entry} :
    path_append dir name ∈ regular_files dir entries ↔
      { name := name, is_regular_file := true } ∈ entries := by
  simp only [regular_files, List.mem_map, List.mem_filter, path_append_inj]
  constructor
  · rintro ⟨⟨_, _⟩, ⟨hmem, rfl⟩, rfl⟩
    exact hmem
  · intro hmem
    exact ⟨_, ⟨hmem, rfl⟩, rfl⟩

theorem next_index_of_exhausted {entries : List Entry} (h : Exhausted entries) :
    next_index entries = -2147483648 := by
  obtain ⟨entry, hmem, hindex⟩ := h
  obtain ⟨-, hbound, hattained⟩ := foldl_update_max (-1) entries
  have hhigh := hbound entry hmem _ hindex
  have hmax : max_index entries = 2147483647 := by
    change max_index entries = -1 ∨ _ at hattained
    change _ ≤ max_index entries at hhigh
    obtain heq | ⟨other, -, value, hother, heq⟩ := hattained
    · omega
    · have hle := entry_index_le hother
      change max_index entries = value at heq
      omega
  simp [next_index, hmax, Int.bmod_def]

theorem next_index_of_not_exhausted {entries : List Entry} (h : ¬ Exhausted entries) :
    ∃ value : Nat, next_index entries = value ∧ value ≤ 2147483647 ∧
      ∀ entry ∈ entries, ∀ index : Nat, entry_index entry = some index → index < value := by
  apply next_index_above
  intro entry hmem hindex
  exact h ⟨entry, hmem, hindex⟩

/-- The file that is made for a number gives the number back, unless it wrapped. -/
theorem entry_index_next (entries : List Entry) :
    entry_index { name := incremental_name (next_index entries), is_regular_file := true } =
      (next_index entries).toNat? := by
  by_cases hexhausted : Exhausted entries
  · rw [next_index_of_exhausted hexhausted]
    decide
  · obtain ⟨value, hvalue, hle, -⟩ := next_index_of_not_exhausted hexhausted
    rw [hvalue, entry_index_incremental hle]
    rfl

theorem next_index_lower (entries : List Entry) : -2147483648 ≤ next_index entries := by
  by_cases hexhausted : Exhausted entries
  · simp [next_index_of_exhausted hexhausted]
  · obtain ⟨value, hvalue, -⟩ := next_index_of_not_exhausted hexhausted
    omega

/-- A call without wrap-around counts above every call whose file is there. -/
theorem next_index_lt {dir : Path} {before after : List Entry}
    (hcreated : make_incremental_filename dir before ∈ regular_files dir after)
    (hafter : ¬ Exhausted after) : next_index before < next_index after := by
  rw [make_incremental_filename_eq, mem_regular_files] at hcreated
  obtain ⟨value, hvalue, -, habove⟩ := next_index_of_not_exhausted hafter
  have hback := entry_index_next before
  by_cases hnegative : next_index before < 0
  · omega
  · obtain ⟨index, hindex⟩ := Int.eq_ofNat_of_zero_le (Int.not_lt.mp hnegative)
    rw [hindex] at hback hcreated
    have hlt := habove _ hcreated index hback
    omega

theorem fresh_iff (dir : Path) (entries : List Entry) :
    make_incremental_filename dir entries ∉ regular_files dir entries ↔
      ¬ (Exhausted entries ∧ path_append dir wrapped_name ∈ regular_files dir entries) := by
  by_cases hexhausted : Exhausted entries
  · rw [make_incremental_filename_eq, next_index_of_exhausted hexhausted]
    simp [hexhausted, wrapped_name]
  · obtain ⟨value, hvalue, hle, habove⟩ := next_index_of_not_exhausted hexhausted
    rw [make_incremental_filename_eq, mem_regular_files]
    simp only [hexhausted, false_and, not_false_eq_true, iff_true]
    intro hmem
    have hback := entry_index_next entries
    rw [hvalue] at hmem hback
    have hlt := habove _ hmem value hback
    omega

theorem make_incremental_filename_ne (dir : Path) {before after : List Entry}
    (hlt : next_index before < next_index after) :
    make_incremental_filename dir before ≠ make_incremental_filename dir after := by
  intro heq
  rw [make_incremental_filename_eq, make_incremental_filename_eq, path_append_inj] at heq
  have hnumbers : (next_index before).toNat? = (next_index after).toNat? := by
    rw [← entry_index_next, ← entry_index_next, heq]
  obtain ⟨value, hvalue⟩ : ∃ value : Nat, next_index after = value := by
    by_cases hexhausted : Exhausted after
    · have hlower := next_index_lower before
      rw [next_index_of_exhausted hexhausted] at hlt
      omega
    · obtain ⟨value, hvalue, -⟩ := next_index_of_not_exhausted hexhausted
      exact ⟨value, hvalue⟩
  rw [hvalue] at hnumbers hlt
  have hbefore : next_index before = value := Int.mem_toNat?.mp hnumbers
  omega

theorem Successive.increasing {dir : Path} {listings : List (List Entry)}
    (h : Successive dir listings) (htail : ∀ entries ∈ listings.tail, ¬ Exhausted entries) :
    (listings.map next_index).Pairwise (· < ·) := by
  rw [← List.isChain_iff_pairwise, List.isChain_map]
  apply h.imp_of_mem_tail_imp
  intro before after _ hafter hcreated
  exact next_index_lt hcreated (htail after hafter)

theorem distinct_of_increasing (dir : Path) {listings : List (List Entry)}
    (h : (listings.map next_index).Pairwise (· < ·)) :
    (listings.map (make_incremental_filename dir)).Nodup := by
  rw [List.pairwise_map] at h
  rw [List.Nodup, List.pairwise_map]
  exact h.imp fun hlt => make_incremental_filename_ne dir hlt

/-- Every call of `make_incremental_filename` returns a new name, and the numbers
grow, if and only if no file has the largest number of an `int` at a call after
the first, nor at the first if the file it wraps around to is there as well. -/
theorem names_fresh_iff {dir : Path} {listings : List (List Entry)}
    (hcreated : Successive dir listings) :
    NamesFresh dir listings ↔
      (∀ entries ∈ listings.tail, ¬ Exhausted entries) ∧
        ∀ entries ∈ listings.head?, ¬ (Exhausted entries ∧
          path_append dir wrapped_name ∈ regular_files dir entries) := by
  constructor
  · intro h
    constructor
    · intro entries htail hexhausted
      have hne : listings ≠ [] := List.ne_nil_of_mem (List.mem_of_mem_tail htail)
      obtain ⟨first, rest, rfl⟩ := List.exists_cons_of_ne_nil hne
      have hlt := (List.pairwise_cons.mp h.increasing).1 _ (List.mem_map_of_mem htail)
      have hlower := next_index_lower first
      rw [next_index_of_exhausted hexhausted] at hlt
      omega
    · intro entries hhead
      exact (fresh_iff dir entries).mp (h.fresh entries (List.mem_of_mem_head? hhead))
  · rintro ⟨htail, hhead⟩
    have hincreasing := hcreated.increasing htail
    refine ⟨?_, hincreasing, distinct_of_increasing dir hincreasing⟩
    intro entries hmem
    rw [fresh_iff]
    cases hmem with
    | head => exact hhead entries rfl
    | tail _ hrest => exact fun h => htail entries hrest h.1

def numbered_file (number : Int) : Entry where
  name := incremental_name number
  is_regular_file := true

theorem names_fresh_iff_two_calls :
    Successive ['d'] [[numbered_file 41], [numbered_file 42, numbered_file 41]] ∧
      NamesFresh ['d'] [[numbered_file 41], [numbered_file 42, numbered_file 41]] := by
  have hcreated : Successive ['d'] [[numbered_file 41], [numbered_file 42, numbered_file 41]] := by
    simp only [Successive, List.isChain_cons_cons, List.isChain_singleton, and_true]
    decide
  refine ⟨hcreated, (names_fresh_iff hcreated).mpr ⟨?_, ?_⟩⟩
  · decide
  · decide

/-- The call after the largest number returns the same name as the one before. -/
theorem names_fresh_counterexample :
    Successive ['d']
        [[numbered_file 2147483647], [numbered_file (-2147483648), numbered_file 2147483647]] ∧
      ¬ NamesFresh ['d']
        [[numbered_file 2147483647], [numbered_file (-2147483648), numbered_file 2147483647]] := by
  constructor
  · simp only [Successive, List.isChain_cons_cons, List.isChain_singleton, and_true]
    decide
  · intro h
    have hdistinct := h.distinct
    revert hdistinct
    decide

end amldigitalfpv.dvr_recorder

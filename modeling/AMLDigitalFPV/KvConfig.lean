import Mathlib.Data.Finmap
import Mathlib.Data.List.Infix

namespace amldigitalfpv.kv_config

def blanks : List Char := [' ', '\t', '\r', '\n']

def find_first_not_of (s chars : List Char) : Option Nat :=
  s.findIdx? (· ∉ chars)

def find_last_not_of (s chars : List Char) : Option Nat :=
  (s.reverse.findIdx? (· ∉ chars)).map fun index => s.length - 1 - index

def trim (s : List Char) : List Char :=
  match find_first_not_of s blanks, find_last_not_of s blanks with
  | some start, some last => (s.drop start).take (last - start + 1)
  | _, _ => []

/-- The next line of the stream without its newline, and the rest. -/
def getline (ifs : List Char) : Option (List Char × List Char) :=
  if ifs = [] then
    none
  else
    some (ifs.takeWhile (· ≠ '\n'), (ifs.dropWhile (· ≠ '\n')).tail)

theorem getline_length {ifs line rest : List Char} (h : getline ifs = some (line, rest)) :
    rest.length < ifs.length := by
  rw [getline, Option.ite_none_left_eq_some] at h
  obtain ⟨hne, heq⟩ := h
  cases heq
  have hsuffix := (List.dropWhile_suffix (l := ifs) (· ≠ '\n')).length_le
  have hpositive := List.length_pos_iff.mpr hne
  rw [List.length_tail]
  omega

abbrev Entries := Finmap fun _ : List Char => List Char

structure KvConfig where
  kv_ : Entries

namespace KvConfig

/-- The body of the loop of `load`. -/
def load_line (self : KvConfig) (line : List Char) : KvConfig :=
  let line := trim line
  if line = [] ∨ line.head? = some '#' then
    self
  else
    match line.idxOf? '=' with
    | none => self
    | some eq =>
      let key := trim (line.take eq)
      let val := trim (line.drop (eq + 1))
      if key ≠ [] then { self with kv_ := self.kv_.insert key val } else self

def load_lines (self : KvConfig) (ifs : List Char) : KvConfig :=
  match _h : getline ifs with
  | none => self
  | some (line, rest) => (self.load_line line).load_lines rest
termination_by ifs.length
decreasing_by exact getline_length _h

/-- `file` is the content of the file, if it can be opened. -/
def load (self : KvConfig) (file : Option (List Char)) : Bool × KvConfig :=
  let self := { self with kv_ := ∅ }
  match file with
  | none => (false, self)
  | some ifs => (true, self.load_lines ifs)

def get (self : KvConfig) (key : List Char) : Option (List Char) :=
  self.kv_.lookup key

def all (self : KvConfig) : Entries :=
  self.kv_

end KvConfig

/-- There is no blank at either end. -/
structure Trimmed (s : List Char) : Prop where
  head : ∀ c ∈ s.head?, c ∉ blanks
  last : ∀ c ∈ s.getLast?, c ∉ blanks

section

variable {before after s : List Char}

theorem find_first_not_of_append (hbefore : ∀ c ∈ before, c ∈ blanks) :
    find_first_not_of (before ++ s) blanks =
      (find_first_not_of s blanks).map (· + before.length) := by
  have hnone : before.findIdx? (· ∉ blanks) = none := by
    simpa [List.findIdx?_eq_none_iff] using hbefore
  rw [find_first_not_of, List.findIdx?_append, hnone, Option.none_or, find_first_not_of]

theorem find_first_not_of_cons {c : Char} (hc : c ∉ blanks) :
    find_first_not_of (c :: s) blanks = some 0 := by
  simp [find_first_not_of, List.findIdx?_cons, hc]

theorem find_last_not_of_append (hafter : ∀ c ∈ after, c ∈ blanks) :
    find_last_not_of (s ++ after) blanks = find_last_not_of s blanks := by
  have hnone : after.reverse.findIdx? (· ∉ blanks) = none := by
    simpa [List.findIdx?_eq_none_iff] using hafter
  rw [find_last_not_of, List.reverse_append, List.findIdx?_append, hnone, Option.none_or,
    Option.map_map, find_last_not_of]
  congr 1
  funext index
  simp only [Function.comp_apply, List.length_reverse, List.length_append]
  omega

theorem find_last_not_of_concat {c : Char} (hc : c ∉ blanks) :
    find_last_not_of (s ++ [c]) blanks = some s.length := by
  simp [find_last_not_of, List.findIdx?_cons, hc]

theorem mem_of_mem_trim {c : Char} (hmem : c ∈ trim s) : c ∈ s := by
  unfold trim at hmem
  split at hmem
  · exact List.mem_of_mem_drop (List.mem_of_mem_take hmem)
  · simp at hmem

theorem trim_blank (hs : ∀ c ∈ s, c ∈ blanks) : trim s = [] := by
  have hfirst : find_first_not_of s blanks = none := by
    simpa [find_first_not_of, List.findIdx?_eq_none_iff] using hs
  rw [trim, hfirst]

/-- What lies between the first and the last character that is no blank. -/
theorem trim_core (core : List Char) {c d : Char} (hbefore : ∀ c ∈ before, c ∈ blanks)
    (hhead : core.head? = some c) (hlast : core.getLast? = some d) (hc : c ∉ blanks)
    (hd : d ∉ blanks) (hafter : ∀ c ∈ after, c ∈ blanks) :
    trim (before ++ core ++ after) = core := by
  obtain ⟨tail, rfl⟩ := List.head?_eq_some_iff.mp hhead
  have hfirst : find_first_not_of (before ++ c :: tail ++ after) blanks = some before.length := by
    rw [List.append_assoc, find_first_not_of_append hbefore, List.cons_append,
      find_first_not_of_cons hc]
    simp
  have hend : find_last_not_of (before ++ c :: tail ++ after) blanks =
      some (before.length + tail.length) := by
    obtain ⟨init, hinit⟩ := List.getLast?_eq_some_iff.mp hlast
    have hlength := congrArg List.length hinit
    rw [find_last_not_of_append hafter, hinit, ← List.append_assoc, find_last_not_of_concat hd]
    simp only [List.length_cons, List.length_append, List.length_nil] at hlength ⊢
    congr 1
    omega
  rw [trim, hfirst, hend]
  simp [List.append_assoc]

/-- Trimming takes off exactly the blanks at the ends. -/
theorem trim_append (hbefore : ∀ c ∈ before, c ∈ blanks) (hs : Trimmed s)
    (hafter : ∀ c ∈ after, c ∈ blanks) : trim (before ++ s ++ after) = s := by
  obtain rfl | ⟨init, d, rfl⟩ := s.eq_nil_or_concat'
  · apply trim_blank
    simpa [or_imp, forall_and] using ⟨hbefore, hafter⟩
  · obtain ⟨c, hc⟩ := Option.ne_none_iff_exists'.mp (List.head?_eq_none_iff.not.mpr
      (List.append_ne_nil_of_right_ne_nil init (List.cons_ne_nil d [])))
    exact trim_core _ hbefore hc List.getLast?_concat (hs.head c hc)
      (hs.last d List.getLast?_concat) hafter

theorem exists_kept {c : Char} (hc : c ∉ blanks) (rest : List Char) :
    ∃ kept after, rest = kept ++ after ∧ (∀ c ∈ after, c ∈ blanks) ∧
      ∃ d, (c :: kept).getLast? = some d ∧ d ∉ blanks := by
  induction rest using List.reverseRecOn with
  | nil => exact ⟨[], [], rfl, by simp, c, rfl, hc⟩
  | append_singleton rest last ih =>
    by_cases hlast : last ∈ blanks
    · obtain ⟨kept, after, rfl, hafter, hkept⟩ := ih
      refine ⟨kept, after ++ [last], by simp, ?_, hkept⟩
      simpa [or_imp, forall_and] using ⟨hafter, hlast⟩
    · refine ⟨rest ++ [last], [], by simp, by simp, last, ?_, hlast⟩
      rw [← List.cons_append, List.getLast?_concat]

/-- Leading blanks go, and what follows is kept but for blanks at its end. -/
theorem trim_cons {c : Char} (hbefore : ∀ c ∈ before, c ∈ blanks) (hc : c ∉ blanks)
    (rest : List Char) : ∃ kept after, rest = kept ++ after ∧ (∀ c ∈ after, c ∈ blanks) ∧
      trim (before ++ c :: rest) = c :: kept := by
  obtain ⟨kept, after, rfl, hafter, d, hlast, hd⟩ := exists_kept hc rest
  refine ⟨kept, after, rfl, hafter, ?_⟩
  have hcore := trim_core (c :: kept) hbefore rfl hlast hc hd hafter
  rwa [List.append_assoc, List.cons_append] at hcore

end

end amldigitalfpv.kv_config

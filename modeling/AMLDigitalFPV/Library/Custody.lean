import Mathlib.Data.List.Basic
import Mathlib.Tactic.Common

/-- A log of events, some of which open a key and some of which close one. The
keys held are those opened and not closed, every other opened key has been
closed once, and the fresh keys have not been used yet. -/
structure Custody {κ ε : Type*} [DecidableEq ε] (opens : ε → Option κ) (closes : κ → ε)
    (log : List ε) (fresh held : κ → Prop) : Prop where
  unused : ∀ key, fresh key → (∀ event ∈ log, opens event ≠ some key) ∧ closes key ∉ log
  opened : ∀ key, held key → ∃ event ∈ log, opens event = some key
  unclosed : ∀ key, held key → closes key ∉ log
  settled : ∀ event ∈ log, ∀ key, opens event = some key →
    held key ∨ log.count (closes key) = 1

namespace Custody

variable {κ ε : Type*} [DecidableEq ε] {opens : ε → Option κ} {closes : κ → ε}
  {log : List ε} {fresh held fresh' held' : κ → Prop} {event : ε} {key : κ}

theorem nil (fresh : κ → Prop) : Custody opens closes [] fresh fun _ => False where
  unused _ _ := ⟨fun _ hmem => absurd hmem List.not_mem_nil, List.not_mem_nil⟩
  opened _ := False.elim
  unclosed _ := False.elim
  settled _ hmem := absurd hmem List.not_mem_nil

theorem congr (h : Custody opens closes log fresh held) (hfresh : ∀ key, fresh' key → fresh key)
    (hheld : ∀ key, held' key ↔ held key) : Custody opens closes log fresh' held' := by
  constructor
  · exact fun key hkey => h.unused key (hfresh key hkey)
  · exact fun key hkey => h.opened key ((hheld key).mp hkey)
  · exact fun key hkey => h.unclosed key ((hheld key).mp hkey)
  · intro event hmem key hopens
    rw [hheld]
    exact h.settled event hmem key hopens

/-- An opened key that nothing holds has been closed once. -/
theorem closed_once (h : Custody opens closes log fresh held) (hmem : event ∈ log)
    (hopens : opens event = some key) (hheld : ¬ held key) : log.count (closes key) = 1 :=
  (h.settled event hmem key hopens).resolve_left hheld

theorem unclosed_count (h : Custody opens closes log fresh held) (hheld : held key) :
    log.count (closes key) = 0 :=
  List.count_eq_zero.mpr (h.unclosed key hheld)

/-- Everything opened has been closed once just when nothing is held. -/
theorem all_closed_iff (h : Custody opens closes log fresh held) :
    (∀ event ∈ log, ∀ key, opens event = some key → log.count (closes key) = 1) ↔
      ∀ key, ¬ held key := by
  constructor
  · intro hclosed key hheld
    obtain ⟨event, hmem, hopens⟩ := h.opened key hheld
    have hcount := hclosed event hmem key hopens
    rw [h.unclosed_count hheld] at hcount
    cases hcount
  · exact fun hnone event hmem key hopens => h.closed_once hmem hopens (hnone key)

/-- An event that opens nothing and closes no key in use. -/
theorem append (h : Custody opens closes log fresh held) (hopens : opens event = none)
    (hcloses : ∀ key, closes key = event →
      ¬ fresh key ∧ ∀ earlier ∈ log, opens earlier ≠ some key) :
    Custody opens closes (log ++ [event]) fresh held := by
  constructor
  · intro key hkey
    obtain ⟨hunopened, hunclosed⟩ := h.unused key hkey
    have hne : closes key ≠ event := fun heq => (hcloses key heq).1 hkey
    refine ⟨?_, by simp [hunclosed, hne]⟩
    simpa [or_imp, forall_and, hopens] using hunopened
  · intro key hkey
    obtain ⟨earlier, hmem, hearlier⟩ := h.opened key hkey
    exact ⟨earlier, List.mem_append_left _ hmem, hearlier⟩
  · intro key hkey
    obtain ⟨earlier, hmem, hearlier⟩ := h.opened key hkey
    have hne : closes key ≠ event := fun heq => (hcloses key heq).2 earlier hmem hearlier
    simp [h.unclosed key hkey, hne]
  · intro earlier hmem key hearlier
    obtain hmem | hlast := List.mem_append.mp hmem
    · have hne : event ≠ closes key := fun heq =>
        (hcloses key heq.symm).2 earlier hmem hearlier
      simpa [List.count_append, List.count_singleton, hne] using
        h.settled earlier hmem key hearlier
    · rw [List.mem_singleton.mp hlast, hopens] at hearlier
      cases hearlier

/-- A fresh key is opened. -/
theorem open_fresh (h : Custody opens closes log fresh held) (key : κ)
    (hdisjoint : ∀ key, opens (closes key) = none) (hopens : opens event = some key)
    (hfresh : fresh key) (hfresh' : ∀ other, fresh' other → fresh other ∧ other ≠ key)
    (hheld' : ∀ other, held' other ↔ held other ∨ other = key) :
    Custody opens closes (log ++ [event]) fresh' held' := by
  have hne : ∀ other, closes other ≠ event := by
    rintro other rfl
    rw [hdisjoint] at hopens
    cases hopens
  constructor
  · intro other hother
    obtain ⟨hother, hdistinct⟩ := hfresh' other hother
    obtain ⟨hunopened, hunclosed⟩ := h.unused other hother
    refine ⟨?_, by simp [hunclosed, hne]⟩
    simpa [or_imp, forall_and, hopens, Ne.symm hdistinct] using hunopened
  · intro other hother
    obtain hother | rfl := (hheld' other).mp hother
    · obtain ⟨earlier, hmem, hearlier⟩ := h.opened other hother
      exact ⟨earlier, List.mem_append_left _ hmem, hearlier⟩
    · exact ⟨event, by simp, hopens⟩
  · intro other hother
    obtain hother | rfl := (hheld' other).mp hother
    · simp [h.unclosed other hother, hne]
    · simp [(h.unused other hfresh).2, hne]
  · intro earlier hmem other hearlier
    rw [hheld']
    obtain hmem | hlast := List.mem_append.mp hmem
    · obtain hother | hcount := h.settled earlier hmem other hearlier
      · exact .inl (.inl hother)
      · right
        simpa [List.count_append, List.count_singleton, Ne.symm (hne other)] using hcount
    · rw [List.mem_singleton.mp hlast, hopens] at hearlier
      exact .inl (.inr (Option.some.inj hearlier).symm)

/-- A key that is held is closed. -/
theorem close_held (h : Custody opens closes log fresh held) (key : κ)
    (hdisjoint : ∀ key, opens (closes key) = none) (hinj : Function.Injective closes)
    (hheld : held key) (hheld' : ∀ other, held' other ↔ held other ∧ other ≠ key) :
    Custody opens closes (log ++ [closes key]) fresh held' := by
  have hused : ¬ fresh key := by
    intro hfresh
    obtain ⟨earlier, hmem, hearlier⟩ := h.opened key hheld
    exact (h.unused key hfresh).1 earlier hmem hearlier
  constructor
  · intro other hother
    obtain ⟨hunopened, hunclosed⟩ := h.unused other hother
    have hne : other ≠ key := by
      rintro rfl
      exact hused hother
    refine ⟨?_, by simp [hunclosed, hinj.ne hne]⟩
    simpa [or_imp, forall_and, hdisjoint] using hunopened
  · intro other hother
    obtain ⟨earlier, hmem, hearlier⟩ := h.opened other ((hheld' other).mp hother).1
    exact ⟨earlier, List.mem_append_left _ hmem, hearlier⟩
  · intro other hother
    obtain ⟨hother, hne⟩ := (hheld' other).mp hother
    simp [h.unclosed other hother, hinj.ne hne]
  · intro earlier hmem other hearlier
    rw [hheld']
    obtain hmem | hlast := List.mem_append.mp hmem
    · by_cases hsame : other = key
      · right
        rw [hsame, List.count_append, h.unclosed_count hheld]
        simp
      · have hne : closes key ≠ closes other := hinj.ne (Ne.symm hsame)
        obtain hother | hcount := h.settled earlier hmem other hearlier
        · exact .inl ⟨hother, hsame⟩
        · right
          simpa [List.count_append, List.count_singleton, hne] using hcount
    · rw [List.mem_singleton.mp hlast, hdisjoint] at hearlier
      cases hearlier

end Custody

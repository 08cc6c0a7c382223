import AMLDigitalFPV.KvConfig
import Mathlib.Data.List.TakeWhile

namespace amldigitalfpv.kv_config

/-- Blanks around a key or a value. -/
def Padding (s : List Char) : Prop := ∀ c ∈ s, c = ' ' ∨ c = '\t' ∨ c = '\r'

structure ValidKey (key : List Char) : Prop extends Trimmed key where
  nonempty : key ≠ []
  noEq : '=' ∉ key
  noNewline : '\n' ∉ key
  noComment : key.head? ≠ some '#'

structure ValidValue (value : List Char) : Prop extends Trimmed value where
  noNewline : '\n' ∉ value

/-- A line that assigns nothing: a comment, one without an equals sign (a blank
one among them), or one without a key. -/
inductive Ignored : List Char → Prop where
  | comment {before rest : List Char} : Padding before → Ignored (before ++ '#' :: rest)
  | unassigned {text : List Char} : '=' ∉ text → Ignored text
  | keyless {before rest : List Char} : Padding before → Ignored (before ++ '=' :: rest)

/-- A line of a configuration. -/
inductive Line where
  | entry (before key left right value after : List Char)
  | other (text : List Char)

namespace Line

def text : Line → List Char
  | entry before key left right value after =>
    before ++ key ++ left ++ '=' :: (right ++ value ++ after)
  | other text => text

def assignment : Line → Option (List Char × List Char)
  | entry _ key _ _ value _ => some (key, value)
  | other _ => none

def Valid : Line → Prop
  | entry before key left right value after =>
    ValidKey key ∧ ValidValue value ∧ Padding before ∧ Padding left ∧ Padding right ∧
      Padding after
  | other text => '\n' ∉ text ∧ Ignored text

end Line

/-- The lines one after another, with or without a newline after the last. -/
def unlines (final_newline : Bool) : List (List Char) → List Char
  | [] => []
  | [line] => if final_newline then line ++ ['\n'] else line
  | line :: lines => line ++ '\n' :: unlines final_newline lines

/-- The assignments list the map: its keys are those assigned, and each has the
value assigned last. -/
def Lists (map : Entries) (assignments : List (List Char × List Char)) : Prop :=
  ∀ key, map.lookup key = ((assignments.filter (·.1 = key)).getLast?).map Prod.snd

/-- The text lists the entries of the map as lines of a configuration. -/
def Renders (map : Entries) (text : List Char) : Prop :=
  ∃ (lines : List Line) (final_newline : Bool), (∀ line ∈ lines, line.Valid) ∧
    Lists map (lines.filterMap Line.assignment) ∧
      text = unlines final_newline (lines.map Line.text)

theorem Padding.blanks {s : List Char} (h : Padding s) : ∀ c ∈ s, c ∈ blanks := by
  intro c hc
  obtain rfl | rfl | rfl := h c hc <;> simp [kv_config.blanks]

theorem Padding.noNewline {s : List Char} (h : Padding s) : '\n' ∉ s := by
  intro hmem
  simpa using h '\n' hmem

theorem Padding.noEq {s : List Char} (h : Padding s) : '=' ∉ s := by
  intro hmem
  simpa using h '=' hmem

theorem Line.Valid.noNewline {line : Line} (h : line.Valid) : '\n' ∉ line.text := by
  cases line with
  | entry before key left right value after =>
    obtain ⟨hkey, hvalue, hbefore, hleft, hright, hafter⟩ := h
    simp [Line.text, hkey.noNewline, hvalue.noNewline, hbefore.noNewline, hleft.noNewline,
      hright.noNewline, hafter.noNewline]
  | other text => exact h.1

/-- A line that assigns nothing changes nothing. -/
theorem Ignored.load_line {line : List Char} (h : Ignored line) (self : KvConfig) :
    self.load_line line = self := by
  cases h with
  | @comment before rest hbefore =>
    obtain ⟨kept, -, -, -, htrim⟩ :=
      trim_cons (c := '#') hbefore.blanks (by simp [blanks]) rest
    simp [KvConfig.load_line, htrim]
  | unassigned hmissing =>
    have hnone : (trim line).idxOf? '=' = none :=
      List.idxOf?_eq_none_iff.mpr fun hmem => hmissing (mem_of_mem_trim hmem)
    simp [KvConfig.load_line, hnone]
  | @keyless before rest hbefore =>
    obtain ⟨kept, -, -, -, htrim⟩ :=
      trim_cons (c := '=') hbefore.blanks (by simp [blanks]) rest
    have hempty : trim [] = [] := trim_blank (by simp)
    simp [KvConfig.load_line, htrim, List.idxOf?_cons, hempty]

theorem idxOf?_append_cons {s rest : List Char} {c : Char} (hs : c ∉ s) :
    (s ++ c :: rest).idxOf? c = some s.length := by
  induction s with
  | nil => simp [List.idxOf?_cons]
  | cons d s ih =>
    obtain ⟨hd, hs⟩ := not_or.mp (List.mem_cons.not.mp hs)
    simp [List.idxOf?_cons, ih hs, Ne.symm hd]

/-- What `load_line` finds in an entry: the key up to the first equals sign and
the value after it. -/
theorem trim_entry {before key right value after : List Char} (left : List Char)
    (hkey : ValidKey key) (hvalue : ValidValue value) (hbefore : Padding before)
    (hright : Padding right) (hafter : Padding after) :
    ∃ tail, trim (before ++ key ++ left ++ '=' :: (right ++ value ++ after)) =
      key ++ left ++ '=' :: tail ∧ trim tail = value := by
  obtain ⟨c, rest, rfl⟩ := List.exists_cons_of_ne_nil hkey.nonempty
  have hc : c ∉ blanks := hkey.head c rfl
  obtain rfl | ⟨init, d, rfl⟩ := value.eq_nil_or_concat'
  · refine ⟨[], ?_, trim_blank (by simp)⟩
    have hblank : ∀ c ∈ right ++ after, c ∈ blanks := by
      simpa [or_imp, forall_and] using ⟨hright.blanks, hafter.blanks⟩
    have hcore := trim_core (c :: rest ++ left ++ ['=']) hbefore.blanks rfl
      List.getLast?_concat hc (by simp [blanks]) hblank
    simpa using hcore
  · refine ⟨right ++ (init ++ [d]), ?_, ?_⟩
    · have hcore := trim_core (d := d) (c :: rest ++ left ++ '=' :: (right ++ (init ++ [d])))
        hbefore.blanks rfl (by simp [List.getLast?_cons]) hc (hvalue.last d (by simp))
        hafter.blanks
      simpa using hcore
    · rw [← List.append_nil (right ++ (init ++ [d]))]
      exact trim_append hright.blanks hvalue.toTrimmed (by simp)

/-- A line that is cut at its first equals sign into a key and a value. -/
theorem load_line_assign {line name tail : List Char} (self : KvConfig)
    (htrim : trim line = name ++ '=' :: tail) (hname : '=' ∉ name)
    (hcomment : name.head? ≠ some '#') (hkey : trim name ≠ []) :
    self.load_line line = { self with kv_ := self.kv_.insert (trim name) (trim tail) } := by
  have hne : name ≠ [] := by
    rintro rfl
    exact hkey (trim_blank (by simp))
  have hhead : (name ++ '=' :: tail).head? = name.head? := by
    rw [List.head?_append_of_ne_nil _ hne]
  have htail : (name ++ '=' :: tail).drop (name.length + 1) = tail := by
    simp [List.drop_append]
  rw [KvConfig.load_line]
  simp only [htrim, idxOf?_append_cons hname, List.take_left, htail, hhead]
  rw [if_neg (by simp [hcomment]), if_pos hkey]

/-- Each valid line sets what it assigns. -/
theorem Line.Valid.load_line {line : Line} (h : line.Valid) (self : KvConfig) :
    self.load_line line.text =
      { self with kv_ := line.assignment.elim self.kv_ fun a => self.kv_.insert a.1 a.2 } := by
  cases line with
  | entry before key left right value after =>
    obtain ⟨hkey, hvalue, hbefore, hleft, hright, hafter⟩ := h
    obtain ⟨tail, htrim, htail⟩ := trim_entry left hkey hvalue hbefore hright hafter
    have hname : trim ([] ++ key ++ left) = key :=
      trim_append (by simp) hkey.toTrimmed hleft.blanks
    rw [List.nil_append] at hname
    have hcomment : (key ++ left).head? ≠ some '#' := by
      rw [List.head?_append_of_ne_nil _ hkey.nonempty]
      exact hkey.noComment
    have hassign := load_line_assign self htrim (by simp [hkey.noEq, hleft.noEq]) hcomment
      (by rw [hname]; exact hkey.nonempty)
    rwa [hname, htail] at hassign
  | other text => exact h.2.load_line self

/-- `getline` takes a line and its newline off the text. -/
theorem getline_append {line : List Char} (hline : '\n' ∉ line) (rest : List Char) :
    getline (line ++ '\n' :: rest) = some (line, rest) := by
  have hkeep : ∀ c ∈ line, decide (c ≠ '\n') = true := by
    intro c hc
    simpa using ne_of_mem_of_not_mem hc hline
  rw [getline, if_neg (by simp), List.takeWhile_append_of_pos hkeep,
    List.dropWhile_append_of_pos hkeep]
  simp

/-- The last line needs no newline. -/
theorem getline_last {line : List Char} (hline : '\n' ∉ line) (hne : line ≠ []) :
    getline line = some (line, []) := by
  have hkeep : ∀ c ∈ line, decide (c ≠ '\n') = true := by
    intro c hc
    simpa using ne_of_mem_of_not_mem hc hline
  rw [getline, if_neg hne, List.takeWhile_eq_self_iff.mpr hkeep,
    List.dropWhile_eq_nil_iff.mpr hkeep]
  rfl

theorem load_lines_nil (self : KvConfig) : self.load_lines [] = self := by
  rw [KvConfig.load_lines]
  rfl

theorem load_lines_cons {ifs line rest : List Char} (hline : getline ifs = some (line, rest))
    (self : KvConfig) : self.load_lines ifs = (self.load_line line).load_lines rest := by
  rw [KvConfig.load_lines]
  split
  · next hnone =>
    rw [hline] at hnone
    cases hnone
  · next hsome =>
    rw [hline] at hsome
    cases hsome
    rfl

/-- The loop reads the lines one after another. -/
theorem load_lines_unlines {lines : List Line} (hvalid : ∀ line ∈ lines, line.Valid)
    (final_newline : Bool) (self : KvConfig) :
    self.load_lines (unlines final_newline (lines.map Line.text)) =
      lines.foldl (fun self line => self.load_line line.text) self := by
  induction lines generalizing self with
  | nil => exact load_lines_nil self
  | cons line lines ih =>
    obtain ⟨hline, hlines⟩ := List.forall_mem_cons.mp hvalid
    have hnewline := hline.noNewline
    cases lines with
    | nil =>
      cases final_newline with
      | true =>
        rw [List.map_singleton, unlines, if_pos rfl, load_lines_cons (getline_append hnewline [])]
        exact load_lines_nil _
      | false =>
        rw [List.map_singleton, unlines, if_neg (by simp)]
        by_cases hempty : line.text = []
        · have hignored : self.load_line [] = self :=
            Ignored.load_line (.unassigned List.not_mem_nil) self
          simp [hempty, hignored, load_lines_nil]
        · rw [load_lines_cons (getline_last hnewline hempty)]
          exact load_lines_nil _
    | cons next lines =>
      have hunlines : unlines final_newline ((line :: next :: lines).map Line.text) =
          line.text ++ '\n' :: unlines final_newline ((next :: lines).map Line.text) := rfl
      rw [hunlines, load_lines_cons (getline_append hnewline _), ih hlines]
      rfl

theorem foldl_load_line {lines : List Line} (hvalid : ∀ line ∈ lines, line.Valid)
    (self : KvConfig) :
    (lines.foldl (fun self line => self.load_line line.text) self).kv_ =
      (lines.filterMap Line.assignment).foldl (fun kv a => kv.insert a.1 a.2) self.kv_ := by
  induction lines generalizing self with
  | nil => rfl
  | cons line lines ih =>
    obtain ⟨hline, hlines⟩ := List.forall_mem_cons.mp hvalid
    rw [List.foldl_cons, ih hlines, hline.load_line]
    cases hassignment : line.assignment <;> simp [hassignment]

/-- Of the assignments to a key the last one is kept. -/
theorem lookup_foldl_insert (assignments : List (List Char × List Char)) (key : List Char) :
    (assignments.foldl (fun kv a => kv.insert a.1 a.2) (∅ : Entries)).lookup key =
      ((assignments.filter (·.1 = key)).getLast?).map Prod.snd := by
  induction assignments using List.reverseRecOn with
  | nil => simp
  | append_singleton assignments last ih =>
    rw [List.foldl_append, List.foldl_cons, List.foldl_nil, List.filter_append]
    by_cases hkey : last.1 = key
    · subst hkey
      simp [Finmap.lookup_insert]
    · rw [Finmap.lookup_insert_of_ne _ (Ne.symm hkey), ih]
      simp [hkey]

/-- `load` reads every rendering of a map back, whatever was loaded before. -/
theorem load_rendering {map : Entries} {text : List Char}
    (hrenders : Renders map text) (self : KvConfig) :
    ∃ loaded, self.load (some text) = (true, loaded) ∧ loaded.all = map ∧
      ∀ key, loaded.get key = map.lookup key := by
  obtain ⟨lines, final_newline, hvalid, hlists, rfl⟩ := hrenders
  refine ⟨_, rfl, ?_⟩
  have hmap : (self.load (some (unlines final_newline (lines.map Line.text)))).2.all = map := by
    apply Finmap.ext_lookup
    intro key
    simp only [KvConfig.all, KvConfig.load, load_lines_unlines hvalid, foldl_load_line hvalid]
    rw [lookup_foldl_insert, hlists key]
  exact ⟨hmap, fun key => congrArg (Finmap.lookup key) hmap⟩

theorem load_rendering_overridden :
    ∃ loaded, (KvConfig.mk ∅).load (some "a=1\r\n #a=\n a\t= =# \r".toList) = (true, loaded) ∧
      loaded.all = ((∅ : Entries).insert ['a'] ['1']).insert ['a'] ['=', '#'] ∧
        ∀ key, loaded.get key =
          (((∅ : Entries).insert ['a'] ['1']).insert ['a'] ['=', '#']).lookup key := by
  apply load_rendering
  have hkey : ValidKey ['a'] :=
    ⟨⟨by simp [blanks], by simp [blanks]⟩, by simp, by simp, by simp, by simp⟩
  have hearlier : ValidValue ['1'] := ⟨⟨by simp [blanks], by simp [blanks]⟩, by simp⟩
  have hvalue : ValidValue ['=', '#'] := ⟨⟨by simp [blanks], by simp [blanks]⟩, by simp⟩
  have hignored : Ignored [' ', '#', 'a', '='] :=
    Ignored.comment (show Padding [' '] by simp [Padding])
  refine ⟨[.entry [] ['a'] [] [] ['1'] ['\r'], .other [' ', '#', 'a', '='],
    .entry [' '] ['a'] ['\t'] [' '] ['=', '#'] [' ', '\r']], false, ?_, ?_,
    by simp [unlines, Line.text]⟩
  · simp [Line.Valid, hkey, hearlier, hvalue, hignored, Padding]
  · exact lookup_foldl_insert [(['a'], ['1']), (['a'], ['=', '#'])]

end amldigitalfpv.kv_config

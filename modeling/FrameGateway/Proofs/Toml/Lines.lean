import FrameGateway.Proofs.Toml.Quoted
import FrameGateway.Proofs.Toml.Integer
/-! Documents of sections with one setting a line are read back (`parse?_intercalate`): the reader is taken from one
line to the next, and so over a section, and over all of them. -/

namespace FrameGateway.Toml

variable {c d : Char} {k name s : String} {cs cs' text r rest : List Char} {path path' : List String}
  {doc doc' sub : Entries} {v : Value} {n depth : Nat}

/-! ### Values at the end of a line -/

theorem value?_of_string? (h : string? cs = some (s, r)) : value? depth cs = some (.string s, r) := by
  by_cases hdouble : ∃ t, cs = '"' :: t
  · obtain ⟨t, rfl⟩ := hdouble
    rw [value?, h]
    rfl
  by_cases hsingle : ∃ t, cs = '\'' :: t
  · obtain ⟨t, rfl⟩ := hsingle
    rw [value?, h]
    rfl
  · rw [string?] at h
    · cases h
    · exact fun r heq => hdouble ⟨_, heq⟩
    · exact fun r heq => hsingle ⟨_, heq⟩
    · exact fun r heq => hdouble ⟨_, heq⟩
    · exact fun r heq => hsingle ⟨_, heq⟩

/-- A text that is read as a value where it ends a line. -/
def Spells (text : List Char) (v : Value) : Prop :=
  ∀ rest, value? (depthLimit - 1) (text ++ '\n' :: rest) = some (v, '\n' :: rest)

theorem spells_quoted (s : String) : Spells (quoted s).toList (.string s) :=
  fun _ => value?_of_string? (string?_quoted s)

theorem spells_toString (h : n < 2 ^ 63) : Spells (toString n).toList (.integer n) :=
  fun _ => value?_toString _ h

theorem spells_bool (b : Bool) : Spells (if b then "true" else "false").toList (.boolean b) := by
  intro rest
  cases b <;> rw [value?.eq_def] <;> rfl

/-- No blank stands before a value. -/
theorem Spells.skipBlank_eq (h : Spells text v) : skipBlank (text ++ '\n' :: rest) = text ++ '\n' :: rest := by
  have hread := h rest
  generalize text ++ '\n' :: rest = cs at hread
  cases cs with
  | nil => rfl
  | cons c cs =>
    by_cases hc : isBlank c
    · simp only [isBlank, Bool.or_eq_true, decide_eq_true_eq] at hc
      rw [value?.eq_def] at hread
      rcases hc with rfl | rfl <;> cases hread
    · rw [skipBlank, List.dropWhile_cons_of_neg hc]

/-! ### Keys -/

/-- A name that is a key as it stands. -/
def Bare (k : String) : Prop := k.toList.isEmpty = false ∧ k.toList.all isBare = true

instance : Decidable (Bare k) := inferInstanceAs (Decidable (_ ∧ _))

theorem Bare.isBare_of_mem (h : Bare k) (hc : c ∈ k.toList) : isBare c := List.all_eq_true.mp h.2 c hc

theorem ne_of_isBare (h : isBare c) (hd : isBare d = false) : c ≠ d := by
  rintro rfl
  rw [h] at hd
  cases hd

theorem Bare.exists_cons (h : Bare k) : ∃ c r, k.toList = c :: r ∧ isBare c := by
  obtain ⟨c, r, heq⟩ := List.exists_cons_of_ne_nil (List.isEmpty_eq_false_iff.mp h.1)
  exact ⟨c, r, heq, h.isBare_of_mem (heq ▸ List.mem_cons_self)⟩

/-- Nothing that is passed over stands before a key. -/
theorem Bare.skipBlank_eq (h : Bare k) : skipBlank (k.toList ++ r) = k.toList ++ r := by
  obtain ⟨c, t, heq, hc⟩ := h.exists_cons
  have hblank : ¬isBlank c = true := by
    simp [isBlank, ne_of_isBare hc (d := ' ') rfl, ne_of_isBare hc (d := '\t') rfl]
  rw [heq, List.cons_append, skipBlank, List.dropWhile_cons_of_neg hblank]

theorem Bare.part?_eq (h : Bare k) (hd : isBare d = false) : part? (k.toList ++ d :: r) = some (k, d :: r) := by
  obtain ⟨c, t, heq, hc⟩ := h.exists_cons
  have hkey : (k.toList ++ d :: r).takeWhile isBare = k.toList := by
    rw [List.takeWhile_append_of_pos fun _ => h.isBare_of_mem, List.takeWhile_cons_of_neg (by simp [hd]),
      List.append_nil]
  rw [part?, hkey]
  · rw [if_neg (by rw [h.1]; exact Bool.false_ne_true), String.ofList_toList, List.drop_left]
  all_goals
    -- a bare key starts with no quote
    intro r' heq'
    rw [heq] at heq'
    exact ne_of_isBare hc rfl (List.cons.inj heq').1

/-- A key ends before a character that it cannot have. -/
theorem Bare.key?_eq (h : Bare k) (hd : isBare d = false) (hskip : skipBlank (d :: r) = c :: cs) (hdot : c ≠ '.') :
    key? (n + 1) (k.toList ++ d :: r) [] = some ([k], c :: cs) := by
  rw [key?, h.skipBlank_eq, h.part?_eq hd]
  dsimp only
  rw [hskip]
  split
  next heq => exact absurd (List.cons.inj heq).1 hdot
  next => rfl

/-! ### One line -/

theorem endLine?_newline : endLine? ('\n' :: r) = some r := rfl

theorem lines?_blank : lines? (n + 1) ('\n' :: r) path doc = lines? n r path doc := by
  rw [lines?]
  rfl

theorem lines?_header (h : Bare k) (ho : openTable [k] doc = some doc') :
    lines? (n + 1) ('[' :: (k.toList ++ ']' :: '\n' :: r)) path doc = lines? n r [k] doc' := by
  obtain ⟨c, t, heq, hc⟩ := h.exists_cons
  have hskip : skipBlank ('[' :: (k.toList ++ ']' :: '\n' :: r)) = '[' :: (k.toList ++ ']' :: '\n' :: r) := rfl
  rw [lines?, hskip]
  split
  next hnil => cases hnil
  next hmark => cases hmark
  next hitem =>
    -- the header of one more item would open with two brackets
    rw [heq] at hitem
    exact absurd (List.cons.inj (List.cons.inj hitem).2).1 (ne_of_isBare hc rfl)
  next hheader =>
    obtain ⟨-, rfl⟩ := List.cons.inj hheader
    rw [h.key?_eq rfl rfl (by decide)]
    simp only [endLine?_newline, ho, Option.bind_eq_bind, Option.bind_some]
  next hother => exact absurd rfl (hother _)

theorem lines?_setting (h : Bare k) (hv : Spells text v) (ha : assignAt path [k] v doc = some doc') :
    lines? (n + 1) (k.toList ++ ' ' :: '=' :: ' ' :: (text ++ '\n' :: r)) path doc = lines? n r path doc' := by
  have hkey : ∀ m, key? (m + 1) (k.toList ++ ' ' :: '=' :: ' ' :: (text ++ '\n' :: r)) [] =
      some ([k], '=' :: ' ' :: (text ++ '\n' :: r)) := fun m => h.key?_eq rfl rfl (by decide)
  have hvalue : skipBlank (' ' :: (text ++ '\n' :: r)) = text ++ '\n' :: r := hv.skipBlank_eq
  -- the line starts with a letter of its key, and so is none of the other lines
  have hstart : ∀ d r', k.toList ++ ' ' :: '=' :: ' ' :: (text ++ '\n' :: r) = d :: r' → isBare d := by
    obtain ⟨c, t, heq, hc⟩ := h.exists_cons
    rintro d r' hcons
    rw [heq] at hcons
    exact (List.cons.inj hcons).1 ▸ hc
  have hline : newline? (k.toList ++ ' ' :: '=' :: ' ' :: (text ++ '\n' :: r)) = none := by
    rw [newline?.eq_def]
    split
    next hmark => cases hstart _ _ hmark
    next hmark => cases hstart _ _ hmark
    next => rfl
  rw [lines?, h.skipBlank_eq]
  split
  next hnil => simp at hnil
  next hmark => cases hstart _ _ hmark
  next hmark => cases hstart _ _ hmark
  next hmark => cases hstart _ _ hmark
  next => simp only [hline, hkey, hvalue, hv r, endLine?_newline, ha, Option.bind_eq_bind, Option.bind_some]

/-! ### Tables -/

theorem lookup_of_new {es : Entries} (h : k ∉ es.map (·.1)) : es.lookup k = none := by
  refine List.lookup_eq_none_iff.mpr fun e he => ?_
  rw [bne_iff_ne]
  rintro rfl
  exact h (List.mem_map_of_mem he)

theorem put_of_new {es : Entries} {node : Node} (h : k ∉ es.map (·.1)) :
    Entries.put k node es = es ++ [(k, node)] := by
  rw [Entries.put, lookup_of_new h]
  rfl

theorem lookup_append_table {node : Node} (h : k ∉ doc.map (·.1)) : (doc ++ [(k, node)]).lookup k = some node := by
  rw [List.lookup_append, lookup_of_new h]
  simp

theorem put_append_table {node node' : Node} (h : k ∉ doc.map (·.1)) :
    Entries.put k node' (doc ++ [(k, node)]) = doc ++ [(k, node')] := by
  have hothers : doc.map (fun e => if e.1 = k then (k, node') else e) = doc := by
    refine (List.map_congr_left (g := id) fun e he => ?_).trans (List.map_id doc)
    refine if_neg fun heq => h ?_
    rw [← heq]
    exact List.mem_map_of_mem he
  rw [Entries.put, lookup_append_table h, Option.isSome_some, if_pos rfl, List.map_append, hothers]
  simp

/-- A header that is new opens an empty table at the end. -/
theorem openTable_of_new (h : name ∉ doc.map (·.1)) :
    openTable [name] doc = some (doc ++ [(name, .table .header [])]) := by
  have hlast : [name].getLast? = some name := rfl
  rw [openTable, hlast]
  dsimp only
  rw [List.dropLast_singleton, descend, lookup_of_new h]
  exact congrArg some (put_of_new h)

/-- A key that is new to the last table is entered at its end. -/
theorem assignAt_append_table (hname : name ∉ doc.map (·.1)) (hkey : k ∉ sub.map (·.1)) :
    assignAt [name] [k] v (doc ++ [(name, .table .header sub)]) =
      some (doc ++ [(name, .table .header (sub ++ [(k, .value v)]))]) := by
  have hassign : assign [k] v .header sub = some (sub ++ [(k, .value v)]) := by
    have hlast : [k].getLast? = some k := rfl
    rw [assign, hlast]
    dsimp only
    rw [List.dropLast_singleton, descend, if_neg (by decide), lookup_of_new hkey]
    exact congrArg some (put_of_new hkey)
  rw [assignAt, descend, lookup_append_table hname]
  dsimp only
  rw [Bool.false_and, if_neg Bool.false_ne_true, descend, hassign, Option.map_some, put_append_table hname]

/-! ### From line to line -/

structure Line where
  key : String
  text : String
  value : Value
  bare : Bare key
  spells : Spells text.toList value

def Line.write (l : Line) : String := l.key ++ " = " ++ l.text ++ "\n"

def Line.entry (l : Line) : String × Node := (l.key, .value l.value)

structure Section where
  name : String
  lines : List Line
  bare : Bare name
  distinct : (lines.map (·.key)).Nodup

def Section.write (s : Section) : String := "[" ++ s.name ++ "]\n" ++ String.join (s.lines.map (·.write))

def Section.entry (s : Section) : String × Node := (s.name, .table .header (s.lines.map (·.entry)))

/-- The reader is taken from one place of a document to another, if it may take more steps than there are
characters. -/
def Reads (cs : List Char) (path : List String) (doc : Entries)
    (rest : List Char) (path' : List String) (doc' : Entries) : Prop :=
  ∀ n, cs.length < n → ∃ m, rest.length < m ∧ lines? n cs path doc = lines? m rest path' doc'

theorem Reads.refl : Reads cs path doc cs path doc := fun n hn => ⟨n, hn, rfl⟩

theorem Reads.trans {path'' : List String} {doc'' : Entries} (h : Reads cs path doc cs' path' doc')
    (h' : Reads cs' path' doc' rest path'' doc'') : Reads cs path doc rest path'' doc'' := by
  intro n hn
  obtain ⟨m, hm, heq⟩ := h n hn
  obtain ⟨l, hl, heq'⟩ := h' m hm
  exact ⟨l, hl, heq.trans heq'⟩

/-- One line takes one step, and it has a character at least. -/
theorem Reads.of_step (hlength : rest.length < cs.length)
    (h : ∀ n, lines? (n + 1) cs path doc = lines? n rest path' doc') : Reads cs path doc rest path' doc' := by
  intro n hn
  obtain ⟨m, rfl⟩ : ∃ m, n = m + 1 := ⟨n - 1, by omega⟩
  exact ⟨m, by omega, h m⟩

theorem Line.reads (l : Line) (hname : name ∉ doc.map (·.1)) (hkey : l.key ∉ sub.map (·.1)) :
    Reads (l.write.toList ++ rest) [name] (doc ++ [(name, .table .header sub)])
      rest [name] (doc ++ [(name, .table .header (sub ++ [l.entry]))]) := by
  have hwrite : l.write.toList ++ rest = l.key.toList ++ ' ' :: '=' :: ' ' :: (l.text.toList ++ '\n' :: rest) := by
    simp [write]
  rw [hwrite]
  refine .of_step (by simp only [List.length_append, List.length_cons]; omega) fun n => ?_
  exact lines?_setting l.bare l.spells (assignAt_append_table hname hkey)

/-- The settings of the open section are entered in their order. -/
theorem reads_lines (sub : Entries) (ls : List Line) (hname : name ∉ doc.map (·.1))
    (hdistinct : (sub.map (·.1) ++ ls.map (·.key)).Nodup) :
    Reads ((String.join (ls.map (·.write))).toList ++ rest) [name] (doc ++ [(name, .table .header sub)])
      rest [name] (doc ++ [(name, .table .header (sub ++ ls.map (·.entry)))]) := by
  induction ls generalizing sub with
  | nil => simpa using Reads.refl
  | cons l ls ih =>
    have hkey : l.key ∉ sub.map (·.1) := fun hmem =>
      (List.nodup_append.mp hdistinct).2.2 _ hmem _ List.mem_cons_self rfl
    have htext : (String.join ((l :: ls).map (·.write))).toList ++ rest =
        l.write.toList ++ ((String.join (ls.map (·.write))).toList ++ rest) := by simp [String.join_cons]
    rw [htext]
    refine (l.reads hname hkey).trans ?_
    simpa using ih (sub ++ [l.entry]) (by simpa [Line.entry] using hdistinct)

theorem Section.reads (s : Section) (hname : s.name ∉ doc.map (·.1)) :
    Reads (s.write.toList ++ rest) path doc rest [s.name] (doc ++ [s.entry]) := by
  have hwrite : s.write.toList ++ rest =
      '[' :: (s.name.toList ++ ']' :: '\n' :: ((String.join (s.lines.map (·.write))).toList ++ rest)) := by
    simp [write]
  rw [hwrite]
  refine .trans (.of_step ?_ fun n => lines?_header s.bare (openTable_of_new hname)) ?_
  · simp only [List.length_append, List.length_cons]
    omega
  · exact reads_lines [] s.lines hname s.distinct

/-- Sections that are new, with a blank line before each. -/
theorem reads_sections (path : List String) (doc : Entries) (ss : List Section)
    (hdistinct : (doc.map (·.1) ++ ss.map (·.name)).Nodup) :
    ∃ path', Reads (ss.flatMap fun s => '\n' :: s.write.toList) path doc [] path' (doc ++ ss.map (·.entry)) := by
  induction ss generalizing path doc with
  | nil => exact ⟨path, by simpa using Reads.refl⟩
  | cons s ss ih =>
    have hname : s.name ∉ doc.map (·.1) := fun hmem =>
      (List.nodup_append.mp hdistinct).2.2 _ hmem _ List.mem_cons_self rfl
    obtain ⟨path', hgo⟩ := ih [s.name] (doc ++ [s.entry]) (by simpa [Section.entry] using hdistinct)
    refine ⟨path', ?_⟩
    have hblank : Reads ('\n' :: (s.write.toList ++ ss.flatMap fun s => '\n' :: s.write.toList)) path doc
        (s.write.toList ++ ss.flatMap fun s => '\n' :: s.write.toList) path doc :=
      .of_step (Nat.lt_succ_self _) fun _ => lines?_blank
    simpa using hblank.trans ((s.reads hname).trans hgo)

/-! ### Whole documents -/

theorem entriesValue_eq_map (es : Entries) : entriesValue es = es.map fun e => (e.1, e.2.toValue) := by
  induction es with
  | nil => rfl
  | cons e es ih => rw [entriesValue, ih, List.map_cons]

theorem toList_intercalate_sections (s : Section) (ss : List Section) :
    ("\n".intercalate ((s :: ss).map (·.write))).toList =
      s.write.toList ++ ss.flatMap fun s => '\n' :: s.write.toList := by
  induction ss generalizing s with
  | nil => simp
  | cons t ss ih =>
    have hgo := ih t
    rw [List.map_cons] at hgo
    rw [List.map_cons, List.map_cons, String.intercalate_cons_cons, String.toList_append, hgo]
    simp

def Section.value (s : Section) : String × Value := (s.name, .table (s.lines.map fun l => (l.key, l.value)))

/-- A text without a byte order mark is read from its first character on. -/
theorem parse?_of_reads {text : String} (hmark : text.toList.head? ≠ some '\ufeff')
    (h : Reads text.toList [] [] [] path doc) : parse? text = some (.table (entriesValue doc)) := by
  have hread : lines? (text.toList.length + 1) text.toList [] [] = some doc := by
    obtain ⟨m, hm, heq⟩ := h _ (Nat.lt_succ_self _)
    -- a step is left, in which the reader finds that the text is over
    obtain ⟨k, rfl⟩ : ∃ k, m = k + 1 := ⟨m - 1, by rw [List.length_nil] at hm; omega⟩
    rw [heq, lines?]
    rfl
  rw [parse?]
  split
  next r heq => exact absurd (by rw [heq]; rfl) hmark
  next => rw [hread, Option.map_some]

/-- A document of sections with different names is read as the table of these sections. -/
theorem parse?_intercalate (ss : List Section) (hdistinct : (ss.map (·.name)).Nodup) :
    parse? ("\n".intercalate (ss.map (·.write))) = some (.table (ss.map (·.value))) := by
  have hvalue : entriesValue (ss.map (·.entry)) = ss.map (·.value) := by
    simp [entriesValue_eq_map, Section.entry, Section.value, Node.toValue, Line.entry, Function.comp_def]
  cases ss with
  | nil =>
    have hempty : Reads "".toList [] [] [] [] [] := by simpa using Reads.refl
    rw [List.map_nil, String.intercalate_nil]
    exact parse?_of_reads (by simp) hempty
  | cons s ss =>
    obtain ⟨path, hss⟩ := reads_sections [s.name] [s.entry] ss hdistinct
    have hall : Reads ("\n".intercalate ((s :: ss).map (·.write))).toList [] [] []
        path ([s.entry] ++ ss.map (·.entry)) := by
      rw [toList_intercalate_sections]
      exact .trans (s.reads (by simp)) hss
    have hmark : ("\n".intercalate ((s :: ss).map (·.write))).toList.head? ≠ some '\ufeff' := by
      rw [toList_intercalate_sections]
      simp [Section.write]
    rw [parse?_of_reads hmark hall]
    exact congrArg (some ∘ Value.table) hvalue

end FrameGateway.Toml

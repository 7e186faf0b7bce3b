import FrameGateway.Config.File
import FrameGateway.Proofs.Config.Keys
import FrameGateway.Proofs.Config.Validation
import FrameGateway.Proofs.Text.Utf8
import FrameGateway.Proofs.Toml.Lines
/-! A configuration that is saved and loaded again (`Config.saved_and_loaded`). Everything but the spans of time comes
back as it was; of these the milliseconds do, as far as a word of 64 bits holds them, while the check before had looked
at nanoseconds. -/

namespace FrameGateway

namespace Config

open Toml

variable {c : Config} {d : Duration} {text : String}

/-! ### What is written is read back -/

def Setting.value : Setting → Value
  | .text s => .string s
  | .number n => .integer n.toNat
  | .span d => .integer d.millisWord.toNat
  | .flag b => .boolean b

theorem Setting.spells_numberText? {n : UInt64} (h : numberText? n = some text) :
    Spells text.toList (.integer n.toNat) := by
  rw [numberText?, limit] at h
  split at h
  next hn =>
    cases h
    exact spells_toString (by omega)
  next => cases h

theorem Setting.spells {s : Setting} (h : s.toml? = some text) : Spells text.toList s.value := by
  cases s with
  | text s =>
    cases h
    exact spells_quoted s
  | number n => exact spells_numberText? h
  | span d => exact spells_numberText? h
  | flag b =>
    cases h
    exact spells_bool b

/-- A setting as a line, if it can be written. -/
def line? : String × Setting → Option String := fun (key, s) => do return key ++ " = " ++ (← s.toml?) ++ "\n"

def section? : String × List (String × Setting) → Option String := fun (name, settings) => do
  let lines ← settings.mapM line?
  return "[" ++ name ++ "]\n" ++ String.join lines

theorem toToml_eq_ok_iff :
    c.toToml = .ok text ↔ ∃ ts, c.sections.mapM section? = some ts ∧ "\n".intercalate ts = text := by
  rw [toToml]
  split
  next ts heq =>
    have hts : c.sections.mapM section? = some ts := heq
    simp [hts]
  next heq =>
    have hts : c.sections.mapM section? = none := heq
    simp [hts]

/-- Where each part that is written tells what it stands for, so do all of them. -/
theorem exists_parts {α β γ : Type} {f : α → Option String} {value : α → β} {write : γ → String} {told : γ → β}
    {as : List α} {ts : List String} (h : as.mapM f = some ts)
    (hpart : ∀ a ∈ as, ∀ t, f a = some t → ∃ p, write p = t ∧ told p = value a) :
    ∃ ps : List γ, ps.map write = ts ∧ ps.map told = as.map value := by
  induction as generalizing ts with
  | nil =>
    cases h
    exact ⟨[], rfl, rfl⟩
  | cons a as ih =>
    obtain ⟨ha, has⟩ := List.forall_mem_cons.mp hpart
    simp only [List.mapM_cons, Option.bind_eq_bind, Option.pure_def, Option.bind_eq_some_iff, Option.some.injEq] at h
    obtain ⟨t, ht, us, hus, rfl⟩ := h
    obtain ⟨p, rfl, hp⟩ := ha t ht
    obtain ⟨ps, rfl, hps⟩ := ih hus has
    exact ⟨p :: ps, rfl, by rw [List.map_cons, List.map_cons, hp, hps]⟩

def entryValue (e : String × Setting) : String × Value := (e.1, e.2.value)

theorem exists_line {e : String × Setting} (hbare : Bare e.1) (h : line? e = some text) :
    ∃ l : Line, l.write = text ∧ (l.key, l.value) = entryValue e := by
  obtain ⟨key, s⟩ := e
  simp only [line?, Option.bind_eq_bind, Option.pure_def, Option.bind_eq_some_iff, Option.some.injEq] at h
  obtain ⟨t, ht, rfl⟩ := h
  exact ⟨⟨key, t, s.value, hbare, Setting.spells ht⟩, rfl, rfl⟩

def sectionValue (e : String × List (String × Setting)) : String × Value := (e.1, .table (e.2.map entryValue))

theorem exists_section {e : String × List (String × Setting)} (hbare : Bare e.1) (hkeys : ∀ s ∈ e.2, Bare s.1)
    (hdistinct : (e.2.map (·.1)).Nodup) (h : section? e = some text) :
    ∃ s : Section, s.write = text ∧ s.value = sectionValue e := by
  obtain ⟨name, settings⟩ := e
  simp only [section?, Option.bind_eq_bind, Option.pure_def, Option.bind_eq_some_iff, Option.some.injEq] at h
  obtain ⟨ts, hts, rfl⟩ := h
  obtain ⟨ls, rfl, hls⟩ := exists_parts hts fun e he t ht => exists_line (hkeys e he) ht
  have hnames : ls.map (·.key) = settings.map (·.1) := by
    simpa [entryValue, Function.comp_def] using congrArg (List.map (·.1)) hls
  refine ⟨⟨name, ls, hbare, hnames ▸ hdistinct⟩, rfl, ?_⟩
  rw [Section.value, hls, sectionValue]

def outline (c : Config) : List (String × List String) := c.sections.map fun e => (e.1, e.2.map (·.1))

theorem outline_eq (c : Config) : c.outline = ({} : Config).outline := rfl

/-- The names of sections and settings are keys as they stand, and no two of them are the same. -/
theorem names_sections (c : Config) : (c.sections.map (·.1)).Nodup ∧
    ∀ e ∈ c.sections, Bare e.1 ∧ (∀ s ∈ e.2, Bare s.1) ∧ (e.2.map (·.1)).Nodup := by
  have hnames : (c.outline.map (·.1)).Nodup ∧ ∀ o ∈ c.outline, Bare o.1 ∧ (∀ k ∈ o.2, Bare k) ∧ o.2.Nodup := by
    rw [outline_eq]
    decide +kernel
  simpa only [outline, List.map_map, Function.comp_def, List.forall_mem_map] using hnames

/-- A saved text is a document of the sections as they are. -/
theorem parse?_toToml (h : c.toToml = .ok text) : parse? text = some (.table (c.sections.map sectionValue)) := by
  obtain ⟨hdistinct, hbare⟩ := names_sections c
  obtain ⟨ts, hts, rfl⟩ := toToml_eq_ok_iff.mp h
  obtain ⟨ss, rfl, hss⟩ := exists_parts hts fun e he t ht =>
    exists_section (hbare e he).1 (hbare e he).2.1 (hbare e he).2.2 ht
  have hnames : ss.map (·.name) = c.sections.map (·.1) := by
    simpa [Section.value, sectionValue, Function.comp_def] using congrArg (List.map (·.1)) hss
  rw [parse?_intercalate ss (hnames ▸ hdistinct), hss]

/-! ### From the document to the configuration -/

/-- A span as it is read back: its milliseconds as far as a word holds them. -/
def reread (d : Duration) : Duration := .ofMillis (d.millis % 2 ^ 64)

theorem word?_integer (n : UInt64) : Value.word? (.integer n.toNat) = some n := by
  simp [Value.word?]

theorem millis?_span (d : Duration) : Value.millis? (Setting.span d).value = some (reread d) := by
  rw [Setting.value, Value.millis?, word?_integer]
  rfl

theorem word?_number (n : UInt64) : Value.word? (Setting.number n).value = some n := word?_integer n

theorem text?_text (s : String) : Value.text? (Setting.text s).value = some s := rfl

theorem bool?_flag (b : Bool) : Value.bool? (Setting.flag b).value = some b := rfl

theorem keyword?_bodyFormat (f : BodyFormat) :
    Value.keyword? BodyFormat.ofWord? (Setting.text f.word).value = some f := by
  cases f <;> decide +kernel

theorem keyword?_token (f : Option TokenFormat) :
    Value.keyword? TokenFormat.ofWord? (Setting.text (TokenFormat.word f)).value = some f := by
  rcases f with _ | f
  · decide +kernel
  · cases f <;> decide +kernel

theorem lookup_of_mem {α : Type} {es : List (String × α)} (h : (es.map (·.1)).Nodup) :
    ∀ e ∈ es, es.lookup e.1 = some e.2 := by
  induction es with
  | nil => exact nofun
  | cons e' es ih =>
    obtain ⟨hnew, hes⟩ := List.nodup_cons.mp h
    intro e he
    rcases List.mem_cons.mp he with rfl | he
    · rw [List.lookup_cons, beq_self_eq_true]
    · have hne : e.1 ≠ e'.1 := fun heq => hnew (List.mem_map.mpr ⟨e, he, heq⟩)
      rw [List.lookup_cons, beq_eq_false_iff_ne.mpr hne]
      exact ih hes e he

theorem lookup_sections (c : Config) :
    ∀ e ∈ c.sections, (c.sections.map sectionValue).lookup e.1 = some (.table (e.2.map entryValue)) := by
  intro e he
  have hdistinct : ((c.sections.map sectionValue).map (·.1)).Nodup := by
    simpa only [List.map_map, Function.comp_def, sectionValue] using (names_sections c).1
  exact lookup_of_mem hdistinct (sectionValue e) (List.mem_map_of_mem he)

theorem lookup_settings (c : Config) :
    ∀ e ∈ c.sections, ∀ s ∈ e.2, (e.2.map entryValue).lookup s.1 = some s.2.value := by
  intro e he s hs
  have hdistinct : ((e.2.map entryValue).map (·.1)).Nodup := by
    simpa only [List.map_map, Function.comp_def, entryValue] using ((names_sections c).2 e he).2.2
  exact lookup_of_mem hdistinct (entryValue s) (List.mem_map_of_mem hs)

/-- The sections as they are written make the configuration again but for its spans. -/
theorem ofValue?_sections (c : Config) :
    ofValue? (.table (c.sections.map sectionValue)) = some (c.mapSpans reread) := by
  have hsections := lookup_sections c
  have hsettings := lookup_settings c
  generalize c.sections.map sectionValue = es at hsections
  simp only [sections, List.forall_mem_cons, List.not_mem_nil, false_imp_iff, implies_true, and_true]
    at hsections hsettings
  obtain ⟨hserver, hcodec, hcluster, hlogging⟩ := hsections
  obtain ⟨⟨haddress, hconnections, hqueue, hidle, hshutdown, hconnect⟩, ⟨hformat, htoken⟩,
    ⟨hcoordinator, hlogin, hnodes, hwindow, httl, hcapacity⟩, hname, hlevel, hjson⟩ := hsettings
  simp only [ofValue?, ServerConfig.ofToml?, CodecConfig.ofToml?, ClusterConfig.ofToml?, LoggingConfig.ofToml?,
    Value.settings?, Value.setting?, Option.bind_eq_bind, Option.bind_some, Option.pure_def, hserver, hcodec, hcluster,
    hlogging, haddress, hconnections, hqueue, hidle, hshutdown, hconnect, hformat, htoken, hcoordinator, hlogin, hnodes,
    hwindow, httl, hcapacity, hname, hlevel, hjson, text?_text, word?_number, millis?_span, keyword?_bodyFormat,
    keyword?_token, Lookup.level_word, bool?_flag, mapSpans]

theorem toToml_of_save {directory : Bool} (h : c.save directory = .ok text) : c.toToml = .ok text := by
  cases ht : c.toToml with
  | error e =>
    rw [save, ht] at h
    cases h
  | ok t =>
    cases directory with
    | true =>
      rw [save, ht] at h
      exact h
    | false =>
      rw [save, ht] at h
      cases h

theorem ofFile_of_save {directory : Bool} (h : c.save directory = .ok text) :
    ofFile (some (utf8 text)) = .ok (c.mapSpans reread) := by
  rw [ofFile, utf8?_utf8]
  dsimp only
  rw [ofToml, parse?_toToml (toToml_of_save h), Option.bind_some, ofValue?_sections]

/-! ### What the check finds -/

theorem millis_reread (d : Duration) : (reread d).millis = d.millis % 2 ^ 64 :=
  Duration.millis_ofMillis (Nat.mod_lt _ (by decide))

theorem nanos_reread (d : Duration) : (reread d).nanos = 1000000 * (d.millis % 2 ^ 64) :=
  Duration.nanos_ofMillis (Nat.mod_lt _ (by decide))

theorem nanos_reread_le (d : Duration) : (reread d).nanos ≤ d.nanos := by
  rw [nanos_reread]
  exact Nat.le_trans (Nat.mul_le_mul_left _ (Nat.mod_le ..)) (Nat.mul_div_le ..)

theorem reread_eq_trimmed_iff : reread d = d.trimmed ↔ d.millis < 2 ^ 64 := by
  constructor
  · intro h
    have hmillis := congrArg Duration.millis h
    rw [millis_reread, Duration.millis_trimmed] at hmillis
    exact hmillis ▸ Nat.mod_lt _ (by decide)
  · intro h
    rw [reread, Nat.mod_eq_of_lt h, Duration.ofMillis_millis h]

/-- Of a server's promises, those of the shortest spans may be lost. -/
theorem valid_server_iff (h : c.server.Valid) : (c.mapSpans reread).server.Valid ↔
    100 ≤ c.server.idleTimeout.millis % 2 ^ 64 ∧ 10 ≤ c.server.connectTimeout.millis % 2 ^ 64 := by
  have hshutdown : (reread c.server.shutdownTimeout).seconds ≤ 60 :=
    Nat.le_trans (Nat.div_le_div_right (nanos_reread_le _)) h.shutdownTimeout
  rw [← millis_reread, ← millis_reread]
  exact ⟨fun hv => ⟨hv.idleTimeout, hv.connectTimeout⟩,
    fun ⟨hi, hc⟩ => ⟨h.named, h.address, h.connections, h.queue, h.queueLimit, hi, hshutdown, hc⟩⟩

theorem valid_cluster_iff (h : c.cluster.Valid) : (c.mapSpans reread).cluster.Valid ↔
    c.cluster.loginTimeout.millis % 2 ^ 64 ≠ 0 ∧ c.cluster.timestampWindow.millis % 2 ^ 64 ≠ 0 ∧
      2 * (c.cluster.timestampWindow.millis % 2 ^ 64) ≤ c.cluster.replayTtl.millis % 2 ^ 64 := by
  have hlogin := nanos_reread c.cluster.loginTimeout
  have hwindow := nanos_reread c.cluster.timestampWindow
  have httl := nanos_reread c.cluster.replayTtl
  have hvalid : (c.mapSpans reread).cluster.Valid ↔ (reread c.cluster.loginTimeout).nanos ≠ 0 ∧
      (reread c.cluster.timestampWindow).nanos ≠ 0 ∧
      2 * (reread c.cluster.timestampWindow).nanos ≤ (reread c.cluster.replayTtl).nanos :=
    ⟨fun hv => ⟨hv.loginTimeout, hv.window, hv.replayTtl⟩,
      fun ⟨hl, hw, ht⟩ => ⟨h.address, hl, h.maxNodes, hw, ht, h.replayCapacity⟩⟩
  rw [hvalid]
  omega

theorem problems_reread_iff (h : c.problems = .ok []) : (c.mapSpans reread).problems = .ok [] ↔
    (100 ≤ c.server.idleTimeout.millis % 2 ^ 64 ∧ 10 ≤ c.server.connectTimeout.millis % 2 ^ 64) ∧
    c.cluster.loginTimeout.millis % 2 ^ 64 ≠ 0 ∧ c.cluster.timestampWindow.millis % 2 ^ 64 ≠ 0 ∧
      2 * (c.cluster.timestampWindow.millis % 2 ^ 64) ≤ c.cluster.replayTtl.millis % 2 ^ 64 := by
  obtain ⟨hserver, hcluster, hlogging⟩ := problems_eq_nil_iff.mp h
  have hlogging' : (c.mapSpans reread).logging.problems = [] := hlogging
  rw [problems_eq_nil_iff, valid_server_iff hserver, valid_cluster_iff hcluster]
  simp only [hlogging', and_true]

/-- A configuration that the check finds nothing wrong with, saved and loaded, is the same but for its spans, of which
the milliseconds are kept as far as a word holds them. So each span has lost its part below a millisecond and nothing
else exactly if a word holds all of them. The check finds nothing wrong with what is loaded exactly if what is left of
five spans is still long enough; where no word is exceeded, this is whether login timeout and timestamp window have
lasted a millisecond at least. -/
theorem saved_and_loaded (c : Config) (directory : Bool) (text : String) (hp : c.problems = .ok [])
    (hs : c.save directory = .ok text) :
    ofFile (some (utf8 text)) = .ok (c.mapSpans reread) ∧
    (c.mapSpans reread = c.mapSpans .trimmed ↔ ∀ d ∈ c.spans, d.millis < 2 ^ 64) ∧
    ((c.mapSpans reread).problems = .ok [] ↔
      (100 ≤ c.server.idleTimeout.millis % 2 ^ 64 ∧ 10 ≤ c.server.connectTimeout.millis % 2 ^ 64) ∧
      c.cluster.loginTimeout.millis % 2 ^ 64 ≠ 0 ∧ c.cluster.timestampWindow.millis % 2 ^ 64 ≠ 0 ∧
        2 * (c.cluster.timestampWindow.millis % 2 ^ 64) ≤ c.cluster.replayTtl.millis % 2 ^ 64) ∧
    ((∀ d ∈ c.spans, d.millis < 2 ^ 64) → ((c.mapSpans reread).problems = .ok [] ↔
      1 ≤ c.cluster.loginTimeout.millis ∧ 1 ≤ c.cluster.timestampWindow.millis)) := by
  refine ⟨ofFile_of_save hs, ?_, problems_reread_iff hp, fun hall => ?_⟩
  · simp only [mapSpans_eq_iff, reread_eq_trimmed_iff]
  · obtain ⟨hserver, hcluster, -⟩ := problems_eq_nil_iff.mp hp
    have hidle := hserver.idleTimeout
    have hconnect := hserver.connectTimeout
    have httl : 2 * c.cluster.timestampWindow.millis ≤ c.cluster.replayTtl.millis := by
      have := hcluster.replayTtl
      rw [Duration.millis, Duration.millis]
      omega
    simp only [spans, List.forall_mem_cons] at hall
    obtain ⟨hi, -, hc, hl, hw, ht, -⟩ := hall
    rw [problems_reread_iff hp, Nat.mod_eq_of_lt hi, Nat.mod_eq_of_lt hc, Nat.mod_eq_of_lt hl, Nat.mod_eq_of_lt hw,
      Nat.mod_eq_of_lt ht]
    omega

theorem exists_save {directory : Bool} (h : (c.save directory).isOk) : ∃ text, c.save directory = .ok text := by
  cases hs : c.save directory with
  | error e =>
    rw [hs] at h
    cases h
  | ok text => exact ⟨text, rfl⟩

/-- A name that neither kind of quotes holds as it is, and a second that lacks a nanosecond. -/
theorem saved_and_loaded_with_quotes :
    let c : Config := {
      cluster := { loginTimeout := .ofNanos 999999999 }
      logging := { appName := "north \"\"\"gate'''\\\n" } }
    c.problems = .ok [] ∧ ∃ text, c.save true = .ok text ∧
      ofFile (some (utf8 text)) = .ok (c.mapSpans .trimmed) ∧ (c.mapSpans .trimmed).problems = .ok [] := by
  intro c
  have hp : c.problems = .ok [] := by decide +kernel
  have hspans : ∀ d ∈ c.spans, d.millis < 2 ^ 64 := by decide +kernel
  have hlong : 1 ≤ c.cluster.loginTimeout.millis ∧ 1 ≤ c.cluster.timestampWindow.millis := by decide +kernel
  obtain ⟨text, hs⟩ := exists_save (by decide +kernel : (c.save true).isOk)
  obtain ⟨hload, htrimmed, -, hproblems⟩ := saved_and_loaded c true text hp hs
  rw [htrimmed.mpr hspans] at hload hproblems
  exact ⟨hp, text, hs, hload, (hproblems hspans).mpr hlong⟩

/-- Two configurations that the check finds nothing wrong with are loaded with a problem: one has half a millisecond
for a login, and of the other's idle timeout a word holds five milliseconds. -/
theorem loads_problems_after_saving :
    (let c : Config := { cluster := { loginTimeout := .ofNanos 500000 } };
      c.problems = .ok [] ∧ ∃ text, c.save true = .ok text ∧ ofFile (some (utf8 text)) = .ok (c.mapSpans reread) ∧
        (c.mapSpans reread).problems = .ok [.noLoginTime]) ∧
    (let c : Config := { server := { idleTimeout := .ofMillis (2 ^ 64 + 5) } };
      c.problems = .ok [] ∧ ∃ text, c.save true = .ok text ∧ ofFile (some (utf8 text)) = .ok (c.mapSpans reread) ∧
        c.mapSpans reread ≠ c.mapSpans .trimmed ∧ (c.mapSpans reread).problems = .ok [.shortIdle]) := by
  constructor
  · intro c
    obtain ⟨text, hs⟩ := exists_save (by decide +kernel : (c.save true).isOk)
    exact ⟨by decide +kernel, text, hs, ofFile_of_save hs, by decide +kernel⟩
  · intro c
    obtain ⟨text, hs⟩ := exists_save (by decide +kernel : (c.save true).isOk)
    exact ⟨by decide +kernel, text, hs, ofFile_of_save hs, by decide +kernel, by decide +kernel⟩

end Config

end FrameGateway

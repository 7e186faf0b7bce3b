import FrameGateway.Config.Environment
import FrameGateway.Proofs.Config.Spans
import FrameGateway.Proofs.Text.Number
/-! Configurations from texts under keys. Each setting that has a key is told by the text under that key alone,
and the first text that cannot be read is the fault (`Config.settings_by_key`). Four settings have no key, so
that texts make just those configurations that leave them at their defaults. -/

namespace FrameGateway

/-- A setting with a key: how its text is read and written, and where it stands in a configuration. -/
structure KeyedSetting where
  {α : Type}
  key : String
  read : String → Option α
  write : α → String
  get : Config → α

namespace Lookup

def wordText (n : UInt64) : String := toString n.toNat

def millisText (d : Duration) : String := toString d.millis

def keyedSettings : List KeyedSetting := [
  ⟨"SERVER_ADDRESS", some, id, (·.server.address)⟩,
  ⟨"MAX_CONNECTIONS", word?, wordText, (·.server.maxConnections)⟩,
  ⟨"SESSION_QUEUE_CAPACITY", word?, wordText, (·.server.queueCapacity)⟩,
  ⟨"IDLE_TIMEOUT_MS", millis?, millisText, (·.server.idleTimeout)⟩,
  ⟨"SHUTDOWN_TIMEOUT_MS", millis?, millisText, (·.server.shutdownTimeout)⟩,
  ⟨"BODY_FORMAT", keyword? BodyFormat.ofWord?, BodyFormat.word, (·.codec.bodyFormat)⟩,
  ⟨"PREFIX", keyword? TokenFormat.ofWord?, TokenFormat.word, (·.codec.token)⟩,
  ⟨"COORDINATOR_ADDRESS", some, id, (·.cluster.coordinatorAddress)⟩,
  ⟨"LOGIN_TIMEOUT_MS", millis?, millisText, (·.cluster.loginTimeout)⟩,
  ⟨"MAX_NODES", word?, wordText, (·.cluster.maxNodes)⟩,
  ⟨"TIMESTAMP_WINDOW_MS", millis?, millisText, (·.cluster.timestampWindow)⟩,
  ⟨"LOG_LEVEL", LogLevel.ofText?, LogLevel.word, (·.logging.level)⟩,
  ⟨"LOG_JSON", bool?, fun b => if b then "true" else "false", (·.logging.json)⟩]

variable {α β : Type} {l : Lookup} {k : KeyedSetting} {c c' : Config}

/-! ### One key -/

/-- What the text under the key tells, its default where there is none, and nothing where the text is refused. -/
def value? (l : Lookup) (k : KeyedSetting) : Option k.α := match l k.key with
  | none => some (k.get {})
  | some v => k.read v

def refusal? (l : Lookup) (key : String) (f : String → Option α) : Option Fault :=
  (l key).bind fun v => if (f v).isNone then some (bad key v) else none

theorem refusal?_eq_none_iff : l.refusal? k.key k.read = none ↔ (l.value? k).isSome := by
  rw [refusal?, value?]
  cases l k.key with
  | none => simp
  | some v =>
    cases hv : k.read v with
    | none => simp [hv]
    | some a => simp [hv]

def valueD (l : Lookup) (key : String) (f : String → Option α) (default : α) : α := ((l key).bind f).getD default

theorem value?_of_refusal?_eq_none (h : l.refusal? k.key k.read = none) :
    l.value? k = some (l.valueD k.key k.read (k.get {})) := by
  have hs := refusal?_eq_none_iff.mp h
  rw [value?] at hs ⊢
  rw [valueD]
  cases hl : l k.key with
  | none => rfl
  | some v =>
    rw [hl] at hs
    obtain ⟨a, ha⟩ := Option.isSome_iff_exists.mp hs
    simp only [Option.bind_some, ha, Option.getD_some]

/-- A key that is refused ends the reading. -/
theorem read_bind (l : Lookup) (key : String) (f : String → Option α) (default : α) (g : α → Except Fault β) :
    (l.read key f default >>= g) = (l.refusal? key f).elim (g (l.valueD key f default)) .error := by
  rw [read, refusal?, valueD]
  cases l key with
  | none => rfl
  | some v =>
    cases hv : f v with
    | none => simp [hv, bind, Except.bind]
    | some a => simp [hv, bind, Except.bind]

/-! ### All keys -/

/-- What the texts make of the defaults where nothing is refused. -/
def config (l : Lookup) : Config :=
  let d : Config := {}
  { server := { d.server with
      address := l.valueD "SERVER_ADDRESS" some d.server.address
      maxConnections := l.valueD "MAX_CONNECTIONS" word? d.server.maxConnections
      queueCapacity := l.valueD "SESSION_QUEUE_CAPACITY" word? d.server.queueCapacity
      idleTimeout := l.valueD "IDLE_TIMEOUT_MS" millis? d.server.idleTimeout
      shutdownTimeout := l.valueD "SHUTDOWN_TIMEOUT_MS" millis? d.server.shutdownTimeout }
    codec := {
      bodyFormat := l.valueD "BODY_FORMAT" (keyword? BodyFormat.ofWord?) d.codec.bodyFormat
      token := l.valueD "PREFIX" (keyword? TokenFormat.ofWord?) d.codec.token }
    cluster := { d.cluster with
      coordinatorAddress := l.valueD "COORDINATOR_ADDRESS" some d.cluster.coordinatorAddress
      loginTimeout := l.valueD "LOGIN_TIMEOUT_MS" millis? d.cluster.loginTimeout
      maxNodes := l.valueD "MAX_NODES" word? d.cluster.maxNodes
      timestampWindow := l.valueD "TIMESTAMP_WINDOW_MS" millis? d.cluster.timestampWindow }
    logging := { d.logging with
      level := l.valueD "LOG_LEVEL" LogLevel.ofText? d.logging.level
      json := l.valueD "LOG_JSON" bool? d.logging.json } }

theorem get_config (l : Lookup) : ∀ k ∈ keyedSettings, k.get l.config = l.valueD k.key k.read (k.get {}) := by
  simp only [keyedSettings, List.forall_mem_cons]
  exact ⟨rfl, rfl, rfl, rfl, rfl, rfl, rfl, rfl, rfl, rfl, rfl, rfl, rfl, nofun⟩

def firstRefusal? (l : Lookup) : Option Fault := keyedSettings.findSome? fun k => l.refusal? k.key k.read

theorem findSome?_cons_elim {ι : Type 1} {ε : Type} (f : ι → Option ε) (i : ι) (is : List ι) (x : β) (g : ε → β) :
    ((i :: is).findSome? f).elim x g = (f i).elim ((is.findSome? f).elim x g) g := by
  rw [List.findSome?_cons]
  cases f i with
  | none => rfl
  | some e => rfl

theorem ofLookup_eq (l : Lookup) : Config.ofLookup l = l.firstRefusal?.elim (.ok l.config) .error := by
  simp only [Config.ofLookup, read_bind, firstRefusal?, keyedSettings, findSome?_cons_elim, List.findSome?_nil,
    Option.elim_none]
  rfl

def unkeyed (c : Config) : Duration × Duration × UInt64 × String :=
  (c.server.connectTimeout, c.cluster.replayTtl, c.cluster.replayCapacity, c.logging.appName)

/-- With and without a key, these are all settings. -/
theorem eq_of_settings (hkeyed : ∀ k ∈ keyedSettings, k.get c = k.get c') (hrest : unkeyed c = unkeyed c') :
    c = c' := by
  obtain ⟨⟨⟩, ⟨⟩, ⟨⟩, ⟨⟩⟩ := c
  obtain ⟨⟨⟩, ⟨⟩, ⟨⟩, ⟨⟩⟩ := c'
  simp only [keyedSettings, List.forall_mem_cons] at hkeyed
  simp only [unkeyed, Prod.mk.injEq] at hrest
  simp [hkeyed, hrest]

theorem firstRefusal?_eq_none_iff : l.firstRefusal? = none ↔ ∀ k ∈ keyedSettings, (l.value? k).isSome := by
  simp only [firstRefusal?, List.findSome?_eq_none_iff, refusal?_eq_none_iff]

theorem ofLookup_eq_ok_iff : Config.ofLookup l = .ok c ↔
    (∀ k ∈ keyedSettings, l.value? k = some (k.get c)) ∧ unkeyed c = unkeyed {} := by
  rw [ofLookup_eq]
  cases hr : l.firstRefusal? with
  | none =>
    have hvalue : ∀ k ∈ keyedSettings, l.value? k = some (k.get l.config) := by
      intro k hk
      rw [get_config l k hk]
      exact value?_of_refusal?_eq_none (List.findSome?_eq_none_iff.mp hr k hk)
    rw [Option.elim_none, Except.ok.injEq]
    constructor
    · rintro rfl
      exact ⟨hvalue, rfl⟩
    · rintro ⟨hkeyed, hrest⟩
      have hsame : ∀ k ∈ keyedSettings, k.get l.config = k.get c := fun k hk =>
        Option.some.inj ((hvalue k hk).symm.trans (hkeyed k hk))
      exact eq_of_settings hsame hrest.symm
  | some e =>
    rw [Option.elim_some]
    refine ⟨nofun, fun ⟨hkeyed, _⟩ => ?_⟩
    have hnone : l.firstRefusal? = none :=
      firstRefusal?_eq_none_iff.mpr fun k hk => by rw [hkeyed k hk, Option.isSome_some]
    rw [hnone] at hr
    cases hr

theorem ofLookup_eq_error_iff {e : Fault} : Config.ofLookup l = .error e ↔ l.firstRefusal? = some e := by
  rw [ofLookup_eq]
  cases l.firstRefusal? with
  | none => simp
  | some e' => simp

theorem isSome_firstRefusal?_iff : l.firstRefusal?.isSome ↔
    ∃ k ∈ keyedSettings, ∃ v, l k.key = some v ∧ k.read v = none := by
  have hkey : ∀ k : KeyedSetting, (l.refusal? k.key k.read).isSome ↔ ∃ v, l k.key = some v ∧ k.read v = none := by
    intro k
    rw [refusal?]
    cases l k.key with
    | none => simp
    | some v => cases hv : k.read v <;> simp [hv]
  simp only [firstRefusal?, List.findSome?_isSome_iff, hkey]

/-! ### Texts for a configuration -/

section Texts

theorem word?_wordText (n : UInt64) : word? (wordText n) = some n := by
  rw [word?, wordText, trimBlanks_toString, natural?_toString n.toNat_lt, Option.map_some, UInt64.ofNat_toNat]

theorem millis?_millisText {d : Duration} (h : d.Whole) : millis? (millisText d) = some d := by
  rw [millis?, millisText, trimBlanks_toString, natural?_toString h.2, Option.map_some, h.ofMillis_millis]

theorem whole_of_millis? {d : Duration} {v : String} (h : millis? v = some d) : d.Whole := by
  obtain ⟨n, hn, rfl⟩ := Option.map_eq_some_iff.mp h
  exact Duration.whole_ofMillis (natural?_lt hn)

theorem bodyFormat_word (f : BodyFormat) : keyword? BodyFormat.ofWord? f.word = some f := by
  cases f <;> decide +kernel

theorem token_word (f : Option TokenFormat) : keyword? TokenFormat.ofWord? (TokenFormat.word f) = some f := by
  rcases f with _ | f
  · decide +kernel
  · cases f <;> decide +kernel

theorem level_word (l : LogLevel) : LogLevel.ofText? l.word = some l := by cases l <;> decide +kernel

theorem bool_word (b : Bool) : bool? (if b then "true" else "false") = some b := by cases b <;> decide +kernel

/-- The spans of time that have keys. -/
def keyedSpans (c : Config) : List Duration :=
  [c.server.idleTimeout, c.server.shutdownTimeout, c.cluster.loginTimeout, c.cluster.timestampWindow]

theorem read_write (h : ∀ d ∈ keyedSpans c, d.Whole) :
    ∀ k ∈ keyedSettings, k.read (k.write (k.get c)) = some (k.get c) := by
  simp only [keyedSpans, List.forall_mem_cons] at h
  obtain ⟨hidle, hshutdown, hlogin, hwindow, -⟩ := h
  simp only [keyedSettings, List.forall_mem_cons]
  exact ⟨rfl, word?_wordText _, word?_wordText _, millis?_millisText hidle, millis?_millisText hshutdown,
    bodyFormat_word _, token_word _, rfl, millis?_millisText hlogin, word?_wordText _, millis?_millisText hwindow,
    level_word _, bool_word _, nofun⟩

theorem nodup_keys : (keyedSettings.map (·.key)).Nodup := by decide

theorem find?_key {ks : List KeyedSetting} (h : (ks.map (·.key)).Nodup) (hk : k ∈ ks) :
    ks.find? (·.key == k.key) = some k := by
  induction ks with
  | nil => cases hk
  | cons k' ks ih =>
    rw [List.map_cons, List.nodup_cons] at h
    rcases List.mem_cons.mp hk with rfl | hk
    · exact List.find?_cons_of_pos (beq_self_eq_true _)
    · have hne : k'.key ≠ k.key := fun he => h.1 (he ▸ List.mem_map_of_mem hk)
      rw [List.find?_cons_of_neg (by simpa using hne), ih h.2 hk]

/-- A text under every key, for each of its settings. -/
def texts (c : Config) : Lookup := fun key =>
  (keyedSettings.find? (·.key == key)).map fun k => k.write (k.get c)

theorem ofLookup_texts (hspans : ∀ d ∈ keyedSpans c, d.Whole) (hrest : unkeyed c = unkeyed {}) :
    Config.ofLookup (texts c) = .ok c := by
  refine ofLookup_eq_ok_iff.mpr ⟨fun k hk => ?_, hrest⟩
  rw [value?, texts, find?_key nodup_keys hk]
  exact read_write hspans k hk

theorem whole_of_value? {key : String} {get : Config → Duration} {d : Duration}
    (h : l.value? ⟨key, millis?, millisText, get⟩ = some d) (hdefault : (get {}).Whole) : d.Whole := by
  rw [value?] at h
  dsimp only at h
  split at h
  · exact Option.some.inj h ▸ hdefault
  · exact whole_of_millis? h

/-- Texts tell nothing below the millisecond, and nothing past a word. -/
theorem whole_of_ofLookup (h : Config.ofLookup l = .ok c) : ∀ d ∈ keyedSpans c, d.Whole := by
  have hkeyed := (ofLookup_eq_ok_iff.mp h).1
  simp only [keyedSettings, List.forall_mem_cons] at hkeyed
  obtain ⟨-, -, -, hidle, hshutdown, -, -, -, hlogin, -, hwindow, -⟩ := hkeyed
  simp only [keyedSpans, List.forall_mem_cons]
  exact ⟨whole_of_value? hidle (by decide), whole_of_value? hshutdown (by decide), whole_of_value? hlogin (by decide),
    whole_of_value? hwindow (by decide), nofun⟩

end Texts

end Lookup

namespace Config

open Lookup

/-- Each key has one setting. Whatever the texts, the reading ends with a fault exactly if some text is refused
under its key, and the fault is that of the first one; else it gives the one configuration in which every setting
with a key is what the text under that key tells, or its default where there is none, and every other setting its
default. So a setting does not depend on the texts under other keys. The configurations that come about are those
whose spans with keys are whole milliseconds that a word holds, and whose settings without keys are at their
defaults. -/
theorem settings_by_key (l : Lookup) (c : Config) :
    (keyedSettings.map (·.key)).Nodup ∧
    ((∃ e, ofLookup l = .error e) ↔ ∃ k ∈ keyedSettings, ∃ v, l k.key = some v ∧ k.read v = none) ∧
    (∀ e, ofLookup l = .error e ↔ (keyedSettings.findSome? fun k => l.refusal? k.key k.read) = some e) ∧
    (ofLookup l = .ok c ↔ (∀ k ∈ keyedSettings, l.value? k = some (k.get c)) ∧ unkeyed c = unkeyed {}) ∧
    (∀ l' c', ofLookup l = .ok c → ofLookup l' = .ok c' →
      ∀ k ∈ keyedSettings, l k.key = l' k.key → k.get c = k.get c') ∧
    ((∃ l', ofLookup l' = .ok c) ↔ (∀ d ∈ keyedSpans c, d.Whole) ∧ unkeyed c = unkeyed {}) := by
  refine ⟨nodup_keys, ?_, fun e => ofLookup_eq_error_iff, ofLookup_eq_ok_iff, fun l' c' h h' k hmem hsame => ?_,
    fun ⟨l', h⟩ => ?_, fun ⟨hspans, hrest⟩ => ?_⟩
  · simp only [ofLookup_eq_error_iff]
    rw [← Option.isSome_iff_exists, isSome_firstRefusal?_iff]
  · have hk := (ofLookup_eq_ok_iff.mp h).1 k hmem
    have hk' := (ofLookup_eq_ok_iff.mp h').1 k hmem
    rw [value?, hsame] at hk
    exact Option.some.inj (hk.symm.trans hk')
  · exact ⟨whole_of_ofLookup h, (ofLookup_eq_ok_iff.mp h).2⟩
  · exact ⟨texts c, ofLookup_texts hspans hrest⟩

/-- The routing token is the same whatever is said of the nodes. -/
theorem settings_by_key_of_token :
    let l : Lookup := fun key => if key = "PREFIX" then some " U64 " else none
    let l' : Lookup := fun key => if key = "MAX_NODES" then some "+7" else l key
    let c : Config := { codec := { token := some .u64 } }
    let c' : Config := { c with cluster := { maxNodes := 7 } }
    ofLookup l = .ok c ∧ ofLookup l' = .ok c' ∧ l "PREFIX" = l' "PREFIX" ∧ c.codec.token = c'.codec.token := by
  intro l l' c c'
  have h : ofLookup l = .ok c := by decide +kernel
  have h' : ofLookup l' = .ok c' := by decide +kernel
  have hsame : l "PREFIX" = l' "PREFIX" := rfl
  let token : KeyedSetting :=
    ⟨"PREFIX", keyword? TokenFormat.ofWord?, TokenFormat.word, (·.codec.token)⟩
  have hmem : token ∈ keyedSettings := by simp [keyedSettings, token]
  obtain ⟨-, -, -, -, hapart, -⟩ := settings_by_key l c
  exact ⟨h, h', hsame, hapart l' c' h h' token hmem hsame⟩

/-- No texts make a configuration that waits nine seconds for a connection. -/
theorem no_text_for_connect_timeout : ¬∀ c : Config, (∀ d ∈ c.spans, d.Whole) → ∃ l, ofLookup l = .ok c := by
  intro h
  let patient : Config := { server := { connectTimeout := .ofSeconds 9 } }
  have hwhole : ∀ d ∈ patient.spans, d.Whole := by decide
  obtain ⟨l, hl⟩ := h patient hwhole
  have hrest : unkeyed patient = unkeyed {} := (ofLookup_eq_ok_iff.mp hl).2
  exact absurd hrest (by decide)

end Config

end FrameGateway

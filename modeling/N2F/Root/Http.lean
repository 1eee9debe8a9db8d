import N2F.Root.ConfigSafety

set_option autoImplicit false

namespace N2F.Root

open Ecma Env Stateful

-- The paths of startHTTP with their operations; the last three are test routes.
def routes (testRoutes : Bool) : List (String × String) :=
  [("/_examples/outbound", "http.example.outbound"), ("/livez", "health.live"), ("/readyz", "health.ready"),
    ("/_examples/http/success", "http.example.success"), ("/_examples/http/conflict", "http.example.conflict"),
    ("/_examples/http/unavailable", "http.example.unavailable"), ("/_examples/http/unknown", "http.example.unknown")] ++
    if testRoutes then
      [("/_examples/http/panic", "http.example.panic"), ("/_examples/http/delay", "http.example.delay"),
        ("/_examples/http/context", "http.example.context")]
    else []

def loggerOptions (c : Config) (terminal : Bool) : Logger.Options :=
  ⟨c.format, c.level, c.color, terminal, c.noColor, c.capacity, c.maxBytes, c.resource.name⟩

def identified (c : HTTPConfig) (id : Str) : Telemetry.Config :=
  { c.telemetry with
    resource :=
      [(str "service.name", c.base.resource.name), (str "service.namespace", c.base.resource.group),
        (str "service.version", c.base.resource.version), (str "service.instance.id", id),
        (str "deployment.environment.name", c.base.resource.environment)] }

def serverSettings (c : HTTPConfig) : Http.Settings :=
  ⟨(routes c.testRoutes).map fun route => str route.1, c.timeoutMs, Number.ofInt 1048576, Number.ofInt 64⟩

def outboundSettings (c : HTTPConfig) : HttpClient.Settings :=
  ⟨c.outboundOrigin, Number.ofInt 500, Number.ofInt 65536, Number.ofInt 65536, []⟩

def checks (c : HTTPConfig) : ℕ := if c.database.isSome then 1 else 0

def bareUrl (u : Url) : Bool := u.username = [] && u.password = [] && u.search = [] && u.hash = []

def outboundUrl (u : Url) : Bool := oneOfTexts ["http:", "https:"] u.protocol && bareUrl u && u.pathname = str "/"

def databaseUrl (u : Url) : Bool := oneOfTexts ["postgres:", "postgresql:"] u.protocol && u.hostname ≠ [] && u.hash = []

structure HTTPConfig.Valid (c : HTTPConfig) : Prop where
  port : Within 0 65535 c.port
  timeoutMs : Within 1 30000 c.timeoutMs
  shutdownMs : Within 1 30000 c.shutdownMs
  database : ∀ d, c.database = some d → d.url ≠ [] ∧ Within 1 64 d.maxConnections ∧ Within 1 30000 d.timeoutMs

theorem database_reads (lookup : Lookup) : Sound Quiet (readDatabase lookup) fun d =>
    d.url ≠ [] ∧ Within 1 64 d.maxConnections ∧ Within 1 30000 d.timeoutMs := by
  refine sound_bind _ _ _ _ (secret_sound lookup _) fun url => ?_
  refine sound_bind _ _ _ _ (int_sound lookup _ _ 1 64 (by norm_num) (by norm_num)) fun maxConnections => ?_
  refine sound_bind _ _ _ _ (int_sound lookup _ _ 1 30000 (by norm_num) (by norm_num)) fun timeoutMs => ?_
  exact sound_pure _ _ fun timed pooled given => ⟨given, pooled, timed⟩

theorem http_reads (lookup : Lookup) (base : Config) : Sound Quiet (readHTTPConfig lookup base) fun c => c.base = base ∧ c.Valid := by
  refine sound_bind _ _ _ _ (string_sound lookup _ _) fun socketOrigin => ?_
  refine sound_bind _ _ _ _ (string_sound lookup _ _) fun outboundOrigin => ?_
  refine sound_bind _ _ _ _ (boolean_sound lookup _ _) fun testRoutes => ?_
  refine sound_bind _ _ _ _ (string_sound lookup _ _) fun host => ?_
  refine sound_bind _ _ _ _ (int_sound lookup _ _ 0 65535 (by norm_num) (by norm_num)) fun port => ?_
  refine sound_bind _ _ _ _ (int_sound lookup _ _ 1 30000 (by norm_num) (by norm_num)) fun timeoutMs => ?_
  refine sound_bind _ _ _ _ (int_sound lookup _ _ 1 30000 (by norm_num) (by norm_num)) fun shutdownMs => ?_
  refine sound_bind _ _ _ _ (enumeration_sound lookup _ _ _) fun mode => ?_
  refine sound_bind _ _ _ _ (string_sound lookup _ _) fun endpoint => ?_
  refine sound_bind _ _ _ _ (enumeration_sound lookup _ _ _) fun sampling => ?_
  refine sound_bind _ _ _ _ (int_sound lookup _ _ 1 65536 (by norm_num) (by norm_num)) fun queue => ?_
  refine sound_bind _ _ _ _ (int_sound lookup _ _ 1 65536 (by norm_num) (by norm_num)) fun batch => ?_
  refine sound_bind _ _ _ _ (int_sound lookup _ _ 1 10000 (by norm_num) (by norm_num)) fun exportMs => ?_
  refine sound_bind _ _ _ _ (int_sound lookup _ _ 100 60000 (by norm_num) (by norm_num)) fun intervalMs => ?_
  refine sound_bind _ _ _ _ (boolean_sound lookup _ _) fun enabled => ?_
  refine sound_bind _ _ _ _ (optionally_sound enabled _ _ (database_reads lookup)) fun database => ?_
  refine sound_pure _ _ ?_
  intro opened _ _ _ _ _ _ _ _ shut timed ported _ _ _ _
  exact ⟨rfl, ported, timed, shut, opened⟩

theorem load_http_ok (urls : Urls) (isIP : Str → Bool) (lookup : Lookup) (c : HTTPConfig)
    (loaded : loadHTTPConfig urls isIP lookup = .ok c) :
    loadConfig lookup = .ok c.base ∧ c.Valid ∧ isIP c.host = true ∧ Telemetry.validate urls c.telemetry = .ok () := by
  rw [loadHTTPConfig] at loaded
  cases first : loadConfig lookup with
  | error e =>
      rw [first] at loaded
      cases loaded
  | ok base =>
      have reads := http_reads lookup base Reader.new
      simp only [first] at loaded
      generalize readHTTPConfig lookup base Reader.new = read at loaded reads
      obtain ⟨read, r⟩ := read
      simp only at loaded reads
      cases checked : r.check with
      | error e =>
          rw [checked] at loaded
          cases loaded
      | ok u =>
          rw [checked] at loaded
          obtain ⟨_, own, valid⟩ := reads ((check_quiet r).mp checked)
          simp only at loaded
          split_ifs at loaded with addressed
          cases validated : Telemetry.validate urls read.telemetry with
          | error e =>
              rw [validated] at loaded
              cases loaded
          | ok u =>
              rw [validated] at loaded
              injection loaded with same
              rw [← same]
              exact ⟨own ▸ rfl, valid, addressed, validated⟩

theorem within_integer (low high : ℤ) (n : Number) (within : Within low high n) : n.isInteger = true := by
  obtain ⟨m, value, _⟩ := within
  simp [Number.isInteger, value]

theorem within_bounds (low high : ℤ) (n : Number) (within : Within low high n) : n.below low = false ∧ n.above high = false := by
  obtain ⟨m, value, least, most⟩ := within
  rw [below_rational n m low value, above_rational n m high value]
  exact ⟨decide_eq_false (by exact_mod_cast not_lt.mpr least), decide_eq_false (by exact_mod_cast not_lt.mpr most)⟩

theorem within_safe (low high : ℤ) (n : Number) (within : Within low high n) (least : -9007199254740991 ≤ low)
    (most : high ≤ 9007199254740991) : n.isSafeInteger = true := by
  obtain ⟨m, value, above, below⟩ := within
  exact (safe_rational n).mpr ⟨m, value, abs_le.mpr ⟨by omega, by omega⟩⟩

theorem within_of_int (low high n : ℤ) (small : |n| ≤ 2 ^ 53) (least : low ≤ n) (most : n ≤ high) : Within low high (Number.ofInt n) :=
  ⟨n, of_int_rational n small, least, most⟩

theorem outside_within (low high : ℤ) (n : Number) (within : Within low high n) : outside n low high = false := by
  obtain ⟨below, above⟩ := within_bounds low high n within
  simp [outside, within_integer low high n within, below, above]

theorem named_text (resource : Resource) (executor : named resource = true) : resource.name ≠ [] := by
  intro empty
  rw [named, empty] at executor
  exact absurd executor (by decide)

theorem logger_accepts (c : Config) (valid : c.Valid) (terminal : Bool) : (loggerOptions c terminal).refuses = false := by
  have format : oneOfTexts ["console", "json", "none"] c.format = true := List.contains_iff_mem.mpr valid.format
  have levels : ∀ s ∈ ["debug", "info", "warn", "error"].map str, (Logger.parseLevel s).isOk = true := by decide
  have colors : ∀ s ∈ ["auto", "always", "never"].map str, ∀ terminal noColor, (Logger.colorEnabled s terminal noColor).isOk = true := by decide
  have capacity := within_bounds _ _ _ valid.capacity
  have sized := within_bounds _ _ _ valid.maxBytes
  have bytes : c.maxBytes.below 1 = false := by
    obtain ⟨n, value, least, _⟩ := valid.maxBytes
    rw [below_rational c.maxBytes n 1 value]
    exact decide_eq_false (by exact_mod_cast not_lt.mpr (by omega : (1 : ℤ) ≤ n))
  have roomy : c.capacity.below 1 = false := by simpa using capacity.1
  simp [loggerOptions, Logger.Options.refuses, format, levels _ valid.level, colors _ valid.color, within_safe _ _ _ valid.capacity,
    within_safe _ _ _ valid.maxBytes, roomy, bytes, named_text c.resource valid.executor]

theorem validate_ok (urls : Urls) (c : Telemetry.Config) :
    Telemetry.validate urls c = .ok () ↔ ∃ endpoint, urls c.endpoint = some endpoint ∧ c.refuses endpoint = false := by
  rw [Telemetry.validate]
  cases urls c.endpoint with
  | none => simp
  | some endpoint => cases refused : c.refuses endpoint <;> simp [refused]

theorem telemetry_accepts (urls : Urls) (c : HTTPConfig) (id : Str) (given : id ≠ []) (executor : named c.base.resource = true)
    (validated : Telemetry.validate urls c.telemetry = .ok ()) : Telemetry.validate urls (identified c id) = .ok () := by
  obtain ⟨endpoint, found, accepted⟩ := (validate_ok urls c.telemetry).mp validated
  have name : Telemetry.lacks (identified c id).resource "service.name" = false := decide_eq_false (named_text _ executor)
  have instance' : Telemetry.lacks (identified c id).resource "service.instance.id" = false := decide_eq_false given
  refine (validate_ok urls (identified c id)).mpr ⟨endpoint, found, ?_⟩
  simp only [Telemetry.Config.refuses, Bool.or_eq_false_iff] at accepted ⊢
  obtain ⟨⟨⟨⟨⟨⟨⟨⟨rest, _⟩, _⟩, queue⟩, batch⟩, least⟩, most⟩, timed⟩, interval⟩ := accepted
  exact ⟨⟨⟨⟨⟨⟨⟨⟨rest, name⟩, instance'⟩, queue⟩, batch⟩, least⟩, most⟩, timed⟩, interval⟩

theorem server_accepts (c : HTTPConfig) (valid : c.Valid) : (serverSettings c).refuses = false := by
  have registered : ∀ testRoutes, Http.registers [] ((routes testRoutes).map fun route => str route.1) = true := by decide
  have timed := within_bounds _ _ _ valid.timeoutMs
  have body := within_bounds 1 1048576 _ (within_of_int 1 1048576 1048576 (by norm_num) (by norm_num) (by norm_num))
  have active := within_bounds 1 64 _ (within_of_int 1 64 64 (by norm_num) (by norm_num) (by norm_num))
  have timed : c.timeoutMs.below 1 = false := by simpa using timed.1
  have body : (Number.ofInt 1048576).below 1 = false := by simpa using body.1
  have active : (Number.ofInt 64).below 1 = false := by simpa using active.1
  simp [serverSettings, Http.Settings.refuses, registered, within_integer _ _ _ valid.timeoutMs, timed, body, active]

theorem gate_accepts (c : HTTPConfig) : Health.refusesConfiguration (Number.ofInt 500) (checks c) = false := by
  have budget := within_of_int 1 5000 500 (by norm_num) (by norm_num) (by norm_num)
  have bounds := within_bounds _ _ _ budget
  have below : (Number.ofInt 500).below 1 = false := by simpa using bounds.1
  have above : (Number.ofInt 500).above 5000 = false := by simpa using bounds.2
  have few : checks c ≤ 16 := by
    rw [checks]
    split_ifs <;> omega
  simp [Health.refusesConfiguration, within_integer _ _ _ budget, below, above, few]

theorem database_accepts (urls : Urls) (d : Postgres.Settings) (pooled : Within 1 64 d.maxConnections) (timed : Within 1 30000 d.timeoutMs) :
    d.refuses urls = !(urls d.url).any databaseUrl := by
  rw [Postgres.Settings.refuses]
  cases urls d.url with
  | none => rfl
  | some u =>
      simp only [outside_within _ _ _ pooled, outside_within _ _ _ timed, Bool.or_false, Option.any_some, databaseUrl, Bool.not_and,
        decide_not, Bool.not_not]

theorem outbound_accepts (urls : Urls) (c : HTTPConfig) : (outboundSettings c).refuses urls = !(urls c.outboundOrigin).any outboundUrl := by
  have time := within_of_int 1 30000 500 (by norm_num) (by norm_num) (by norm_num)
  have size := within_of_int 1 1048576 65536 (by norm_num) (by norm_num) (by norm_num)
  have time' := within_bounds _ _ _ time
  have size' := within_bounds _ _ _ size
  rw [HttpClient.Settings.refuses]
  have origin : (outboundSettings c).origin = c.outboundOrigin := rfl
  rw [origin]
  cases urls c.outboundOrigin with
  | none => rfl
  | some u =>
      have below : (Number.ofInt 500).below 1 = false ∧ (Number.ofInt 65536).below 1 = false := ⟨by simpa using time'.1, by simpa using size'.1⟩
      have above : (Number.ofInt 500).above 30000 = false ∧ (Number.ofInt 65536).above 1048576 = false :=
        ⟨by simpa using time'.2, by simpa using size'.2⟩
      simp [outboundSettings, within_integer _ _ _ time, within_integer _ _ _ size, below.1, below.2, above.1, above.2, outboundUrl, bareUrl,
        Bool.or_assoc]

structure Buildable (urls : Urls) (isIP : Str → Bool) (c : HTTPConfig) : Prop where
  host : isIP c.host = true
  port : Within 0 65535 c.port
  shutdownMs : Within 1 30000 c.shutdownMs
  logger : ∀ terminal, (loggerOptions c.base terminal).refuses = false
  telemetry : ∀ id, id ≠ [] → Telemetry.validate urls (identified c id) = .ok ()
  executor : (actor (.genuine .service) c.base.resource.name).isOk = true
  server : (serverSettings c).refuses = false
  operations : ∀ route ∈ routes c.testRoutes, operation (str route.2) = .ok (str route.2)
  gate : Health.refusesConfiguration (Number.ofInt 500) (checks c) = false
  database : ∀ d, c.database = some d → d.refuses urls = !(urls d.url).any databaseUrl
  outbound : (outboundSettings c).refuses urls = !(urls c.outboundOrigin).any outboundUrl

theorem accepted_builds (urls : Urls) (isIP : Str → Bool) (lookup : Lookup) (c : HTTPConfig)
    (loaded : loadHTTPConfig urls isIP lookup = .ok c) : Buildable urls isIP c := by
  obtain ⟨based, valid, addressed, validated⟩ := load_http_ok urls isIP lookup c loaded
  obtain ⟨base, _⟩ := load_config_ok lookup c.base based
  have named : ∀ testRoutes, ∀ route ∈ routes testRoutes, validOperation (str route.2) = true := by decide
  exact
    { host := addressed
      port := valid.port
      shutdownMs := valid.shutdownMs
      logger := logger_accepts c.base base
      telemetry := fun id given => telemetry_accepts urls c id given base.executor validated
      executor := base.executor
      server := server_accepts c valid
      operations := fun route member => operation_valid _ (named c.testRoutes route member)
      gate := gate_accepts c
      database := fun d own => database_accepts urls d (valid.database d own).2.1 (valid.database d own).2.2
      outbound := outbound_accepts urls c }

def demoEndpoint : Url := ⟨str "http:", str "127.0.0.1", [], [], str "/", [], []⟩

def demoUrls : Urls := fun text => if text = str "http://127.0.0.1:7342" then some demoEndpoint else none

def demoIsIP (host : Str) : Bool := host = str "127.0.0.1"

def demoEnvironment (token : Str) (key : Str) : Source := if key = str "DEMO_TOKEN" then .text token else .absent

theorem accepted_builds_demo : ∃ c, loadHTTPConfig demoUrls demoIsIP (demoEnvironment (str "t")) = .ok c ∧ Buildable demoUrls demoIsIP c := by
  have accepted : (loadHTTPConfig demoUrls demoIsIP (demoEnvironment (str "t"))).isOk = true := by decide +kernel
  cases loaded : loadHTTPConfig demoUrls demoIsIP (demoEnvironment (str "t")) with
  | error e =>
      rw [loaded] at accepted
      cases accepted
  | ok c => exact ⟨c, rfl, accepted_builds _ _ _ c loaded⟩

end N2F.Root

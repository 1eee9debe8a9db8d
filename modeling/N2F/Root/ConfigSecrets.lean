import N2F.Root.Http

set_option autoImplicit false

namespace N2F.Root

open Ecma Env Stateful

def Config.visible (c : Config) : Config := { c with token := [] }

def visibleDatabase (d : Postgres.Settings) : Postgres.Settings := { d with url := [] }

def visibleBroker (b : Broker.Settings) : Broker.Settings := { b with url := [] }

def HTTPConfig.visible (c : HTTPConfig) : HTTPConfig := { c with base := c.base.visible, database := c.database.map visibleDatabase }

def EventsConfig.visible (c : EventsConfig) : EventsConfig :=
  { c with base := c.base.visible, database := visibleDatabase c.database, broker := c.broker.map visibleBroker }

def secretKeys : List String := ["DEMO_TOKEN", "DATABASE_URL", "NATS_URL"]

variable {first second : Lookup}

theorem config_alike (veiled : Veiled secretKeys first second) :
    Alike (readConfig first) (readConfig second) fun c d => c.visible = d.visible := by
  refine alike_same _ _ _ _ _ (string_alike veiled _ _ (by decide)) fun name => ?_
  refine alike_same _ _ _ _ _ (string_alike veiled _ _ (by decide)) fun group => ?_
  refine alike_same _ _ _ _ _ (string_alike veiled _ _ (by decide)) fun version => ?_
  refine alike_same _ _ _ _ _ (enumeration_alike veiled _ _ _ (by decide)) fun environment => ?_
  refine alike_same _ _ _ _ _ (enumeration_alike veiled _ _ _ (by decide)) fun format => ?_
  refine alike_same _ _ _ _ _ (enumeration_alike veiled _ _ _ (by decide)) fun level => ?_
  refine alike_same _ _ _ _ _ (enumeration_alike veiled _ _ _ (by decide)) fun color => ?_
  refine alike_same _ _ _ _ _ (int_alike veiled _ _ _ _ (by decide)) fun capacity => ?_
  refine alike_same _ _ _ _ _ (int_alike veiled _ _ _ _ (by decide)) fun maxBytes => ?_
  refine alike_same _ _ _ _ _ (int_alike veiled _ _ _ _ (by decide)) fun flushMs => ?_
  refine alike_same _ _ _ _ _ (boolean_alike veiled _ _ (by decide)) fun verbose => ?_
  refine alike_same _ _ _ _ _ (string_alike veiled _ _ (by decide)) fun noColor => ?_
  exact alike_bind _ _ _ _ _ _ (secret_alike veiled _) fun s t _ => alike_pure _ _ _ rfl

theorem database_alike (veiled : Veiled secretKeys first second) :
    Alike (readDatabase first) (readDatabase second) fun c d => visibleDatabase c = visibleDatabase d := by
  refine alike_bind _ _ _ _ _ _ (secret_alike veiled _) fun s t _ => ?_
  refine alike_same _ _ _ _ _ (int_alike veiled _ _ _ _ (by decide)) fun maxConnections => ?_
  refine alike_same _ _ _ _ _ (int_alike veiled _ _ _ _ (by decide)) fun timeoutMs => ?_
  exact alike_pure _ _ _ rfl

theorem broker_alike (veiled : Veiled secretKeys first second) :
    Alike (readBroker first) (readBroker second) fun c d => visibleBroker c = visibleBroker d := by
  refine alike_bind _ _ _ _ _ _ (secret_alike veiled _) fun s t _ => ?_
  refine alike_same _ _ _ _ _ (string_alike veiled _ _ (by decide)) fun stream => ?_
  refine alike_same _ _ _ _ _ (string_alike veiled _ _ (by decide)) fun consumer => ?_
  refine alike_same _ _ _ _ _ (int_alike veiled _ _ _ _ (by decide)) fun timeoutMs => ?_
  exact alike_pure _ _ _ rfl

theorem rel_map {α : Type} (f : α → α) (a b : Option α) (related : Option.Rel (fun x y => f x = f y) a b) : a.map f = b.map f := by
  cases related with
  | none => rfl
  | some same => exact congrArg some same

theorem http_alike (veiled : Veiled secretKeys first second) (base base' : Config) (same : base.visible = base'.visible)
    (service : base.resource.name = base'.resource.name) :
    Alike (readHTTPConfig first base) (readHTTPConfig second base') fun c d =>
      c.visible = d.visible ∧ c.host = d.host ∧ c.telemetry = d.telemetry := by
  refine alike_same _ _ _ _ _ (string_alike veiled _ _ (by decide)) fun socketOrigin => ?_
  refine alike_same _ _ _ _ _ (string_alike veiled _ _ (by decide)) fun outboundOrigin => ?_
  refine alike_same _ _ _ _ _ (boolean_alike veiled _ _ (by decide)) fun testRoutes => ?_
  refine alike_same _ _ _ _ _ (string_alike veiled _ _ (by decide)) fun host => ?_
  refine alike_same _ _ _ _ _ (int_alike veiled _ _ _ _ (by decide)) fun port => ?_
  refine alike_same _ _ _ _ _ (int_alike veiled _ _ _ _ (by decide)) fun timeoutMs => ?_
  refine alike_same _ _ _ _ _ (int_alike veiled _ _ _ _ (by decide)) fun shutdownMs => ?_
  refine alike_same _ _ _ _ _ (enumeration_alike veiled _ _ _ (by decide)) fun mode => ?_
  refine alike_same _ _ _ _ _ (string_alike veiled _ _ (by decide)) fun endpoint => ?_
  refine alike_same _ _ _ _ _ (enumeration_alike veiled _ _ _ (by decide)) fun sampling => ?_
  refine alike_same _ _ _ _ _ (int_alike veiled _ _ _ _ (by decide)) fun queue => ?_
  refine alike_same _ _ _ _ _ (int_alike veiled _ _ _ _ (by decide)) fun batch => ?_
  refine alike_same _ _ _ _ _ (int_alike veiled _ _ _ _ (by decide)) fun exportMs => ?_
  refine alike_same _ _ _ _ _ (int_alike veiled _ _ _ _ (by decide)) fun intervalMs => ?_
  refine alike_same _ _ _ _ _ (boolean_alike veiled _ _ (by decide)) fun enabled => ?_
  refine alike_bind _ _ _ _ _ _ (optionally_alike enabled _ _ _ (database_alike veiled)) fun a b related => alike_pure _ _ _ ?_
  refine ⟨?_, rfl, by rw [service]⟩
  simp only [HTTPConfig.visible, rel_map visibleDatabase a b related, same, service]

theorem events_alike (veiled : Veiled secretKeys first second) (base base' : Config) (same : base.visible = base'.visible) :
    Alike (readEventsConfig first base) (readEventsConfig second base') fun c d => c.visible = d.visible := by
  refine alike_bind _ _ _ _ _ _ (database_alike veiled) fun c d database => ?_
  refine alike_same _ _ _ _ _ (string_alike veiled _ _ (by decide)) fun transport => ?_
  refine alike_bind _ _ _ _ _ _ (optionally_alike _ _ _ _ (broker_alike veiled)) fun a b related => alike_pure _ _ _ ?_
  simp only [EventsConfig.visible, rel_map visibleBroker a b related, database, same]

theorem visible_resource (c d : Config) (same : c.visible = d.visible) : c.resource = d.resource := by
  injection same

theorem load_config_alike (veiled : Veiled secretKeys first second) :
    (loadConfig first).map Config.visible = (loadConfig second).map Config.visible := by
  obtain ⟨c, d, r, read, read', same⟩ := alike_run _ _ _ (config_alike veiled) Reader.new
  have flagged : problems r c.resource = problems r d.resource := by rw [visible_resource c d same]
  rw [loadConfig, loadConfig, read, read']
  simp only [flagged]
  split_ifs
  · cases r.manifest with
    | error e => rfl
    | ok manifest =>
        have listed : ({ c.visible with manifest := manifest } : Config) = { d.visible with manifest := manifest } := by rw [same]
        exact congrArg Except.ok listed
  · rfl

theorem load_cases (veiled : Veiled secretKeys first second) :
    (∃ e, loadConfig first = .error e ∧ loadConfig second = .error e) ∨
      ∃ c d, loadConfig first = .ok c ∧ loadConfig second = .ok d ∧ c.visible = d.visible := by
  have same := load_config_alike veiled
  cases loaded : loadConfig first with
  | error e =>
      cases loaded' : loadConfig second with
      | error e' =>
          rw [loaded, loaded'] at same
          exact .inl ⟨e, rfl, congrArg _ (Except.error.inj same).symm⟩
      | ok d =>
          rw [loaded, loaded'] at same
          cases same
  | ok c =>
      cases loaded' : loadConfig second with
      | error e' =>
          rw [loaded, loaded'] at same
          cases same
      | ok d =>
          rw [loaded, loaded'] at same
          exact .inr ⟨c, d, rfl, rfl, Except.ok.inj same⟩

theorem loads_hide_secrets (urls : Urls) (isIP : Str → Bool) (veiled : Veiled secretKeys first second) :
    (loadConfig first).map Config.visible = (loadConfig second).map Config.visible ∧
    (loadHTTPConfig urls isIP first).map HTTPConfig.visible = (loadHTTPConfig urls isIP second).map HTTPConfig.visible ∧
    (loadEventsConfig first).map EventsConfig.visible = (loadEventsConfig second).map EventsConfig.visible := by
  refine ⟨load_config_alike veiled, ?_, ?_⟩
  · rcases load_cases veiled with ⟨e, loaded, loaded'⟩ | ⟨c, d, loaded, loaded', same⟩
    · rw [loadHTTPConfig, loadHTTPConfig, loaded, loaded']
    · have service : c.resource.name = d.resource.name := congrArg Resource.name (visible_resource c d same)
      obtain ⟨h, h', r, read, read', visible, host, telemetry⟩ := alike_run _ _ _ (http_alike veiled c d same service) Reader.new
      simp only [loadHTTPConfig, loaded, loaded', read, read', host, telemetry]
      cases r.check with
      | error e => rfl
      | ok u =>
          simp only
          split_ifs
          · cases Telemetry.validate urls h'.telemetry with
            | error e => rfl
            | ok u => exact congrArg Except.ok visible
          · rfl
  · rcases load_cases veiled with ⟨e, loaded, loaded'⟩ | ⟨c, d, loaded, loaded', same⟩
    · rw [loadEventsConfig, loadEventsConfig, loaded, loaded']
    · obtain ⟨h, h', r, read, read', visible⟩ := alike_run _ _ _ (events_alike veiled c d same) Reader.new
      simp only [loadEventsConfig, loaded, loaded', read, read']
      cases r.check with
      | error e => rfl
      | ok u => exact congrArg Except.ok visible

theorem loads_hide_secrets_demo :
    (loadConfig (demoEnvironment (str "t"))).map Config.visible = (loadConfig (demoEnvironment (str "other"))).map Config.visible ∧
    (loadHTTPConfig demoUrls demoIsIP (demoEnvironment (str "t"))).map HTTPConfig.visible =
      (loadHTTPConfig demoUrls demoIsIP (demoEnvironment (str "other"))).map HTTPConfig.visible ∧
    (loadEventsConfig (demoEnvironment (str "t"))).map EventsConfig.visible =
      (loadEventsConfig (demoEnvironment (str "other"))).map EventsConfig.visible := by
  refine loads_hide_secrets demoUrls demoIsIP fun key => ?_
  by_cases token : key = str "DEMO_TOKEN"
  · exact .inr ⟨token ▸ by decide, str "t", str "other", by decide, by decide, if_pos token, if_pos token⟩
  · exact .inl ((if_neg token).trans (if_neg token).symm)

end N2F.Root

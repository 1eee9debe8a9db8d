import N2F.Root.Components
import N2F.Env.Reads

set_option autoImplicit false

namespace N2F.Root

open Ecma Env

structure Resource where
  name : Str
  group : Str
  version : Str
  environment : Str
  instanceId : Option Str

-- The token is the text inside its SecretString.
structure Config where
  resource : Resource
  format : Str
  level : Str
  color : Str
  capacity : Number
  maxBytes : Number
  flushMs : Number
  verbose : Bool
  noColor : Bool
  token : Str
  manifest : List Var

def readConfig (lookup : Lookup) : Reads Config := do
  let name ← Reads.string lookup "SERVICE_NAME" "n2f-foundations"
  let group ← Reads.string lookup "SERVICE_NAMESPACE" "n2f"
  let version ← Reads.string lookup "SERVICE_VERSION" "dev"
  let environment ← Reads.enumeration lookup "APP_ENV" "development" ["development", "test", "production"]
  let format ← Reads.enumeration lookup "LOG_FORMAT" "console" ["console", "json", "none"]
  let level ← Reads.enumeration lookup "LOG_LEVEL" "info" ["debug", "info", "warn", "error"]
  let color ← Reads.enumeration lookup "LOG_COLOR" "auto" ["auto", "always", "never"]
  let capacity ← Reads.int lookup "LOG_CAPACITY" 256 1 65536
  let maxBytes ← Reads.int lookup "LOG_MAX_BYTES" 65536 256 1048576
  let flushMs ← Reads.int lookup "LOG_FLUSH_MS" 1000 1 10000
  let verbose ← Reads.boolean lookup "DEMO_VERBOSE" false
  let noColor ← Reads.string lookup "NO_COLOR" ""
  let token ← Reads.secret lookup "DEMO_TOKEN"
  return ⟨⟨name, group, version, environment, none⟩, format, level, color, capacity, maxBytes, flushMs, verbose, noColor ≠ [], token, []⟩

def named (resource : Resource) : Bool := (actor (.genuine .service) resource.name).isOk

def problems (r : Reader) (resource : Resource) : Fields :=
  if named resource then r.problems else put "SERVICE_NAME" "invalid_identity" r.problems

def loadConfig (lookup : Lookup) : Result Config :=
  let (c, r) := readConfig lookup Reader.new
  if (problems r c.resource).isEmpty then r.manifest.map fun manifest => { c with manifest := manifest }
  else .error ⟨.invalid, "invalid configuration", some "env.invalid", some (problems r c.resource)⟩

structure HTTPConfig where
  socketOrigin : Str
  outboundOrigin : Str
  database : Option Postgres.Settings
  testRoutes : Bool
  base : Config
  host : Str
  port : Number
  timeoutMs : Number
  shutdownMs : Number
  telemetry : Telemetry.Config

def readDatabase (lookup : Lookup) : Reads Postgres.Settings := do
  let url ← Reads.secret lookup "DATABASE_URL"
  let maxConnections ← Reads.int lookup "DATABASE_MAX_CONNECTIONS" 8 1 64
  let timeoutMs ← Reads.int lookup "DATABASE_TIMEOUT_MS" 1000 1 30000
  return ⟨url, maxConnections, timeoutMs⟩

def readHTTPConfig (lookup : Lookup) (base : Config) : Reads HTTPConfig := do
  let socketOrigin ← Reads.string lookup "WS_ORIGIN" "http://localhost:3000"
  let outboundOrigin ← Reads.string lookup "OUTBOUND_ORIGIN" ""
  let testRoutes ← Reads.boolean lookup "HTTP_TEST_ROUTES" false
  let host ← Reads.string lookup "HTTP_HOST" "127.0.0.1"
  let port ← Reads.int lookup "HTTP_PORT" 7300 0 65535
  let timeoutMs ← Reads.int lookup "HTTP_TIMEOUT_MS" 1000 1 30000
  let shutdownMs ← Reads.int lookup "SHUTDOWN_MS" 3000 1 30000
  let mode ← Reads.enumeration lookup "TELEMETRY_MODE" "none" ["none", "otlp"]
  let endpoint ← Reads.string lookup "TELEMETRY_ENDPOINT" "http://127.0.0.1:7342"
  let sampling ← Reads.enumeration lookup "TELEMETRY_SAMPLING" "all" ["all", "none"]
  let queue ← Reads.int lookup "TELEMETRY_QUEUE" 256 1 65536
  let batch ← Reads.int lookup "TELEMETRY_BATCH" 64 1 65536
  let exportMs ← Reads.int lookup "TELEMETRY_TIMEOUT_MS" 500 1 10000
  let intervalMs ← Reads.int lookup "TELEMETRY_INTERVAL_MS" 500 100 60000
  let resource := [(str "service.name", base.resource.name), (str "service.instance.id", str "validation")]
  let enabled ← Reads.boolean lookup "DATABASE_ENABLED" false
  let database ← Reads.optionally enabled (readDatabase lookup)
  return ⟨socketOrigin, outboundOrigin, database, testRoutes, base, host, port, timeoutMs, shutdownMs,
    ⟨mode, endpoint, sampling, resource, queue, batch, exportMs, intervalMs⟩⟩

def invalidHost : Failure := failure .invalid "invalid HTTP host" "env.invalid"

-- isIP of node:net tells whether a text is an address.
def loadHTTPConfig (urls : Urls) (isIP : Str → Bool) (lookup : Lookup) : Result HTTPConfig :=
  match loadConfig lookup with
  | .error e => .error e
  | .ok base =>
      let (c, r) := readHTTPConfig lookup base Reader.new
      match r.check with
      | .error e => .error e
      | .ok _ => if isIP c.host then (Telemetry.validate urls c.telemetry).map fun _ => c else .error invalidHost

structure EventsConfig where
  base : Config
  database : Postgres.Settings
  transport : Str
  broker : Option Broker.Settings

def readBroker (lookup : Lookup) : Reads Broker.Settings := do
  let url ← Reads.secret lookup "NATS_URL"
  let stream ← Reads.string lookup "NATS_STREAM" "N2F_EVENTS"
  let consumer ← Reads.string lookup "NATS_CONSUMER" "mailbox"
  let timeoutMs ← Reads.int lookup "NATS_TIMEOUT_MS" 1000 1 5000
  return ⟨url, stream, consumer, timeoutMs⟩

def readEventsConfig (lookup : Lookup) (base : Config) : Reads EventsConfig := do
  let database ← readDatabase lookup
  let transport ← Reads.string lookup "EVENTS_TRANSPORT" "postgres"
  let broker ← Reads.optionally (transport = str "jetstream") (readBroker lookup)
  return ⟨base, database, transport, broker⟩

def loadEventsConfig (lookup : Lookup) : Result EventsConfig :=
  match loadConfig lookup with
  | .error e => .error e
  | .ok base =>
      let (c, r) := readEventsConfig lookup base Reader.new
      r.check.map fun _ => c

end N2F.Root

import N2F.Logger.Session
import N2F.Http.Workers
import N2F.HttpClient.Client
import N2F.Health.Gate

set_option autoImplicit false

namespace N2F

open Ecma

-- What new URL makes of a text.
structure Url where
  protocol : Str
  hostname : Str
  username : Str
  password : Str
  pathname : Str
  search : Str
  hash : Str

-- new URL throws where there is none.
abbrev Urls := Str → Option Url

def oneOfTexts (allowed : List String) (s : Str) : Bool := (allowed.map str).contains s

-- !Number.isInteger(n) || n < low || n > high
def outside (n : Number) (low high : ℤ) : Bool := !n.isInteger || n.below low || n.above high

namespace Logger

def Level.text : Level → String
  | .debug => "debug"
  | .info => "info"
  | .warn => "warn"
  | .error => "error"

def parseLevel (s : Str) : Result Level :=
  match spelled [.debug, .info, .warn, .error] Level.text s with
  | .genuine level => .ok level
  | .foreign => .error configurationInvalid

def colorEnabled (mode : Str) (terminal noColor : Bool) : Result Bool :=
  if mode = str "auto" then .ok (terminal && !noColor)
  else if mode = str "always" then .ok true
  else if mode = str "never" then .ok false
  else .error configurationInvalid

structure Options where
  format : Str
  level : Str
  color : Str
  terminal : Bool
  noColor : Bool
  capacity : Number
  maxRecordBytes : Number
  service : Str

def Options.refuses (o : Options) : Bool :=
  !oneOfTexts ["console", "json", "none"] o.format || !(parseLevel o.level).isOk || !(colorEnabled o.color o.terminal o.noColor).isOk ||
    !o.capacity.isSafeInteger || o.capacity.below 1 || !o.maxRecordBytes.isSafeInteger || o.maxRecordBytes.below 1 || o.service = []

end Logger

namespace Telemetry

structure Config where
  mode : Str
  endpoint : Str
  sampling : Str
  resource : Properties Str
  queue : Number
  batch : Number
  timeoutMs : Number
  intervalMs : Number

def invalidConfiguration : Failure := failure .invalid "invalid telemetry configuration" "env.invalid"

-- !resource[key]
def lacks (resource : Properties Str) (key : String) : Bool := ((get resource (str key)).getD []) = []

def Config.refuses (c : Config) (endpoint : Url) : Bool :=
  !oneOfTexts ["none", "otlp"] c.mode || !oneOfTexts ["all", "none"] c.sampling || !oneOfTexts ["http:", "https:"] endpoint.protocol ||
    endpoint.username ≠ [] || endpoint.password ≠ [] || endpoint.search ≠ [] || endpoint.hash ≠ [] ||
    lacks c.resource "service.name" || lacks c.resource "service.instance.id" || outside c.queue 1 65536 ||
    !c.batch.isInteger || c.batch.below 1 || c.queue.less c.batch || outside c.timeoutMs 1 10000 || outside c.intervalMs 100 60000

def validate (urls : Urls) (c : Config) : Result Unit :=
  match urls c.endpoint with
  | none => .error invalidConfiguration
  | some endpoint => if c.refuses endpoint then .error invalidConfiguration else .ok ()

end Telemetry

namespace Postgres

structure Settings where
  url : Str
  maxConnections : Number
  timeoutMs : Number

-- What open refuses before it makes a pool.
def Settings.refuses (urls : Urls) (c : Settings) : Bool :=
  match urls c.url with
  | none => true
  | some u =>
      !oneOfTexts ["postgres:", "postgresql:"] u.protocol || u.hostname = [] || u.hash ≠ [] || outside c.maxConnections 1 64 ||
        outside c.timeoutMs 1 30000

end Postgres

namespace Broker

structure Settings where
  url : Str
  stream : Str
  consumer : Str
  timeoutMs : Number

end Broker

namespace HttpClient

structure Settings where
  origin : Str
  timeoutMs : Number
  maxRequest : Number
  maxResponse : Number
  bearer : Str

def Settings.refuses (urls : Urls) (c : Settings) : Bool :=
  match urls c.origin with
  | none => true
  | some u =>
      !oneOfTexts ["http:", "https:"] u.protocol || u.username ≠ [] || u.password ≠ [] || u.search ≠ [] || u.hash ≠ [] || u.pathname ≠ str "/" ||
        !c.timeoutMs.isInteger || !c.maxRequest.isInteger || !c.maxResponse.isInteger || c.timeoutMs.below 1 || c.timeoutMs.above 30000 ||
        c.maxRequest.below 1 || c.maxRequest.above 1048576 || c.maxResponse.below 1 || c.maxResponse.above 1048576 ||
        c.bearer.any (oneOf "\r\n")

end HttpClient

namespace Http

structure Settings where
  routes : List Str
  timeoutMs : Number
  maxBody : Number
  maxActive : Number

-- The loop that fills the map of routes throws at a path it has.
def registers : List Str → List Str → Bool
  | _, [] => true
  | taken, path :: rest => !taken.contains path && registers (taken ++ [path]) rest

-- What the constructor of Server throws at.
def Settings.refuses (c : Settings) : Bool :=
  !c.timeoutMs.isInteger || c.timeoutMs.below 1 || c.maxBody.below 1 || c.maxActive.below 1 || !registers [] c.routes

end Http

end N2F

import N2F.Operation
import N2F.Events.Tables
import N2F.Ecma.Base64

set_option autoImplicit false

namespace N2F.Broker

open Ecma Operation

def unavailable : Failure := failure .unavailable "JetStream operation incomplete" "events.jetstream_unavailable"

def invalid : Failure := failure .invalid "invalid JetStream configuration" "events.jetstream_config"

def canceled : Failure := ⟨.canceled, "JetStream operation canceled", none, none⟩

structure Config where
  stream : Str
  consumer : Str

structure Msg where
  data : ByteArray
  code : Option Number
  reply : Option Str

inductive Thrown where
  | app (f : Failure)
  | other
deriving DecidableEq

-- The headers are Nats-Msg-Id and Nats-Expected-Stream.
inductive Call where
  | request (subject : Str) (data : ByteArray) (headers : Option (Str × Str))
  | sink (event : Envelope)
deriving DecidableEq

inductive Answer where
  | message (m : Msg)
  | sank (r : Result Receipt)

abbrev Task (α : Type) := Program Call Answer Thrown α

def raise {α : Type} (e : Thrown) : Task α := .done (.error e)

-- request races the client against the signal, the sink only receives the signal.
def operation : Protocol Call Answer Thrown Failure where
  guarded
    | .request _ _ _ => true
    | .sink _ => false
  suits
    | .request _ _ _, .message _ => true
    | .sink _, .sank _ => true
    | _, _ => false
  canceled := .other
  refuse aborted e :=
    if aborted then canceled
    else
      match e with
      | .app f => f
      | .other => unavailable

def maxMessage : ℕ := 131072

def request {α : Type} (subject : Str) (data : ByteArray) (headers : Option (Str × Str)) (next : Msg → Task α) : Task α :=
  .call (.request subject data headers) fun answer =>
    match answer with
    | .message m => if maxMessage < m.data.size then raise (.app unavailable) else next m
    | .sank _ => raise .other

-- typeof out is object, and out is not null
def isObject : Json → Bool
  | .arr _ | .obj _ => true
  | _ => false

def api {α : Type} (subject : Str) (input : Json) (next : Json → Task α) : Task α :=
  request subject (encode input) none fun message =>
    match (decodeUtf8 message.data).bind Ecma.parse with
    | none => raise .other
    | some out => if isObject out then next out else raise (.app unavailable)

-- v[k], which throws on null, for a name no prototype has.
def property (v : Json) (k : Str) : Except Thrown (Option Json) :=
  match v with
  | .null => .error .other
  | .obj ms => .ok (get ms k)
  | _ => .ok none

-- v?.[k]
def optional (v : Option Json) (k : Str) : Option Json := (object v).bind fun ms => get ms k

def truthy : Option Json → Bool
  | none | some .null => false
  | some (.bool b) => b
  | some (.num n) => !(n.strictEquals (Number.ofInt 0)) && n ≠ .nan
  | some (.str s) => s ≠ []
  | some (.arr _) | some (.obj _) => true

def subject (config : Config) : Str := str "n2f.events." ++ config.stream

def acknowledged (config : Config) (ack : Json) : Except Thrown (Number × Bool) := do
  let error ← property ack (str "error")
  let stream ← property ack (str "stream")
  let seq ← property ack (str "seq")
  let duplicate ← property ack (str "duplicate")
  match truthy error || stringIn stream ≠ some config.stream, numberIn seq with
  | false, some n => if n.isSafeInteger && n.above 0 then .ok (n, truthy duplicate) else .error (.app unavailable)
  | _, _ => .error (.app unavailable)

def storedData (stored : Json) : Option Str := stringIn (optional (optional (some stored) (str "message")) (str "data"))

def original (data : Str) : Option Json := Ecma.parse (lossyText (ByteArray.mk (base64Decode data).toArray))

def own (event : Envelope) : Option Json := Ecma.parse (lossyText event.bytes)

def idReused : Failure := failure .conflict "event delivery conflict" "events.id_reused"

def compareStored (event : Envelope) (stored : Json) : Task Receipt :=
  match storedData stored with
  | none => raise (.app unavailable)
  | some data =>
      match original data, own event with
      | some a, some b => if a.same Number.sameValue b then .done (.ok ⟨event.id, true⟩) else raise (.app idReused)
      | _, _ => raise .other

def publish (config : Config) (event : Envelope) : Task Receipt :=
  request (subject config) event.bytes (some (event.id, config.stream)) fun msg =>
    match Ecma.parse (decodeLossy msg.data) with
    | none => raise .other
    | some ack =>
        match acknowledged config ack with
        | .error e => raise e
        | .ok (_, false) => .done (.ok ⟨event.id, true⟩)
        | .ok (seq, true) =>
            api (str "$JS.API.STREAM.MSG.GET." ++ config.stream) (.obj [(str "seq", .num seq)]) (compareStored event)

def ackData : ByteArray := encodeUtf8 "+ACK".toList

-- [404, 408].includes(msg.headers?.code ?? 0)
def isEmptyPull (msg : Msg) : Bool := msg.code.any fun code => is code 404 || is code 408

def acknowledge (reply : Str) : Task Bool := request reply ackData none fun _ => .done (.ok true)

def received (reply : Str) (event : Envelope) (receipt : Receipt) : Task Bool :=
  if !receipt.durable || receipt.eventId ≠ event.id then raise (.app unavailable) else acknowledge reply

def deliver (reply : Str) (event : Envelope) : Task Bool :=
  .call (.sink event) fun answer =>
    match answer with
    | .sank (.ok receipt) => received reply event receipt
    | .sank (.error f) => raise (.app f)
    | .message _ => raise .other

def transfer (config : Config) : Task Bool :=
  request (str "$JS.API.CONSUMER.MSG.NEXT." ++ config.stream ++ str "." ++ config.consumer)
      (encodeUtf8 "\x7b\"batch\":1,\"no_wait\":true\x7d".toList) none fun msg =>
    if isEmptyPull msg then .done (.ok false)
    else
      match msg.reply with
      | none | some [] => raise (.app unavailable)
      | some reply =>
          match decode msg.data with
          | .error f => raise (.app f)
          | .ok event => deliver reply event

def natural (n : ℕ) : Json := .num (Number.ofInt n)

def text (s : String) : Json := .str (str s)

def streamConfig (config : Config) : Properties Json :=
  [(str "name", .str config.stream), (str "subjects", .arr [.str (subject config)]), (str "storage", text "file"),
    (str "num_replicas", natural 1), (str "retention", text "limits"), (str "discard", text "new"), (str "max_bytes", natural 67108864),
    (str "max_msg_size", natural 131072), (str "duplicate_window", natural 120000000000)]

def consumerConfig (config : Config) : Properties Json :=
  [(str "durable_name", .str config.consumer), (str "ack_policy", text "explicit"), (str "ack_wait", natural 1000000000),
    (str "max_deliver", natural 5), (str "max_ack_pending", natural 1), (str "filter_subject", .str (subject config)),
    (str "deliver_policy", text "all"), (str "replay_policy", text "instant")]

-- !!got && every entry of want is deeply equal in got
def compatible (got : Option Json) (want : Properties Json) : Bool :=
  match got with
  | some (.obj ms) => want.all fun m => (get ms m.1).any fun v => v.same Number.sameValue m.2
  | _ => false

def missing (info : Json) : Bool :=
  (numberIn (optional (optional (some info) (str "error")) (str "code"))).any fun code => code.strictEquals (Number.ofInt 404)

def validated (info : Json) (want : Properties Json) (next : Task Unit) : Task Unit :=
  if truthy (optional (some info) (str "error")) then raise (.app unavailable)
  else if compatible (optional (some info) (str "config")) want then next
  else raise (.app invalid)

def ensure (info create : Str) (input : Json) (want : Properties Json) (next : Task Unit) : Task Unit :=
  api info (.obj []) fun found =>
    if missing found then api create input fun made => validated made want next else validated found want next

def provision (config : Config) : Task Unit :=
  ensure (str "$JS.API.STREAM.INFO." ++ config.stream) (str "$JS.API.STREAM.CREATE." ++ config.stream)
    (.obj (streamConfig config)) (streamConfig config)
    (ensure (str "$JS.API.CONSUMER.INFO." ++ config.stream ++ str "." ++ config.consumer)
      (str "$JS.API.CONSUMER.DURABLE.CREATE." ++ config.stream ++ str "." ++ config.consumer)
      (.obj [(str "stream_name", .str config.stream), (str "config", .obj (consumerConfig config))]) (consumerConfig config)
      (.done (.ok ())))

def machine {α : Type} (caller : Bool) (task : Task α) : Machine (Run Call Answer Thrown Failure α) (Event Answer Thrown) :=
  Operation.machine operation caller task

end N2F.Broker

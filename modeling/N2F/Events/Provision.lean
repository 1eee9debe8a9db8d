import N2F.Events.RelayContract

set_option autoImplicit false

namespace N2F.Broker

open Ecma Operation

-- Every configuration that the stream and its consumer had, the present one last.
structure Catalog where
  streams : List (Properties Json)
  consumers : List (Properties Json)

def catalogOf (stream consumer : Option (Properties Json)) : Catalog := ⟨stream.toList, consumer.toList⟩

def infoStream (config : Config) : Call := .request (str "$JS.API.STREAM.INFO." ++ config.stream) (encode (.obj [])) none

def createStream (config : Config) : Call :=
  .request (str "$JS.API.STREAM.CREATE." ++ config.stream) (encode (.obj (streamConfig config))) none

def infoConsumer (config : Config) : Call :=
  .request (str "$JS.API.CONSUMER.INFO." ++ config.stream ++ str "." ++ config.consumer) (encode (.obj [])) none

def createConsumer (config : Config) : Call :=
  .request (str "$JS.API.CONSUMER.DURABLE.CREATE." ++ config.stream ++ str "." ++ config.consumer)
    (encode (.obj [(str "stream_name", .str config.stream), (str "config", .obj (consumerConfig config))])) none

-- A reply without an error is as compatible as a configuration that was in place.
def reports (known : List (Properties Json)) (want : Properties Json) (out : Json) : Bool :=
  truthy (optional (some out) (str "error")) ||
    known.any fun k => compatible (some (.obj k)) want = compatible (optional (some out) (str "config")) want

def Catalog.answers (config : Config) (start s : Catalog) (c : Call) (m : Msg) : Bool :=
  match (decodeUtf8 m.data).bind Ecma.parse with
  | none => true
  | some out =>
      (c ≠ infoStream config || !missing out || start.streams.isEmpty) && (c ≠ infoConsumer config || !missing out || start.consumers.isEmpty) &&
        ((c ≠ infoStream config && c ≠ createStream config) || reports s.streams (streamConfig config) out) &&
        ((c ≠ infoConsumer config && c ≠ createConsumer config) || reports s.consumers (consumerConfig config) out)

abbrev Provision := Run Call Answer Thrown Failure Unit

structure Provisioning where
  catalog : Catalog
  wire : List Call
  runs : List Provision

def Catalog.admits (config : Config) (start s : Catalog) (r : Provision) : Event Answer Thrown → Bool
  | .answer (.ok (.message m)) =>
      match r.point with
      | .awaiting c _ => start.answers config s c m
      | _ => false
  | .answer (.ok (.sank _)) => false
  | .answer (.error e) => e = .other
  | _ => true

inductive ProvisioningAction where
  | join
  | run (k : ℕ) (e : Event Answer Thrown)
  | makeStream (made : Properties Json)
  | makeConsumer (made : Properties Json)

-- Any number of provisions of one configuration and their server. It takes a request to
-- create at any later time, any number of times, or never. It never replaces a stream, a
-- consumer may be updated.
def Provisioning.step (config : Config) (start : Catalog) (s : Provisioning) : ProvisioningAction → Option Provisioning
  | .join => some { s with runs := s.runs ++ [begin (provision config)] }
  | .run k e =>
      match s.runs[k]? with
      | some run =>
          if start.admits config s.catalog run e then
            (Operation.step operation true run e).map fun run' =>
              { s with wire := s.wire ++ (run.asks operation e).toList, runs := s.runs.set k run' }
          else none
      | none => none
  | .makeStream made =>
      if createStream config ∈ s.wire ∧ s.catalog.streams.isEmpty ∧ compatible (some (.obj made)) (streamConfig config) then
        some { s with catalog := { s.catalog with streams := [made] } }
      else none
  | .makeConsumer made =>
      if createConsumer config ∈ s.wire ∧ compatible (some (.obj made)) (consumerConfig config) then
        some { s with catalog := { s.catalog with consumers := s.catalog.consumers ++ [made] } }
      else none

def provisioners (config : Config) (stream consumer : Option (Properties Json)) : Machine Provisioning ProvisioningAction :=
  ⟨⟨catalogOf stream consumer, [], []⟩, Provisioning.step config (catalogOf stream consumer)⟩

def Fits (known want : Properties Json) : Prop := compatible (some (.obj known)) want = true

structure Catalog.Consistent (config : Config) (start s : Catalog) : Prop where
  streams : ∀ k ∈ s.streams, k ∈ start.streams ∨ Fits k (streamConfig config)
  consumers : ∀ k ∈ s.consumers, k ∈ start.consumers ∨ Fits k (consumerConfig config)
  stream : start.streams ≠ [] → s.streams = start.streams
  consumer : start.consumers ≠ [] → s.consumers = start.consumers

structure Catalog.Later (s t : Catalog) : Prop where
  streams : s.streams ⊆ t.streams
  consumers : s.consumers ⊆ t.consumers

def Catalog.Conflicts (config : Config) (start : Catalog) : Prop :=
  (∃ k ∈ start.streams, ¬ Fits k (streamConfig config)) ∨ ∃ k ∈ start.consumers, ¬ Fits k (consumerConfig config)

def Catalog.Streaming (config : Config) (s : Catalog) : Prop := ∃ k ∈ s.streams, Fits k (streamConfig config)

def Catalog.Consuming (config : Config) (s : Catalog) : Prop := ∃ k ∈ s.consumers, Fits k (consumerConfig config)

def Catalog.Owes (config : Config) (start s : Catalog) (c : Call) : Prop :=
  (c = createStream config → start.streams = []) ∧ (c = createConsumer config → start.consumers = [] ∧ s.Streaming config)

theorem streaming_later (config : Config) (s t : Catalog) (later : s.Later t) (streaming : s.Streaming config) : t.Streaming config := by
  obtain ⟨k, member, fits⟩ := streaming
  exact ⟨k, later.streams member, fits⟩

theorem consuming_later (config : Config) (s t : Catalog) (later : s.Later t) (consuming : s.Consuming config) : t.Consuming config := by
  obtain ⟨k, member, fits⟩ := consuming
  exact ⟨k, later.consumers member, fits⟩

theorem owes_later (config : Config) (start s t : Catalog) (later : s.Later t) (c : Call) (owes : start.Owes config s c) :
    start.Owes config t c :=
  ⟨owes.1, fun creates => ⟨(owes.2 creates).1, streaming_later config s t later (owes.2 creates).2⟩⟩

def provisioning (config : Config) (start : Catalog) : Reliance Catalog Call Answer Thrown Unit where
  later := Catalog.Later
  relies s c a := start.Consistent config s ∧ ∃ m, a = .message m ∧ start.answers config s c m = true
  calls s c := start.Owes config s c
  throws _ e := e = .other ∨ e = .app unavailable ∨ e = .app invalid ∧ start.Conflicts config
  returns s _ := s.Streaming config ∧ s.Consuming config
  unmoved _ := ⟨List.Subset.refl _, List.Subset.refl _⟩
  onward _ _ _ first second := ⟨List.Subset.trans first.streams second.streams, List.Subset.trans first.consumers second.consumers⟩
  thrown _ _ _ _ thrown := thrown
  returned s t _ later returned := ⟨streaming_later config s t later returned.1, consuming_later config s t later returned.2⟩

variable {State α : Type}

theorem ensure_meets (k : Reliance State Call Answer Thrown Unit) (info create : Str) (input : Json) (want : Properties Json)
    (next : Task Unit) (s : State) (onward : ∀ t u, k.later s t → k.later t u → k.later s u)
    (suits : ∀ t c r, ¬ k.relies t c (.sank r)) (asks : ∀ t, k.calls t (.request info (encode (.obj [])) none))
    (fails : ∀ t e, e = .other ∨ e = .app unavailable → k.throws t e)
    (creates : ∀ t m out, k.relies t (.request info (encode (.obj [])) none) (.message m) →
      (decodeUtf8 m.data).bind Ecma.parse = some out → missing out = true → ∀ u, k.later s u → k.calls u (.request create (encode input) none))
    (ends : ∀ t c m out, k.later s t → c = .request info (encode (.obj [])) none ∨ c = .request create (encode input) none →
      k.relies t c (.message m) → (decodeUtf8 m.data).bind Ecma.parse = some out → (validated out want next).Meets k t) :
    (ensure info create input want next).Meets k s := by
  refine api_meets k info (.obj []) _ s (fun t _ => asks t) (fun t => suits t _) (fun t e _ => fails t e) fun t m out later relied parsed => ?_
  cases absent : missing out with
  | false =>
      simp only [Bool.false_eq_true, if_false]
      exact ends t _ m out later (.inl rfl) relied parsed
  | true =>
      simp only [if_true]
      refine api_meets k create input _ t (fun u later' => creates t m out relied parsed absent u (onward t u later later'))
        (fun u => suits u _) (fun u e _ => fails u e) fun u m' out' later' relied' parsed' => ?_
      exact ends u _ m' out' (onward t u later later') (.inr rfl) relied' parsed'

end N2F.Broker

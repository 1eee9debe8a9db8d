import N2F.Provenance.Work

set_option autoImplicit false

namespace N2F

open Ecma

-- Reading a parsed document. A thrown error and a failed result both end in the
-- one refusal of decode, so reading yields nothing in either case.
def object (v : Option Json) : Option (Properties Json) :=
  match v with
  | some (.obj ms) => some ms
  | _ => none

def stringIn (v : Option Json) : Option Str :=
  match v with
  | some (.str s) => some s
  | _ => none

def numberIn (v : Option Json) : Option Number :=
  match v with
  | some (.num n) => some n
  | _ => none

theorem object_some (v : Option Json) (ms : Properties Json) (found : object v = some ms) : v = some (.obj ms) := by
  unfold object at found
  split at found
  · injection found with same
    rw [same]
  · cases found

theorem string_in_some (v : Option Json) (s : Str) (found : stringIn v = some s) : v = some (.str s) := by
  unfold stringIn at found
  split at found
  · injection found with same
    rw [same]
  · cases found

theorem number_in_some (v : Option Json) (n : Number) (found : numberIn v = some n) : v = some (.num n) := by
  unfold numberIn at found
  split at found
  · injection found with same
    rw [same]
  · cases found

def keys (v : Properties Json) (allowed : List Str) : Option Unit :=
  if v.all (fun m => allowed.contains m.1) then some () else none

def value {α : Type} (r : Result α) : Option α :=
  match r with
  | .ok a => some a
  | .error _ => none

def nullish (v : Option Json) : Bool :=
  match v with
  | none | some .null => true
  | _ => false

-- v == null ? undefined : read(v)
def optional {α : Type} (read : Option Json → Option α) (v : Option Json) : Option (Option α) :=
  if nullish v then some none else (read v).map some

def idIn (v : Option Json) : Option Str := (stringIn v).bind fun s => value (parse s)

def actorKeys : List Str := [str "kind", str "identity"]

def actorIn (v : Option Json) : Option (Option Actor) :=
  optional (fun v => do
    let a ← object v
    keys a actorKeys
    let kind ← stringIn (get a (str "kind"))
    let identity ← optional stringIn (get a (str "identity"))
    value (actor (actorKind kind) (identity.getD []))) v

def refKeys : List Str := [str "kind", str "id"]

def refIn (v : Option Json) : Option (Option Reference) :=
  optional (fun v => do
    let r ← object v
    keys r refKeys
    let kind ← stringIn (get r (str "kind"))
    let id ← idIn (get r (str "id"))
    value (reference (referenceKind kind) id)) v

def attributionKeys : List Str := [str "initiator", str "on_behalf_of", str "tenant"]

def attributionIn (v : Option Json) : Option Attribution := do
  let a ← object v
  keys a attributionKeys
  let initiator ← actorIn (get a (str "initiator"))
  let onBehalfOf ← actorIn (get a (str "on_behalf_of"))
  let tenant ← optional stringIn (get a (str "tenant"))
  value (attribution ⟨initiator.map .genuine, onBehalfOf.map .genuine, tenant⟩)

def replayKeys : List Str := [str "run_id", str "source"]

-- A missing source passes refIn as undefined and is refused later.
def givenReference (r : Option Reference) : Given Reference :=
  match r with
  | some r => .genuine r
  | none => .foreign

def replayIn (v : Option Json) : Option (Option DraftReplay) :=
  optional (fun v => do
    let r ← object v
    keys r replayKeys
    let runId ← idIn (get r (str "run_id"))
    let source ← refIn (get r (str "source"))
    some ⟨some runId, givenReference source⟩) v

def workKeys : List Str :=
  [str "work_id", str "correlation_id", str "correlation_source", str "operation", str "attribution", str "causation",
    str "origin", str "depth", str "replay"]

def workIn (v : Option Json) : Option WorkContext := do
  let w ← object v
  keys w workKeys
  let workId ← idIn (get w (str "work_id"))
  let correlationId ← idIn (get w (str "correlation_id"))
  let source ← stringIn (get w (str "correlation_source"))
  let op ← (stringIn (get w (str "operation"))).bind fun s => value (operation s)
  let attribution ← attributionIn (get w (str "attribution"))
  let causation ← refIn (get w (str "causation"))
  let started ← optional stringIn (get w (str "origin"))
  let depth ← optional numberIn (get w (str "depth"))
  let replay ← replayIn (get w (str "replay"))
  value (restoreWork
    { workId := some workId
      correlationId := some correlationId
      correlationSource := correlationSource source
      causation := causation.map .genuine
      origin := started.map origin
      operation := op
      attribution := .genuine attribution
      depth := depth
      replay := replay })

def actorFields (a : Actor) : List (Str × Option Json) :=
  [(str "kind", some (.str (str a.kind.text))), (str "identity", a.identity.map .str)]

def actorOut (a : Actor) : Json := .obj (present (actorFields a))

def referenceFields (r : Reference) : List (Str × Option Json) :=
  [(str "kind", some (.str (str r.kind.text))), (str "id", some (.str r.id))]

def referenceOut (r : Reference) : Json := .obj (present (referenceFields r))

def attributionFields (a : Attribution) : List (Str × Option Json) :=
  [(str "initiator", a.initiator.map actorOut), (str "on_behalf_of", a.onBehalfOf.map actorOut),
    (str "tenant", a.tenant.map .str)]

def attributionOut (a : Attribution) : Json := .obj (present (attributionFields a))

def replayFields (r : ReplayInfo) : List (Str × Option Json) :=
  [(str "run_id", some (.str r.runId)), (str "source", some (referenceOut r.source))]

def replayOut (r : ReplayInfo) : Json := .obj (present (replayFields r))

def workFields (w : WorkSnapshot) : List (Str × Option Json) :=
  [(str "work_id", some (.str w.workId)), (str "correlation_id", some (.str w.correlationId)),
    (str "correlation_source", some (.str (str w.correlationSource.text))), (str "operation", some (.str w.operation)),
    (str "attribution", some (attributionOut w.attribution)), (str "causation", w.causation.map referenceOut),
    (str "origin", w.origin.map fun o => .str (str o.text)), (str "depth", w.depth.map .num),
    (str "replay", w.replay.map replayOut)]

def workOut (w : WorkSnapshot) : Json := .obj (present (workFields w))

theorem keys_present (fs : List (Str × Option Json)) (allowed : List Str) (inside : ∀ k ∈ fs.map Prod.fst, k ∈ allowed) :
    keys (present fs) allowed = some () := by
  refine if_pos (List.all_eq_true.mpr fun m member => ?_)
  simpa using inside m.1 (List.mem_map_of_mem (f := Prod.fst) (present_keys fs m member))

theorem optional_map {α : Type} (read : Option Json → Option α) (write : α → Json) (a : Option α)
    (solid : ∀ a, nullish (some (write a)) = false) (back : ∀ a, read (some (write a)) = some a) :
    optional read (a.map write) = some a := by
  cases a with
  | none => rfl
  | some a => simp [optional, solid a, back a]

theorem record_keys_distinct :
    actorKeys.Nodup ∧ refKeys.Nodup ∧ attributionKeys.Nodup ∧ replayKeys.Nodup ∧ workKeys.Nodup := by decide +kernel

theorem actor_keys_distinct : actorKeys.Nodup := record_keys_distinct.1

theorem ref_keys_distinct : refKeys.Nodup := record_keys_distinct.2.1

theorem attribution_keys_distinct : attributionKeys.Nodup := record_keys_distinct.2.2.1

theorem replay_keys_distinct : replayKeys.Nodup := record_keys_distinct.2.2.2.1

theorem work_keys_distinct : workKeys.Nodup := record_keys_distinct.2.2.2.2

theorem id_in_valid (id : Str) (valid : validID id = true) : idIn (some (.str id)) = some id := by
  simp [idIn, stringIn, (valid_id_iff id).mp valid, value]

theorem actor_in_out (a : Option Actor) : actorIn (a.map actorOut) = some a := by
  refine optional_map _ _ a (fun a => rfl) fun a => ?_
  have kind := get_present (actorFields a) _ _ actor_keys_distinct (List.mem_cons_self ..)
  have identity := get_present (actorFields a) (str "identity") (a.identity.map .str) actor_keys_distinct (by simp [actorFields])
  have allowed := keys_present (actorFields a) actorKeys (fun k member => member)
  have tail := optional_map stringIn .str a.identity (fun s => rfl) (fun s => rfl)
  simp [actorOut, object, allowed, kind, identity, stringIn, tail, actor_kind_text, actor_fields, value]

theorem ref_in_out (r : Option Reference) : refIn (r.map referenceOut) = some r := by
  refine optional_map _ _ r (fun r => rfl) fun r => ?_
  have kind := get_present (referenceFields r) _ _ ref_keys_distinct (List.mem_cons_self ..)
  have id := get_present (referenceFields r) (str "id") (some (.str r.id)) ref_keys_distinct (by simp [referenceFields])
  have allowed := keys_present (referenceFields r) refKeys (fun k member => member)
  simp [referenceOut, object, allowed, kind, id, stringIn, reference_kind_text, id_in_valid r.id r.valid,
    reference_valid r.kind r.id r.valid, value]

theorem attribution_in_out (a : Attribution) : attributionIn (some (attributionOut a)) = some a := by
  have initiator := get_present (attributionFields a) _ _ attribution_keys_distinct (List.mem_cons_self ..)
  have onBehalfOf := get_present (attributionFields a) (str "on_behalf_of") (a.onBehalfOf.map actorOut)
    attribution_keys_distinct (by simp [attributionFields])
  have tenant := get_present (attributionFields a) (str "tenant") (a.tenant.map .str) attribution_keys_distinct
    (by simp [attributionFields])
  have allowed := keys_present (attributionFields a) attributionKeys (fun k member => member)
  have tail := optional_map stringIn .str a.tenant (fun s => rfl) (fun s => rfl)
  simp [attributionIn, attributionOut, object, allowed, initiator, onBehalfOf, tenant, actor_in_out, tail,
    attribution_fields, value]

theorem replay_in_out (r : Option ReplayInfo) (valid : ∀ info, r = some info → validID info.runId = true) :
    replayIn (r.map replayOut) = some (r.map ReplayInfo.draft) := by
  cases r with
  | none => rfl
  | some r =>
      have run := get_present (replayFields r) _ _ replay_keys_distinct (List.mem_cons_self ..)
      have source := get_present (replayFields r) (str "source") (some (referenceOut r.source)) replay_keys_distinct
        (by simp [replayFields])
      have allowed := keys_present (replayFields r) replayKeys (fun k member => member)
      have read := ref_in_out (some r.source)
      rw [Option.map_some] at read
      simp [replayIn, optional, nullish, replayOut, object, allowed, run, source, read, id_in_valid r.runId (valid r rfl),
        givenReference, ReplayInfo.draft]

theorem work_in_out (c : WorkContext) : workIn (some (workOut c.data)) = some c := by
  obtain ⟨w, valid⟩ := c
  have field (k : Str) (v : Option Json) (member : (k, v) ∈ workFields w) : get (present (workFields w)) k = v :=
    get_present (workFields w) k v work_keys_distinct member
  have allowed := keys_present (workFields w) workKeys (fun k member => member)
  have workId := field (str "work_id") _ (List.mem_cons_self ..)
  have correlationId := field (str "correlation_id") (some (.str w.correlationId)) (by simp [workFields])
  have source := field (str "correlation_source") (some (.str (str w.correlationSource.text))) (by simp [workFields])
  have op := field (str "operation") (some (.str w.operation)) (by simp [workFields])
  have attribution := field (str "attribution") (some (attributionOut w.attribution)) (by simp [workFields])
  have causation := field (str "causation") (w.causation.map referenceOut) (by simp [workFields])
  have begun := field (str "origin") (w.origin.map fun o => .str (str o.text)) (by simp [workFields])
  have depth := field (str "depth") (w.depth.map .num) (by simp [workFields])
  have replay := field (str "replay") (w.replay.map replayOut) (by simp [workFields])
  have readDepth := optional_map numberIn .num w.depth (fun n => rfl) (fun n => rfl)
  have readReplay := replay_in_out w.replay (fun info here => by
    have run := valid.runId info.draft (by simp [WorkSnapshot.draft, here])
    exact run)
  have readOrigin : optional stringIn (w.origin.map fun o => .str (str o.text)) = some (w.origin.map fun o => str o.text) := by
    cases w.origin <;> rfl
  have origins : (w.origin.map fun o => str o.text).map origin = w.origin.map .genuine := by
    rw [Option.map_map]
    exact congrArg (w.origin.map ·) (funext origin_text)
  have restored : restoreWork w.draft = .ok ⟨w, valid⟩ := (restore_work_iff w.draft ⟨w, valid⟩).mpr rfl
  simp only [WorkSnapshot.draft] at restored
  simp only [workIn, object, workOut, stringIn, value, Option.bind_eq_bind, Option.bind_some, allowed, workId,
    id_in_valid w.workId valid.workId, correlationId, id_in_valid w.correlationId valid.correlationId, source, op,
    operation_valid w.operation valid.operation, attribution, attribution_in_out, causation, ref_in_out, begun, readOrigin, depth,
    readDepth, replay, readReplay, origins, correlation_source_text, restored]

end N2F

import N2F.Events.Envelope

set_option autoImplicit false

namespace N2F

open Ecma

theorem keys_plain :
    ∀ k ∈ wireKeys ++ (workKeys ++ attributionKeys ++ actorKeys ++ refKeys ++ replayKeys), arrayIndex k = none := by
  decide +kernel

theorem wire_keys_plain (k : Str) (key : k ∈ wireKeys) : arrayIndex k = none := keys_plain k (List.mem_append_left _ key)

theorem work_keys_plain (k : Str) (key : k ∈ workKeys ++ attributionKeys ++ actorKeys ++ refKeys ++ replayKeys) :
    arrayIndex k = none := keys_plain k (List.mem_append_right _ key)

theorem id_apart_work : str "id" ≠ str "work" := by simp [str, unitsOf]

theorem get_settle_members (w : Properties Json) (k : Str) : get (settleMembers w) k = (get w k).map Json.settle := by
  rw [settle_members_map, get_map]

theorem admitted_has (w : Properties Json) (accepted : admitted w = true) (k : Str) (key : k ∈ wireKeys) :
    (get w k).isSome = true := by
  simp only [admitted, Bool.and_eq_true] at accepted
  exact List.all_eq_true.mp accepted.1.1.1.1.2 k key

theorem number_settle (v : Option Json) (p : Number → Bool) (stable : ∀ n, p n.unsigned = p n)
    (finite : ∀ n, p n = true → n.isFinite = true) (held : (numberIn v).any p = true) :
    (numberIn (v.map Json.settle)).any p = true := by
  cases v with
  | none => cases held
  | some v =>
      cases v with
      | num n =>
          have kept := settle_finite n (finite n held)
          simp only [Option.map_some, Json.settle, kept, numberIn, Option.any_some, stable]
          exact held
      | null => cases held
      | bool b => cases held
      | str s => cases held
      | arr vs => cases held
      | obj ms => cases held

theorem string_settle (v : Option Json) (p : Str → Bool) (held : (stringIn v).any p = true) :
    (stringIn (v.map Json.settle)).any p = true := by
  cases v with
  | none => cases held
  | some v =>
      cases v with
      | str s => exact held
      | null => cases held
      | bool b => cases held
      | num n => cases held
      | arr vs => cases held
      | obj ms => cases held

theorem object_settle (v : Option Json) (held : (object v).isSome = true) : (object (v.map Json.settle)).isSome = true := by
  cases v with
  | none => cases held
  | some v =>
      cases v with
      | obj ms => rfl
      | null => cases held
      | bool b => cases held
      | num n => cases held
      | arr vs => cases held
      | str s => cases held

theorem one_finite (n : Number) (one : is n 1 = true) : n.isFinite = true := by
  have value : n.rational = some 1 := of_decide_eq_true one
  rw [Number.isFinite, value]
  rfl

theorem time_unsigned (n : Number) : validTime n.unsigned = validTime n := by
  simp only [validTime, unsigned_safe, unsigned_below, unsigned_above]

theorem time_finite (n : Number) (valid : validTime n = true) : n.isFinite = true := by
  simp only [validTime, Bool.and_eq_true] at valid
  exact safe_finite n valid.1.1

theorem admitted_settle (w : Properties Json) (accepted : admitted w = true) : admitted (settleMembers w) = true := by
  have has := admitted_has w accepted
  simp only [admitted, Bool.and_eq_true] at accepted ⊢
  obtain ⟨⟨⟨⟨⟨length, _⟩, version⟩, type⟩, time⟩, payload⟩ := accepted
  simp only [get_settle_members, settle_members_length]
  refine ⟨⟨⟨⟨⟨length, List.all_eq_true.mpr fun k key => ?_⟩, ?_⟩, string_settle _ _ type⟩, ?_⟩, object_settle _ payload⟩
  · rw [Option.isSome_map]
    exact has k key
  · exact number_settle _ _ (fun n => by rw [is, is, unsigned_rational]) one_finite version
  · exact number_settle _ _ time_unsigned time_finite time

theorem admitted_set (w : Properties Json) (k : Str) (v : Json) (accepted : admitted w = true)
    (replaced : k = str "id" ∨ k = str "work") : admitted (set k v w) = true := by
  have key : k ∈ wireKeys := by rcases replaced with rfl | rfl <;> simp [wireKeys]
  have others : ∀ j ∈ [str "v", str "type", str "occurred_at_ms", str "payload"], j ≠ k := by
    rcases replaced with rfl | rfl <;> simp [str, unitsOf]
  have same (j : Str) (other : j ∈ [str "v", str "type", str "occurred_at_ms", str "payload"]) :
      get (set k v w) j = get w j := get_set_other k j v w (others j other)
  have has := admitted_has w accepted
  have length := congrArg List.length (set_present_keys k v w (wire_keys_plain k key) (has k key))
  simp only [List.length_map] at length
  simp only [admitted, Bool.and_eq_true] at accepted ⊢
  obtain ⟨⟨⟨⟨⟨six, _⟩, version⟩, type⟩, time⟩, payload⟩ := accepted
  rw [length, same (str "v") (by simp), same (str "type") (by simp), same (str "occurred_at_ms") (by simp),
    same (str "payload") (by simp)]
  refine ⟨⟨⟨⟨⟨six, List.all_eq_true.mpr fun j member => ?_⟩, version⟩, type⟩, time⟩, payload⟩
  by_cases here : j = k
  · rw [here, get_set_same]
    rfl
  · rw [get_set_other k j v w here]
    exact has j member

theorem normalized_admitted (w : Properties Json) (id : Str) (work : WorkContext) (accepted : admitted w = true) :
    admitted (normalized w id work) = true :=
  admitted_set _ _ _ (admitted_set w _ _ accepted (.inl rfl)) (.inr rfl)

theorem normalized_id (w : Properties Json) (id : Str) (work : WorkContext) :
    get (normalized w id work) (str "id") = some (.str id) := by
  rw [normalized, get_set_other _ _ _ _ id_apart_work, get_set_same]

theorem normalized_work (w : Properties Json) (id : Str) (work : WorkContext) :
    get (normalized w id work) (str "work") = some (workOut work.data) := get_set_same ..

theorem normalized_other (w : Properties Json) (id : Str) (work : WorkContext) (k : Str) (other : k ≠ str "id")
    (other' : k ≠ str "work") : get (normalized w id work) k = get w k := by
  rw [normalized, get_set_other _ _ _ _ other', get_set_other _ _ _ _ other]

theorem normalize_fixed (w : Properties Json) (id : Str) (work : WorkContext) (ordered : Ordered w)
    (accepted : admitted w = true) (valid : validID id = true) (named : get w (str "id") = some (.str id))
    (worked : get w (str "work") = some (workOut work.data)) : normalize (.obj w) = some (id, work, w) := by
  have same : normalized w id work = w := by
    rw [normalized, set_get (str "id") _ w ordered named, set_get (str "work") _ w ordered worked]
  have found := normalize_of w id work accepted (by rw [named, id_in_valid id valid]) (by rw [worked, work_in_out])
  rwa [same] at found

theorem object_canonical (fs : List (Str × Option Json)) (distinct : (fs.map Prod.fst).Nodup)
    (plain : ∀ k ∈ fs.map Prod.fst, arrayIndex k = none) (values : ∀ f ∈ fs, ∀ v, f.2 = some v → v.Canonical) :
    (Json.obj (present fs)).Canonical :=
  ⟨present_ordered fs distinct plain,
    (canonical_members_iff _).mpr fun m member => values _ (present_keys fs m member) m.2 rfl⟩

theorem text_canonical {α : Type} (write : α → Str) (a : Option α) (v : Json) (here : a.map (fun a => Json.str (write a)) = some v) :
    v.Canonical := by
  obtain ⟨_, _, rfl⟩ := Option.map_eq_some_iff.mp here
  trivial

theorem actor_canonical (a : Actor) : (actorOut a).Canonical := by
  refine object_canonical _ actor_keys_distinct (fun k member => work_keys_plain k ?_) fun f member v here => ?_
  · have key : k ∈ actorKeys := member
    simp [key]
  · simp only [actorFields, List.mem_cons, List.not_mem_nil, or_false] at member
    rcases member with rfl | rfl
    · cases here
      trivial
    · exact text_canonical _ a.identity v here

theorem reference_canonical (r : Reference) : (referenceOut r).Canonical := by
  refine object_canonical _ ref_keys_distinct (fun k member => work_keys_plain k ?_) fun f member v here => ?_
  · have key : k ∈ refKeys := member
    simp [key]
  · simp only [referenceFields, List.mem_cons, List.not_mem_nil, or_false] at member
    rcases member with rfl | rfl <;> cases here <;> trivial

theorem written_canonical {α : Type} (write : α → Json) (canonical : ∀ a, (write a).Canonical) (a : Option α) (v : Json)
    (here : a.map write = some v) : v.Canonical := by
  obtain ⟨a, _, rfl⟩ := Option.map_eq_some_iff.mp here
  exact canonical a

theorem attribution_canonical (a : Attribution) : (attributionOut a).Canonical := by
  refine object_canonical _ attribution_keys_distinct (fun k member => work_keys_plain k ?_) fun f member v here => ?_
  · have key : k ∈ attributionKeys := member
    simp [key]
  · simp only [attributionFields, List.mem_cons, List.not_mem_nil, or_false] at member
    rcases member with rfl | rfl | rfl
    · exact written_canonical _ actor_canonical _ v here
    · exact written_canonical _ actor_canonical _ v here
    · exact text_canonical _ a.tenant v here

theorem replay_canonical (r : ReplayInfo) : (replayOut r).Canonical := by
  refine object_canonical _ replay_keys_distinct (fun k member => work_keys_plain k ?_) fun f member v here => ?_
  · have key : k ∈ replayKeys := member
    simp [key]
  · simp only [replayFields, List.mem_cons, List.not_mem_nil, or_false] at member
    rcases member with rfl | rfl
    · cases here
      trivial
    · cases here
      exact reference_canonical r.source

theorem work_canonical (w : WorkSnapshot) : (workOut w).Canonical := by
  refine object_canonical _ work_keys_distinct (fun k member => work_keys_plain k ?_) fun f member v here => ?_
  · have key : k ∈ workKeys := member
    simp [key]
  · simp only [workFields, List.mem_cons, List.not_mem_nil, or_false] at member
    rcases member with rfl | rfl | rfl | rfl | rfl | rfl | rfl | rfl | rfl
    · cases here
      trivial
    · cases here
      trivial
    · cases here
      trivial
    · cases here
      trivial
    · cases here
      exact attribution_canonical w.attribution
    · exact written_canonical _ reference_canonical _ v here
    · exact text_canonical _ w.origin v here
    · exact written_canonical Json.num (fun _ => trivial) _ v here
    · exact written_canonical _ replay_canonical _ v here

theorem set_canonical (k : Str) (v : Json) (ms : Properties Json) (canonical : (Json.obj ms).Canonical) (new : v.Canonical) :
    (Json.obj (set k v ms)).Canonical := by
  refine ⟨set_ordered k v ms canonical.1, (canonical_members_iff _).mpr fun m member => ?_⟩
  rcases set_keys k v ms m member with rfl | old
  · exact new
  · exact (canonical_members_iff ms).mp canonical.2 m old

theorem normalized_canonical (w : Properties Json) (id : Str) (work : WorkContext) (canonical : (Json.obj w).Canonical) :
    (Json.obj (normalized w id work)).Canonical :=
  set_canonical _ _ _ (set_canonical _ _ w canonical trivial) (work_canonical work.data)

def WorkSnapshot.unsigned (w : WorkSnapshot) : WorkSnapshot := { w with depth := w.depth.map Number.unsigned }

theorem unsigned_valid (w : WorkSnapshot) (valid : w.draft.Valid false) : w.unsigned.draft.Valid false := by
  refine { valid with depth := fun d here => ?_ }
  obtain ⟨d', before, rfl⟩ := Option.map_eq_some_iff.mp here
  have accepted := valid.depth d' before
  simp only [refusesDepth, unsigned_integer, unsigned_below, unsigned_above, is, unsigned_rational] at accepted ⊢
  exact accepted

def WorkContext.unsigned (work : WorkContext) : WorkContext := ⟨work.data.unsigned, unsigned_valid work.data work.valid⟩

theorem settle_present (fs : List (Str × Option Json)) :
    settleMembers (present fs) = present (fs.map fun f => (f.1, f.2.map Json.settle)) := by
  rw [settle_members_map]
  induction fs with
  | nil => rfl
  | cons f rest ih =>
      obtain ⟨k, v⟩ := f
      cases v with
      | none => exact ih
      | some v => exact congrArg ((k, v.settle) :: ·) ih

theorem actor_settle (a : Actor) : (actorOut a).settle = actorOut a := by
  obtain ⟨kind, identity, _⟩ := a
  cases identity <;> rfl

theorem reference_settle (r : Reference) : (referenceOut r).settle = referenceOut r := rfl

theorem settle_written {α : Type} (write : α → Json) (settled : ∀ a, (write a).settle = write a) (a : Option α) :
    (a.map write).map Json.settle = a.map write := by
  cases a with
  | none => rfl
  | some a => exact congrArg some (settled a)

theorem attribution_settle (a : Attribution) : (attributionOut a).settle = attributionOut a := by
  simp only [attributionOut, Json.settle, settle_present, attributionFields, List.map_cons, List.map_nil,
    settle_written actorOut actor_settle, settle_written Json.str (fun _ => rfl)]

theorem replay_settle (r : ReplayInfo) : (replayOut r).settle = replayOut r := rfl

theorem depth_settle (w : WorkSnapshot) (valid : w.draft.Valid false) :
    (w.depth.map Json.num).map Json.settle = w.unsigned.depth.map Json.num := by
  cases here : w.depth with
  | none => simp [WorkSnapshot.unsigned, here]
  | some d =>
      have accepted := valid.depth d here
      simp only [refusesDepth, Bool.or_eq_false_iff, Bool.not_eq_false'] at accepted
      have finite := integer_finite d accepted.1.1.1.1
      simp [WorkSnapshot.unsigned, here, Json.settle, settle_finite d finite]

theorem work_settle (work : WorkContext) : (workOut work.data).settle = workOut work.unsigned.data := by
  simp only [workOut, Json.settle, settle_present, workFields, List.map_cons, List.map_nil, Option.map_some,
    attribution_settle, settle_written referenceOut reference_settle, settle_written replayOut replay_settle,
    settle_written (fun o : Origin => Json.str (str o.text)) (fun _ => rfl), depth_settle work.data work.valid]
  rfl

theorem normalize_settled (w : Properties Json) (id : Str) (work : WorkContext) (canonical : (Json.obj w).Canonical)
    (accepted : admitted w = true) (valid : validID id = true) :
    normalize (.obj (settleMembers (normalized w id work))) =
      some (id, work.unsigned, settleMembers (normalized w id work)) := by
  have ordered : Ordered (settleMembers (normalized w id work)) := by
    rw [settle_members_map]
    exact (ordered_map Json.settle _).mpr (normalized_canonical w id work canonical).1
  refine normalize_fixed _ id work.unsigned ordered (admitted_settle _ (normalized_admitted w id work accepted)) valid ?_ ?_
  · rw [get_settle_members, normalized_id]
    rfl
  · rw [get_settle_members, normalized_work, Option.map_some, work_settle]

end N2F

import N2F.Events.Provision

set_option autoImplicit false

namespace N2F.Broker

open Ecma Operation

theorem subjects_apart (n : ℕ) (a b x y : Str) (data data' : ByteArray) (headers headers' : Option (Str × Str)) (left : n ≤ a.length)
    (right : n ≤ b.length) (differ : a.take n ≠ b.take n) : Call.request (a ++ x) data headers ≠ .request (b ++ y) data' headers' := by
  intro same
  injection same with subject
  have taken := congrArg (List.take n) subject
  rw [List.take_append_of_le_length left, List.take_append_of_le_length right] at taken
  exact differ taken

theorem info_no_create (config : Config) : infoStream config ≠ createStream config ∧ infoStream config ≠ createConsumer config := by
  constructor
  · exact subjects_apart 16 _ _ _ _ _ _ _ _ (by decide) (by decide) (by decide)
  · rw [createConsumer, List.append_assoc, List.append_assoc]
    exact subjects_apart 9 _ _ _ _ _ _ _ _ (by decide) (by decide) (by decide)

theorem consumer_info_no_create (config : Config) :
    infoConsumer config ≠ createStream config ∧ infoConsumer config ≠ createConsumer config := by
  rw [infoConsumer, createConsumer, List.append_assoc, List.append_assoc, List.append_assoc, List.append_assoc]
  constructor
  · exact subjects_apart 9 _ _ _ _ _ _ _ _ (by decide) (by decide) (by decide)
  · exact subjects_apart 18 _ _ _ _ _ _ _ _ (by decide) (by decide) (by decide)

theorem creates_apart (config : Config) : createStream config ≠ createConsumer config := by
  rw [createConsumer, List.append_assoc, List.append_assoc]
  exact subjects_apart 9 _ _ _ _ _ _ _ _ (by decide) (by decide) (by decide)

theorem reported (known start : List (Properties Json)) (want : Properties Json) (out : Json)
    (consistent : ∀ k ∈ known, k ∈ start ∨ Fits k want) (quiet : truthy (optional (some out) (str "error")) = false)
    (honest : reports known want out = true) :
    if compatible (optional (some out) (str "config")) want = true then ∃ k ∈ known, Fits k want else ∃ k ∈ start, ¬ Fits k want := by
  simp only [reports, quiet, Bool.false_or, List.any_eq_true, decide_eq_true_eq] at honest
  obtain ⟨k, member, same⟩ := honest
  by_cases fits : compatible (optional (some out) (str "config")) want = true
  · rw [if_pos fits]
    exact ⟨k, member, same.trans fits⟩
  · rw [if_neg fits]
    have unfit : ¬ Fits k want := fun own => fits (same.symm.trans own)
    rcases consistent k member with before | own
    · exact ⟨k, before, unfit⟩
    · exact absurd own unfit

theorem validated_meets (config : Config) (start s : Catalog) (known : List (Properties Json)) (before : List (Properties Json))
    (want : Properties Json) (out : Json) (next : Task Unit) (consistent : ∀ k ∈ known, k ∈ before ∨ Fits k want)
    (honest : reports known want out = true) (conflicts : (∃ k ∈ before, ¬ Fits k want) → start.Conflicts config)
    (goes : (∃ k ∈ known, Fits k want) → next.Meets (provisioning config start) s) :
    (validated out want next).Meets (provisioning config start) s := by
  rw [validated]
  cases quiet : truthy (optional (some out) (str "error")) with
  | true => exact .inr (.inl rfl)
  | false =>
      have shown := reported known before want out consistent quiet honest
      by_cases fits : compatible (optional (some out) (str "config")) want = true
      · rw [if_pos fits] at shown
        simp only [Bool.false_eq_true, if_false, if_pos fits]
        exact goes shown
      · rw [if_neg fits] at shown
        simp only [Bool.false_eq_true, if_false, if_neg fits]
        exact .inr (.inr ⟨rfl, conflicts shown⟩)

theorem answers_parsed (config : Config) (start s : Catalog) (c : Call) (m : Msg) (out : Json)
    (parsed : (decodeUtf8 m.data).bind Ecma.parse = some out) :
    start.answers config s c m = true ↔
      (c = infoStream config → missing out = true → start.streams = []) ∧ (c = infoConsumer config → missing out = true → start.consumers = []) ∧
      (c = infoStream config ∨ c = createStream config → reports s.streams (streamConfig config) out = true) ∧
      (c = infoConsumer config ∨ c = createConsumer config → reports s.consumers (consumerConfig config) out = true) := by
  simp only [Catalog.answers, parsed, Bool.and_eq_true, Bool.or_eq_true, decide_eq_true_eq, Bool.not_eq_true', List.isEmpty_iff]
  cases missing out <;> grind

theorem info_owed (config : Config) (start s : Catalog) (c : Call) (first : c ≠ createStream config) (second : c ≠ createConsumer config) :
    start.Owes config s c := ⟨fun same => absurd same first, fun same => absurd same second⟩

theorem provisioning_fails (config : Config) (start s : Catalog) (e : Thrown) (fails : e = .other ∨ e = .app unavailable) :
    (provisioning config start).throws s e := fails.imp_right .inl

theorem provisioning_suits (config : Config) (start s : Catalog) (c : Call) (r : Result Receipt) :
    ¬ (provisioning config start).relies s c (.sank r) := by
  rintro ⟨_, m, same, _⟩
  cases same

theorem consumer_meets (config : Config) (start s : Catalog) (streaming : s.Streaming config) :
    (ensure (str "$JS.API.CONSUMER.INFO." ++ config.stream ++ str "." ++ config.consumer)
      (str "$JS.API.CONSUMER.DURABLE.CREATE." ++ config.stream ++ str "." ++ config.consumer)
      (.obj [(str "stream_name", .str config.stream), (str "config", .obj (consumerConfig config))]) (consumerConfig config)
      (.done (.ok ()))).Meets (provisioning config start) s := by
  refine ensure_meets _ _ _ _ _ _ s (fun t u => (provisioning config start).onward s t u) (provisioning_suits config start) ?_
    (provisioning_fails config start) ?_ ?_
  · exact fun t => info_owed config start t (infoConsumer config) (consumer_info_no_create config).1 (consumer_info_no_create config).2
  · rintro t m out ⟨_, m', same, honest⟩ parsed absent u later
    cases same
    obtain ⟨_, empty, _⟩ := (answers_parsed config start t (infoConsumer config) m out parsed).mp honest
    exact ⟨fun same => absurd same (creates_apart config).symm, fun _ => ⟨empty rfl absent, streaming_later config s u later streaming⟩⟩
  · rintro t c m out later own ⟨consistent, m', same, honest⟩ parsed
    cases same
    obtain ⟨_, _, _, shows⟩ := (answers_parsed config start t c m out parsed).mp honest
    exact validated_meets config start t t.consumers start.consumers (consumerConfig config) out _ consistent.consumers (shows own) .inr
      fun consuming => ⟨streaming_later config s t later streaming, consuming⟩

theorem provision_meets (config : Config) (start s : Catalog) : (provision config).Meets (provisioning config start) s := by
  refine ensure_meets _ _ _ _ _ _ s (fun t u => (provisioning config start).onward s t u) (provisioning_suits config start) ?_
    (provisioning_fails config start) ?_ ?_
  · exact fun t => info_owed config start t (infoStream config) (info_no_create config).1 (info_no_create config).2
  · rintro t m out ⟨_, m', same, honest⟩ parsed absent u _
    cases same
    obtain ⟨empty, _⟩ := (answers_parsed config start t (infoStream config) m out parsed).mp honest
    exact ⟨fun _ => empty rfl absent, fun same => absurd same (creates_apart config)⟩
  · rintro t c m out _ own ⟨consistent, m', same, honest⟩ parsed
    cases same
    obtain ⟨_, _, shows, _⟩ := (answers_parsed config start t c m out parsed).mp honest
    exact validated_meets config start t t.streams start.streams (streamConfig config) out _ consistent.streams (shows own) .inl
      (consumer_meets config start t)

structure Provisioning.Valid (config : Config) (start : Catalog) (s : Provisioning) : Prop where
  consistent : start.Consistent config s.catalog
  wire : ∀ c ∈ s.wire, start.Owes config s.catalog c
  runs : ∀ run ∈ s.runs, run.Meets (provisioning config start) operation s.catalog

theorem provisioning_starts (config : Config) (start : Catalog) : Provisioning.Valid config start ⟨start, [], []⟩ := by
  refine ⟨⟨fun k member => .inl member, fun k member => .inl member, fun _ => rfl, fun _ => rfl⟩, ?_, ?_⟩
  · intro c member
    cases member
  · intro run member
    cases member

theorem catalog_keeps (config : Config) (start catalog : Catalog) (s : Provisioning) (later : s.catalog.Later catalog)
    (consistent : start.Consistent config catalog) (valid : s.Valid config start) :
    Provisioning.Valid config start { s with catalog := catalog } :=
  ⟨consistent, fun c member => owes_later config start s.catalog catalog later c (valid.wire c member),
    fun run member => run_later _ _ run s.catalog catalog later (valid.runs run member)⟩

theorem admitted_provision (config : Config) (start : Catalog) (s : Provisioning) (run run' : Provision) (e : Event Answer Thrown)
    (valid : s.Valid config start) (admits : start.admits config s.catalog run e = true)
    (meets : run.Meets (provisioning config start) operation s.catalog) (stepped : Operation.step operation true run e = some run') :
    run'.Meets (provisioning config start) operation s.catalog := by
  refine step_meets _ _ true run run' e s.catalog (.inl rfl) ?_ ?_ meets stepped
  · rintro c next a here rfl
    cases a with
    | sank r => cases admits
    | message m =>
        simp only [Catalog.admits, here] at admits
        exact ⟨valid.consistent, m, rfl, admits⟩
  · rintro x rfl
    exact .inl (by simpa [Catalog.admits] using admits)

theorem provisioning_keeps (config : Config) (start : Catalog) (s t : Provisioning) (a : ProvisioningAction) (valid : s.Valid config start)
    (moved : s.step config start a = some t) : t.Valid config start := by
  cases a with
  | join =>
      injection moved with same
      rw [← same]
      refine ⟨valid.consistent, valid.wire, fun run member => ?_⟩
      rcases List.mem_append.mp member with old | new
      · exact valid.runs run old
      · rw [List.mem_singleton.mp new]
        exact provision_meets config start s.catalog
  | run k e =>
      rw [Provisioning.step] at moved
      split at moved
      · next run found =>
          obtain ⟨admits, mapped⟩ := Option.ite_none_right_eq_some.mp moved
          obtain ⟨run', stepped, rfl⟩ := Option.map_eq_some_iff.mp mapped
          have meets := valid.runs run (List.mem_of_getElem? found)
          refine ⟨valid.consistent, fun c member => ?_, fun other member => ?_⟩
          · rcases List.mem_append.mp member with old | new
            · exact valid.wire c old
            · exact asks_meets _ operation run e s.catalog c meets (Option.mem_toList.mp new)
          · rcases List.mem_or_eq_of_mem_set member with old | rfl
            · exact valid.runs other old
            · exact admitted_provision config start s run other e valid admits meets stepped
      · cases moved
  | makeStream made =>
      obtain ⟨⟨sent, empty, fits⟩, same⟩ := Option.ite_none_right_eq_some.mp moved
      injection same with same
      have none : start.streams = [] := (valid.wire _ sent).1 rfl
      rw [List.isEmpty_iff] at empty
      rw [← same]
      refine catalog_keeps config start _ s ⟨by simp [empty], List.Subset.refl _⟩ ?_ valid
      refine ⟨fun k member => ?_, valid.consistent.consumers, fun some => absurd none some, valid.consistent.consumer⟩
      rw [List.mem_singleton.mp member]
      exact .inr fits
  | makeConsumer made =>
      obtain ⟨⟨sent, fits⟩, same⟩ := Option.ite_none_right_eq_some.mp moved
      injection same with same
      have none : start.consumers = [] := ((valid.wire _ sent).2 rfl).1
      rw [← same]
      refine catalog_keeps config start _ s ⟨List.Subset.refl _, List.subset_append_left _ _⟩ ?_ valid
      refine ⟨valid.consistent.streams, fun k member => ?_, valid.consistent.stream, fun some => absurd none some⟩
      rcases List.mem_append.mp member with old | new
      · exact valid.consistent.consumers k old
      · rw [List.mem_singleton.mp new]
        exact .inr fits

theorem provisioning_valid (config : Config) (stream consumer : Option (Properties Json)) (s : Provisioning)
    (reached : (provisioners config stream consumer).Reachable s) : s.Valid config (catalogOf stream consumer) :=
  (provisioners config stream consumer).invariant _ (provisioning_starts config _)
    (fun s t a _ valid moved => provisioning_keeps config _ s t a valid moved) s reached

def Catalog.Provisioned (config : Config) (s : Catalog) : Prop :=
  (s.streams ≠ [] ∧ ∀ k ∈ s.streams, Fits k (streamConfig config)) ∧ (s.consumers ≠ [] ∧ ∀ k ∈ s.consumers, Fits k (consumerConfig config))

theorem all_fit (first : Option (Properties Json)) (known : List (Properties Json)) (want : Properties Json)
    (consistent : ∀ k ∈ known, k ∈ first.toList ∨ Fits k want) (kept : first.toList ≠ [] → known = first.toList)
    (some : ∃ k ∈ known, Fits k want) : known ≠ [] ∧ ∀ k ∈ known, Fits k want := by
  obtain ⟨k, member, fits⟩ := some
  refine ⟨List.ne_nil_of_mem member, fun other member' => ?_⟩
  cases first with
  | none =>
      rcases consistent other member' with before | own
      · cases before
      · exact own
  | some old =>
      rw [kept (List.cons_ne_nil _ _)] at member member'
      rw [List.mem_singleton.mp member', ← List.mem_singleton.mp member]
      exact fits

theorem unfit_stream (config : Config) (k : Properties Json) (consumer : Option (Properties Json)) (s : Provisioning)
    (valid : s.Valid config (catalogOf (some k) consumer)) (unfit : ¬ Fits k (streamConfig config)) : ¬ s.catalog.Streaming config := by
  rintro ⟨other, member, fits⟩
  have only : s.catalog.streams = [k] := valid.consistent.stream (List.cons_ne_nil _ _)
  rw [only] at member
  exact unfit (List.mem_singleton.mp member ▸ fits)

theorem provision_agrees (config : Config) (stream consumer : Option (Properties Json)) (s : Provisioning)
    (reached : (provisioners config stream consumer).Reachable s) :
    (∀ run ∈ s.runs, run.point = .concluded (.ok ()) → s.catalog.Provisioned config) ∧
    (∀ run ∈ s.runs, ∀ f, run.point = .concluded (.error f) →
      f = canceled ∨ f = unavailable ∨ f = invalid ∧ (catalogOf stream consumer).Conflicts config) ∧
    (∀ k, stream = some k → s.catalog.streams = [k]) ∧ (∀ k, consumer = some k → s.catalog.consumers = [k]) ∧
    ∀ k, stream = some k → ¬ Fits k (streamConfig config) → createStream config ∉ s.wire ∧ createConsumer config ∉ s.wire := by
  have valid := provisioning_valid config stream consumer s reached
  refine ⟨fun run member concluded => ?_, fun run member f concluded => ?_, ?_, ?_, ?_⟩
  · have meets := valid.runs run member
    rw [Run.Meets, concluded] at meets
    exact ⟨all_fit stream _ _ valid.consistent.streams valid.consistent.stream meets.1,
      all_fit consumer _ _ valid.consistent.consumers valid.consistent.consumer meets.2⟩
  · have meets := valid.runs run member
    rw [Run.Meets, concluded] at meets
    obtain ⟨aborted, e, rfl, thrown⟩ := meets
    cases aborted with
    | true => exact .inl rfl
    | false =>
        rcases thrown with rfl | rfl | ⟨rfl, conflicts⟩
        · exact .inr (.inl rfl)
        · exact .inr (.inl rfl)
        · exact .inr (.inr ⟨rfl, conflicts⟩)
  · rintro k rfl
    exact valid.consistent.stream (List.cons_ne_nil _ _)
  · rintro k rfl
    exact valid.consistent.consumer (List.cons_ne_nil _ _)
  · rintro k rfl unfit
    constructor
    · exact fun sent => absurd ((valid.wire _ sent).1 rfl) (List.cons_ne_nil _ _)
    · exact fun sent => unfit_stream config k consumer s valid unfit ((valid.wire _ sent).2 rfl).2

theorem api_replied (subject : Str) (input : Json) (next : Json → Task Unit) (m : Msg) (out : Json) (rest : List (Call × Answer)) (q : Task Unit)
    (small : ¬ maxMessage < m.data.size) (parsed : (decodeUtf8 m.data).bind Ecma.parse = some out) (object : isObject out = true)
    (later : (next out).After rest q) : (api subject input next).After ((.request subject (encode input) none, .message m) :: rest) q := by
  refine ⟨rfl, ?_⟩
  simp only [if_neg small, parsed, if_pos object]
  exact later

theorem validated_passes (out : Json) (want : Properties Json) (next : Task Unit) (quiet : truthy (optional (some out) (str "error")) = false)
    (fits : compatible (optional (some out) (str "config")) want = true) : validated out want next = next := by
  rw [validated, quiet, fits]
  rfl

def demoPresent : Properties Json := [(str "config", .obj (streamConfig demoConfig))]

def demoMissing : Properties Json := [(str "error", .obj [(str "code", natural 404)])]

def demoMade : Properties Json := [(str "config", .obj (consumerConfig demoConfig))]

def showing (ms : Properties Json) : Msg := ⟨encode (.obj ms), none, none⟩

theorem natural_settle (n : ℕ) (small : n ≤ 2 ^ 53) : (natural n).settle = natural n := by
  have bound : |(n : ℤ)| ≤ 2 ^ 53 := by
    rw [Nat.abs_cast]
    exact_mod_cast small
  rw [natural, Number.of_int_small n bound]
  rfl

theorem demo_settled : settleMembers demoPresent = demoPresent ∧ settleMembers demoMissing = demoMissing ∧ settleMembers demoMade = demoMade := by
  have code := natural_settle 404 (by norm_num)
  refine ⟨?_, ?_, ?_⟩
  · have a := natural_settle 1 (by norm_num)
    have b := natural_settle 67108864 (by norm_num)
    have c := natural_settle 131072 (by norm_num)
    have d := natural_settle 120000000000 (by norm_num)
    simp [demoPresent, streamConfig, settleMembers, Json.settle, settleElements, text, a, b, c, d]
  · simp [demoMissing, settleMembers, Json.settle, code]
  · have a := natural_settle 1 (by norm_num)
    have b := natural_settle 1000000000 (by norm_num)
    have c := natural_settle 5 (by norm_num)
    simp [demoMade, consumerConfig, settleMembers, Json.settle, text, a, b, c]

theorem showing_parsed (ms : Properties Json) (canonical : (Json.obj ms).Canonical) (settled : settleMembers ms = ms) :
    (decodeUtf8 (showing ms).data).bind Ecma.parse = some (.obj ms) := by
  have parsed := encode_parsed ms canonical
  rw [settled] at parsed
  exact parsed

theorem demo_canonical : (Json.obj demoPresent).Canonical ∧ (Json.obj demoMissing).Canonical ∧ (Json.obj demoMade).Canonical := by
  refine ⟨⟨List.pairwise_singleton .., ⟨plain_ordered _ (by decide +kernel) (by decide +kernel), ?_⟩, trivial⟩, ?_,
    ⟨List.pairwise_singleton .., ⟨plain_ordered _ (by decide +kernel) (by decide +kernel), ?_⟩, trivial⟩⟩
  · simp [streamConfig, CanonicalMembers, Json.Canonical, CanonicalElements, natural, text]
  · exact ⟨List.pairwise_singleton .., ⟨List.pairwise_singleton .., trivial, trivial⟩, trivial⟩
  · simp [consumerConfig, CanonicalMembers, Json.Canonical, natural, text]

theorem demo_small : ¬ maxMessage < (showing demoPresent).data.size ∧ ¬ maxMessage < (showing demoMissing).data.size ∧
    ¬ maxMessage < (showing demoMade).data.size := by
  have sized (ms : Properties Json) (short : (Json.obj ms).text.length ≤ 1024) : ¬ maxMessage < (showing ms).data.size :=
    not_lt.mpr ((encode_size (Json.obj ms).text).trans ((Nat.mul_le_mul_left 4 short).trans (by decide)))
  exact ⟨sized _ (by decide +kernel), sized _ (by decide +kernel), sized _ (by decide +kernel)⟩

theorem fits_itself (want : Properties Json) (canonical : (Json.obj want).Canonical) : compatible (some (.obj want)) want = true := by
  rw [compatible, List.all_eq_true]
  intro m member
  have found : get want m.1 = some m.2 := get_member want m.1 m.2 canonical.1 member
  rw [found, Option.any_some]
  exact same_refl _ (fun n => decide_eq_true rfl) m.2 ((canonical_members_iff want).mp canonical.2 m member)

def consumerExchanges (config : Config) (m m' m'' : Msg) : List (Call × Answer) :=
  [(infoStream config, .message m), (infoConsumer config, .message m'), (createConsumer config, .message m'')]

def demoProvision : List (Call × Answer) := consumerExchanges demoConfig (showing demoPresent) (showing demoMissing) (showing demoMade)

theorem demo_missing : missing (.obj demoMissing) = true := by
  have code : (Number.ofInt 404).strictEquals (Number.ofInt 404) = true := by
    rw [Number.of_int_small 404 (by norm_num)]
    rfl
  exact code

theorem demo_provisions : (provision demoConfig).After demoProvision (.done (.ok ())) := by
  obtain ⟨settled, settled', settled''⟩ := demo_settled
  obtain ⟨canonical, canonical', canonical''⟩ := demo_canonical
  obtain ⟨small, small', small''⟩ := demo_small
  refine api_replied _ _ _ _ (.obj demoPresent) _ _ small (showing_parsed _ canonical settled) rfl ?_
  have here : missing (.obj demoPresent) = false := rfl
  have fits : compatible (optional (some (.obj demoPresent)) (str "config")) (streamConfig demoConfig) = true := fits_itself _ canonical.2.1
  have fits' : compatible (optional (some (.obj demoMade)) (str "config")) (consumerConfig demoConfig) = true :=
    fits_itself _ canonical''.2.1
  simp only [here, Bool.false_eq_true, if_false]
  rw [validated_passes _ _ _ rfl fits]
  refine api_replied _ _ _ _ (.obj demoMissing) _ _ small' (showing_parsed _ canonical' settled') rfl ?_
  simp only [demo_missing, if_true]
  refine api_replied _ _ _ _ (.obj demoMade) _ _ small'' (showing_parsed _ canonical'' settled'') rfl ?_
  rw [validated_passes _ _ _ rfl fits']
  rfl

def consumerProvisioned (config : Config) (stream consumer : Properties Json) (m m' m'' : Msg) : Provisioning :=
  ⟨⟨[stream], [consumer]⟩, [infoStream config, infoConsumer config, createConsumer config],
    [⟨.concluded (.ok ()), false, false, replayed (consumerExchanges config m m' m'')⟩]⟩

def consumerSchedule (consumer : Properties Json) (m m' m'' : Msg) : List ProvisioningAction :=
  [.join, .run 0 .resume, .run 0 (.answer (.ok (.message m))), .run 0 .resume, .run 0 (.answer (.ok (.message m'))), .run 0 .resume,
    .makeConsumer consumer, .run 0 (.answer (.ok (.message m''))), .run 0 .resume, .run 0 .finish]

theorem consumer_provisioned (config : Config) (stream consumer : Properties Json) (m m' m'' : Msg)
    (path : (provision config).After (consumerExchanges config m m' m'') (.done (.ok ())))
    (first : (catalogOf (some stream) none).answers config ⟨[stream], []⟩ (infoStream config) m = true)
    (second : (catalogOf (some stream) none).answers config ⟨[stream], []⟩ (infoConsumer config) m' = true)
    (third : (catalogOf (some stream) none).answers config ⟨[stream], [consumer]⟩ (createConsumer config) m'' = true)
    (fits : Fits consumer (consumerConfig config)) :
    (provisioners config (some stream) none).Reachable (consumerProvisioned config stream consumer m m' m'') := by
  obtain ⟨next, shape, later⟩ := after_cons _ _ _ _ _ path
  obtain ⟨next', shape', later'⟩ := after_cons _ _ _ _ _ later
  obtain ⟨next'', shape'', last⟩ := after_cons _ _ _ _ _ later'
  have last : next'' (.message m'') = .done (.ok ()) := last
  have suits (m : Msg) : operation.suits (infoStream config) (.message m) = true ∧ operation.suits (infoConsumer config) (.message m) = true ∧
      operation.suits (createConsumer config) (.message m) = true := ⟨rfl, rfl, rfl⟩
  have fits : compatible (some (.obj consumer)) (consumerConfig config) = true := fits
  simp only [catalogOf, Option.toList_some, Option.toList_none] at first second third
  refine (provisioners _ _ _).run_reachable _ _ (consumerSchedule consumer m m' m'') .start ?_
  simp [Machine.run, provisioners, Provisioning.step, begin, shape, shape', shape'', Catalog.admits, Operation.step, Run.advance, Run.stopped,
    Run.note, Run.asks, catalogOf, first, second, third, fits, last, suits, consumerProvisioned, consumerSchedule, consumerExchanges,
    replayed, Protocol.conclude]

theorem demo_answers (consumers : List (Properties Json)) :
    (catalogOf (some (streamConfig demoConfig)) none).answers demoConfig ⟨[streamConfig demoConfig], consumers⟩ (infoStream demoConfig)
      (showing demoPresent) = true ∧
    (catalogOf (some (streamConfig demoConfig)) none).answers demoConfig ⟨[streamConfig demoConfig], consumers⟩ (infoConsumer demoConfig)
      (showing demoMissing) = true ∧
    (catalogOf (some (streamConfig demoConfig)) none).answers demoConfig ⟨[streamConfig demoConfig], [consumerConfig demoConfig]⟩
      (createConsumer demoConfig) (showing demoMade) = true := by
  obtain ⟨settled, settled', settled''⟩ := demo_settled
  obtain ⟨canonical, canonical', canonical''⟩ := demo_canonical
  have apart := info_no_create demoConfig
  have apart' := consumer_info_no_create demoConfig
  have between : infoStream demoConfig ≠ infoConsumer demoConfig := by decide
  have shown (w : Properties Json) : reports [w] w (.obj [(str "config", .obj w)]) = true := by
    have found : optional (some (.obj [(str "config", .obj w)])) (str "config") = some (.obj w) := rfl
    simp [reports, found]
  have failed (known : List (Properties Json)) (want : Properties Json) : reports known want (.obj demoMissing) = true := rfl
  refine ⟨?_, ?_, ?_⟩
  · refine (answers_parsed _ _ _ _ _ _ (showing_parsed _ canonical settled)).mpr ⟨?_, ?_, ?_, ?_⟩
    · intro _ absent
      cases absent
    · exact fun same => absurd same between
    · exact fun _ => shown _
    · exact fun same => (same.elim between apart.2).elim
  · refine (answers_parsed _ _ _ _ _ _ (showing_parsed _ canonical' settled')).mpr ⟨?_, fun _ _ => rfl, ?_, fun _ => failed _ _⟩
    · exact fun same => absurd same.symm between
    · exact fun same => (same.elim (fun own => between own.symm) apart'.1).elim
  · refine (answers_parsed _ _ _ _ _ _ (showing_parsed _ canonical'' settled'')).mpr ⟨?_, ?_, ?_, fun _ => shown _⟩
    · exact fun same => absurd same.symm apart.2
    · exact fun same => absurd same.symm apart'.2
    · exact fun same => (same.elim (fun own => apart.2 own.symm) fun own => creates_apart demoConfig own.symm).elim

def demoProvisioned : Provisioning :=
  consumerProvisioned demoConfig (streamConfig demoConfig) (consumerConfig demoConfig) (showing demoPresent) (showing demoMissing)
    (showing demoMade)

theorem demo_provisioned : (provisioners demoConfig (some (streamConfig demoConfig)) none).Reachable demoProvisioned :=
  consumer_provisioned demoConfig _ _ _ _ _ demo_provisions (demo_answers []).1 (demo_answers []).2.1 (demo_answers []).2.2
    (fits_itself _ demo_canonical.2.2.2.1)

theorem provision_agrees_demo : demoProvisioned.catalog.Provisioned demoConfig ∧
    demoProvisioned.catalog.streams = [streamConfig demoConfig] := by
  obtain ⟨provisioned, _, kept, _⟩ := provision_agrees _ _ _ _ demo_provisioned
  exact ⟨provisioned _ (List.mem_singleton_self _) rfl, kept _ rfl⟩

end N2F.Broker

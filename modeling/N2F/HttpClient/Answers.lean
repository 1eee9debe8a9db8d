import N2F.HttpClient.Client

set_option autoImplicit false

namespace N2F.HttpClient

-- No timer of a call fires between an abort and the error it causes.
def Client.Prompt (s : Client) : ClientEvent → Prop
  | .event k .timer => ∀ x : Exchange, s.calls[k]? = some x → x.promise = none → x.aborted = false
  | _ => True

structure Exchange.Untimed (x : Exchange) : Prop where
  pending : x.promise = none → ∀ cause, x.cause = some cause → cause ≠ .timer → x.timedOut = false
  settled : ∀ cause late, x.settlement = some (.errored (some cause) late) → cause ≠ .timer → late = false

theorem resolve_untimed (x y : Exchange) (r : Result Response) (how : Settlement) (untimed : x.Untimed)
    (same : y.promise = x.promise ∧ y.cause = x.cause ∧ y.timedOut = x.timedOut ∧ y.settlement = x.settlement)
    (fair : x.promise = none → ∀ cause late, how = .errored (some cause) late → cause ≠ .timer → late = false) : (y.resolve r how).Untimed := by
  obtain ⟨promise, cause, timedOut, settlement⟩ := same
  by_cases resolved : y.promise.isSome = true
  · rw [Exchange.resolve, if_pos resolved]
    refine ⟨?_, ?_⟩
    · rw [promise, cause, timedOut]
      exact untimed.pending
    · rw [settlement]
      exact untimed.settled
  · rw [Exchange.resolve, if_neg resolved]
    have pending : x.promise = none := by simpa [promise] using resolved
    refine ⟨fun unresolved => absurd unresolved (Option.some_ne_none r), fun cause late reason => ?_⟩
    exact fair pending cause late (Option.some.inj reason)

theorem errored_untimed (x : Exchange) (untimed : x.Untimed) : x.errored.Untimed := by
  apply resolve_untimed x x _ _ untimed ⟨rfl, rfl, rfl, rfl⟩
  intro pending cause late reason other
  injection reason with who fired
  rw [← fired]
  exact untimed.pending pending cause who other

theorem stop_untimed (x : Exchange) (cause : Cause) (flags : x.Flags) (untimed : x.Untimed) : (x.stop cause).Untimed := by
  by_cases aborted : x.aborted = true
  · rwa [Exchange.stop, if_pos aborted]
  · rw [Exchange.stop, if_neg aborted]
    refine ⟨fun _ _ _ _ => ?_, untimed.settled⟩
    by_contra fired
    exact aborted (flags.untimed (by simpa using fired))

theorem data_untimed (maxResponse : ℕ) (x : Exchange) (r : Incoming) (chunk : Bytes) (untimed : x.Untimed) :
    (x.data maxResponse r chunk).Untimed := by
  by_cases large : maxResponse < r.size + chunk.length
  · rw [Exchange.data, if_pos large]
    exact resolve_untimed x _ _ _ untimed ⟨rfl, rfl, rfl, rfl⟩ (fun _ cause late reason => by cases reason)
  · rw [Exchange.data, if_neg large]
    exact ⟨untimed.pending, untimed.settled⟩

theorem timer_untimed (x : Exchange) (untimed : x.Untimed) (prompt : x.promise = none → x.aborted = false) :
    ({ x with timedOut := true, armed := false }.stop .timer).Untimed := by
  by_cases aborted : x.aborted = true
  · rw [Exchange.stop, if_pos aborted]
    refine ⟨fun pending => ?_, untimed.settled⟩
    cases aborted.symm.trans (prompt pending)
  · rw [Exchange.stop, if_neg aborted]
    refine ⟨fun _ cause own other => ?_, untimed.settled⟩
    exact absurd (Option.some.inj own).symm other

theorem step_untimed (maxResponse : ℕ) (x x' : Exchange) (e : ExchangeEvent) (flags : x.Flags) (untimed : x.Untimed)
    (prompt : e = .timer → x.promise = none → x.aborted = false) (moved : x.step maxResponse e = some x') : x'.Untimed := by
  cases exchange_turn maxResponse x x' e moved with
  | errored e _ => exact errored_untimed x untimed
  | data chunk r _ _ _ => exact data_untimed maxResponse x r chunk untimed
  | ends complete r _ _ _ =>
      exact resolve_untimed x _ _ _ untimed ⟨rfl, rfl, rfl, rfl⟩ (fun _ cause late reason => by cases reason)
  | timer => exact timer_untimed x untimed (prompt rfl)
  | abort => exact stop_untimed _ .caller ⟨flags.aborted, flags.timed, flags.untimed⟩ ⟨untimed.pending, untimed.settled⟩
  | response _ _ _ | cut _ _ _ | resume _ _ => exact ⟨untimed.pending, untimed.settled⟩

def Client.Untimed (s : Client) : Prop := ∀ (k : ℕ) (x : Exchange), s.calls[k]? = some x → x.Untimed

theorem admitted_untimed (signal : Option Bool) (throws : Bool) : (admitted signal throws).Untimed := by
  cases throws <;> exact ⟨nofun, nofun⟩

theorem client_step_untimed (c : Setting) (s t : Client) (event : ClientEvent) (sound : s.Sound c) (untimed : s.Untimed)
    (prompt : s.Prompt event) (moved : c.step s event = some t) : t.Untimed := by
  intro j y there
  cases event with
  | call input signal throws =>
      cases moved
      rw [Setting.call] at there
      cases refused : refusal (c.refusals s input signal) with
      | some e =>
          rw [refused] at there
          exact untimed j y there
      | none =>
          rw [refused] at there
          rcases Roster.join_cases s.calls j _ y there with ⟨_, rfl⟩ | ⟨_, old⟩
          · exact admitted_untimed signal throws
          · exact untimed j y old
  | event k e =>
      obtain ⟨x, here, moved⟩ := Option.bind_eq_some_iff.mp moved
      obtain ⟨x', stepped, rfl⟩ := Option.map_eq_some_iff.mp moved
      rcases Roster.set_cases s.calls k j x' y there with ⟨_, rfl⟩ | ⟨_, old⟩
      · apply step_untimed c.maxResponse x y e (sound.each k x here).core.flags (untimed k x here) _ stepped
        intro timer pending
        rw [timer] at prompt
        exact prompt x here pending
      · exact untimed j y old
  | close =>
      cases moved
      obtain ⟨old, found, same | stopped⟩ := close_at s j y there
      · exact same ▸ untimed j old found
      · exact stopped ▸ stop_untimed old .close (sound.each j old found).core.flags (untimed j old found)

theorem client_untimed (c : Setting) (s : Client) (reached : c.machine.ReachableBy Client.Prompt s) : s.Untimed := by
  have both : s.Sound c ∧ s.Untimed := by
    apply c.machine.invariant_by Client.Prompt (fun s => s.Sound c ∧ s.Untimed) _ _ s reached
    · refine ⟨client_sound c _ .start, ?_⟩
      intro k x here
      cases here
    · intro s t event holds prompt moved
      exact ⟨client_step_sound c s t event holds.1 moved, client_step_untimed c s t event holds.1 holds.2 prompt moved⟩
  exact both.2

structure Exchange.Truthful (maxResponse : ℕ) (x : Exchange) : Prop where
  ok : ∀ answer, x.promise = some (.ok answer) → 200 ≤ answer.status ∧ answer.status ≤ 599 ∧ answer.body.length ≤ maxResponse ∧
    ∃ r, x.response = some r ∧ r.status = some answer.status ∧ r.complete = true ∧ r.cut = false ∧ r.ended = true ∧
      answer.body = r.received.flatten
  oversize : ∀ r, x.response = some r → maxResponse < r.received.flatten.length → ∃ e, x.promise = some (.error e)
  retained : ∀ r, x.response = some r → r.chunks.flatten.length ≤ maxResponse
  timeout : ∀ cause late, x.settlement = some (.errored cause late) → cause = some .timer ∨ late = true →
    x.promise = some (.error (fail .timeout "timeout"))
  canceled : ∀ cause, x.settlement = some (.errored (some cause) false) → x.promise = some (.error (fail .canceled "canceled"))
  lost : ∀ late, x.settlement = some (.errored none late) → x.promise = some (.error (fail .unavailable "network"))

structure Client.Accounted (c : Setting) (s : Client) : Prop where
  slots : s.active.Nodup ∧ s.active.length ≤ 64
  truthful : ∀ (k : ℕ) (x : Exchange), s.calls[k]? = some x → x.Truthful c.maxResponse
  held : ∀ (k : ℕ) (x : Exchange), s.calls[k]? = some x → (k ∈ s.active ↔ x.freed = 0) ∧ x.freed ≤ 1 ∧
    (x.freed = 1 → x.promise ≠ none ∧ x.armed = false ∧ x.listening = false)
  frees : ∀ (k : ℕ) (x : Exchange), s.calls[k]? = some x → x.promise ≠ none → k ∈ s.active →
    ∃ t, c.step s (.event k .resume) = some t ∧ k ∉ t.active
  later : ∀ (event : ClientEvent) (t : Client), c.step s event = some t → ∀ (k : ℕ) (x : Exchange), s.calls[k]? = some x →
    ∃ x' : Exchange, t.calls[k]? = some x' ∧ x.freed ≤ x'.freed ∧ ∀ p, x.promise = some p → x'.promise = some p
  closed : s.closed = true → ∀ (event : ClientEvent) (t : Client), c.step s event = some t →
    t.closed = true ∧ t.calls.length = s.calls.length ∧ t.requests = s.requests

theorem sound_truthful (maxResponse : ℕ) (x : Exchange) (sound : x.Sound maxResponse) : x.Truthful maxResponse := by
  have settled (how : Settlement) (reason : x.settlement = some how) : ∃ p, x.promise = some p ∧ Settled maxResponse x.response p how := by
    have answered : x.promise.isSome = true := by rw [sound.core.both, reason]; rfl
    obtain ⟨p, given⟩ := Option.isSome_iff_exists.mp answered
    exact ⟨p, given, sound.core.answered p how given reason⟩
  have reached (p : Result Response) (given : x.promise = some p) : ∃ how, Settled maxResponse x.response p how := by
    have reasoned : x.settlement.isSome = true := by rw [← sound.core.both, given]; rfl
    obtain ⟨how, reason⟩ := Option.isSome_iff_exists.mp reasoned
    exact ⟨how, sound.core.answered p how given reason⟩
  have whole (answer : Response) (given : x.promise = some (.ok answer)) :
      200 ≤ answer.status ∧ answer.status ≤ 599 ∧ ∃ r, x.response = some r ∧ r.status = some answer.status ∧ r.complete = true ∧ r.ended = true ∧
        answer.body = r.received.flatten ∧ r.size ≤ maxResponse := by
    obtain ⟨how, settled⟩ := reached _ given
    cases settled with
    | ok r status contentType here ended complete least most named bounded =>
        exact ⟨least, most, r, here, named, complete, ended, rfl, bounded⟩
  refine ⟨?_, ?_, ?_, ?_, ?_, ?_⟩
  · intro answer given
    obtain ⟨least, most, r, here, status, complete, ended, body, bounded⟩ := whole answer given
    have incoming := sound.core.incoming r here
    refine ⟨least, most, ?_, r, here, status, complete, incoming.apart ended, ended, body⟩
    rw [body, ← incoming.size]
    exact bounded
  · intro r here large
    rw [← (sound.core.incoming r here).size] at large
    obtain ⟨p, given⟩ := Option.ne_none_iff_exists'.mp (sound.large r here large)
    cases p with
    | error e => exact ⟨e, given⟩
    | ok answer =>
        obtain ⟨_, _, r', here', _, _, _, _, bounded⟩ := whole answer given
        rw [here] at here'
        rw [← Option.some.inj here'] at bounded
        exact absurd large (Nat.not_lt.mpr bounded)
  · exact fun r here => (sound.core.incoming r here).retained
  · intro cause late reason early
    obtain ⟨p, given, settled⟩ := settled _ reason
    cases settled with
    | timeout cause => exact given
    | canceled cause other =>
        rcases early with timer | fired
        · exact absurd (Option.some.inj timer) other
        · cases fired
    | network =>
        rcases early with timer | fired
        · cases timer
        · cases fired
  · intro cause reason
    obtain ⟨p, given, settled⟩ := settled _ reason
    cases settled with
    | canceled cause other => exact given
  · intro late reason
    obtain ⟨p, given, settled⟩ := settled _ reason
    cases settled with
    | network => exact given

theorem step_later (c : Setting) (s t : Client) (event : ClientEvent) (moved : c.step s event = some t) (k : ℕ) (x : Exchange)
    (here : s.calls[k]? = some x) :
    ∃ x' : Exchange, t.calls[k]? = some x' ∧ x.freed ≤ x'.freed ∧ ∀ p, x.promise = some p → x'.promise = some p := by
  have still : ∃ x' : Exchange, some x = some x' ∧ x.freed ≤ x'.freed ∧ ∀ p, x.promise = some p → x'.promise = some p :=
    ⟨x, rfl, Nat.le_refl _, fun _ => id⟩
  cases event with
  | call input signal throws =>
      cases moved
      rw [Setting.call]
      cases refusal (c.refusals s input signal) with
      | some e => rwa [here]
      | none => rwa [Roster.join_kept s.calls k _ x here]
  | event j e =>
      obtain ⟨y, there, moved⟩ := Option.bind_eq_some_iff.mp moved
      obtain ⟨y', stepped, rfl⟩ := Option.map_eq_some_iff.mp moved
      have kept := step_kept c.maxResponse y y' e stepped
      by_cases same : k = j
      · subst same
        rw [here] at there
        cases there
        refine ⟨y', Roster.set_self s.calls k x y' here, ?_, kept.promise⟩
        rw [kept.freed]
        exact Nat.le_add_right _ _
      · rw [Roster.set_at s.calls j y y' there, if_neg same, here]
        exact still
  | close =>
      cases moved
      have now : s.close.calls[k]? = some (if s.active.contains k then x.stop .close else x) := by
        rw [Client.close, List.getElem?_mapIdx, here]
        rfl
      rw [now]
      split_ifs
      · have kept := stop_kept x x .close ⟨rfl, rfl⟩
        exact ⟨_, rfl, Nat.le_of_eq kept.freed.symm, kept.promise⟩
      · exact still

theorem step_closed (c : Setting) (s t : Client) (event : ClientEvent) (closed : s.closed = true) (moved : c.step s event = some t) :
    t.closed = true ∧ t.calls.length = s.calls.length ∧ t.requests = s.requests := by
  cases event with
  | call input signal throws =>
      cases moved
      have refused : refusal (c.refusals s input signal) = some (fail .unavailable "closed") := by
        simp [refusal, Setting.refusals, closed]
      rw [Setting.call, refused]
      exact ⟨closed, rfl, rfl⟩
  | event k e =>
      obtain ⟨x, _, moved⟩ := Option.bind_eq_some_iff.mp moved
      obtain ⟨x', _, rfl⟩ := Option.map_eq_some_iff.mp moved
      exact ⟨closed, List.length_set, rfl⟩
  | close =>
      cases moved
      exact ⟨rfl, List.length_mapIdx, rfl⟩

theorem sound_frees (c : Setting) (s : Client) (sound : s.Sound c) (k : ℕ) (x : Exchange) (here : s.calls[k]? = some x)
    (answered : x.promise ≠ none) (active : k ∈ s.active) : ∃ t, c.step s (.event k .resume) = some t ∧ k ∉ t.active := by
  obtain ⟨y, there, unfreed⟩ := (sound.slots k).mp active
  rw [here] at there
  cases there
  have ready : x.promise.isSome && x.freed = 0 := by
    rw [unfreed, Option.isSome_iff_ne_none.mpr answered]
    rfl
  have stepped : x.step c.maxResponse .resume = some { x with armed := false, listening := false, freed := x.freed + 1 } := if_pos ready
  refine ⟨_, Option.bind_eq_some_iff.mpr ⟨x, here, congrArg (Option.map _) stepped⟩, ?_⟩
  exact fun again => (sound.apart.mem_erase_iff.mp again).1 rfl

theorem sound_accounted (c : Setting) (s : Client) (sound : s.Sound c) : s.Accounted c := by
  refine ⟨⟨sound.apart, sound.bounded⟩, fun k x here => sound_truthful c.maxResponse x (sound.each k x here), ?_, sound_frees c s sound,
    fun event t moved => step_later c s t event moved, fun closed event t moved => step_closed c s t event closed moved⟩
  intro k x here
  have core := (sound.each k x here).core
  refine ⟨?_, core.freed, core.disarmed⟩
  rw [sound.slots k, here]
  simp

theorem calls_accounted (c : Setting) (s : Client) (reached : c.machine.Reachable s) :
    s.Accounted c ∧ (c.machine.ReachableBy Client.Prompt s → ∀ (k : ℕ) (x : Exchange) cause late, s.calls[k]? = some x →
      x.settlement = some (.errored (some cause) late) → cause ≠ .timer → x.promise = some (.error (fail .canceled "canceled"))) := by
  have sound := client_sound c s reached
  refine ⟨sound_accounted c s sound, ?_⟩
  intro prompt k x cause late here reason other
  have early := (client_untimed c s prompt k x here).settled cause late reason other
  rw [early] at reason
  exact (sound_truthful c.maxResponse x (sound.each k x here)).canceled cause reason

def demoSetting : Setting := ⟨Ecma.str "http://a", fun _ => some (Ecma.str "http://a"), 64, 4, []⟩

def demoRequest : Request := ⟨Ecma.str "GET", Ecma.str "/", none, none⟩

def demoEvents : List ClientEvent :=
  [.call demoRequest (some false) false, .event 0 (.response (some 409) none), .call demoRequest none false, .event 0 (.data [1, 2]),
    .event 1 (.response (some 200) none), .event 0 (.ends true), .event 0 .resume, .close, .event 1 .requestError, .event 1 .resume,
    .call demoRequest none false]

theorem calls_accounted_demo : ∃ s, demoSetting.machine.run demoSetting.machine.start demoEvents = some s ∧
    s.calls.map (fun x => (x.promise, x.settlement, x.freed)) =
      [(some (.ok ⟨409, [1, 2], []⟩), some .ended, 1),
        (some (.error (fail .canceled "canceled")), some (.errored (some .close) false), 1)] ∧
    s.Accounted demoSetting ∧ ∀ x, s.calls[1]? = some x → x.promise = some (.error (fail .canceled "canceled")) := by
  have ran : ∃ s, demoSetting.machine.run demoSetting.machine.start demoEvents = some s ∧
      s.calls.map (fun x => (x.promise, x.settlement, x.freed)) =
        [(some (.ok ⟨409, [1, 2], []⟩), some .ended, 1),
          (some (.error (fail .canceled "canceled")), some (.errored (some .close) false), 1)] := ⟨_, rfl, rfl⟩
  obtain ⟨s, ran, settled⟩ := ran
  have reached := demoSetting.machine.run_reachable _ _ _ .start ran
  have prompt : demoSetting.machine.ReachableBy Client.Prompt s := by
    refine demoSetting.machine.run_reachable_by _ _ _ _ .start (demoSetting.machine.meets_all _ _ _ ?_) ran
    simp [demoEvents, Client.Prompt]
  obtain ⟨accounted, canceled⟩ := calls_accounted demoSetting s reached
  refine ⟨s, ran, settled, accounted, fun x here => canceled prompt 1 x .close false here ?_ (by decide)⟩
  have at' := congrArg (fun marks => marks[1]?) settled
  simp only [List.getElem?_map, here, Option.map_some] at at'
  injection at' with same
  exact (Prod.ext_iff.mp (Prod.ext_iff.mp same).2).1

end N2F.HttpClient

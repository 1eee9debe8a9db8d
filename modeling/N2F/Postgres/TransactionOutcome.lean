import N2F.Postgres.Transaction

set_option autoImplicit false

namespace N2F

variable {T : Type}

def CommitAnswer.refuses : CommitAnswer → Bool
  | .rolledBack | .refused _ => true
  | .committed | .lost _ => false

def Transaction.Honest (s : Transaction T) : Result T → Prop
  | .ok v => s.stage = .done ∧ s.returned = some (.ok v) ∧ s.reply = some .committed
  | .error e => e = uncertain ∨ s.sent = false ∨ s.reply.any CommitAnswer.refuses = true

def Stage.early : Stage T → Bool
  | .committing _ | .done => false
  | .called | .connecting | .beginning | .calling | .rollingBack _ | .awaiting => true

structure Transaction.Invariant (s : Transaction T) : Prop where
  flag : s.committing = s.sent
  early : s.stage.early = true → s.sent = false
  unsent : s.sent = false → s.reply = none ∧ s.applied = false
  calling : s.stage.isCalling = true → ∀ value, s.arrived = some (.returned value) → s.returned = some value
  value : ∀ v, s.stage = .committing v →
    s.sent = true ∧ s.returned = some (.ok v) ∧ s.arrived = s.reply.map CommitAnswer.arrival
  spoken : s.sent = true → ∃ v, s.returned = some (.ok v)
  replied : s.reply.all (fun answer => answer.allowed s.applied) = true
  raced : ∀ r, s.raced = some r → (s.controllerAborted = true ∨ s.stage = .done) ∧ s.Honest r
  stopped : s.stopped.isSome = true → s.raced.isSome = true

theorem stop_fields (s : Transaction T) (byCaller : Bool) (settled : s.stopped.isSome = true → s.raced.isSome = true) :
    ∃ e stopped, (s.committing = true → e = uncertain) ∧ s.stop byCaller =
      { s with
        controllerAborted := true
        client := s.client.release true
        stopped := some stopped
        raced := s.raced.or (some (.error e)) } := by
  rw [Transaction.stop, Transaction.cancel]
  cases stopped : s.stopped with
  | none =>
      refine ⟨_, _, ?_, rfl⟩
      intro committing
      rw [if_pos committing]
  | some r =>
      obtain ⟨first, raced⟩ := Option.isSome_iff_exists.mp (settled (by rw [stopped]; rfl))
      exact ⟨uncertain, r, fun _ => rfl, by simp [raced]⟩

theorem Transaction.stop_keeps (s : Transaction T) (byCaller : Bool) (valid : s.Invariant) : (s.stop byCaller).Invariant := by
  obtain ⟨e, stopped, certain, same⟩ := stop_fields s byCaller valid.stopped
  rw [same]
  refine
    { flag := valid.flag
      early := valid.early
      unsent := valid.unsent
      calling := valid.calling
      value := valid.value
      spoken := valid.spoken
      replied := valid.replied
      raced := fun r here => ⟨.inl rfl, ?_⟩
      stopped := fun _ => by cases s.raced <;> rfl }
  cases raced : s.raced with
  | some first =>
      simp only [raced, Option.some_or, Option.some.injEq] at here
      rw [← here]
      exact (valid.raced first raced).2
  | none =>
      simp only [raced, Option.none_or, Option.some.injEq] at here
      rw [← here]
      cases sent : s.sent with
      | true => exact .inl (certain (valid.flag.trans sent))
      | false => exact .inr (.inl rfl)

theorem Transaction.settle_keeps (s : Transaction T) (r : Result T) (valid : s.Invariant)
    (honest : s.raced = none → ({ s with stage := .done } : Transaction T).Honest r) : (s.settle r).Invariant := by
  refine
    { flag := valid.flag
      early := fun early => nomatch early
      unsent := valid.unsent
      calling := fun calling => nomatch calling
      value := fun v here => nomatch here
      spoken := valid.spoken
      replied := valid.replied
      raced := fun r' here => ⟨.inr rfl, ?_⟩
      stopped := fun _ => by cases raced : s.raced <;> simp [Transaction.settle, Transaction.race, raced] }
  cases raced : s.raced with
  | some first =>
      simp only [Transaction.settle, Transaction.race, raced, Option.some_or, Option.some.injEq] at here
      rw [← here]
      have before := (valid.raced first raced).2
      cases first with
      | ok v => exact ⟨rfl, before.2⟩
      | error e => exact before
  | none =>
      simp only [Transaction.settle, Transaction.race, raced, Option.none_or, Option.some.injEq] at here
      rw [← here]
      exact honest raced

theorem Transaction.aside_keeps (s : Transaction T) (closing signalAborted listening timerSet : Bool) (client : Client) (valid : s.Invariant) :
    ({ s with
        closing := closing
        signalAborted := signalAborted
        listening := listening
        timerSet := timerSet
        client := client } : Transaction T).Invariant :=
  ⟨valid.flag, valid.early, valid.unsent, valid.calling, valid.value, valid.spoken, valid.replied, valid.raced, valid.stopped⟩

theorem Transaction.fail_keeps (s : Transaction T) (e : Thrown) (valid : s.Invariant)
    (thrown : s.sent = true → ∃ answer, s.reply = some answer ∧ answer.arrival (T := T) = .threw e) : (s.fail e).Invariant := by
  refine Transaction.settle_keeps _ _ (Transaction.aside_keeps s s.closing s.signalAborted s.listening s.timerSet _ valid) fun _ => ?_
  cases sent : s.sent with
  | false => exact .inr (.inl rfl)
  | true =>
      obtain ⟨answer, replied, same⟩ := thrown sent
      have flag : s.committing = true := valid.flag.trans sent
      have allowed := valid.replied
      rw [if_pos flag]
      cases answer with
      | committed => cases same
      | rolledBack => cases same
      | refused code => exact .inr (.inr (by simp [replied, CommitAnswer.refuses]))
      | lost e' =>
          obtain rfl : e' = e := Arrival.threw.inj same
          cases e' with
          | database code => simp [replied, CommitAnswer.allowed] at allowed
          | failure f => exact .inl rfl
          | foreign => exact .inl rfl

theorem Transaction.early_keeps (s : Transaction T) (stage : Stage T) (arrived : Option (Arrival T)) (valid : s.Invariant)
    (before : s.stage.early = true) (after : stage.early = true) (quiet : stage.isCalling = true → arrived = none) :
    ({ s with stage := stage, arrived := arrived } : Transaction T).Invariant := by
  refine
    { flag := valid.flag
      early := fun _ => valid.early before
      unsent := valid.unsent
      calling := fun calling value here => nomatch (quiet calling).symm.trans here
      value := fun v here => ?_
      spoken := valid.spoken
      replied := valid.replied
      raced := fun r here => ?_
      stopped := valid.stopped }
  · simp only at here
    rw [here] at after
    cases after
  · obtain ⟨settled, honest⟩ := valid.raced r here
    have going : s.stage ≠ .done := fun done => by
      rw [done] at before
      cases before
    refine ⟨.inl (settled.resolve_right going), ?_⟩
    cases r with
    | ok v => exact absurd honest.1 going
    | error e => exact honest

theorem Transaction.refused_keeps (s : Transaction T) (e : Failure) (valid : s.Invariant) (before : s.stage.early = true) :
    ({ s with stage := .done, raced := some (.error e) } : Transaction T).Invariant := by
  refine
    { flag := valid.flag
      early := fun early => nomatch early
      unsent := valid.unsent
      calling := fun calling => nomatch calling
      value := fun v here => nomatch here
      spoken := valid.spoken
      replied := valid.replied
      raced := fun r here => ⟨.inr rfl, ?_⟩
      stopped := fun _ => rfl }
  obtain rfl := Option.some.inj here
  exact .inr (.inl (valid.early before))

theorem Transaction.arrived_keeps (s : Transaction T) (arrival : Arrival T) (valid : s.Invariant) (before : s.stage.early = true)
    (other : ∀ value, arrival ≠ .returned value) : ({ s with arrived := some arrival } : Transaction T).Invariant := by
  refine
    { flag := valid.flag
      early := valid.early
      unsent := valid.unsent
      calling := fun _ value here => absurd (Option.some.inj here) (other value)
      value := fun v here => ?_
      spoken := valid.spoken
      replied := valid.replied
      raced := valid.raced
      stopped := valid.stopped }
  simp only at here
  rw [here] at before
  cases before

theorem calling_stage (stage : Stage T) (calling : stage.isCalling = true) : stage = .calling := by
  cases stage <;> first | rfl | cases calling

theorem committing_stage (stage : Stage T) (committing : stage.isCommitting = true) : ∃ v, stage = .committing v := by
  cases stage <;> first | exact ⟨_, rfl⟩ | cases committing

theorem querying_early (stage : Stage T) (querying : stage.querying = true) : stage.early = true := by
  cases stage <;> first | rfl | cases querying

theorem Transaction.returned_keeps (s : Transaction T) (value : Result T) (valid : s.Invariant) (calling : s.stage.isCalling = true) :
    ({ s with arrived := some (.returned value), returned := some value } : Transaction T).Invariant := by
  have going := calling_stage s.stage calling
  refine
    { flag := valid.flag
      early := valid.early
      unsent := valid.unsent
      calling := fun _ value' here => by simp_all
      value := fun v here => by simp_all
      spoken := fun sent => ?_
      replied := valid.replied
      raced := fun r here => ?_
      stopped := valid.stopped }
  · have unsent := valid.early (by rw [going]; rfl)
    simp only at sent
    rw [unsent] at sent
    cases sent
  · obtain ⟨settled, honest⟩ := valid.raced r here
    refine ⟨settled, ?_⟩
    cases r with
    | ok v =>
        have done := honest.1
        rw [going] at done
        cases done
    | error e => exact honest

theorem Transaction.applied_keeps (s : Transaction T) (valid : s.Invariant) (sent : s.sent = true)
    (open_answer : s.reply.all CommitAnswer.isLost = true) : ({ s with applied := true } : Transaction T).Invariant := by
  refine
    { flag := valid.flag
      early := valid.early
      unsent := fun unsent => ?_
      calling := valid.calling
      value := valid.value
      spoken := valid.spoken
      replied := ?_
      raced := valid.raced
      stopped := valid.stopped }
  · simp only at unsent
    rw [sent] at unsent
    cases unsent
  · have allowed := valid.replied
    cases replied : s.reply with
    | none => rfl
    | some answer =>
        rw [replied] at open_answer allowed
        cases answer with
        | lost e => cases e <;> exact allowed
        | committed => cases open_answer
        | rolledBack => cases open_answer
        | refused code => cases open_answer

theorem Transaction.replied_keeps (s : Transaction T) (answer : CommitAnswer) (valid : s.Invariant) (committing : s.stage.isCommitting = true)
    (waiting : s.arrived = none) (allowed : answer.allowed s.applied = true) :
    ({ s with arrived := some answer.arrival, reply := some answer } : Transaction T).Invariant := by
  obtain ⟨v, stage⟩ := committing_stage s.stage committing
  obtain ⟨sent, returned, arrived⟩ := valid.value v stage
  have unanswered : s.reply = none := Option.map_eq_none_iff.mp (arrived.symm.trans waiting)
  refine
    { flag := valid.flag
      early := valid.early
      unsent := fun unsent => ?_
      calling := fun calling => ?_
      value := fun v' here => ⟨sent, ?_, rfl⟩
      spoken := valid.spoken
      replied := allowed
      raced := fun r here => ?_
      stopped := valid.stopped }
  · simp only at unsent
    rw [sent] at unsent
    cases unsent
  · simp only [stage] at calling
    cases calling
  · simp only [stage, Stage.committing.injEq] at here
    rw [← here]
    exact returned
  · obtain ⟨settled, honest⟩ := valid.raced r here
    refine ⟨settled, ?_⟩
    cases r with
    | ok v' =>
        have done := honest.1
        rw [stage] at done
        cases done
    | error e =>
        rcases honest with certain | unsent | refused
        · exact .inl certain
        · rw [sent] at unsent
          cases unsent
        · rw [unanswered] at refused
          cases refused

theorem Transaction.sent_keeps (s : Transaction T) (v : T) (valid : s.Invariant) (calling : s.stage.isCalling = true)
    (running : s.controllerAborted = false) (arrived : s.arrived = some (.returned (.ok v))) :
    ({ s with stage := .committing v, arrived := none, committing := true, sent := true } : Transaction T).Invariant := by
  have stage := calling_stage s.stage calling
  have unsent := valid.unsent (valid.early (by rw [stage]; rfl))
  refine
    { flag := rfl
      early := fun early => nomatch early
      unsent := fun unsent => nomatch unsent
      calling := fun calling => nomatch calling
      value := fun v' here => ?_
      spoken := fun _ => ⟨v, valid.calling calling _ arrived⟩
      replied := valid.replied
      raced := fun r here => ?_
      stopped := valid.stopped }
  · obtain rfl := Stage.committing.inj here
    exact ⟨rfl, valid.calling calling _ arrived, by simp [unsent.1]⟩
  · rcases (valid.raced r here).1 with aborted | done
    · rw [running] at aborted
      cases aborted
    · rw [stage] at done
      cases done

theorem Transaction.early_fails (s : Transaction T) (e : Thrown) (valid : s.Invariant) (before : s.stage.early = true) :
    (s.fail e).Invariant := by
  have unsent := valid.early before
  refine Transaction.fail_keeps s e valid fun sent => ?_
  rw [unsent] at sent
  cases sent

theorem Transaction.resume_keeps (s t : Transaction T) (valid : s.Invariant) (moved : s.resume = some t) : t.Invariant := by
  rw [Transaction.resume] at moved
  split at moved
  · next stage arrived =>
      obtain rfl := Option.some.inj moved
      exact Transaction.early_keeps s .calling none valid (by rw [stage]; rfl) rfl fun _ => rfl
  · next stage arrived =>
      obtain rfl := Option.some.inj moved
      exact Transaction.early_fails s _ valid (by rw [stage]; rfl)
  · next stage arrived =>
      obtain rfl := Option.some.inj moved
      exact Transaction.early_fails s _ valid (by rw [stage]; rfl)
  · next value stage arrived =>
      split_ifs at moved with aborted
      · obtain rfl := Option.some.inj moved
        exact Transaction.early_keeps s .awaiting none valid (by rw [stage]; rfl) rfl fun _ => rfl
      · cases value with
        | error refused =>
            obtain rfl := Option.some.inj moved
            exact Transaction.early_keeps s (.rollingBack refused) none valid (by rw [stage]; rfl) rfl fun _ => rfl
        | ok v =>
            obtain rfl := Option.some.inj moved
            exact Transaction.sent_keeps s v valid (by rw [stage]; rfl) (by simpa using aborted) arrived
  · next refused _ stage arrived =>
      obtain rfl := Option.some.inj moved
      exact Transaction.settle_keeps s _ valid fun _ => .inr (.inl (valid.early (by rw [stage]; rfl)))
  · next stage arrived =>
      obtain rfl := Option.some.inj moved
      exact Transaction.early_fails s _ valid (by rw [stage]; rfl)
  · next v commit stage arrived =>
      obtain rfl := Option.some.inj moved
      obtain ⟨sent, returned, same⟩ := valid.value v stage
      refine Transaction.settle_keeps s _ valid fun _ => ?_
      rw [arrived] at same
      obtain ⟨answer, replied, same⟩ := Option.map_eq_some_iff.mp same.symm
      cases answer with
      | committed =>
          obtain rfl := Arrival.answered.inj same
          exact ⟨rfl, returned, replied⟩
      | rolledBack =>
          obtain rfl := Arrival.answered.inj same
          exact .inr (.inr (by simp [replied, CommitAnswer.refuses]))
      | refused code => cases same
      | lost e => cases same
  · next v e stage arrived =>
      obtain rfl := Option.some.inj moved
      obtain ⟨sent, returned, same⟩ := valid.value v stage
      rw [arrived] at same
      exact Transaction.fail_keeps s e valid (fun _ => Option.map_eq_some_iff.mp same.symm)
  · next stage arrived =>
      obtain ⟨r, stopped, rfl⟩ := Option.map_eq_some_iff.mp moved
      obtain ⟨first, raced⟩ := Option.isSome_iff_exists.mp (valid.stopped (by rw [stopped]; rfl))
      refine Transaction.settle_keeps s r valid fun open_race => ?_
      rw [raced] at open_race
      cases open_race
  · cases moved

theorem Transaction.connect_keeps (s : Transaction T) (valid : s.Invariant) (connecting : s.stage = .connecting) : s.connect.Invariant := by
  have before : s.stage.early = true := by rw [connecting]; rfl
  have leased := Transaction.aside_keeps s s.closing s.signalAborted true true { s.client with obtained := true } valid
  rw [Transaction.connect]
  split_ifs with aborted
  · have unmoved : ∀ t : Transaction T, (t.stop true).stage = t.stage := fun t => by
      rw [Transaction.stop, Transaction.cancel]
      cases t.stopped <;> rfl
    refine Transaction.early_keeps _ .awaiting _ (Transaction.stop_keeps _ true leased) ?_ rfl fun calling => nomatch calling
    rw [unmoved]
    exact before
  · exact Transaction.early_keeps _ .beginning s.arrived leased before rfl fun calling => nomatch calling

theorem Transaction.step_keeps (s t : Transaction T) (event : TransactionEvent T) (valid : s.Invariant) (moved : s.step event = some t) :
    t.Invariant := by
  cases transaction_moves s t event moved with
  | close => exact Transaction.aside_keeps s true s.signalAborted s.listening s.timerSet s.client valid
  | abortHeard _ _ => exact Transaction.stop_keeps _ true (Transaction.aside_keeps s s.closing true false s.timerSet s.client valid)
  | abortUnheard _ _ => exact Transaction.aside_keeps s s.closing true s.listening s.timerSet s.client valid
  | timer _ => exact Transaction.stop_keeps _ false (Transaction.aside_keeps s s.closing s.signalAborted s.listening false s.client valid)
  | callClosed stage _ => exact Transaction.refused_keeps s closed valid (by rw [stage]; rfl)
  | callCanceled stage _ => exact Transaction.refused_keeps s canceled valid (by rw [stage]; rfl)
  | call stage _ _ =>
      have before : s.stage.early = true := by rw [stage]; rfl
      exact Transaction.early_keeps s .connecting s.arrived valid before rfl fun calling => nomatch calling
  | connected stage => exact Transaction.connect_keeps s valid stage
  | connectFails e stage => exact Transaction.refused_keeps s (map e) valid (by rw [stage]; rfl)
  | answers waiting | fails e waiting =>
      exact Transaction.arrived_keeps s _ valid (querying_early s.stage waiting.1) fun value same => nomatch same
  | returns value waiting => exact Transaction.returned_keeps s value valid waiting.1
  | throws e waiting =>
      have before : s.stage.early = true := by rw [calling_stage s.stage waiting.1]; rfl
      exact Transaction.arrived_keeps s _ valid before fun value same => nomatch same
  | applies sent => exact Transaction.applied_keeps s valid sent.1 sent.2
  | replies answer waiting =>
      exact Transaction.replied_keeps s answer valid waiting.1 (Option.isNone_iff_eq_none.mp waiting.2.1) waiting.2.2
  | resume t moved => exact Transaction.resume_keeps s t valid moved
  | finish _ => exact Transaction.aside_keeps s s.closing s.signalAborted false false s.client valid

theorem transaction_invariant (s : Transaction T) (reached : (transactionMachine T).Reachable s) : s.Invariant :=
  (transactionMachine T).invariant Transaction.Invariant
    ⟨rfl, fun _ => rfl, fun _ => ⟨rfl, rfl⟩, (fun calling => nomatch calling), (fun _ here => nomatch here), (fun sent => nomatch sent), rfl,
      (fun _ here => nomatch here), (fun stopped => nomatch stopped)⟩
    (fun s t event _ valid moved => Transaction.step_keeps s t event valid moved) s reached

theorem resolved_ok (s : Transaction T) (valid : s.Invariant) (v : T) (resolved : s.raced = some (.ok v)) :
    s.returned = some (.ok v) ∧ s.reply = some .committed := ((valid.raced _ resolved).2).2

theorem resolved_silent (s : Transaction T) (valid : s.Invariant) (r : Result T) (resolved : s.raced = some r)
    (sent : s.sent = true) (silent : s.reply.all CommitAnswer.isLost = true) : r = .error uncertain := by
  have honest := (valid.raced r resolved).2
  cases r with
  | ok v =>
      rw [honest.2.2] at silent
      cases silent
  | error e =>
      rcases honest with certain | unsent | refused
      · rw [certain]
      · rw [sent] at unsent
        cases unsent
      · obtain ⟨answer, replied, refused⟩ := (Option.any_eq_true _ _).mp refused
        rw [replied] at silent
        cases answer with
        | rolledBack => cases silent
        | refused code => cases silent
        | committed => cases refused
        | lost e => cases refused

theorem refused_unapplied (s : Transaction T) (valid : s.Invariant) (refused : s.reply.any CommitAnswer.refuses = true) :
    s.applied = false := by
  obtain ⟨answer, replied, refuses⟩ := (Option.any_eq_true _ _).mp refused
  have allowed := valid.replied
  rw [replied] at allowed
  cases answer with
  | rolledBack => simpa [CommitAnswer.allowed] using allowed
  | refused code => simpa [CommitAnswer.allowed] using allowed
  | committed => cases refuses
  | lost e => cases refuses

theorem resolved_known (s : Transaction T) (valid : s.Invariant) (e : Failure) (resolved : s.raced = some (.error e))
    (known : e ≠ uncertain) : (s.sent = false ∨ s.reply.any CommitAnswer.refuses = true) ∧ s.applied = false := by
  have definite := ((valid.raced _ resolved).2).resolve_left known
  refine ⟨definite, ?_⟩
  rcases definite with unsent | refused
  · exact (valid.unsent unsent).2
  · exact refused_unapplied s valid refused

theorem transaction_reports_commit (s : Transaction T) (reached : (transactionMachine T).Reachable s) (r : Result T)
    (resolved : s.raced = some r) :
    (∀ v, r = .ok v → s.returned = some (.ok v) ∧ s.reply = some .committed) ∧
    (s.sent = true → s.reply.all CommitAnswer.isLost = true → r = .error uncertain) ∧
    (∀ e, r = .error e → e ≠ uncertain →
      (s.sent = false ∨ s.reply.any CommitAnswer.refuses = true) ∧ s.applied = false) := by
  have valid := transaction_invariant s reached
  refine ⟨fun v here => ?_, resolved_silent s valid r resolved, fun e here => ?_⟩
  · rw [here] at resolved
    exact resolved_ok s valid v resolved
  · rw [here] at resolved
    exact resolved_known s valid e resolved

def committingRun (v : ℕ) : List (TransactionEvent ℕ) := [.call, .connected, .answers, .resume, .returns (.ok v), .resume]

theorem transaction_reports_commit_demo :
    (∃ s, (transactionMachine ℕ).Reachable s ∧ s.raced = some (.ok 7) ∧ s.reply = some .committed) ∧
    ∃ s r, (transactionMachine ℕ).Reachable s ∧ s.raced = some r ∧ s.applied = true ∧ r = .error uncertain := by
  constructor
  · have reached := (transactionMachine ℕ).run_reachable _ _ (committingRun 7 ++ [.applies, .replies .committed, .resume]) .start rfl
    exact ⟨_, reached, rfl, ((transaction_reports_commit _ reached _ rfl).1 7 rfl).2⟩
  · have reached := (transactionMachine ℕ).run_reachable _ _ (committingRun 7 ++ [.applies, .timer]) .start rfl
    have certain := (transaction_reports_commit _ reached _ rfl).2.1 rfl rfl
    exact ⟨_, _, reached, rfl, rfl, certain⟩

inductive Outcome where
  | committed
  | uncertain (applied : Bool)
  | failed (e : Failure)
deriving DecidableEq

def Outcome.applied : Outcome → Bool
  | .committed => true
  | .uncertain applied => applied
  | .failed _ => false

def Outcome.answer : Outcome → Result T → Result T
  | .failed e, _ => .error e
  | .committed, body => body
  | .uncertain _, .ok _ => .error N2F.uncertain
  | .uncertain _, .error e => .error e

theorem transaction_concludes (s : Transaction T) (reached : (transactionMachine T).Reachable s) (r : Result T)
    (resolved : s.raced = some r) :
    (∀ v, s.returned = some (.ok v) → ∃ o : Outcome, o.answer (.ok v) = r ∧ o.applied = s.applied) ∧
    ((∀ v, s.returned ≠ some (.ok v)) → ∃ e, r = .error e ∧ s.applied = false) := by
  have valid := transaction_invariant s reached
  constructor
  · intro v returned
    cases r with
    | ok v' =>
        obtain ⟨same, replied⟩ := resolved_ok s valid v' resolved
        obtain rfl := Except.ok.inj (Option.some.inj (returned.symm.trans same))
        have applied := valid.replied
        rw [replied] at applied
        have done : s.applied = true := applied
        exact ⟨.committed, rfl, done.symm⟩
    | error e =>
        by_cases known : e = uncertain
        · exact ⟨.uncertain s.applied, by rw [known]; rfl, rfl⟩
        · exact ⟨.failed e, rfl, (resolved_known s valid e resolved known).2.symm⟩
  · intro unspoken
    have unsent : s.sent = false := by
      cases sent : s.sent with
      | false => rfl
      | true =>
          obtain ⟨v, returned⟩ := valid.spoken sent
          exact absurd returned (unspoken v)
    cases r with
    | ok v => exact absurd (resolved_ok s valid v resolved).1 (unspoken v)
    | error e => exact ⟨e, rfl, (valid.unsent unsent).2⟩

end N2F

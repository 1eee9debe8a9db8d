import N2F.Postgres.Transaction
import Mathlib.Tactic.SplitIfs

set_option autoImplicit false

namespace N2F

variable {T : Type}

def Client.free : Client := ⟨false, false, 0, []⟩

def Client.held : Client := ⟨true, false, 0, []⟩

def Client.disposed (destroy : Bool) : Client := ⟨true, true, 1, [destroy]⟩

theorem held_release (destroy : Bool) : Client.held.release destroy = .disposed destroy := rfl

theorem disposed_release (first later : Bool) : (Client.disposed first).release later = .disposed first := rfl

inductive Phase where
  | entering
  | working
  | awaiting
  | done
deriving DecidableEq

def Stage.phase : Stage T → Phase
  | .called | .connecting => .entering
  | .beginning | .calling | .rollingBack _ | .committing _ => .working
  | .awaiting => .awaiting
  | .done => .done

inductive Transaction.Custody (s : Transaction T) : Prop where
  | early (client : s.client = .free) (unarmed : s.timerSet = false) (deaf : s.listening = false) (unraced : s.raced = none)
      (running : s.controllerAborted = false) (phase : s.stage.phase = .entering)
  | refused (client : s.client = .free) (unarmed : s.timerSet = false) (deaf : s.listening = false) (phase : s.stage.phase = .done)
  | held (client : s.client = .held) (armed : s.timerSet = true) (unraced : s.raced = none) (running : s.controllerAborted = false)
      (phase : s.stage.phase = .working)
  | disposed (destroy : Bool) (client : s.client = .disposed destroy) (phase : s.stage.phase ≠ .entering)

def Transaction.closes (s : Transaction T) : Bool :=
  match s.stage, s.arrived with
  | .rollingBack _, some (.answered _) | .committing _, some (.answered _) => true
  | _, _ => false

def TransactionEvent.isResume : TransactionEvent T → Bool
  | .resume => true
  | _ => false

inductive Transaction.Turned (s : Transaction T) (e : TransactionEvent T) (t : Transaction T) : Prop where
  | kept (client : t.client = s.client)
  | leased (event : e = .connected) (before : s.client = .free) (after : t.client = .held ∨ t.client = .disposed true)
  | disposed (before : s.client = .held) (after : t.client = .disposed (!(e.isResume && s.closes)))

theorem custody_aside (s t : Transaction T) (custody : s.Custody) (phase : t.stage.phase = s.stage.phase) (client : t.client = s.client)
    (armed : t.timerSet = s.timerSet) (deaf : s.listening = false → t.listening = false) (unraced : t.raced = s.raced)
    (running : t.controllerAborted = s.controllerAborted) : t.Custody := by
  cases custody with
  | early free unarmed quiet none idle entering =>
      exact .early (client.trans free) (armed.trans unarmed) (deaf quiet) (unraced.trans none) (running.trans idle) (phase.trans entering)
  | refused free unarmed quiet done => exact .refused (client.trans free) (armed.trans unarmed) (deaf quiet) (phase.trans done)
  | held held set none idle working =>
      exact .held (client.trans held) (armed.trans set) (unraced.trans none) (running.trans idle) (phase.trans working)
  | disposed destroy gone late => exact .disposed destroy (client.trans gone) (by rwa [phase])

theorem custody_entering (s : Transaction T) (custody : s.Custody) (phase : s.stage.phase = .entering) :
    s.client = .free ∧ s.timerSet = false ∧ s.listening = false ∧ s.raced = none ∧ s.controllerAborted = false := by
  cases custody with
  | early free unarmed deaf unraced running _ => exact ⟨free, unarmed, deaf, unraced, running⟩
  | refused _ _ _ done => cases phase.symm.trans done
  | held _ _ _ _ working => cases phase.symm.trans working
  | disposed _ _ late => exact absurd phase late

theorem custody_working (s : Transaction T) (custody : s.Custody) (phase : s.stage.phase = .working) :
    (s.client = .held ∧ s.controllerAborted = false) ∨ ∃ destroy, s.client = .disposed destroy := by
  cases custody with
  | early _ _ _ _ _ entering => cases phase.symm.trans entering
  | refused _ _ _ done => cases phase.symm.trans done
  | held held _ _ running _ => exact .inl ⟨held, running⟩
  | disposed destroy gone _ => exact .inr ⟨destroy, gone⟩

theorem stop_client (s : Transaction T) (byCaller : Bool) :
    (s.stop byCaller).client = s.client.release true ∧ (s.stop byCaller).stage = s.stage := by
  rw [Transaction.stop, Transaction.cancel]
  split
  · exact ⟨rfl, rfl⟩
  · exact ⟨rfl, rfl⟩

theorem stop_custody (s u : Transaction T) (byCaller : Bool) (e : TransactionEvent T) (custody : s.Custody) (client : u.client = s.client)
    (stage : u.stage = s.stage) (other : e.isResume = false) (set : s.timerSet = true ∨ s.listening = true) :
    (u.stop byCaller).Custody ∧ s.Turned e (u.stop byCaller) := by
  obtain ⟨released, kept⟩ := stop_client u byCaller
  rw [client] at released
  rw [stage] at kept
  cases custody with
  | early _ unarmed deaf _ _ _ => simp [unarmed, deaf] at set
  | refused _ unarmed deaf _ => simp [unarmed, deaf] at set
  | held held _ _ _ phase =>
      have gone : (u.stop byCaller).client = .disposed true := by rw [released, held, held_release]
      refine ⟨.disposed true gone (by rw [kept, phase]; decide), .disposed held ?_⟩
      rw [other]
      exact gone
  | disposed destroy gone phase =>
      have same : (u.stop byCaller).client = s.client := by rw [released, gone, disposed_release]
      exact ⟨.disposed destroy (same.trans gone) (by rwa [kept]), .kept same⟩

theorem settle_custody (s : Transaction T) (r : Result T) (custody : s.Custody) (phase : s.stage.phase = .working)
    (closes : s.closes = true) : (s.settle r).Custody ∧ s.Turned .resume (s.settle r) := by
  rcases custody_working s custody phase with ⟨held, _⟩ | ⟨destroy, gone⟩
  · have given : (s.settle r).client = .disposed false := congrArg (Client.release false) held
    refine ⟨.disposed false given nofun, .disposed held ?_⟩
    rw [closes]
    exact given
  · have same : (s.settle r).client = .disposed destroy := congrArg (Client.release false) gone
    exact ⟨.disposed destroy same nofun, .kept (same.trans gone.symm)⟩

theorem fail_custody (s : Transaction T) (e : Thrown) (custody : s.Custody) (phase : s.stage.phase = .working)
    (closes : s.closes = false) : (s.fail e).Custody ∧ s.Turned .resume (s.fail e) := by
  rcases custody_working s custody phase with ⟨held, _⟩ | ⟨destroy, gone⟩
  · have destroyed : (s.fail e).client = .disposed true := congrArg (fun c => (c.release true).release false) held
    refine ⟨.disposed true destroyed nofun, .disposed held ?_⟩
    rw [closes]
    exact destroyed
  · have same : (s.fail e).client = .disposed destroy := congrArg (fun c => (c.release true).release false) gone
    exact ⟨.disposed destroy same nofun, .kept (same.trans gone.symm)⟩

theorem await_custody (s : Transaction T) (r : Result T) (custody : s.Custody) (phase : s.stage.phase = .awaiting) :
    (s.settle r).Custody ∧ s.Turned .resume (s.settle r) := by
  cases custody with
  | early _ _ _ _ _ entering => cases phase.symm.trans entering
  | refused _ _ _ done => cases phase.symm.trans done
  | held _ _ _ _ working => cases phase.symm.trans working
  | disposed destroy gone _ =>
      have same : (s.settle r).client = .disposed destroy := congrArg (Client.release false) gone
      exact ⟨.disposed destroy same nofun, .kept (same.trans gone.symm)⟩

theorem resume_custody (s t : Transaction T) (custody : s.Custody) (moved : s.resume = some t) :
    t.Custody ∧ s.Turned .resume t := by
  rw [Transaction.resume] at moved
  split at moved
  · next stage arrived =>
      obtain rfl := Option.some.inj moved
      exact ⟨custody_aside s _ custody (by rw [stage]; rfl) rfl rfl id rfl rfl, .kept rfl⟩
  · next stage arrived =>
      obtain rfl := Option.some.inj moved
      exact fail_custody s _ custody (by rw [stage]; rfl) (by rw [Transaction.closes, stage])
  · next stage arrived =>
      obtain rfl := Option.some.inj moved
      exact fail_custody s _ custody (by rw [stage]; rfl) (by rw [Transaction.closes, stage])
  · next value stage arrived =>
      by_cases aborted : s.controllerAborted = true
      · rw [if_pos aborted] at moved
        obtain rfl := Option.some.inj moved
        rcases custody_working s custody (by rw [stage]; rfl) with ⟨_, running⟩ | ⟨destroy, gone⟩
        · cases aborted.symm.trans running
        · exact ⟨.disposed destroy gone nofun, .kept rfl⟩
      · rw [if_neg aborted] at moved
        cases value with
        | error refused =>
            obtain rfl := Option.some.inj moved
            exact ⟨custody_aside s _ custody (by rw [stage]; rfl) rfl rfl id rfl rfl, .kept rfl⟩
        | ok v =>
            obtain rfl := Option.some.inj moved
            exact ⟨custody_aside s _ custody (by rw [stage]; rfl) rfl rfl id rfl rfl, .kept rfl⟩
  · next stage arrived =>
      obtain rfl := Option.some.inj moved
      exact settle_custody s _ custody (by rw [stage]; rfl) (by rw [Transaction.closes, stage, arrived])
  · next stage arrived =>
      obtain rfl := Option.some.inj moved
      exact fail_custody s _ custody (by rw [stage]; rfl) (by rw [Transaction.closes, stage, arrived])
  · next stage arrived =>
      obtain rfl := Option.some.inj moved
      exact settle_custody s _ custody (by rw [stage]; rfl) (by rw [Transaction.closes, stage, arrived])
  · next stage arrived =>
      obtain rfl := Option.some.inj moved
      exact fail_custody s _ custody (by rw [stage]; rfl) (by rw [Transaction.closes, stage, arrived])
  · next stage arrived =>
      obtain ⟨r, stopped, rfl⟩ := Option.map_eq_some_iff.mp moved
      exact await_custody s r custody (by rw [stage]; rfl)
  · cases moved

theorem release_obtained (c : Client) (destroy : Bool) : (c.release destroy).obtained = c.obtained := by
  rw [Client.release]
  split_ifs <;> rfl

theorem connect_obtained (s : Transaction T) : s.connect.client.obtained = true := by
  rw [Transaction.connect]
  dsimp only
  by_cases aborted : s.signalAborted = true
  · rw [if_pos aborted]
    dsimp only
    rw [(stop_client _ true).1, release_obtained]
  · rw [if_neg aborted]

theorem connect_custody (s : Transaction T) (custody : s.Custody) (phase : s.stage.phase = .entering) :
    s.connect.Custody ∧ s.Turned .connected s.connect := by
  obtain ⟨free, _, _, unraced, running⟩ := custody_entering s custody phase
  rw [Transaction.connect]
  dsimp only
  by_cases aborted : s.signalAborted = true
  · rw [if_pos aborted]
    have gone : (({ s with client := { s.client with obtained := true }, timerSet := true, listening := true } : Transaction T).stop
        true).client = .disposed true := by
      rw [(stop_client _ true).1, free]
      rfl
    exact ⟨.disposed true gone nofun, .leased rfl free (.inr gone)⟩
  · rw [if_neg aborted]
    have held : { s.client with obtained := true } = Client.held := by
      rw [free]
      rfl
    exact ⟨.held held rfl unraced running rfl, .leased rfl free (.inl held)⟩

theorem refused_custody (s : Transaction T) (r : Result T) (e : TransactionEvent T) (custody : s.Custody)
    (phase : s.stage.phase = .entering) :
    ({ s with stage := .done, raced := some r } : Transaction T).Custody ∧ s.Turned e { s with stage := .done, raced := some r } := by
  obtain ⟨free, unarmed, deaf, _, _⟩ := custody_entering s custody phase
  exact ⟨.refused free unarmed deaf rfl, .kept rfl⟩

theorem custody_step (s t : Transaction T) (e : TransactionEvent T) (custody : s.Custody) (moved : s.step e = some t) :
    t.Custody ∧ s.Turned e t := by
  cases transaction_moves s t e moved with
  | close | abortUnheard _ _ => exact ⟨custody_aside s _ custody rfl rfl rfl id rfl rfl, .kept rfl⟩
  | abortHeard _ listening => exact stop_custody s _ true .abort custody rfl rfl rfl (.inr listening)
  | timer armed => exact stop_custody s _ false .timer custody rfl rfl rfl (.inl armed)
  | callClosed stage _ | callCanceled stage _ => exact refused_custody s _ .call custody (by rw [stage]; rfl)
  | call stage _ _ =>
      have phase : s.stage.phase = .entering := by
        rw [stage]
        rfl
      exact ⟨custody_aside s _ custody phase.symm rfl rfl id rfl rfl, .kept rfl⟩
  | connected stage => exact connect_custody s custody (by rw [stage]; rfl)
  | connectFails e stage => exact refused_custody s _ (.connectFails e) custody (by rw [stage]; rfl)
  | answers _ | fails _ _ | returns _ _ | throws _ _ | applies _ | replies _ _ =>
      exact ⟨custody_aside s _ custody rfl rfl rfl id rfl rfl, .kept rfl⟩
  | resume t moved => exact resume_custody s t custody moved
  | finish finished =>
      cases custody with
      | early client _ _ unraced running phase => exact ⟨.early client rfl rfl unraced running phase, .kept rfl⟩
      | refused client _ _ phase => exact ⟨.refused client rfl rfl phase, .kept rfl⟩
      | held _ _ unraced _ _ =>
          rw [unraced] at finished
          cases finished
      | disposed destroy client phase => exact ⟨.disposed destroy client phase, .kept rfl⟩

theorem disposed_step (s t : Transaction T) (e : TransactionEvent T) (custody : s.Custody) (destroy : Bool)
    (gone : s.client = .disposed destroy) (moved : s.step e = some t) : t.client = .disposed destroy := by
  cases (custody_step s t e custody moved).2 with
  | kept client => exact client.trans gone
  | leased _ free _ => cases gone.symm.trans free
  | disposed held _ => cases gone.symm.trans held

theorem transaction_custody (s : Transaction T) (reached : (transactionMachine T).Reachable s) : s.Custody :=
  (transactionMachine T).invariant Transaction.Custody (.early rfl rfl rfl rfl rfl rfl)
    (fun s t e _ custody moved => (custody_step s t e custody moved).1) s reached

def Stage.isRollingBack : Stage T → Bool
  | .rollingBack _ => true
  | _ => false

def Transaction.ends (s : Transaction T) : TransactionEvent T → Bool
  | .answers => s.stage.isRollingBack
  | .replies .committed | .replies .rolledBack => true
  | _ => false

theorem ends_working (s t : Transaction T) (e : TransactionEvent T) (moved : s.step e = some t) (ends : s.ends e = true) :
    s.stage.phase = .working := by
  cases transaction_moves s t e moved with
  | answers _ =>
      simp only [Transaction.ends] at ends
      cases stage : s.stage <;> simp only [stage, Stage.isRollingBack] at ends <;> first | rfl | cases ends
  | replies answer waiting =>
      have committing := waiting.1
      cases stage : s.stage <;> simp only [stage, Stage.isCommitting] at committing <;> first | rfl | cases committing
  | _ => cases ends

theorem resume_arrived (s t : Transaction T) (moved : s.resume = some t) : t.arrived = none := by
  rw [Transaction.resume] at moved
  split at moved
  case h_4 value _ _ =>
      split_ifs at moved
      · obtain rfl := Option.some.inj moved
        rfl
      · cases value <;> obtain rfl := Option.some.inj moved <;> rfl
  case h_9 =>
      obtain ⟨r, _, rfl⟩ := Option.map_eq_some_iff.mp moved
      rfl
  case h_10 => cases moved
  all_goals
    obtain rfl := Option.some.inj moved
    rfl

theorem closes_arrived (s : Transaction T) (closes : s.closes = true) : s.stage.phase = .working ∧ ∃ commit, s.arrived = some (.answered commit) := by
  rw [Transaction.closes] at closes
  split at closes
  · next stage arrived => exact ⟨by rw [stage]; rfl, _, arrived⟩
  · next stage arrived => exact ⟨by rw [stage]; rfl, _, arrived⟩
  · cases closes

theorem stop_closes (s : Transaction T) (byCaller : Bool) : (s.stop byCaller).closes = s.closes := by
  rw [Transaction.stop, Transaction.cancel]
  split <;> rfl

theorem closes_step (s t : Transaction T) (e : TransactionEvent T) (moved : s.step e = some t) (closes : t.closes = true) :
    s.closes = true ∨ s.ends e = true := by
  obtain ⟨working, commit, arrived⟩ := closes_arrived t closes
  cases transaction_moves s t e moved with
  | close | abortUnheard _ _ | applies _ | finish _ => exact .inl closes
  | abortHeard _ _ | timer _ =>
      rw [stop_closes] at closes
      exact .inl closes
  | callClosed _ _ | callCanceled _ _ | call _ _ _ | connectFails _ _ => cases working
  | connected _ =>
      rw [Transaction.connect] at closes
      dsimp only at closes
      split_ifs at closes <;> cases closes
  | answers waiting =>
      cases stage : s.stage with
      | rollingBack refused =>
          right
          rw [Transaction.ends, stage]
          rfl
      | beginning =>
          simp only [Transaction.closes, stage] at closes
          cases closes
      | _ =>
          rw [stage] at waiting
          cases waiting.1
  | fails _ _ | returns _ _ | throws _ _ => cases arrived
  | replies answer _ =>
      cases answer with
      | committed => exact .inr rfl
      | rolledBack => exact .inr rfl
      | refused code => cases arrived
      | lost e => cases arrived
  | resume t moved => cases (resume_arrived s t moved).symm.trans arrived

end N2F

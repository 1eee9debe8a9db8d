import N2F.Postgres.Custody
import N2F.Roster

set_option autoImplicit false

namespace N2F.Postgres

variable {T : Type}

-- A connection of pg.Pool: whether a transaction block may be open on it, and
-- whether the pool may hand it out.
structure Session where
  inside : Bool
  idle : Bool

-- A call of Database.transaction with the session it was handed. Once the callback
-- was called it may use that session at any time; it is late when the server
-- had answered ROLLBACK or COMMIT before.
structure Lease (T : Type) where
  call : Transaction T
  session : Option ℕ
  handed : Bool
  ended : Bool
  late : Bool

def Lease.start : Lease T := ⟨(transactionMachine T).start, none, false, false, false⟩

def Lease.returned (lease : Lease T) : Bool := lease.call.client.releases.contains false

def Lease.step (lease : Lease T) (e : TransactionEvent T) : Option (Lease T) :=
  (lease.call.step e).map fun call =>
    { lease with call := call, handed := lease.handed || call.stage.isCalling, ended := lease.ended || lease.call.ends e }

structure Database (T : Type) where
  leases : List (Lease T)
  sessions : List Session

inductive DatabaseEvent (T : Type) where
  | enters
  | takes (k : ℕ) (source : Option ℕ)
  | asks (k : ℕ) (e : TransactionEvent T)
  | uses (k : ℕ) (inside : Bool)
  | drops (i : ℕ)

def isConnected : TransactionEvent T → Bool
  | .connected => true
  | _ => false

def onSession (source : Option ℕ) (f : Session → Session) (sessions : List Session) : List Session :=
  match source with
  | none => sessions
  | some i => sessions.modify i f

-- BEGIN goes out as soon as the session is there, unless the caller has aborted.
def Database.takes (db : Database T) (k : ℕ) (source : Option ℕ) : Option (Database T) :=
  db.leases[k]?.bind fun lease => (lease.call.step .connected).bind fun call =>
    match source with
    | none =>
        some ⟨db.leases.set k { lease with call := call, session := some db.sessions.length },
          db.sessions ++ [⟨!lease.call.signalAborted, false⟩]⟩
    | some i => db.sessions[i]?.bind fun session =>
        if session.idle then
          some ⟨db.leases.set k { lease with call := call, session := some i },
            db.sessions.set i ⟨session.inside || !lease.call.signalAborted, false⟩⟩
        else none

def Database.asks (db : Database T) (k : ℕ) (e : TransactionEvent T) : Option (Database T) :=
  if isConnected e then none
  else db.leases[k]?.bind fun lease => (lease.step e).map fun lease' =>
    ⟨db.leases.set k lease', onSession lease.session
      (fun session => ⟨session.inside && !lease.call.ends e, session.idle || (!lease.returned && lease'.returned)⟩) db.sessions⟩

def Database.uses (db : Database T) (k : ℕ) (inside : Bool) : Option (Database T) :=
  db.leases[k]?.bind fun lease =>
    if lease.handed then
      some ⟨db.leases.set k { lease with late := lease.late || lease.ended },
        onSession lease.session (fun session => { session with inside := inside }) db.sessions⟩
    else none

def Database.step (db : Database T) : DatabaseEvent T → Option (Database T)
  | .enters => some { db with leases := db.leases ++ [.start] }
  | .takes k source => db.takes k source
  | .asks k e => db.asks k e
  | .uses k inside => db.uses k inside
  | .drops i => some { db with sessions := db.sessions.modify i fun session => { session with idle := false } }

def databaseMachine (T : Type) : Machine (Database T) (DatabaseEvent T) := ⟨⟨[], []⟩, Database.step⟩

structure Lease.Disposed (lease : Lease T) : Prop where
  once : lease.call.client.removals = lease.call.client.releases.length ∧ lease.call.client.releases.length ≤ 1
  unobtained : lease.call.client.obtained = false → lease.call.client.releases = []
  answered : lease.call.client.obtained = true → lease.call.raced.isSome = true → lease.call.client.releases ≠ []
  reusable : lease.call.client.releases = [false] → lease.ended = true
  destroyed : lease.call.client.releases ≠ [] → lease.ended = false → lease.call.client.releases = [true]
  bounded : lease.call.client.obtained = true → lease.call.client.releases = [] →
    ∃ t, lease.call.step .timer = some t ∧ t.client.releases = [true]

structure Lease.Sound (lease : Lease T) : Prop where
  reached : (transactionMachine T).Reachable lease.call
  closing : lease.call.closes = true → lease.ended = true
  returned : lease.call.client = .disposed false → lease.ended = true
  owned : lease.session = none ↔ lease.call.client = .free
  unused : lease.session = none → lease.ended = false ∧ lease.late = false

theorem start_sound : (Lease.start : Lease T).Sound := ⟨.start, nofun, nofun, ⟨fun _ => rfl, fun _ => rfl⟩, fun _ => ⟨rfl, rfl⟩⟩

theorem sound_disposed (lease : Lease T) (sound : lease.Sound) : lease.Disposed := by
  cases transaction_custody lease.call sound.reached with
  | early free _ _ _ _ _ =>
      refine ⟨?_, ?_, ?_, ?_, ?_, ?_⟩ <;> rw [free]
      · exact ⟨rfl, Nat.zero_le 1⟩
      · exact fun _ => rfl
      all_goals nofun
  | refused free _ _ _ =>
      refine ⟨?_, ?_, ?_, ?_, ?_, ?_⟩ <;> rw [free]
      · exact ⟨rfl, Nat.zero_le 1⟩
      · exact fun _ => rfl
      all_goals nofun
  | held held armed unraced _ _ =>
      refine ⟨?_, ?_, ?_, ?_, ?_, ?_⟩
      · rw [held]
        exact ⟨rfl, Nat.zero_le 1⟩
      · exact fun _ => congrArg Client.releases held
      · intro _ raced
        rw [unraced] at raced
        cases raced
      · rw [held]
        nofun
      · intro released
        exact absurd (congrArg Client.releases held) released
      · intro _ _
        refine ⟨_, if_pos armed, ?_⟩
        rw [(stop_client _ false).1, held]
        rfl
  | disposed destroy gone _ =>
      refine ⟨?_, ?_, ?_, ?_, ?_, ?_⟩
      · rw [gone]
        exact ⟨rfl, Nat.le_refl 1⟩
      · rw [gone]
        nofun
      · rw [gone]
        nofun
      · intro released
        rw [gone] at released
        obtain rfl : destroy = false := (List.cons.inj released).1
        exact sound.returned gone
      · intro _ unended
        cases destroy with
        | true => rw [gone]; rfl
        | false => cases (sound.returned gone).symm.trans unended
      · rw [gone]
        nofun

theorem unowned_free (lease : Lease T) (sound : lease.Sound) (working : lease.call.stage.phase = .working) : lease.session ≠ none := by
  intro none
  have free := sound.owned.mp none
  rcases custody_working lease.call (transaction_custody lease.call sound.reached) working with ⟨held, _⟩ | ⟨destroy, gone⟩
  · cases held.symm.trans free
  · cases gone.symm.trans free

theorem step_sound (lease lease' : Lease T) (e : TransactionEvent T) (sound : lease.Sound) (other : isConnected e = false)
    (moved : lease.step e = some lease') : lease'.Sound := by
  obtain ⟨call, stepped, rfl⟩ := Option.map_eq_some_iff.mp moved
  have custody := transaction_custody lease.call sound.reached
  have turned := (custody_step lease.call call e custody stepped).2
  refine ⟨.next _ _ e sound.reached stepped, fun closes => ?_, fun gone => ?_, ?_, fun none => ⟨?_, (sound.unused none).2⟩⟩
  · rcases closes_step lease.call call e stepped closes with before | ends
    · simp [sound.closing before]
    · simp [ends]
  · dsimp only at gone
    cases turned with
    | kept client =>
        simp [sound.returned (client.symm.trans gone)]
    | leased event _ _ =>
        rw [event] at other
        cases other
    | disposed _ after =>
        rw [gone] at after
        have closes : (e.isResume && lease.call.closes) = true := by
          injection after with _ _ _ same
          simpa using same
        simp [sound.closing (Bool.and_eq_true_iff.mp closes).2]
  · rw [sound.owned]
    cases turned with
    | kept client =>
        dsimp only
        rw [client]
    | leased event _ _ =>
        rw [event] at other
        cases other
    | disposed held after =>
        dsimp only
        rw [held, after]
        exact ⟨nofun, nofun⟩
  · have unended := (sound.unused none).1
    cases ends : lease.call.ends e with
    | false => simp [unended]
    | true => exact absurd none (unowned_free lease sound (ends_working lease.call call e stepped ends))

theorem taken_sound (lease : Lease T) (call : Transaction T) (i : ℕ) (sound : lease.Sound)
    (moved : lease.call.step .connected = some call) :
    lease.session = none ∧ ({ lease with call := call, session := some i } : Lease T).Sound := by
  have custody := transaction_custody lease.call sound.reached
  have turned := (custody_step lease.call call .connected custody moved).2
  have both : lease.call.stage.phase = .entering ∧ call.client.obtained = true := by
    cases transaction_moves lease.call call .connected moved with
    | connected stage => exact ⟨by rw [stage]; rfl, connect_obtained lease.call⟩
  obtain ⟨entering, obtained⟩ := both
  have free := (custody_entering lease.call custody entering).1
  refine ⟨sound.owned.mpr free, .next lease.call call .connected sound.reached moved, fun closes => ?_, fun gone => ?_,
    ⟨fun none => ?_, fun gone => ?_⟩, fun none => ?_⟩
  · rcases closes_step lease.call call .connected moved closes with before | ends
    · exact sound.closing before
    · cases ends
  · dsimp only at gone
    cases turned with
    | kept client => cases (client.symm.trans gone).symm.trans free
    | leased _ _ after =>
        rcases after with held | destroyed
        · cases held.symm.trans gone
        · cases destroyed.symm.trans gone
    | disposed held _ => cases held.symm.trans free
  · cases none
  · dsimp only at gone
    rw [gone] at obtained
    cases obtained
  · cases none

theorem used_sound (lease : Lease T) (sound : lease.Sound) : ({ lease with late := lease.late || lease.ended } : Lease T).Sound := by
  refine ⟨sound.reached, sound.closing, sound.returned, sound.owned, fun none => ?_⟩
  obtain ⟨unended, early⟩ := sound.unused none
  refine ⟨unended, ?_⟩
  dsimp only
  rw [early, unended]
  rfl

theorem returned_disposed (lease : Lease T) (sound : lease.Sound) : lease.returned = true ↔ lease.call.client = .disposed false := by
  rw [Lease.returned]
  constructor
  · intro returned
    cases transaction_custody lease.call sound.reached with
    | early free _ _ _ _ _ =>
        rw [free] at returned
        cases returned
    | refused free _ _ _ =>
        rw [free] at returned
        cases returned
    | held held _ _ _ _ =>
        rw [held] at returned
        cases returned
    | disposed destroy gone _ =>
        rw [gone] at returned
        cases destroy with
        | true => cases returned
        | false => exact gone
  · intro gone
    rw [gone]
    rfl

theorem step_disposed (lease lease' : Lease T) (e : TransactionEvent T) (sound : lease.Sound) (destroy : Bool)
    (gone : lease.call.client = .disposed destroy) (moved : lease.step e = some lease') : lease'.call.client = .disposed destroy := by
  obtain ⟨call, stepped, rfl⟩ := Option.map_eq_some_iff.mp moved
  exact disposed_step lease.call call e (transaction_custody lease.call sound.reached) destroy gone stepped

end N2F.Postgres

import N2F.Postgres.Pool

set_option autoImplicit false

namespace N2F.Postgres

variable {T : Type}

def Lease.Open (lease : Lease T) : Prop := lease.ended = false ∨ lease.late = true

structure Database.Sound (db : Database T) : Prop where
  lease : ∀ (k : ℕ) (lease : Lease T), db.leases[k]? = some lease → lease.Sound
  bound : ∀ (k i : ℕ) (lease : Lease T), db.leases[k]? = some lease → lease.session = some i → i < db.sessions.length
  idle : ∀ (i k : ℕ) (session : Session) (lease : Lease T), db.sessions[i]? = some session → session.idle = true →
    db.leases[k]? = some lease → lease.session = some i → lease.returned = true
  single : ∀ (j k i : ℕ) (a b : Lease T), db.leases[j]? = some a → db.leases[k]? = some b → a.session = some i → b.session = some i →
    j = k ∨ a.returned = true ∨ b.returned = true
  inside : ∀ (i : ℕ) (session : Session), db.sessions[i]? = some session → session.inside = true →
    ∃ (k : ℕ) (lease : Lease T), db.leases[k]? = some lease ∧ lease.session = some i ∧ lease.Open

theorem on_session (source : Option ℕ) (f : Session → Session) (sessions : List Session) (i : ℕ) (found : Session)
    (here : (onSession source f sessions)[i]? = some found) :
    ∃ old, sessions[i]? = some old ∧ ((source = some i ∧ found = f old) ∨ (source ≠ some i ∧ found = old)) := by
  cases source with
  | none => exact ⟨found, here, .inr ⟨nofun, rfl⟩⟩
  | some j =>
      rw [onSession, List.getElem?_modify] at here
      obtain ⟨old, there, rfl⟩ := Option.map_eq_some_iff.mp here
      refine ⟨old, there, ?_⟩
      by_cases same : j = i
      · exact .inl ⟨congrArg some same, if_pos same⟩
      · exact .inr ⟨fun own => same (Option.some.inj own), if_neg same⟩

theorem on_session_length (source : Option ℕ) (f : Session → Session) (sessions : List Session) :
    (onSession source f sessions).length = sessions.length := by
  cases source with
  | none => rfl
  | some i => exact List.length_modify ..

theorem moved_sound (db : Database T) (k : ℕ) (lease lease' : Lease T) (f : Session → Session) (sound : db.Sound)
    (found : db.leases[k]? = some lease) (own : lease'.Sound) (session : lease'.session = lease.session)
    (kept : lease.returned = true → lease'.returned = true)
    (idle : ∀ s, (f s).idle = true → s.idle = true ∨ (lease.returned = false ∧ lease'.returned = true))
    (inside : ∀ s, (f s).inside = true → lease'.Open ∨ (s.inside = true ∧ (lease.Open → lease'.Open))) :
    (⟨db.leases.set k lease', onSession lease.session f db.sessions⟩ : Database T).Sound := by
  have before (j : ℕ) (a : Lease T) (here : (db.leases.set k lease')[j]? = some a) :
      ∃ old, db.leases[j]? = some old ∧ a.session = old.session ∧ (old.returned = true → a.returned = true) := by
    rcases Roster.set_cases db.leases k j lease' a here with ⟨rfl, rfl⟩ | ⟨_, there⟩
    · exact ⟨lease, found, session, kept⟩
    · exact ⟨a, there, rfl, id⟩
  refine ⟨fun j a here => ?_, fun j i a here owns => ?_, fun i j s a there free here owns => ?_, fun j j' i a b here here' owns owns' => ?_,
    fun i s there within => ?_⟩
  · rcases Roster.set_cases db.leases k j lease' a here with ⟨rfl, rfl⟩ | ⟨_, there⟩
    · exact own
    · exact sound.lease j a there
  · obtain ⟨old, there, same, _⟩ := before j a here
    rw [on_session_length]
    exact sound.bound j i old there (same.symm.trans owns)
  · obtain ⟨old, present, same, later⟩ := before j a here
    obtain ⟨was, at_i, ⟨mine, rfl⟩ | ⟨_, rfl⟩⟩ := on_session lease.session f db.sessions i s there
    · rcases idle was free with unchanged | ⟨unreturned, returned⟩
      · exact later (sound.idle i j was old at_i unchanged present (same.symm.trans owns))
      · rcases sound.single j k i old lease present found (same.symm.trans owns) mine with rfl | back | back
        · rcases Roster.set_cases db.leases j j lease' a here with ⟨_, rfl⟩ | ⟨apart, _⟩
          · exact returned
          · exact absurd rfl apart
        · exact later back
        · cases unreturned.symm.trans back
    · exact later (sound.idle i j s old at_i free present (same.symm.trans owns))
  · obtain ⟨old, present, same, later⟩ := before j a here
    obtain ⟨old', present', same', later'⟩ := before j' b here'
    rcases sound.single j j' i old old' present present' (same.symm.trans owns) (same'.symm.trans owns') with same | back | back
    · exact .inl same
    · exact .inr (.inl (later back))
    · exact .inr (.inr (later' back))
  · obtain ⟨was, at_i, ⟨mine, rfl⟩ | ⟨other, rfl⟩⟩ := on_session lease.session f db.sessions i s there
    · have here := Roster.set_self db.leases k lease lease' found
      rcases inside was within with opened | ⟨within, still⟩
      · exact ⟨k, lease', here, session.trans mine, opened⟩
      · obtain ⟨j, a, present, owns, opened⟩ := sound.inside i was at_i within
        by_cases same : j = k
        · subst same
          obtain rfl := Option.some.inj (present.symm.trans found)
          exact ⟨j, lease', here, session.trans mine, still opened⟩
        · refine ⟨j, a, ?_, owns, opened⟩
          rw [List.getElem?_set_ne (Ne.symm same)]
          exact present
    · obtain ⟨j, a, present, owns, opened⟩ := sound.inside i s at_i within
      refine ⟨j, a, ?_, owns, opened⟩
      rw [List.getElem?_set_ne]
      · exact present
      · rintro rfl
        obtain rfl := Option.some.inj (present.symm.trans found)
        exact other owns

theorem claimed_sound (db : Database T) (k i : ℕ) (lease lease' : Lease T) (sessions : List Session) (sound : db.Sound)
    (found : db.leases[k]? = some lease) (own : lease'.Sound) (unowned : lease.session = none) (owns : lease'.session = some i)
    (opened : lease'.Open) (back : ∀ (j : ℕ) (a : Lease T), db.leases[j]? = some a → a.session = some i → a.returned = true)
    (grows : db.sessions.length ≤ sessions.length) (present : i < sessions.length)
    (taken : ∀ s, sessions[i]? = some s → s.idle = false)
    (others : ∀ (j : ℕ) (s : Session), j ≠ i → sessions[j]? = some s → db.sessions[j]? = some s) :
    (⟨db.leases.set k lease', sessions⟩ : Database T).Sound := by
  have here := Roster.set_self db.leases k lease lease' found
  refine ⟨fun j a at_j => ?_, fun j i' a at_j owned => ?_, fun i' j s a there free at_j owned => ?_,
    fun j j' i' a b at_j at_j' owned owned' => ?_, fun i' s there within => ?_⟩
  · rcases Roster.set_cases db.leases k j lease' a at_j with ⟨rfl, rfl⟩ | ⟨_, before⟩
    · exact own
    · exact sound.lease j a before
  · rcases Roster.set_cases db.leases k j lease' a at_j with ⟨rfl, rfl⟩ | ⟨_, before⟩
    · obtain rfl := Option.some.inj (owns.symm.trans owned)
      exact present
    · exact Nat.lt_of_lt_of_le (sound.bound j i' a before owned) grows
  · by_cases same : i' = i
    · subst same
      cases (taken s there).symm.trans free
    · rcases Roster.set_cases db.leases k j lease' a at_j with ⟨rfl, rfl⟩ | ⟨_, before⟩
      · exact absurd (Option.some.inj (owned.symm.trans owns)) same
      · exact sound.idle i' j s a (others i' s same there) free before owned
  · rcases Roster.set_cases db.leases k j lease' a at_j with ⟨rfl, rfl⟩ | ⟨_, before⟩
    · rcases Roster.set_cases db.leases j j' a b at_j' with ⟨rfl, _⟩ | ⟨_, before'⟩
      · exact .inl rfl
      · obtain rfl := Option.some.inj (owns.symm.trans owned)
        exact .inr (.inr (back j' b before' owned'))
    · rcases Roster.set_cases db.leases k j' lease' b at_j' with ⟨rfl, rfl⟩ | ⟨_, before'⟩
      · obtain rfl := Option.some.inj (owns.symm.trans owned')
        exact .inr (.inl (back j a before owned))
      · exact sound.single j j' i' a b before before' owned owned'
  · by_cases same : i' = i
    · subst same
      exact ⟨k, lease', here, owns, opened⟩
    · obtain ⟨j, a, before, owned, still⟩ := sound.inside i' s (others i' s same there) within
      refine ⟨j, a, ?_, owned, still⟩
      rw [List.getElem?_set_ne]
      · exact before
      · rintro rfl
        obtain rfl := Option.some.inj (before.symm.trans found)
        cases unowned.symm.trans owned

theorem takes_new (db db' : Database T) (k : ℕ) (moved : db.takes k none = some db') :
    ∃ lease call, db.leases[k]? = some lease ∧ lease.call.step .connected = some call ∧
      db' = ⟨db.leases.set k { lease with call := call, session := some db.sessions.length },
        db.sessions ++ [⟨!lease.call.signalAborted, false⟩]⟩ := by
  obtain ⟨lease, found, moved⟩ := Option.bind_eq_some_iff.mp moved
  obtain ⟨call, stepped, moved⟩ := Option.bind_eq_some_iff.mp moved
  exact ⟨lease, call, found, stepped, (Option.some.inj moved).symm⟩

theorem takes_idle (db db' : Database T) (k i : ℕ) (moved : db.takes k (some i) = some db') :
    ∃ lease call session, db.leases[k]? = some lease ∧ lease.call.step .connected = some call ∧
      db.sessions[i]? = some session ∧ session.idle = true ∧
      db' = ⟨db.leases.set k { lease with call := call, session := some i },
        db.sessions.set i ⟨session.inside || !lease.call.signalAborted, false⟩⟩ := by
  obtain ⟨lease, found, moved⟩ := Option.bind_eq_some_iff.mp moved
  obtain ⟨call, stepped, moved⟩ := Option.bind_eq_some_iff.mp moved
  obtain ⟨session, present, moved⟩ := Option.bind_eq_some_iff.mp moved
  rw [Option.ite_none_right_eq_some] at moved
  exact ⟨lease, call, session, found, stepped, present, moved.1, (Option.some.inj moved.2).symm⟩

theorem asks_cases (db db' : Database T) (k : ℕ) (e : TransactionEvent T) (moved : db.asks k e = some db') :
    ∃ lease lease', db.leases[k]? = some lease ∧ isConnected e = false ∧ lease.step e = some lease' ∧
      db' = ⟨db.leases.set k lease', onSession lease.session
        (fun session => ⟨session.inside && !lease.call.ends e, session.idle || (!lease.returned && lease'.returned)⟩) db.sessions⟩ := by
  rw [Database.asks] at moved
  by_cases connected : isConnected e = true
  · rw [if_pos connected] at moved
    cases moved
  · rw [if_neg connected] at moved
    obtain ⟨lease, found, moved⟩ := Option.bind_eq_some_iff.mp moved
    obtain ⟨lease', stepped, same⟩ := Option.map_eq_some_iff.mp moved
    exact ⟨lease, lease', found, by simpa using connected, stepped, same.symm⟩

theorem uses_cases (db db' : Database T) (k : ℕ) (inside : Bool) (moved : db.uses k inside = some db') :
    ∃ lease, db.leases[k]? = some lease ∧ lease.handed = true ∧
      db' = ⟨db.leases.set k { lease with late := lease.late || lease.ended },
        onSession lease.session (fun session => { session with inside := inside }) db.sessions⟩ := by
  obtain ⟨lease, found, moved⟩ := Option.bind_eq_some_iff.mp moved
  rw [Option.ite_none_right_eq_some] at moved
  exact ⟨lease, found, moved.1, (Option.some.inj moved.2).symm⟩

theorem takes_sound (db db' : Database T) (k : ℕ) (source : Option ℕ) (sound : db.Sound) (moved : db.takes k source = some db') :
    db'.Sound := by
  cases source with
  | none =>
      obtain ⟨lease, call, found, stepped, rfl⟩ := takes_new db db' k moved
      have own := sound.lease k lease found
      obtain ⟨unowned, after⟩ := taken_sound lease call db.sessions.length own stepped
      refine claimed_sound db k db.sessions.length lease _ _ sound found after unowned rfl (.inl (own.unused unowned).1)
        (fun j a before owned => absurd (sound.bound j _ a before owned) (Nat.lt_irrefl _)) ?_ ?_ (fun s there => ?_)
        (fun j s apart there => ?_)
      · simp
      · simp
      · rcases Roster.join_cases db.sessions _ _ s there with ⟨_, rfl⟩ | ⟨less, _⟩
        · rfl
        · exact absurd less (Nat.lt_irrefl _)
      · rcases Roster.join_cases db.sessions j _ s there with ⟨same, _⟩ | ⟨_, before⟩
        · exact absurd same apart
        · exact before
  | some i =>
      obtain ⟨lease, call, session, found, stepped, present, free, rfl⟩ := takes_idle db db' k i moved
      have own := sound.lease k lease found
      obtain ⟨unowned, after⟩ := taken_sound lease call i own stepped
      refine claimed_sound db k i lease _ _ sound found after unowned rfl (.inl (own.unused unowned).1)
        (fun j a before owned => sound.idle i j session a present free before owned) ?_ ?_ (fun s there => ?_)
        (fun j s apart there => ?_)
      · simp
      · rw [List.length_set]
        exact (List.getElem?_eq_some_iff.mp present).1
      · rcases Roster.set_cases db.sessions i i _ s there with ⟨_, rfl⟩ | ⟨apart, _⟩
        · rfl
        · exact absurd rfl apart
      · rcases Roster.set_cases db.sessions i j _ s there with ⟨same, _⟩ | ⟨_, before⟩
        · exact absurd same apart
        · exact before

theorem asks_sound (db db' : Database T) (k : ℕ) (e : TransactionEvent T) (sound : db.Sound) (moved : db.asks k e = some db') :
    db'.Sound := by
  obtain ⟨lease, lease', found, other, stepped, rfl⟩ := asks_cases db db' k e moved
  have own := sound.lease k lease found
  have after := step_sound lease lease' e own other stepped
  refine moved_sound db k lease lease' _ sound found after ?_ (fun returned => ?_) (fun s free => ?_) (fun s within => ?_)
  · obtain ⟨call, _, rfl⟩ := Option.map_eq_some_iff.mp stepped
    rfl
  · have gone := (returned_disposed lease own).mp returned
    exact (returned_disposed lease' after).mpr (step_disposed lease lease' e own false gone stepped)
  · rcases Bool.or_eq_true_iff.mp free with free | turned
    · exact .inl free
    · obtain ⟨unreturned, returned⟩ := Bool.and_eq_true_iff.mp turned
      exact .inr ⟨by simpa using unreturned, returned⟩
  · obtain ⟨within, unended⟩ := Bool.and_eq_true_iff.mp within
    refine .inr ⟨within, ?_⟩
    obtain ⟨call, _, rfl⟩ := Option.map_eq_some_iff.mp stepped
    intro opened
    rcases opened with going | late
    · refine .inl ?_
      dsimp only
      rw [going]
      simpa using unended
    · exact .inr late

theorem uses_sound (db db' : Database T) (k : ℕ) (inside : Bool) (sound : db.Sound) (moved : db.uses k inside = some db') : db'.Sound := by
  obtain ⟨lease, found, _, rfl⟩ := uses_cases db db' k inside moved
  refine moved_sound db k lease _ _ sound found (used_sound lease (sound.lease k lease found)) rfl id (fun s free => .inl free)
    (fun s _ => .inl ?_)
  by_cases ended : lease.ended = true
  · refine .inr ?_
    dsimp only
    rw [ended, Bool.or_true]
  · exact .inl (by simpa using ended)

theorem drops_sound (db : Database T) (i : ℕ) (sound : db.Sound) :
    ({ db with sessions := db.sessions.modify i fun session => { session with idle := false } } : Database T).Sound := by
  have before (j : ℕ) (s : Session) (there : (db.sessions.modify i fun session => { session with idle := false })[j]? = some s) :
      ∃ old, db.sessions[j]? = some old ∧ (s.idle = true → old.idle = true) ∧ (s.inside = true → old.inside = true) := by
    obtain ⟨old, present, ⟨_, rfl⟩ | ⟨_, rfl⟩⟩ := on_session (some i) _ db.sessions j s there
    · exact ⟨old, present, nofun, id⟩
    · exact ⟨s, present, id, id⟩
  refine ⟨sound.lease, fun k j lease found owned => ?_, fun j k s lease there free found owned => ?_, sound.single, fun j s there within => ?_⟩
  · rw [List.length_modify]
    exact sound.bound k j lease found owned
  · obtain ⟨old, present, idle, _⟩ := before j s there
    exact sound.idle j k old lease present (idle free) found owned
  · obtain ⟨old, present, _, inside⟩ := before j s there
    exact sound.inside j old present (inside within)

theorem enters_sound (db : Database T) (sound : db.Sound) : ({ db with leases := db.leases ++ [.start] } : Database T).Sound := by
  have before (k i : ℕ) (lease : Lease T) (found : (db.leases ++ [Lease.start])[k]? = some lease) (owned : lease.session = some i) :
      db.leases[k]? = some lease := by
    rcases Roster.join_cases db.leases k _ lease found with ⟨_, rfl⟩ | ⟨_, there⟩
    · cases owned
    · exact there
  refine ⟨fun k lease found => ?_, fun k i lease found owned => sound.bound k i lease (before k i lease found owned) owned,
    fun i k s lease there free found owned => sound.idle i k s lease there free (before k i lease found owned) owned,
    fun j k i a b found found' owned owned' => sound.single j k i a b (before j i a found owned) (before k i b found' owned') owned owned',
    fun i s there within => ?_⟩
  · rcases Roster.join_cases db.leases k _ lease found with ⟨_, rfl⟩ | ⟨_, there⟩
    · exact start_sound
    · exact sound.lease k lease there
  · obtain ⟨k, lease, found, owned, opened⟩ := sound.inside i s there within
    exact ⟨k, lease, Roster.join_kept db.leases k .start lease found, owned, opened⟩

theorem database_step (db db' : Database T) (e : DatabaseEvent T) (sound : db.Sound) (moved : db.step e = some db') : db'.Sound := by
  cases e with
  | enters =>
      obtain rfl := Option.some.inj moved
      exact enters_sound db sound
  | takes k source => exact takes_sound db db' k source sound moved
  | asks k e => exact asks_sound db db' k e sound moved
  | uses k inside => exact uses_sound db db' k inside sound moved
  | drops i =>
      obtain rfl := Option.some.inj moved
      exact drops_sound db i sound

theorem empty_sound : (⟨[], []⟩ : Database T).Sound := by
  refine ⟨?_, ?_, ?_, ?_, ?_⟩
  · intro k lease here
    cases here
  · intro k i lease here
    cases here
  · intro i k session lease here
    cases here
  · intro j k i a b here
    cases here
  · intro i session here
    cases here

theorem database_sound (db : Database T) (reached : (databaseMachine T).Reachable db) : db.Sound :=
  (databaseMachine T).invariant Database.Sound empty_sound (fun s t e _ sound moved => database_step s t e sound moved) db reached

theorem gone_step (k : ℕ) (destroy : Bool) (db db' : Database T) (e : DatabaseEvent T) (sound : db.Sound)
    (gone : ∃ lease, db.leases[k]? = some lease ∧ lease.call.client = .disposed destroy) (moved : db.step e = some db') :
    ∃ lease, db'.leases[k]? = some lease ∧ lease.call.client = .disposed destroy := by
  obtain ⟨lease, found, gone⟩ := gone
  have others (j : ℕ) (old moved : Lease T) (here : db.leases[j]? = some old)
      (kept : old.call.client = .disposed destroy → moved.call.client = .disposed destroy) :
      ∃ lease, (db.leases.set j moved)[k]? = some lease ∧ lease.call.client = .disposed destroy := by
    by_cases same : j = k
    · subst same
      obtain rfl := Option.some.inj (here.symm.trans found)
      exact ⟨moved, Roster.set_self db.leases j old moved here, kept gone⟩
    · refine ⟨lease, ?_, gone⟩
      rw [List.getElem?_set_ne same]
      exact found
  cases e with
  | enters =>
      obtain rfl := Option.some.inj moved
      exact ⟨lease, Roster.join_kept db.leases k .start lease found, gone⟩
  | takes j source =>
      have kept (old : Lease T) (call : Transaction T) (here : db.leases[j]? = some old) (stepped : old.call.step .connected = some call)
          (before : old.call.client = .disposed destroy) : call.client = .disposed destroy :=
        disposed_step old.call call .connected (transaction_custody old.call (sound.lease j old here).reached) destroy before stepped
      cases source with
      | none =>
          obtain ⟨old, call, here, stepped, rfl⟩ := takes_new db db' j moved
          exact others j old _ here (kept old call here stepped)
      | some i =>
          obtain ⟨old, call, _, here, stepped, _, _, rfl⟩ := takes_idle db db' j i moved
          exact others j old _ here (kept old call here stepped)
  | asks j e =>
      obtain ⟨old, next, here, _, stepped, rfl⟩ := asks_cases db db' j e moved
      exact others j old next here fun before => step_disposed old next e (sound.lease j old here) destroy before stepped
  | uses j inside =>
      obtain ⟨old, here, _, rfl⟩ := uses_cases db db' j inside moved
      exact others j old _ here id
  | drops i =>
      obtain rfl := Option.some.inj moved
      exact ⟨lease, found, gone⟩

structure Database.Released (db : Database T) : Prop where
  disposed : ∀ (k : ℕ) (lease : Lease T), db.leases[k]? = some lease → lease.Disposed
  how : ∀ (k : ℕ) (lease : Lease T) (e : TransactionEvent T) (t : Transaction T), db.leases[k]? = some lease →
    lease.call.step e = some t → lease.call.client.releases = [] → t.client.releases ≠ [] →
    t.client.releases = [!(e.isResume && lease.call.closes)]
  once : ∀ (k : ℕ) (lease : Lease T), db.leases[k]? = some lease → lease.call.client.releases ≠ [] →
    ∀ (events : List (DatabaseEvent T)) (db' : Database T), (databaseMachine T).run db events = some db' →
      ∃ lease', db'.leases[k]? = some lease' ∧ lease'.call.client = lease.call.client
  reused : ∀ (k i : ℕ) (db' : Database T), db.step (.takes k (some i)) = some db' →
    ∀ (j : ℕ) (lease : Lease T), db.leases[j]? = some lease → lease.session = some i →
      lease.call.client.releases = [false] ∧ lease.ended = true
  clean : ∀ (k i : ℕ) (db' : Database T), db.step (.takes k (some i)) = some db' →
    (∀ (j : ℕ) (lease : Lease T), db.leases[j]? = some lease → lease.session = some i → lease.late = false) →
    ∃ session, db.sessions[i]? = some session ∧ session.inside = false

theorem released_disposed (lease : Lease T) (sound : lease.Sound) (released : lease.call.client.releases ≠ []) :
    ∃ destroy, lease.call.client = .disposed destroy := by
  cases transaction_custody lease.call sound.reached with
  | early free _ _ _ _ _ => exact absurd (congrArg Client.releases free) released
  | refused free _ _ _ => exact absurd (congrArg Client.releases free) released
  | held held _ _ _ _ => exact absurd (congrArg Client.releases held) released
  | disposed destroy gone _ => exact ⟨destroy, gone⟩

theorem step_how (lease : Lease T) (e : TransactionEvent T) (t : Transaction T) (sound : lease.Sound) (moved : lease.call.step e = some t)
    (kept : lease.call.client.releases = []) (released : t.client.releases ≠ []) :
    t.client.releases = [!(e.isResume && lease.call.closes)] := by
  cases (custody_step lease.call t e (transaction_custody lease.call sound.reached) moved).2 with
  | kept client => exact absurd ((congrArg Client.releases client).trans kept) released
  | leased event _ after =>
      rcases after with held | gone
      · exact absurd (congrArg Client.releases held) released
      · rw [gone, event]
        rfl
  | disposed _ after =>
      rw [after]
      rfl

theorem clients_released (db : Database T) (reached : (databaseMachine T).Reachable db) : db.Released := by
  have sound := database_sound db reached
  refine ⟨fun k lease found => sound_disposed lease (sound.lease k lease found),
    fun k lease e t found moved kept released => step_how lease e t (sound.lease k lease found) moved kept released,
    fun k lease found released events db' ran => ?_, fun k i db' moved j lease found owned => ?_, fun k i db' moved early => ?_⟩
  · obtain ⟨destroy, gone⟩ := released_disposed lease (sound.lease k lease found) released
    obtain ⟨_, lease', found', gone'⟩ := (databaseMachine T).run_keeps
      (fun db => db.Sound ∧ ∃ lease, db.leases[k]? = some lease ∧ lease.call.client = .disposed destroy)
      (fun s t e holds moved => ⟨database_step s t e holds.1 moved, gone_step k destroy s t e holds.1 holds.2 moved⟩) db db' events
      ⟨sound, lease, found, gone⟩ ran
    exact ⟨lease', found', gone'.trans gone.symm⟩
  · obtain ⟨_, _, session, _, _, present, idle, _⟩ := takes_idle db db' k i moved
    have own := sound.lease j lease found
    have gone := (returned_disposed lease own).mp (sound.idle i j session lease present idle found owned)
    exact ⟨congrArg Client.releases gone, own.returned gone⟩
  · obtain ⟨_, _, session, _, _, present, idle, _⟩ := takes_idle db db' k i moved
    refine ⟨session, present, ?_⟩
    by_cases within : session.inside = true
    · obtain ⟨j, lease, found, owned, opened⟩ := sound.inside i session present within
      have own := sound.lease j lease found
      have ended := own.returned ((returned_disposed lease own).mp (sound.idle i j session lease present idle found owned))
      rcases opened with unended | late
      · cases ended.symm.trans unended
      · cases late.symm.trans (early j lease found owned)
    · simpa using within

def callEvents : List (TransactionEvent ℕ) := [.answers, .resume, .returns (.ok 7), .resume, .applies, .replies .committed, .resume]

def reuseRun : List (DatabaseEvent ℕ) :=
  [.enters, .asks 0 .call, .takes 0 none] ++ callEvents.map (.asks 0) ++
    [.enters, .asks 1 .call, .takes 1 (some 0), .asks 1 .answers, .asks 1 .resume, .asks 1 .timer, .uses 1 true]

theorem clients_released_demo : ∃ db : Database ℕ, db.Released ∧ db.leases.map (·.call.client.releases) = [[false], [true]] ∧
    db.leases.map (·.session) = [some 0, some 0] :=
  ⟨_, clients_released _ ((databaseMachine ℕ).run_reachable _ _ reuseRun .start rfl), rfl, rfl⟩

-- A callback begins a block once its call has answered and its session is back.
def lateRun : List (DatabaseEvent ℕ) :=
  [.enters, .asks 0 .call, .takes 0 none] ++ callEvents.map (.asks 0) ++ [.uses 0 true, .enters, .asks 1 .call]

theorem late_block_inherited : ∃ db db' : Database ℕ, (databaseMachine ℕ).run (databaseMachine ℕ).start lateRun = some db ∧
    db.leases.map (·.call.raced) = [some (.ok 7), none] ∧ db.leases.map (·.call.client.releases) = [[false], []] ∧
    db.sessions[0]? = some ⟨true, true⟩ ∧ db.step (.takes 1 (some 0)) = some db' ∧ db'.leases.map (·.session) = [some 0, some 0] :=
  ⟨_, _, rfl, rfl, rfl, rfl, rfl, rfl⟩

end N2F.Postgres

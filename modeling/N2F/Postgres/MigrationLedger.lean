import N2F.Postgres.Migration
import N2F.Roster
import Mathlib

set_option autoImplicit false

namespace N2F.Migrations

open Ecma

theorem refuses_false (previous : ℚ) (m : Migration) (accepted : refuses previous m = false) :
    m.version.rational = some (m.number : ℚ) ∧ previous < m.number := by
  simp only [refuses, Bool.or_eq_false_iff, Bool.not_eq_false'] at accepted
  obtain ⟨⟨safe, above⟩, _⟩ := accepted
  cases value : m.version.rational with
  | none => simp [Number.isSafeInteger, value] at safe
  | some q =>
      simp only [Number.isSafeInteger, value, decide_eq_true_eq] at safe
      have integral : ((q.num : ℤ) : ℚ) = q := Rat.coe_int_num_of_den_eq_one safe.1
      have number : m.number = q.num := by rw [Migration.number, value, Option.getD_some]
      rw [above_rational m.version q previous value, decide_eq_true_eq] at above
      rw [number, integral]
      exact ⟨rfl, above⟩

theorem admitted_cons (previous : ℚ) (m : Migration) (rest : List Migration) (valid : admitted previous (m :: rest) = true) :
    refuses previous m = false ∧ previous < m.number ∧ admitted m.number rest = true := by
  simp only [admitted, Bool.and_eq_true, Bool.not_eq_true'] at valid
  obtain ⟨value, above⟩ := refuses_false previous m valid.1
  refine ⟨valid.1, above, ?_⟩
  rw [value, Option.getD_some] at valid
  exact valid.2

theorem admitted_append (previous : ℚ) (ms rest : List Migration) (valid : admitted previous (ms ++ rest) = true) : admitted previous ms = true := by
  induction ms generalizing previous with
  | nil => rfl
  | cons m ms ih =>
      rw [List.cons_append, admitted, Bool.and_eq_true] at valid
      rw [admitted, valid.1, ih _ valid.2]
      rfl

theorem admitted_increasing (previous : ℚ) (ms : List Migration) (valid : admitted previous ms = true) :
    (∀ m ∈ ms, previous < m.number ∧ m.version.rational = some (m.number : ℚ)) ∧ ms.Pairwise fun a b => a.number < b.number := by
  induction ms generalizing previous with
  | nil => exact ⟨fun m listed => absurd listed List.not_mem_nil, List.Pairwise.nil⟩
  | cons m rest ih =>
      obtain ⟨accepted, above, later⟩ := admitted_cons previous m rest valid
      obtain ⟨bounds, pairs⟩ := ih m.number later
      refine ⟨?_, List.pairwise_cons.mpr ⟨fun other listed => ?_, pairs⟩⟩
      · intro other listed
        rcases List.mem_cons.mp listed with rfl | listed
        · exact ⟨above, (refuses_false previous other accepted).1⟩
        · exact ⟨above.trans (bounds other listed).1, (bounds other listed).2⟩
      · exact_mod_cast (bounds other listed).1

theorem version_injective (a b : Number) (q : ℚ) (positive : 0 < q) (first : a.rational = some q) (second : b.rational = some q) : a = b := by
  have finite (x : Number) (value : x.rational = some q) : ∃ d : Double, x = .finite d ∧ d.value = q := by
    cases x with
    | nan => cases value
    | infinity negative => cases value
    | negZero =>
        cases value
        exact absurd positive (lt_irrefl 0)
    | finite d => exact ⟨d, rfl, Option.some.inj value⟩
  obtain ⟨d, rfl, value⟩ := finite a first
  obtain ⟨d', rfl, value'⟩ := finite b second
  rw [Number.finite.injEq, Double.mk.injEq]
  rw [value, value']

section

variable {σ : Type} (sha256 : List Char → String)

theorem agrees_iff (row : Row) (m : Migration) : agrees sha256 row m = true ↔ row = m.row sha256 := by
  obtain ⟨version, checksum⟩ := row
  simp only [agrees, Migration.row, Bool.and_eq_true, decide_eq_true_eq, Row.mk.injEq]
  constructor
  · rintro ⟨text, sum⟩
    exact ⟨Int.repr_injective text, sum⟩
  · rintro ⟨rfl, sum⟩
    exact ⟨rfl, sum⟩

theorem compared_iff (rows : List Row) (ms todo : List Migration) :
    compared sha256 rows ms = some todo ↔ ∃ done, ms = done ++ todo ∧ rows = done.map (Migration.row sha256) := by
  induction rows generalizing ms with
  | nil =>
      constructor
      · intro same
        cases same
        exact ⟨[], rfl, rfl⟩
      · rintro ⟨done, rfl, none⟩
        rw [List.map_eq_nil_iff.mp none.symm]
        rfl
  | cons row rows ih =>
      cases ms with
      | nil =>
          constructor
          · nofun
          · rintro ⟨done, empty, some⟩
            rw [(List.append_eq_nil_iff.mp empty.symm).1] at some
            cases some
      | cons m ms =>
          by_cases same : agrees sha256 row m = true
          · rw [compared, if_pos same, ih]
            constructor
            · rintro ⟨done, rfl, rfl⟩
              exact ⟨m :: done, rfl, by rw [(agrees_iff sha256 row m).mp same, List.map_cons]⟩
            · rintro ⟨done, whole, listed⟩
              cases done with
              | nil => cases listed
              | cons first done =>
                  rw [List.cons_append, List.cons.injEq] at whole
                  rw [List.map_cons, List.cons.injEq] at listed
                  exact ⟨done, whole.2, listed.2⟩
          · rw [compared, if_neg same]
            constructor
            · nofun
            · rintro ⟨done, whole, listed⟩
              cases done with
              | nil => cases listed
              | cons first done =>
                  rw [List.cons_append, List.cons.injEq] at whole
                  rw [List.map_cons, List.cons.injEq] at listed
                  rw [whole.1] at same
                  exact absurd ((agrees_iff sha256 row first).mpr listed.1) same

theorem row_injective (free : Function.Injective sha256) (as bs : List Migration) (first : admitted 0 as = true) (second : admitted 0 bs = true)
    (same : as.map (Migration.row sha256) = bs.map (Migration.row sha256)) : as = bs := by
  have left := (admitted_increasing 0 as first).1
  have right := (admitted_increasing 0 bs second).1
  clear first second
  induction as generalizing bs with
  | nil => exact (List.map_eq_nil_iff.mp same.symm).symm
  | cons a as ih =>
      cases bs with
      | nil => cases same
      | cons b bs =>
          rw [List.map_cons, List.map_cons, List.cons.injEq, Migration.row, Migration.row, Row.mk.injEq] at same
          obtain ⟨⟨number, sum⟩, rest⟩ := same
          obtain ⟨positive, value⟩ := left a List.mem_cons_self
          have value' := (right b List.mem_cons_self).2
          rw [← number] at value'
          have heads : a = b := by
            obtain ⟨version, sql⟩ := a
            obtain ⟨version', sql'⟩ := b
            rw [Migration.mk.injEq]
            exact ⟨version_injective version version' _ positive value value', free sum⟩
          rw [heads, ih bs rest (fun m listed => left m (List.mem_cons_of_mem a listed))
            (fun m listed => right m (List.mem_cons_of_mem b listed))]

theorem rows_ordered (ms : List Migration) (valid : admitted 0 ms = true) :
    ordered (ms.map (Migration.row sha256)) = ms.map (Migration.row sha256) := by
  apply List.Pairwise.insertionSort_eq
  rw [List.pairwise_map]
  apply (admitted_increasing 0 ms valid).2.imp
  intro a b less
  exact less.le

structure Recorded (db : Db σ) (executed : List (List Char)) (applied : List Migration) : Prop where
  valid : admitted 0 applied = true
  ledger : db.ledger = applied.map (Migration.row sha256)
  executed : executed = applied.map Migration.sql

structure Holds (txn : Txn σ) (applied : List Migration) : Prop where
  valid : admitted 0 txn.list = true
  progress : ∃ done, txn.list = applied ++ done ++ txn.todo ∧
    txn.view.table = some ((applied ++ done).map (Migration.row sha256)) ∧ txn.ran = done.map Migration.sql

structure Sound (s : State σ) (applied : List Migration) : Prop where
  recorded : Recorded sha256 s.db s.executed applied
  waiting : ∀ (call : ℕ) (ms : List Migration), s.calls[call]? = some (Call.waiting ms) → admitted 0 ms = true
  holder : ∀ txn, s.holder = some txn → Holds sha256 txn applied ∧ s.calls[txn.call]? = some Call.holding

theorem start_sound (schema : σ) : Sound sha256 (start schema) [] :=
  ⟨⟨rfl, rfl, rfl⟩, by simp [start], nofun⟩

theorem rollback_sound (s : State σ) (txn : Txn σ) (applied : List Migration) (e : Failure) (sound : Sound sha256 s applied) :
    Sound sha256 (s.rollback txn e) applied :=
  ⟨sound.recorded, fun call ms here => sound.waiting call ms (Roster.set_kept s.calls txn.call call (.answered (.error e)) (.waiting ms) nofun here), nofun⟩

theorem answer_sound (s : State σ) (call : ℕ) (ms applied : List Migration) (result : Result Unit) (sound : Sound sha256 s applied)
    (waiting : s.calls[call]? = some (Call.waiting ms)) : Sound sha256 (s.answer call result) applied := by
  have others (other : ℕ) (ms : List Migration) (here : (s.calls.set call (.answered result))[other]? = some (.waiting ms)) :=
    sound.waiting other ms (Roster.set_kept s.calls call other (.answered result) (.waiting ms) nofun here)
  refine ⟨sound.recorded, others, fun txn held => ?_⟩
  obtain ⟨holds, holding⟩ := sound.holder txn held
  refine ⟨holds, ?_⟩
  have other : call ≠ txn.call := by
    rintro rfl
    rw [holding] at waiting
    cases waiting
  rw [State.answer, List.getElem?_set, if_neg other]
  exact holding

theorem lock_drift (s : State σ) (call : ℕ) (ms : List Migration) (differs : compared sha256 (ordered s.db.ledger) ms = none) :
    s.lock sha256 call ms = s.answer call (.error drift) := by
  rw [State.lock]
  simp only [show (Db.ledger ({ s.db with table := some s.db.ledger } : Db σ)) = s.db.ledger from rfl, differs]

theorem lock_granted (s : State σ) (call : ℕ) (ms todo : List Migration) (repeated : compared sha256 (ordered s.db.ledger) ms = some todo) :
    s.lock sha256 call ms =
      { s with
        holder := some ⟨call, ms, { s.db with table := some s.db.ledger }, todo, []⟩
        calls := s.calls.set call .holding } := by
  rw [State.lock]
  simp only [show (Db.ledger ({ s.db with table := some s.db.ledger } : Db σ)) = s.db.ledger from rfl, repeated]

theorem recorded_rows (s : State σ) (applied : List Migration) (recorded : Recorded sha256 s.db s.executed applied) :
    ordered s.db.ledger = applied.map (Migration.row sha256) := by
  rw [recorded.ledger, rows_ordered sha256 applied recorded.valid]

theorem compared_applied_iff (free : Function.Injective sha256) (s : State σ) (applied ms todo : List Migration)
    (recorded : Recorded sha256 s.db s.executed applied) (valid : admitted 0 ms = true) :
    compared sha256 (ordered s.db.ledger) ms = some todo ↔ ms = applied ++ todo := by
  rw [recorded_rows sha256 s applied recorded, compared_iff]
  constructor
  · rintro ⟨done, rfl, same⟩
    have prefixed : admitted 0 done = true := admitted_append 0 done todo valid
    rw [row_injective sha256 free applied done recorded.valid prefixed same]
  · rintro rfl
    exact ⟨applied, rfl, rfl⟩

theorem lock_sound (free : Function.Injective sha256) (s : State σ) (call : ℕ) (ms applied : List Migration) (sound : Sound sha256 s applied)
    (waiting : s.calls[call]? = some (Call.waiting ms)) : Sound sha256 (s.lock sha256 call ms) applied := by
  have valid := sound.waiting call ms waiting
  cases outcome : compared sha256 (ordered s.db.ledger) ms with
  | none =>
      rw [lock_drift sha256 s call ms outcome]
      exact answer_sound sha256 s call ms applied _ sound waiting
  | some todo =>
      rw [lock_granted sha256 s call ms todo outcome]
      have others (other : ℕ) (ms : List Migration) (here : (s.calls.set call .holding)[other]? = some (.waiting ms)) :=
        sound.waiting other ms (Roster.set_kept s.calls call other .holding (.waiting ms) nofun here)
      refine ⟨sound.recorded, others, fun txn held => ?_⟩
      cases held
      have extended := (compared_applied_iff sha256 free s applied ms todo sound.recorded valid).mp outcome
      refine ⟨⟨valid, [], ?_, ?_, rfl⟩, Roster.set_self _ _ _ _ waiting⟩
      · simpa using extended
      · simp [sound.recorded.ledger]

theorem apply_sound (s : State σ) (txn : Txn σ) (m : Migration) (rest applied : List Migration) (after : Db σ)
    (sound : Sound sha256 s applied) (held : s.holder = some txn) (next : txn.todo = m :: rest) (quiet : after.table = txn.view.table) :
    Sound sha256 (s.apply sha256 txn m rest after) applied := by
  obtain ⟨⟨valid, done, whole, rows, ran⟩, holding⟩ := sound.holder txn held
  rw [State.apply]
  cases inserted : after.insert (m.row sha256) with
  | error code => exact rollback_sound sha256 s txn applied _ sound
  | ok view =>
      refine ⟨sound.recorded, sound.waiting, fun txn' held' => ?_⟩
      cases held'
      refine ⟨⟨valid, done ++ [m], ?_, ?_, ?_⟩, holding⟩
      · simp only [whole, next, List.append_assoc, List.singleton_append]
      · rw [Db.insert, quiet, rows] at inserted
        simp only at inserted
        split_ifs at inserted
        cases inserted
        simp
      · simp [ran]

theorem commit_recorded (s : State σ) (txn : Txn σ) (applied : List Migration) (seen : Bool) (sound : Sound sha256 s applied)
    (held : s.holder = some txn) (ended : txn.todo = []) :
    Recorded sha256 (s.commit txn seen).db (s.commit txn seen).executed txn.list ∧ applied <+: txn.list := by
  obtain ⟨⟨valid, done, whole, rows, ran⟩, _⟩ := sound.holder txn held
  rw [ended, List.append_nil] at whole
  refine ⟨⟨valid, ?_, ?_⟩, ⟨done, whole.symm⟩⟩
  · rw [whole]
    simp [State.commit, State.answer, Db.ledger, rows]
  · rw [whole]
    simp [State.commit, State.answer, ran, sound.recorded.executed]

theorem commit_sound (s : State σ) (txn : Txn σ) (applied : List Migration) (seen : Bool) (sound : Sound sha256 s applied)
    (held : s.holder = some txn) (ended : txn.todo = []) : Sound sha256 (s.commit txn seen) txn.list :=
  ⟨(commit_recorded sha256 s txn applied seen sound held ended).1,
    fun call ms here =>
      sound.waiting call ms (Roster.set_kept s.calls txn.call call (.answered (if seen then .ok () else .error uncertain)) (.waiting ms) nofun here),
    nofun⟩

inductive Stepped (s t : State σ) : Event σ → Prop where
  | call (ms : List Migration)
      (same : { s with calls := s.calls ++ [if admitted 0 ms then .waiting ms else .answered (.error invalid)] } = t) : Stepped s t (.call ms)
  | refuse (call : ℕ) (e : Failure) (ms : List Migration) (waiting : s.calls[call]? = some (.waiting ms))
      (same : s.answer call (.error e) = t) : Stepped s t (.refuse call e)
  | lock (call : ℕ) (ms : List Migration) (free : s.holder = none) (waiting : s.calls[call]? = some (.waiting ms))
      (same : s.lock sha256 call ms = t) : Stepped s t (.lock call)
  | apply (after : Db σ) (txn : Txn σ) (m : Migration) (rest : List Migration) (held : s.holder = some txn) (todo : txn.todo = m :: rest)
      (same : s.apply sha256 txn m rest after = t) : Stepped s t (.apply after)
  | fail (e : Failure) (txn : Txn σ) (held : s.holder = some txn) (same : s.rollback txn e = t) : Stepped s t (.fail e)
  | commit (seen : Bool) (txn : Txn σ) (held : s.holder = some txn) (ended : txn.todo = []) (same : s.commit txn seen = t) :
      Stepped s t (.commit seen)
  | lose (txn : Txn σ) (held : s.holder = some txn) (ended : txn.todo = []) (same : s.rollback txn uncertain = t) : Stepped s t .lose

theorem step_stepped (s t : State σ) (e : Event σ) (moved : step sha256 s e = some t) : Stepped sha256 s t e := by
  cases e with
  | call ms => exact .call ms (Option.some.inj moved)
  | refuse call e =>
      simp only [step] at moved
      split at moved
      · next ms waiting => exact .refuse call e ms waiting (Option.some.inj moved)
      · cases moved
  | lock call =>
      simp only [step] at moved
      split at moved
      · next ms free waiting => exact .lock call ms free waiting (Option.some.inj moved)
      · cases moved
  | apply after =>
      simp only [step] at moved
      split at moved
      · next txn held =>
          split at moved
          · next m rest todo => exact .apply after txn m rest held todo (Option.some.inj moved)
          · cases moved
      · cases moved
  | fail e =>
      simp only [step] at moved
      split at moved
      · next txn held => exact .fail e txn held (Option.some.inj moved)
      · cases moved
  | commit seen =>
      simp only [step] at moved
      split at moved
      · next txn held =>
          split_ifs at moved with ended
          exact .commit seen txn held ended (Option.some.inj moved)
      · cases moved
  | lose =>
      simp only [step] at moved
      split at moved
      · next txn held =>
          split_ifs at moved with ended
          exact .lose txn held ended (Option.some.inj moved)
      · cases moved

theorem call_sound (s : State σ) (ms applied : List Migration) (sound : Sound sha256 s applied) :
    Sound sha256 { s with calls := s.calls ++ [if admitted 0 ms then .waiting ms else .answered (.error invalid)] } applied := by
  refine ⟨sound.recorded, ?_, fun txn held => ?_⟩
  · intro call ms' here
    rw [List.getElem?_append] at here
    split_ifs at here with known valid
    · exact sound.waiting call ms' here
    · rw [List.getElem?_singleton] at here
      split_ifs at here
      cases here
      exact valid
    · rw [List.getElem?_singleton] at here
      split_ifs at here
      cases here
  · obtain ⟨holds, holding⟩ := sound.holder txn held
    obtain ⟨bound, _⟩ := List.getElem?_eq_some_iff.mp holding
    refine ⟨holds, ?_⟩
    rw [List.getElem?_append_left bound]
    exact holding

theorem step_sound (free : Function.Injective sha256) (s t : State σ) (e : Event σ) (applied : List Migration) (sound : Sound sha256 s applied)
    (quiet : Quiet s e) (moved : step sha256 s e = some t) : ∃ applied', Sound sha256 t applied' := by
  cases step_stepped sha256 s t e moved with
  | call ms same => exact ⟨applied, same ▸ call_sound sha256 s ms applied sound⟩
  | refuse call e ms waiting same => exact ⟨applied, same ▸ answer_sound sha256 s call ms applied _ sound waiting⟩
  | lock call ms _ waiting same => exact ⟨applied, same ▸ lock_sound sha256 free s call ms applied sound waiting⟩
  | apply after txn m rest held todo same =>
      exact ⟨applied, same ▸ apply_sound sha256 s txn m rest applied after sound held todo (quiet txn held)⟩
  | fail e txn _ same => exact ⟨applied, same ▸ rollback_sound sha256 s txn applied e sound⟩
  | commit seen txn held ended same => exact ⟨txn.list, same ▸ commit_sound sha256 s txn applied seen sound held ended⟩
  | lose txn _ _ same => exact ⟨applied, same ▸ rollback_sound sha256 s txn applied _ sound⟩

theorem reachable_sound (free : Function.Injective sha256) (schema : σ) (s : State σ) (reached : (machine sha256 schema).ReachableBy Quiet s) :
    ∃ applied, Sound sha256 s applied := by
  apply (machine sha256 schema).invariant_by Quiet (fun s => ∃ applied, Sound sha256 s applied) ⟨[], start_sound sha256 schema⟩ _ s reached
  rintro s t e ⟨applied, sound⟩ quiet moved
  exact step_sound sha256 free s t e applied sound quiet moved

structure Governed (s : State σ) (applied : List Migration) : Prop where
  ledger : s.db.ledger = applied.map (Migration.row sha256)
  increasing : s.db.ledger.Pairwise fun a b => a.version < b.version
  executed : s.executed = applied.map Migration.sql
  unchanged : ∀ e t, step sha256 s e = some t → (∀ seen, e ≠ .commit seen) → t.db = s.db ∧ t.executed = s.executed
  committed : ∀ seen t, step sha256 s (.commit seen) = some t → ∃ txn, s.holder = some txn ∧ applied <+: txn.list ∧
    t.db.ledger = txn.list.map (Migration.row sha256) ∧ t.executed = txn.list.map Migration.sql
  succeeded : ∀ (e : Event σ) t call, step sha256 s e = some t → t.calls[call]? = some (Call.answered (.ok ())) →
    s.calls[call]? = some (Call.answered (.ok ())) ∨ e = .commit true ∧ ∃ txn, s.holder = some txn ∧ txn.call = call
  malformed : ∀ ms, admitted 0 ms = false →
    step sha256 s (.call ms) = some { s with calls := s.calls ++ [.answered (.error invalid)] }
  refused : ∀ (call : ℕ) ms, s.holder = none → s.calls[call]? = some (Call.waiting ms) → ¬ applied <+: ms →
    step sha256 s (.lock call) = some (s.answer call (.error drift))
  repeated : ∀ (call : ℕ) ms, s.holder = none → s.calls[call]? = some (Call.waiting ms) →
    s.db.ledger = ms.map (Migration.row sha256) → ∃ t u, step sha256 s (.lock call) = some t ∧
      (∀ after, step sha256 t (.apply after) = none) ∧ step sha256 t (.commit true) = some u ∧
      u.calls[call]? = some (Call.answered (.ok ())) ∧ u.db.schema = s.db.schema ∧ u.db.ledger = s.db.ledger ∧ u.executed = s.executed

theorem answered_set (calls : List Call) (call other : ℕ) (changed : Call) (failed : changed ≠ .answered (.ok ()))
    (here : (calls.set call changed)[other]? = some (.answered (.ok ()))) : calls[other]? = some (.answered (.ok ())) :=
  Roster.set_kept calls call other changed _ failed here

theorem lock_writes_nothing (s : State σ) (call other : ℕ) (ms : List Migration) :
    ((s.lock sha256 call ms).db = s.db ∧ (s.lock sha256 call ms).executed = s.executed) ∧
      ((s.lock sha256 call ms).calls[other]? = some (.answered (.ok ())) → s.calls[other]? = some (.answered (.ok ()))) := by
  cases outcome : compared sha256 (ordered s.db.ledger) ms with
  | none =>
      rw [lock_drift sha256 s call ms outcome]
      exact ⟨⟨rfl, rfl⟩, answered_set _ _ _ (.answered (.error drift)) nofun⟩
  | some todo =>
      rw [lock_granted sha256 s call ms todo outcome]
      exact ⟨⟨rfl, rfl⟩, answered_set _ _ _ .holding nofun⟩

theorem apply_writes_nothing (s : State σ) (txn : Txn σ) (m : Migration) (rest : List Migration) (after : Db σ) (other : ℕ) :
    ((s.apply sha256 txn m rest after).db = s.db ∧ (s.apply sha256 txn m rest after).executed = s.executed) ∧
      ((s.apply sha256 txn m rest after).calls[other]? = some (.answered (.ok ())) → s.calls[other]? = some (.answered (.ok ()))) := by
  rw [State.apply]
  split
  · next code _ => exact ⟨⟨rfl, rfl⟩, answered_set _ _ _ (.answered (.error (map (.database (some code))))) nofun⟩
  · exact ⟨⟨rfl, rfl⟩, id⟩

theorem step_unchanged (s t : State σ) (e : Event σ) (moved : step sha256 s e = some t) (other : ∀ seen, e ≠ .commit seen) :
    t.db = s.db ∧ t.executed = s.executed := by
  cases step_stepped sha256 s t e moved with
  | call ms same => exact same ▸ ⟨rfl, rfl⟩
  | refuse call e ms _ same => exact same ▸ ⟨rfl, rfl⟩
  | lock call ms _ _ same => exact same ▸ (lock_writes_nothing sha256 s call call ms).1
  | apply after txn m rest _ _ same => exact same ▸ (apply_writes_nothing sha256 s txn m rest after 0).1
  | fail e txn _ same => exact same ▸ ⟨rfl, rfl⟩
  | commit seen _ _ _ _ => exact absurd rfl (other seen)
  | lose txn _ _ same => exact same ▸ ⟨rfl, rfl⟩

theorem step_succeeded (s t : State σ) (e : Event σ) (call : ℕ) (moved : step sha256 s e = some t)
    (ok : t.calls[call]? = some (Call.answered (.ok ()))) :
    s.calls[call]? = some (Call.answered (.ok ())) ∨ e = .commit true ∧ ∃ txn, s.holder = some txn ∧ txn.call = call := by
  cases step_stepped sha256 s t e moved with
  | call ms same =>
      subst same
      left
      rw [List.getElem?_append] at ok
      split_ifs at ok
      · exact ok
      · rw [List.getElem?_singleton] at ok
        split_ifs at ok
        cases ok
      · rw [List.getElem?_singleton] at ok
        split_ifs at ok
        cases ok
  | refuse other e ms _ same =>
      subst same
      exact .inl (answered_set _ _ _ (.answered (.error e)) nofun ok)
  | lock other ms _ _ same =>
      subst same
      exact .inl ((lock_writes_nothing sha256 s other call ms).2 ok)
  | apply after txn m rest _ _ same =>
      subst same
      exact .inl ((apply_writes_nothing sha256 s txn m rest after call).2 ok)
  | fail e txn _ same =>
      subst same
      exact .inl (answered_set _ _ _ (.answered (.error e)) nofun ok)
  | commit seen txn held _ same =>
      subst same
      by_cases own : txn.call = call
      · cases seen with
        | true => exact .inr ⟨rfl, txn, held, own⟩
        | false => exact .inl (answered_set _ _ _ (.answered (.error uncertain)) nofun ok)
      · left
        rw [State.commit, State.answer, List.getElem?_set, if_neg own] at ok
        exact ok
  | lose txn _ _ same =>
      subst same
      exact .inl (answered_set _ _ _ (.answered (.error uncertain)) nofun ok)

theorem sound_increasing (s : State σ) (applied : List Migration) (recorded : Recorded sha256 s.db s.executed applied) :
    s.db.ledger.Pairwise fun a b => a.version < b.version := by
  rw [recorded.ledger, List.pairwise_map]
  exact (admitted_increasing 0 applied recorded.valid).2

theorem repeat_executes_nothing (free : Function.Injective sha256) (s : State σ) (applied ms : List Migration) (call : ℕ)
    (sound : Sound sha256 s applied) (idle : s.holder = none) (waiting : s.calls[call]? = some (Call.waiting ms))
    (same : s.db.ledger = ms.map (Migration.row sha256)) :
    ∃ t u, step sha256 s (.lock call) = some t ∧ (∀ after, step sha256 t (.apply after) = none) ∧
      step sha256 t (.commit true) = some u ∧ u.calls[call]? = some (Call.answered (.ok ())) ∧ u.db.schema = s.db.schema ∧
      u.db.ledger = s.db.ledger ∧ u.executed = s.executed := by
  have listed : applied = ms := by
    apply row_injective sha256 free applied ms sound.recorded.valid (sound.waiting call ms waiting)
    rw [← sound.recorded.ledger, same]
  have outcome : compared sha256 (ordered s.db.ledger) ms = some [] := by
    rw [compared_applied_iff sha256 free s applied ms [] sound.recorded (sound.waiting call ms waiting), listed, List.append_nil]
  let txn : Txn σ := ⟨call, ms, { s.db with table := some s.db.ledger }, [], []⟩
  let t : State σ := { s with holder := some txn, calls := s.calls.set call .holding }
  have locked : step sha256 s (.lock call) = some t := by
    simp only [step, idle, waiting, lock_granted sha256 s call ms [] outcome]
    rfl
  refine ⟨t, t.commit txn true, locked, fun after => rfl, rfl, ?_, rfl, rfl, List.append_nil s.executed⟩
  exact Roster.set_self _ _ .holding _ (Roster.set_self _ _ _ _ waiting)

theorem sound_governed (free : Function.Injective sha256) (s : State σ) (applied : List Migration) (sound : Sound sha256 s applied) :
    Governed sha256 s applied where
  ledger := sound.recorded.ledger
  increasing := sound_increasing sha256 s applied sound.recorded
  executed := sound.recorded.executed
  unchanged := fun e t moved other => step_unchanged sha256 s t e moved other
  committed := by
    intro seen t moved
    simp only [step] at moved
    split at moved
    · next txn held =>
        split_ifs at moved with ended
        cases moved
        obtain ⟨recorded, extended⟩ := commit_recorded sha256 s txn applied seen sound held ended
        exact ⟨txn, held, extended, recorded.ledger, recorded.executed⟩
    · cases moved
  succeeded := fun e t call moved ok => step_succeeded sha256 s t e call moved ok
  malformed := by
    intro ms malformed
    simp only [step, malformed, Bool.false_eq_true, if_false]
  refused := by
    intro call ms idle waiting differs
    have outcome : compared sha256 (ordered s.db.ledger) ms = none := by
      by_contra some
      obtain ⟨todo, same⟩ := Option.ne_none_iff_exists'.mp some
      have extended := (compared_applied_iff sha256 free s applied ms todo sound.recorded (sound.waiting call ms waiting)).mp same
      exact differs ⟨todo, extended.symm⟩
    simp only [step, idle, waiting, lock_drift sha256 s call ms outcome]
  repeated := fun call ms idle waiting same => repeat_executes_nothing sha256 free s applied ms call sound idle waiting same

theorem migrations_governed (free : Function.Injective sha256) (schema : σ) (s : State σ)
    (reached : (machine sha256 schema).ReachableBy Quiet s) : ∃ applied, Governed sha256 s applied := by
  obtain ⟨applied, sound⟩ := reachable_sound sha256 free schema s reached
  exact ⟨applied, sound_governed sha256 free s applied sound⟩

end

def demoFirst : Migration := ⟨Number.ofInt 1, "SELECT 1".toList⟩

def demoSecond : Migration := ⟨Number.ofInt 2, "DELETE FROM public.n2f_migrations".toList⟩

def demoDigest (sql : List Char) : String :=
  if sql = demoFirst.sql then "e004ebd5b5532a4b85984a62f8ad48a81aa3460c1ca07701f386135d72cdecf5"
  else if sql = demoSecond.sql then "868e314cf8baa8f6264579e44ec5717841db0ecdb421f28058ff5d523202d550"
  else String.ofList ('-' :: sql)

theorem demo_free : Function.Injective demoDigest := by
  have other (hex : String) (sql : List Char) (plain : hex.toList.head? ≠ some '-') : hex ≠ String.ofList ('-' :: sql) := by
    rintro rfl
    simp at plain
  intro a b same
  rw [demoDigest, demoDigest] at same
  split_ifs at same
  · exact ‹a = demoFirst.sql›.trans ‹b = demoFirst.sql›.symm
  · exact absurd same (by decide +kernel)
  · exact absurd same (other _ _ (by decide +kernel))
  · exact absurd same (by decide +kernel)
  · exact ‹a = demoSecond.sql›.trans ‹b = demoSecond.sql›.symm
  · exact absurd same (other _ _ (by decide +kernel))
  · exact absurd same.symm (other _ _ (by decide +kernel))
  · exact absurd same.symm (other _ _ (by decide +kernel))
  · exact (List.cons.inj (String.ofList_injective same)).2

def demoOpened : List (Event Unit) := [.call [demoFirst], .lock 0]

def demoApplied : List (Event Unit) := [.apply ⟨(), some []⟩, .commit true]

theorem migrations_governed_demo : ∃ s, (machine demoDigest ()).run (start ()) (demoOpened ++ demoApplied) = some s ∧
    s.executed = [demoFirst.sql] ∧ ∃ applied, Governed demoDigest s applied := by
  have ran : ((machine demoDigest ()).run (start ()) (demoOpened ++ demoApplied)).any (fun s => s.executed = [demoFirst.sql]) = true := by
    decide +kernel
  have viewed : ((machine demoDigest ()).run (start ()) demoOpened).all
      (fun s => s.holder.all fun txn => txn.view.table = some []) = true := by decide +kernel
  cases whole : (machine demoDigest ()).run (start ()) (demoOpened ++ demoApplied) with
  | none =>
      rw [whole] at ran
      cases ran
  | some s =>
      obtain ⟨called, moved₁, rest₁⟩ := Option.bind_eq_some_iff.mp whole
      obtain ⟨locked, moved₂, rest₂⟩ := Option.bind_eq_some_iff.mp rest₁
      obtain ⟨applied, moved₃, rest₃⟩ := Option.bind_eq_some_iff.mp rest₂
      obtain ⟨committed, moved₄, rest₄⟩ := Option.bind_eq_some_iff.mp rest₃
      obtain rfl : committed = s := Option.some.inj rest₄
      have opened : (machine demoDigest ()).run (start ()) demoOpened = some locked := by
        simp only [demoOpened, Machine.run, moved₁, moved₂, Option.bind_some]
      have quiet : Quiet locked (.apply ⟨(), some []⟩) := by
        intro txn held
        simp only [opened, Option.all_some, held, decide_eq_true_eq] at viewed
        exact viewed.symm
      have waits : (machine demoDigest ()).ReachableBy Quiet called := .next _ called (.call [demoFirst]) .start trivial moved₁
      have holds : (machine demoDigest ()).ReachableBy Quiet locked := .next _ locked (.lock 0) waits trivial moved₂
      have applies : (machine demoDigest ()).ReachableBy Quiet applied := .next _ applied (.apply ⟨(), some []⟩) holds quiet moved₃
      have reached : (machine demoDigest ()).ReachableBy Quiet committed := .next _ committed (.commit true) applies trivial moved₄
      exact ⟨committed, rfl, by simpa [whole] using ran, migrations_governed demoDigest demo_free () committed reached⟩

def demoEmptied : List (Event Unit) := [.call [demoFirst, demoSecond], .lock 1, .apply ⟨(), some []⟩, .commit true]

theorem ledger_emptied : ∃ s, (machine demoDigest ()).run (start ()) (demoOpened ++ demoApplied ++ demoEmptied) = some s ∧
    s.calls[1]? = some (Call.answered (.ok ())) ∧ s.executed = [demoFirst.sql, demoSecond.sql] ∧
    s.db.ledger ≠ [demoFirst, demoSecond].map (Migration.row demoDigest) := by
  have ran : ((machine demoDigest ()).run (start ()) (demoOpened ++ demoApplied ++ demoEmptied)).any (fun s =>
      s.calls[1]? = some (Call.answered (.ok ())) ∧ s.executed = [demoFirst.sql, demoSecond.sql] ∧
        s.db.ledger ≠ [demoFirst, demoSecond].map (Migration.row demoDigest)) = true := by decide +kernel
  cases whole : (machine demoDigest ()).run (start ()) (demoOpened ++ demoApplied ++ demoEmptied) with
  | none =>
      rw [whole] at ran
      cases ran
  | some s => exact ⟨s, rfl, by simpa only [whole, Option.any_some, decide_eq_true_eq] using ran⟩

end N2F.Migrations

import N2F.Events.Mailbox

set_option autoImplicit false

namespace N2F

open Ecma Postgres

variable {W : Type}

def Consumption.Kept (c : Consumption W) : Option Failure → Prop
  | none => c.answered = some (.ok ()) ∧ c.writes = c.written
  | some e => c.answered = some (.error e) ∧ c.writes = []

def Consumption.Valid (c : Consumption W) : Prop :=
  match c.phase with
  | .selected => c.writes = [] ∧ c.written = []
  | .calling => c.saved = [] ∧ c.writes = c.written
  | .handled result => c.saved = [] ∧ c.writes = c.written ∧ c.answered = some result
  | .undone e => c.Kept (some e)
  | .released rejected => c.Kept rejected
  | .updated rejected state _ => c.Kept rejected ∧ state = nextState rejected c.row.attempts

def Commit.Valid (c : Commit W) : Prop := c.answered.isSome = true ∧ c.writes = if c.accepted then c.written else []

structure MailInvariant (commits : List (Commit W)) (r : MailboxRow) : Prop where
  count : r.attempts = (attemptsAt commits r.eventId).length
  bound : r.attempts ≤ maxAttempts
  pending : r.state = .pending → r.attempts < maxAttempts
  dead : r.state = .dead → r.attempts = maxAttempts
  refused : r.state ≠ .processed → ∀ c ∈ attemptsAt commits r.eventId, c.accepted = false
  processed : r.state = .processed → ∃ last earlier, attemptsAt commits r.eventId = last :: earlier ∧ last.accepted = true ∧
    ∀ c ∈ earlier, c.accepted = false
  stored : ∃ event, decode (encodeUtf8 r.envelope) = .ok event ∧ event.id = r.eventId ∧ event.text = r.envelope

structure Mailbox.Invariant (s : Mailbox W) : Prop where
  distinct : (s.rows.map MailboxRow.eventId).Nodup
  rows : ∀ r ∈ s.rows, MailInvariant s.commits r
  locks : s.locked.Nodup
  selected : ∀ c ∈ s.consumptions, c.row ∈ s.rows ∧ c.row.state = .pending ∧ c.event.id = c.row.eventId ∧ c.Valid
  known : ∀ c ∈ s.commits, ∃ r ∈ s.rows, r.eventId = c.event
  commits : ∀ c ∈ s.commits, c.Valid

theorem next_valid (c c' : Consumption W) (statement : Statement W) (valid : c.Valid) (moved : c.next statement = some c') :
    c'.row = c.row ∧ c'.event = c.event ∧ c'.Valid := by
  obtain ⟨row, event, phase, writes, saved, answered, written⟩ := c
  cases statement with
  | savepoint =>
      cases phase <;> cases moved
      obtain ⟨empty, nothing⟩ := valid
      exact ⟨rfl, rfl, empty, empty.trans nothing.symm⟩
  | write w =>
      cases phase <;> cases moved
      obtain ⟨empty, same⟩ := valid
      exact ⟨rfl, rfl, empty, congrArg (· ++ [w]) same⟩
  | returns result =>
      cases phase <;> cases moved
      obtain ⟨empty, same⟩ := valid
      exact ⟨rfl, rfl, empty, same, rfl⟩
  | throws e =>
      cases phase <;> cases moved
      obtain ⟨empty, same⟩ := valid
      exact ⟨rfl, rfl, empty, same, rfl⟩
  | rollbackTo =>
      cases phase with
      | handled result =>
          cases result with
          | error e =>
              obtain rfl := Option.some.inj moved
              exact ⟨rfl, rfl, valid.2.2, valid.1⟩
          | ok v => cases moved
      | selected | calling | undone | released | updated => cases moved
  | release =>
      cases phase with
      | handled result =>
          cases result with
          | error e => cases moved
          | ok v =>
              obtain rfl := Option.some.inj moved
              exact ⟨rfl, rfl, valid.2.2, valid.2.1⟩
      | undone e =>
          obtain rfl := Option.some.inj moved
          exact ⟨rfl, rfl, valid⟩
      | selected | calling | released | updated => cases moved
  | update clock =>
      cases phase <;> cases moved
      exact ⟨rfl, rfl, valid, rfl⟩

theorem attempts_none (commits : List (Commit W)) (id : Str) (unknown : ∀ c ∈ commits, c.event ≠ id) : attemptsAt commits id = [] :=
  List.filter_eq_nil_iff.mpr fun c member => by simpa using unknown c member

theorem fresh_mail (commits : List (Commit W)) (raw : ByteArray) (event : Envelope) (now : ℕ) (decoded : decode raw = .ok event)
    (unknown : ∀ c ∈ commits, c.event ≠ event.id) : MailInvariant commits (mailbox.fresh event.id event.text now) := by
  have none := attempts_none commits event.id unknown
  refine
    { count := by simp [mailbox, none]
      bound := by simp [mailbox]
      pending := fun _ => by simp [mailbox, maxAttempts]
      dead := fun dead => nomatch dead
      refused := fun _ c member => ?_
      processed := fun processed => nomatch processed
      stored := stored_again raw event decoded }
  have inside : c ∈ attemptsAt commits event.id := member
  simp [none] at inside

theorem publish_keeps (s : Mailbox W) (raw : ByteArray) (event : Envelope) (now : ℕ) (outcome : Outcome) (valid : s.Invariant)
    (decoded : decode raw = .ok event) : (s.publish event now outcome).2.Invariant := by
  have same (rows : List MailboxRow) (here : rows = s.rows) : ({ s with rows := rows } : Mailbox W).Invariant := by
    rw [here]
    exact valid
  rw [Mailbox.publish]
  split_ifs with applied
  · simp only [publish_rows]
    rcases insert_rows mailbox event now s.rows with old | ⟨absent, added⟩
    · exact same _ old
    · rw [added]
      refine
        { distinct := ?_
          rows := fun r member => ?_
          locks := valid.locks
          selected := fun c member => ?_
          known := fun c member => ?_
          commits := valid.commits }
      · exact grown_distinct MailboxRow.eventId s.rows _ valid.distinct absent
      · rcases List.mem_append.mp member with old | new
        · exact valid.rows r old
        · obtain rfl := List.mem_singleton.mp new
          refine fresh_mail _ raw event now decoded fun c inside => ?_
          obtain ⟨r, present, named⟩ := valid.known c inside
          rw [← named]
          exact absent r present
      · obtain ⟨inside, rest⟩ := valid.selected c member
        exact ⟨List.mem_append_left _ inside, rest⟩
      · obtain ⟨r, inside, named⟩ := valid.known c member
        exact ⟨r, List.mem_append_left _ inside, named⟩
  · exact same _ rfl

theorem select_spec (clock : Str → ℕ) (locked : List Str) (rows : List MailboxRow) (r : MailboxRow)
    (found : select clock locked rows = some r) : r ∈ rows ∧ r.state = .pending ∧ r.eventId ∉ locked := by
  obtain ⟨member, held⟩ := List.mem_filter.mp (earliest_mem mailbox _ r found)
  simp only [consumable, Bool.and_eq_true, decide_eq_true_eq, Bool.not_eq_true', List.contains_eq_mem,
    decide_eq_false_iff_not] at held
  exact ⟨member, held.1.1.1, held.2⟩

theorem selected_keeps (s : Mailbox W) (r : MailboxRow) (event : Envelope) (valid : s.Invariant) (member : r ∈ s.rows)
    (pending : r.state = .pending) (unlocked : r.eventId ∉ s.locked) (decoded : decode (encodeUtf8 r.envelope) = .ok event) :
    ({ s with consumptions := ⟨r, event, .selected, [], [], none, []⟩ :: s.consumptions } : Mailbox W).Invariant := by
  obtain ⟨again, decoded', named, _⟩ := (valid.rows r member).stored
  obtain rfl := Except.ok.inj (decoded.symm.trans decoded')
  refine
    { distinct := valid.distinct
      rows := valid.rows
      locks := List.nodup_cons.mpr ⟨unlocked, valid.locks⟩
      selected := fun c inside => ?_
      known := valid.known
      commits := valid.commits }
  rcases List.mem_cons.mp inside with rfl | old
  · exact ⟨member, pending, named, rfl, rfl⟩
  · exact valid.selected c old

theorem find_locked (s : Mailbox W) (id : Str) (c : Consumption W) (found : s.consumptions.find? (Consumption.locks id) = some c) :
    c ∈ s.consumptions ∧ c.row.eventId = id := by
  refine ⟨List.mem_of_find?_eq_some found, ?_⟩
  simpa [Consumption.locks] using List.find?_some found

theorem execute_keeps (s : Mailbox W) (id : Str) (c c' : Consumption W) (statement : Statement W) (valid : s.Invariant)
    (found : s.consumptions.find? (Consumption.locks id) = some c) (moved : c.next statement = some c') :
    ({ s with consumptions := s.consumptions.map fun d => if d.locks id then c' else d } : Mailbox W).Invariant := by
  obtain ⟨member, named⟩ := find_locked s id c found
  obtain ⟨inside, pending, event, whole⟩ := valid.selected c member
  obtain ⟨row, same, whole'⟩ := next_valid c c' statement whole moved
  have locks : (s.consumptions.map fun d => if d.locks id then c' else d).map (fun d => d.row.eventId) = s.locked := by
    rw [List.map_map]
    refine List.map_congr_left fun d _ => ?_
    by_cases mine : d.locks id = true
    · simp only [Function.comp, if_pos mine, row, named]
      simpa [Consumption.locks, eq_comm] using mine
    · simp only [Function.comp, if_neg mine]
  refine
    { distinct := valid.distinct
      rows := valid.rows
      locks := by rw [Mailbox.locked, locks]; exact valid.locks
      selected := fun d here => ?_
      known := valid.known
      commits := valid.commits }
  obtain ⟨d, old, rfl⟩ := List.mem_map.mp here
  by_cases mine : d.locks id = true
  · rw [if_pos mine, row, same]
    exact ⟨inside, pending, event, whole'⟩
  · rw [if_neg mine]
    exact valid.selected d old

theorem end_keeps (s : Mailbox W) (id : Str) (answer : Result Bool) (valid : s.Invariant) : (s.end id answer).Invariant :=
  { distinct := valid.distinct
    rows := valid.rows
    locks := valid.locks.sublist (List.filter_sublist.map _)
    selected := fun c member => valid.selected c (List.mem_of_mem_filter member)
    known := valid.known
    commits := valid.commits }

theorem attempts_cons (c : Commit W) (commits : List (Commit W)) (id : Str) :
    attemptsAt (c :: commits) id = if c.event = id then c :: attemptsAt commits id else attemptsAt commits id := by
  simp [attemptsAt, List.filter_cons]

theorem mail_other (commits : List (Commit W)) (c : Commit W) (r : MailboxRow) (other : c.event ≠ r.eventId)
    (valid : MailInvariant commits r) : MailInvariant (c :: commits) r := by
  have same : attemptsAt (c :: commits) r.eventId = attemptsAt commits r.eventId := by rw [attempts_cons, if_neg other]
  exact
    { count := same ▸ valid.count
      bound := valid.bound
      pending := valid.pending
      dead := valid.dead
      refused := same ▸ valid.refused
      processed := same ▸ valid.processed
      stored := valid.stored }

def Consumption.commit (c : Consumption W) : Commit W := ⟨c.event.id, c.answered, c.writes, c.written⟩

theorem kept_commit (c : Consumption W) (rejected : Option Failure) (kept : c.Kept rejected) :
    c.commit.Valid ∧ c.commit.accepted = rejected.isNone := by
  cases rejected with
  | none =>
      obtain ⟨answered, writes⟩ := kept
      have accepted : c.commit.accepted = true := by simp [Commit.accepted, Consumption.commit, answered]
      refine ⟨⟨by simp [Consumption.commit, answered], ?_⟩, accepted⟩
      rw [if_pos accepted]
      exact writes
  | some e =>
      obtain ⟨answered, writes⟩ := kept
      have accepted : c.commit.accepted = false := by simp [Commit.accepted, Consumption.commit, answered]
      refine ⟨⟨by simp [Consumption.commit, answered], ?_⟩, accepted⟩
      rw [accepted]
      exact writes

theorem mail_committed (commits : List (Commit W)) (c : Commit W) (r : MailboxRow) (rejected : Option Failure) (availableAt : ℕ)
    (valid : MailInvariant commits r) (named : c.event = r.eventId) (pending : r.state = .pending)
    (accepted : c.accepted = rejected.isNone) :
    MailInvariant (c :: commits)
      { r with state := nextState rejected r.attempts, attempts := r.attempts + 1, availableAt := availableAt } := by
  have below := valid.pending pending
  have refused := valid.refused (by rw [pending]; exact fun same => nomatch same)
  have grown : attemptsAt (c :: commits) r.eventId = c :: attemptsAt commits r.eventId := by rw [attempts_cons, if_pos named]
  have count : r.attempts + 1 = (attemptsAt (c :: commits) r.eventId).length := by rw [grown, valid.count, List.length_cons]
  cases rejected with
  | none =>
      exact
        { count := count
          bound := below
          pending := fun here => nomatch here
          dead := fun here => nomatch here
          refused := fun here => absurd rfl here
          processed := fun _ => ⟨c, _, grown, accepted, refused⟩
          stored := valid.stored }
  | some e =>
      have unprocessed : nextState (some e) r.attempts ≠ .processed := by
        rw [nextState]
        split_ifs <;> exact fun same => nomatch same
      have failed : ∀ d ∈ attemptsAt (c :: commits) r.eventId, d.accepted = false := by
        rw [grown]
        intro d member
        rcases List.mem_cons.mp member with rfl | old
        · exact accepted
        · exact refused d old
      refine
        { count := count
          bound := below
          pending := fun here => ?_
          dead := fun here => ?_
          refused := fun _ => failed
          processed := fun here => absurd here unprocessed
          stored := valid.stored }
      · simp only [nextState] at here
        split_ifs at here with full
        simp only
        omega
      · simp only [nextState] at here
        split_ifs at here with full
        simp only
        omega

theorem update_id (id : Str) (state : MailboxState) (availableAt : ℕ) (r : MailboxRow) :
    (updateRow id state availableAt r).eventId = r.eventId := by
  rw [updateRow]
  split_ifs <;> rfl

theorem committed_keeps (s : Mailbox W) (id : Str) (c : Consumption W) (rejected : Option Failure) (state : MailboxState)
    (availableAt : ℕ) (answer : Result Bool) (valid : s.Invariant)
    (found : s.consumptions.find? (Consumption.locks id) = some c) (phase : c.phase = .updated rejected state availableAt) :
    ({ s.end id answer with
        rows := s.rows.map (updateRow c.event.id state availableAt)
        commits := c.commit :: s.commits } : Mailbox W).Invariant := by
  obtain ⟨member, named⟩ := find_locked s id c found
  obtain ⟨inside, pending, event, whole⟩ := valid.selected c member
  obtain ⟨kept, rfl⟩ : c.Kept rejected ∧ state = nextState rejected c.row.attempts := by
    simpa only [Consumption.Valid, phase] using whole
  obtain ⟨good, accepted⟩ := kept_commit c rejected kept
  refine
    { distinct := ?_
      rows := fun r here => ?_
      locks := (end_keeps s id answer valid).locks
      selected := fun d here => ?_
      known := fun d here => ?_
      commits := fun d here => ?_ }
  · simp only [map_ids MailboxRow.eventId _ _ (update_id _ _ _), valid.distinct]
  · obtain ⟨r, old, rfl⟩ := List.mem_map.mp here
    by_cases mine : r.eventId = c.event.id
    · obtain rfl := row_of_id MailboxRow.eventId s.rows valid.distinct r c.row old inside (mine.trans event)
      rw [updateRow, if_pos mine]
      exact mail_committed s.commits c.commit c.row rejected availableAt (valid.rows c.row old) mine.symm pending accepted
    · rw [updateRow, if_neg mine]
      exact mail_other s.commits c.commit r (fun same => mine same.symm) (valid.rows r old)
  · obtain ⟨old, other⟩ := List.mem_filter.mp here
    obtain ⟨present, rest⟩ := valid.selected d old
    refine ⟨?_, rest⟩
    have unmoved : updateRow c.event.id (nextState rejected c.row.attempts) availableAt d.row = d.row := by
      have apart : d.row.eventId ≠ c.event.id := by
        rw [event, named]
        simpa [Consumption.locks] using other
      rw [updateRow, if_neg apart]
    exact unmoved ▸ List.mem_map_of_mem (f := updateRow _ _ _) present
  · rcases List.mem_cons.mp here with rfl | old
    · exact ⟨_, List.mem_map_of_mem (f := updateRow _ _ _) inside, (update_id _ _ _ c.row).trans event.symm⟩
    · obtain ⟨r, present, same⟩ := valid.known d old
      exact ⟨_, List.mem_map_of_mem (f := updateRow _ _ _) present, (update_id _ _ _ r).trans same⟩
  · rcases List.mem_cons.mp here with rfl | old
    · exact good
    · exact valid.commits d old

inductive MailboxMoved (s : Mailbox W) : MailboxAction W → Mailbox W → Prop where
  | published (raw : ByteArray) (event : Envelope) (now : ℕ) (outcome : Outcome) (decoded : decode raw = .ok event) :
      MailboxMoved s (.publish raw now outcome) (s.publish event now outcome).2
  | answered (a : MailboxAction W) (answer : Result Bool) : MailboxMoved s a { s with consumed := answer :: s.consumed }
  | selected (clock : Str → ℕ) (skipped : List Str) (outcome : Outcome) (r : MailboxRow) (event : Envelope) (member : r ∈ s.rows)
      (pending : r.state = .pending) (unlocked : r.eventId ∉ s.locked) (decoded : decode (encodeUtf8 r.envelope) = .ok event) :
      MailboxMoved s (.select clock skipped outcome)
        { s with consumptions := ⟨r, event, .selected, [], [], none, []⟩ :: s.consumptions }
  | executed (id : Str) (statement : Statement W) (c c' : Consumption W)
      (found : s.consumptions.find? (Consumption.locks id) = some c) (moved : c.next statement = some c') :
      MailboxMoved s (.execute id statement)
        { s with consumptions := s.consumptions.map fun d => if d.locks id then c' else d }
  | ended (id : Str) (a : MailboxAction W) (answer : Result Bool) : MailboxMoved s a (s.end id answer)
  | committed (id : Str) (outcome : Outcome) (c : Consumption W) (rejected : Option Failure) (state : MailboxState)
      (availableAt : ℕ) (answer : Result Bool) (found : s.consumptions.find? (Consumption.locks id) = some c)
      (phase : c.phase = .updated rejected state availableAt) :
      MailboxMoved s (.commit id outcome)
        { s.end id answer with
          rows := s.rows.map (updateRow c.event.id state availableAt)
          commits := c.commit :: s.commits }

theorem mailbox_step_moved (s t : Mailbox W) (a : MailboxAction W) (moved : s.step a = some t) : MailboxMoved s a t := by
  cases a with
  | publish raw now outcome =>
      cases decoded : decode raw with
      | error e => simp [Mailbox.step, decoded] at moved
      | ok event =>
          simp only [Mailbox.step, decoded, Option.some.injEq] at moved
          rw [← moved]
          exact .published raw event now outcome decoded
  | select clock skipped outcome =>
      cases found : select clock (skipped ++ s.locked) s.rows with
      | none =>
          simp only [Mailbox.step, found, Option.some.injEq] at moved
          rw [← moved]
          exact .answered _ _
      | some r =>
          obtain ⟨member, pending, unlocked⟩ := select_spec clock _ s.rows r found
          cases decoded : decode (encodeUtf8 r.envelope) with
          | error e =>
              simp only [Mailbox.step, found, decoded, Option.some.injEq] at moved
              rw [← moved]
              exact .answered _ _
          | ok event =>
              simp only [Mailbox.step, found, decoded, Option.some.injEq] at moved
              rw [← moved]
              exact .selected clock skipped outcome r event member pending
                (fun inside => unlocked (List.mem_append_right _ inside)) decoded
  | execute id statement =>
      cases found : s.consumptions.find? (Consumption.locks id) with
      | none => simp [Mailbox.step, found] at moved
      | some c =>
          simp only [Mailbox.step, found] at moved
          obtain ⟨c', next, rfl⟩ := Option.map_eq_some_iff.mp moved
          exact .executed id statement c c' found next
  | abort id e =>
      simp only [Mailbox.step] at moved
      split_ifs at moved
      obtain rfl := Option.some.inj moved
      exact .ended id _ _
  | commit id outcome =>
      cases found : s.consumptions.find? (Consumption.locks id) with
      | none => simp [Mailbox.step, found] at moved
      | some c =>
          cases phase : c.phase with
          | updated rejected state availableAt =>
              simp only [Mailbox.step, found, phase] at moved
              split_ifs at moved
              · obtain rfl := Option.some.inj moved
                exact .committed id outcome c rejected state availableAt _ found phase
              · obtain rfl := Option.some.inj moved
                exact .ended id _ _
          | selected => simp [Mailbox.step, found, phase] at moved
          | calling => simp [Mailbox.step, found, phase] at moved
          | handled result => simp [Mailbox.step, found, phase] at moved
          | undone e => simp [Mailbox.step, found, phase] at moved
          | released rejected => simp [Mailbox.step, found, phase] at moved

theorem mailbox_moved_keeps (s t : Mailbox W) (a : MailboxAction W) (valid : s.Invariant) (moved : MailboxMoved s a t) :
    t.Invariant := by
  cases moved with
  | published raw event now outcome decoded => exact publish_keeps s raw event now outcome valid decoded
  | answered answer => exact ⟨valid.distinct, valid.rows, valid.locks, valid.selected, valid.known, valid.commits⟩
  | selected clock skipped outcome r event member pending unlocked decoded =>
      exact selected_keeps s r event valid member pending unlocked decoded
  | executed id statement c c' found moved => exact execute_keeps s id c c' statement valid found moved
  | ended id => exact end_keeps s id _ valid
  | committed id outcome c rejected state availableAt answer found phase =>
      exact committed_keeps s id c rejected state availableAt answer valid found phase

theorem mailbox_invariant (s : Mailbox W) (reached : (mailboxMachine W).Reachable s) : s.Invariant :=
  (mailboxMachine W).invariant Mailbox.Invariant
    (by constructor <;> simp [mailboxMachine, Mailbox.locked])
    (fun s t a _ valid moved => mailbox_moved_keeps s t a valid (mailbox_step_moved s t a moved)) s reached

inductive Advances (s t : Mailbox W) : Prop where
  | rows (commits : t.commits = s.commits) (kept : ∀ r ∈ t.rows, r ∈ s.rows ∨ r.state = .pending ∧ r.attempts = 0)
  | attempt (c : Commit W) (r r' : MailboxRow) (commits : t.commits = c :: s.commits) (good : c.Valid) (before : r ∈ s.rows)
      (after : r' ∈ t.rows) (named : r.eventId = c.event ∧ r'.eventId = c.event) (pending : r.state = .pending)
      (counted : r'.attempts = r.attempts + 1) (processed : r'.state = .processed ↔ c.accepted = true)
      (others : ∀ q ∈ t.rows, q.eventId ≠ c.event → q ∈ s.rows)

theorem next_processed (rejected : Option Failure) (attempts : ℕ) :
    nextState rejected attempts = .processed ↔ rejected.isNone = true := by
  cases rejected with
  | none => exact iff_of_true rfl rfl
  | some e =>
      rw [nextState]
      split_ifs <;> simp

theorem moved_advances (s t : Mailbox W) (a : MailboxAction W) (valid : s.Invariant) (moved : MailboxMoved s a t) : Advances s t := by
  cases moved with
  | published raw event now outcome decoded =>
      refine .rows rfl fun r member => ?_
      rw [Mailbox.publish] at member
      split_ifs at member with applied
      · simp only [publish_rows] at member
        rcases insert_rows mailbox event now s.rows with same | ⟨_, added⟩
        · exact .inl (same ▸ member)
        · rw [added] at member
          rcases List.mem_append.mp member with old | new
          · exact .inl old
          · obtain rfl := List.mem_singleton.mp new
            exact .inr ⟨rfl, rfl⟩
      · exact .inl member
  | answered answer => exact .rows rfl fun r member => .inl member
  | selected clock skipped outcome r event member pending unlocked decoded => exact .rows rfl fun r member => .inl member
  | executed id statement c c' found moved => exact .rows rfl fun r member => .inl member
  | ended id => exact .rows rfl fun r member => .inl member
  | committed id outcome c rejected state availableAt answer found phase =>
      obtain ⟨member, named⟩ := find_locked s id c found
      obtain ⟨inside, pending, event, whole⟩ := valid.selected c member
      obtain ⟨kept, rfl⟩ : c.Kept rejected ∧ state = nextState rejected c.row.attempts := by
        simpa only [Consumption.Valid, phase] using whole
      obtain ⟨good, accepted⟩ := kept_commit c rejected kept
      have moved : updateRow c.event.id (nextState rejected c.row.attempts) availableAt c.row =
          { c.row with
            state := nextState rejected c.row.attempts
            attempts := c.row.attempts + 1
            availableAt := availableAt } := by
        rw [updateRow, if_pos event.symm]
      have after := List.mem_map_of_mem (f := updateRow c.event.id (nextState rejected c.row.attempts) availableAt) inside
      rw [moved] at after
      refine .attempt c.commit c.row _ rfl good inside after ⟨event.symm, event.symm⟩ pending rfl ?_ fun q member other => ?_
      · rw [accepted]
        exact next_processed rejected c.row.attempts
      · obtain ⟨q, old, rfl⟩ := List.mem_map.mp member
        have apart : q.eventId ≠ c.event.id := fun same => other ((update_id _ _ _ q).trans same)
        rw [updateRow, if_neg apart]
        exact old

end N2F

import N2F.Events.Payload
import N2F.Postgres.Jsonb
import N2F.Postgres.Transaction

set_option autoImplicit false

namespace N2F

open Ecma Postgres

inductive OutboxState where
  | pending
  | sent
  | dead
deriving DecidableEq

-- The columns lease and lease_until, which the table keeps both null or both set.
structure LeaseMark where
  token : Str
  expires : ℕ
deriving DecidableEq

-- Times are microseconds of the database clock.
structure OutboxRow where
  eventId : Str
  envelope : List Char
  state : OutboxState
  attempts : ℕ
  availableAt : ℕ
  lease : Option LeaseMark
deriving DecidableEq

inductive MailboxState where
  | pending
  | processed
  | dead
deriving DecidableEq

structure MailboxRow where
  eventId : Str
  envelope : List Char
  state : MailboxState
  attempts : ℕ
  availableAt : ℕ
deriving DecidableEq

structure Table (Row : Type) where
  eventId : Row → Str
  envelope : Row → List Char
  availableAt : Row → ℕ
  fresh : Str → List Char → ℕ → Row

def outbox : Table OutboxRow :=
  ⟨OutboxRow.eventId, OutboxRow.envelope, OutboxRow.availableAt, fun id envelope now => ⟨id, envelope, .pending, 0, now, none⟩⟩

def mailbox : Table MailboxRow :=
  ⟨MailboxRow.eventId, MailboxRow.envelope, MailboxRow.availableAt, fun id envelope now => ⟨id, envelope, .pending, 0, now⟩⟩

def maxAttempts : ℕ := 5

-- interval '100 milliseconds'
def retryDelay : ℕ := 100000

-- CHECK (octet_length(envelope)<=65536 AND jsonb_typeof(envelope::jsonb)='object')
def envelopeCheck (envelope : List Char) : Bool :=
  (encodeUtf8 envelope).size ≤ 65536 && (castJsonb envelope).any Jsonb.isObject

def conflict (code : String) : Failure := failure .conflict "event delivery conflict" ("events." ++ code)

variable {Row : Type}

-- INSERT .. ON CONFLICT(event_id) DO UPDATE SET envelope=t.envelope WHERE the
-- envelopes are equal as jsonb: the update writes what is already there.
def insert (table : Table Row) (event : Envelope) (now : ℕ) (rows : List Row) : Result Unit × List Row :=
  if !envelopeCheck event.text then (.error databaseFailed, rows)
  else
    match rows.find? (fun r => table.eventId r = event.id) with
    | none => (.ok (), rows ++ [table.fresh event.id event.text now])
    | some old =>
        if sameJsonb (table.envelope old) event.text then (.ok (), rows) else (.error (conflict "id_reused"), rows)

def enqueue (event : Envelope) (now : ℕ) (rows : List OutboxRow) : Result Unit × List OutboxRow := insert outbox event now rows

-- ORDER BY available_at,event_id
def before (table : Table Row) (a b : Row) : Bool :=
  table.availableAt a < table.availableAt b ||
    (table.availableAt a = table.availableAt b && decide (table.eventId a < table.eventId b))

-- LIMIT 1
def earliest (table : Table Row) : List Row → Option Row
  | [] => none
  | r :: rest =>
      match earliest table rest with
      | none => some r
      | some s => if before table s r then some s else some r

structure Receipt where
  eventId : Str
  durable : Bool
deriving DecidableEq

def publish (event : Envelope) (now : ℕ) (rows : List MailboxRow) : Result Receipt × List MailboxRow :=
  match insert mailbox event now rows with
  | (.ok (), rows) => (.ok ⟨event.id, true⟩, rows)
  | (.error e, rows) => (.error e, rows)

theorem insert_fresh (table : Table Row) (event : Envelope) (now : ℕ) (rows : List Row) (fits : envelopeCheck event.text = true)
    (absent : ∀ r ∈ rows, table.eventId r ≠ event.id) :
    insert table event now rows = (.ok (), rows ++ [table.fresh event.id event.text now]) := by
  have none : rows.find? (fun r => decide (table.eventId r = event.id)) = none :=
    List.find?_eq_none.mpr fun r member => by simpa using absent r member
  simp [insert, fits, none]

theorem fits_same (event : Envelope) (fits : envelopeCheck event.text = true) : sameJsonb event.text event.text = true := by
  simp only [envelopeCheck, Bool.and_eq_true] at fits
  exact same_jsonb_refl event.text (Option.isSome_of_any fits.2)

theorem insert_again (table : Table Row) (event : Envelope) (now : ℕ) (rows : List Row) (row : Row)
    (fits : envelopeCheck event.text = true) (absent : ∀ r ∈ rows, table.eventId r ≠ event.id)
    (named : table.eventId row = event.id) (written : table.envelope row = event.text) :
    insert table event now (rows ++ [row]) = (.ok (), rows ++ [row]) := by
  have none : rows.find? (fun r => decide (table.eventId r = event.id)) = none :=
    List.find?_eq_none.mpr fun r member => by simpa using absent r member
  simp [insert, fits, List.find?_append, none, named, written, fits_same event fits]

theorem insert_refused (table : Table Row) (event : Envelope) (now : ℕ) (rows : List Row) (refused : envelopeCheck event.text = false) :
    insert table event now rows = (.error databaseFailed, rows) := by
  simp [insert, refused]

theorem insert_rows (table : Table Row) (event : Envelope) (now : ℕ) (rows : List Row) :
    (insert table event now rows).2 = rows ∨
      ((∀ r ∈ rows, table.eventId r ≠ event.id) ∧ (insert table event now rows).2 = rows ++ [table.fresh event.id event.text now]) := by
  cases fits : envelopeCheck event.text with
  | false => exact .inl (congrArg Prod.snd (insert_refused table event now rows fits))
  | true =>
      cases found : rows.find? (fun r => table.eventId r = event.id) with
      | none =>
          have absent : ∀ r ∈ rows, table.eventId r ≠ event.id := fun r member same =>
            List.find?_eq_none.mp found r member (decide_eq_true same)
          exact .inr ⟨absent, congrArg Prod.snd (insert_fresh table event now rows fits absent)⟩
      | some old =>
          left
          simp only [insert, fits, found]
          split_ifs <;> rfl

theorem insert_present (table : Table Row) (event : Envelope) (now : ℕ) (rows : List Row)
    (fresh : table.eventId (table.fresh event.id event.text now) = event.id)
    (written : table.envelope (table.fresh event.id event.text now) = event.text) (taken : (insert table event now rows).1 = .ok ()) :
    ∃ r ∈ (insert table event now rows).2, table.eventId r = event.id ∧ sameJsonb (table.envelope r) event.text = true := by
  cases fits : envelopeCheck event.text with
  | false =>
      rw [insert_refused table event now rows fits] at taken
      cases taken
  | true =>
      cases found : rows.find? (fun r => table.eventId r = event.id) with
      | none =>
          have absent : ∀ r ∈ rows, table.eventId r ≠ event.id := fun r member same =>
            List.find?_eq_none.mp found r member (decide_eq_true same)
          rw [insert_fresh table event now rows fits absent]
          exact ⟨_, by simp, fresh, by rw [written]; exact fits_same event fits⟩
      | some old =>
          have named : table.eventId old = event.id := by simpa using List.find?_some found
          have member := List.mem_of_find?_eq_some found
          cases same : sameJsonb (table.envelope old) event.text with
          | true => exact ⟨old, by simpa [insert, fits, found, same] using member, named, same⟩
          | false => simp [insert, fits, found, same] at taken

theorem publish_rows (event : Envelope) (now : ℕ) (rows : List MailboxRow) :
    (publish event now rows).2 = (insert mailbox event now rows).2 := by
  rw [publish]
  split <;> next inserted => rw [inserted]

theorem publish_receipt (event : Envelope) (now : ℕ) (rows : List MailboxRow) (receipt : Receipt)
    (answered : (publish event now rows).1 = .ok receipt) :
    ∃ r ∈ (publish event now rows).2, r.eventId = event.id ∧ sameJsonb r.envelope event.text = true := by
  rw [publish_rows]
  refine insert_present mailbox event now rows rfl rfl ?_
  rw [publish] at answered
  split at answered
  · next inserted => rw [inserted]
  · cases answered

theorem stored_again (raw : ByteArray) (event : Envelope) (decoded : decode raw = .ok event) :
    ∃ again, decode (encodeUtf8 event.text) = .ok again ∧ again.id = event.id ∧ again.text = event.text := by
  have again := decode_again raw event decoded
  rw [← text_bytes] at again
  exact ⟨_, again, rfl, rfl⟩

theorem map_ids (eventId : Row → Str) (f : Row → Row) (rows : List Row) (kept : ∀ r, eventId (f r) = eventId r) :
    (rows.map f).map eventId = rows.map eventId := by
  rw [List.map_map]
  exact List.map_congr_left fun r _ => kept r

theorem map_known (eventId : Row → Str) (envelope : Row → List Char) (f : Row → Row) (rows : List Row)
    (kept : ∀ r, eventId (f r) = eventId r) (written : ∀ r, envelope (f r) = envelope r) (id : Str) (text : List Char)
    (known : ∃ r ∈ rows, eventId r = id ∧ envelope r = text) : ∃ r ∈ rows.map f, eventId r = id ∧ envelope r = text := by
  obtain ⟨r, member, named, same⟩ := known
  exact ⟨f r, List.mem_map_of_mem (f := f) member, (kept r).trans named, (written r).trans same⟩

theorem row_of_id (eventId : Row → Str) (rows : List Row) (distinct : (rows.map eventId).Nodup) (a b : Row) (first : a ∈ rows)
    (second : b ∈ rows) (same : eventId a = eventId b) : a = b :=
  List.inj_on_of_nodup_map distinct first second same

theorem grown_distinct (eventId : Row → Str) (rows : List Row) (row : Row) (distinct : (rows.map eventId).Nodup)
    (absent : ∀ r ∈ rows, eventId r ≠ eventId row) : ((rows ++ [row]).map eventId).Nodup := by
  rw [List.map_append, List.nodup_append]
  refine ⟨distinct, by simp, ?_⟩
  intro id first id' second
  obtain ⟨r, inside, rfl⟩ := List.mem_map.mp first
  simp only [List.map_cons, List.map_nil, List.mem_singleton] at second
  rw [second]
  exact absent r inside

theorem earliest_mem (table : Table Row) (rows : List Row) (r : Row) (found : earliest table rows = some r) : r ∈ rows := by
  induction rows generalizing r with
  | nil => cases found
  | cons head rest ih =>
      rw [earliest] at found
      cases later : earliest table rest with
      | none =>
          simp only [later, Option.some.injEq] at found
          simp [found]
      | some s =>
          simp only [later] at found
          split_ifs at found
          · obtain rfl := Option.some.inj found
            exact List.mem_cons_of_mem _ (ih s later)
          · obtain rfl := Option.some.inj found
            simp

end N2F

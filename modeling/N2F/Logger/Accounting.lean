import N2F.Logger.Delivery
import Mathlib.Data.List.Perm.Basic

set_option autoImplicit false

namespace N2F.Logger

def Verdict.line? : Verdict → Option Line
  | .accepted line => some line
  | .dropped | .unencodable => none

def acceptedLines (verdicts : List (ℕ × Verdict)) : List Line := verdicts.filterMap fun v => v.2.line?

structure Held (c : Config) (d : Delivery) (lines : List Line) : Prop where
  order : lines = d.handed ++ d.queue
  handed : d.handed.length = d.counts.written + d.lost + d.writes.length
  accepted : d.counts.accepted = lines.length
  one : d.writes.length = if d.running then 1 else 0
  idle : d.running = false → d.queue = []
  room : d.queue.length ≤ c.capacity
  asked : d.flushes.length + d.done.toNat = (d.closed && !d.running).toNat
  flushed : d.flushed ≤ (d.closed && !d.running).toNat

structure Turning (c : Config) (d : Delivery) (lines : List Line) : Prop where
  order : lines = d.handed ++ d.queue
  handed : d.handed.length = d.counts.written + d.lost
  accepted : d.counts.accepted = lines.length
  running : d.running = true
  quiet : d.writes = []
  room : d.queue.length ≤ c.capacity
  unasked : d.flushes = [] ∧ d.done = false ∧ d.flushed = 0

theorem flush_held (c : Config) (d : Delivery) (lines : List Line) (held : Held c { d with closed := false } lines) (closed : d.closed = true)
    (idle : d.running = false) : Held c (d.flush c) lines := by
  have asked := held.asked
  have flushed := held.flushed
  simp only [Bool.false_and, Bool.toNat_false, Nat.add_eq_zero_iff, Nat.le_zero] at asked flushed
  by_cases has : c.hasFlush = true
  · rw [Delivery.flush, if_pos has]
    refine ⟨held.order, held.handed, held.accepted, held.one, held.idle, held.room, ?_, ?_⟩
    · simp [closed, idle, asked]
    · simp [closed, idle, flushed]
  · rw [Delivery.flush, if_neg has]
    refine ⟨held.order, held.handed, held.accepted, held.one, held.idle, held.room, ?_, ?_⟩
    · simp [closed, idle, asked]
    · simp [closed, idle, flushed]

theorem pump_next (c : Config) (d : Delivery) (line : Line) (rest : List Line) (waiting : d.queue = line :: rest) :
    d.pump c = { d with queue := rest, writes := (line, .inside) :: d.writes, handed := d.handed ++ [line] } := by
  simp only [Delivery.pump, waiting]

theorem pump_end (c : Config) (d : Delivery) (drained : d.queue = []) :
    d.pump c = if d.closed then { d with running := false }.flush c else { d with running := false } := by
  simp only [Delivery.pump, drained]

theorem pump_held (c : Config) (d : Delivery) (lines : List Line) (turning : Turning c d lines) : Held c (d.pump c) lines := by
  obtain ⟨order, handed, accepted, running, quiet, room, flushes, done, flushed⟩ := turning
  cases waiting : d.queue with
  | cons line rest =>
      have less : rest.length ≤ c.capacity := by
        rw [waiting, List.length_cons] at room
        omega
      rw [pump_next c d line rest waiting]
      refine ⟨?_, ?_, accepted, ?_, ?_, less, ?_, ?_⟩
      · rw [order, waiting, List.append_assoc]
        rfl
      · simp only [List.length_append, List.length_cons, List.length_nil, quiet, handed]
      · simp [quiet, running]
      · simp [running]
      · simp [running, flushes, done]
      · simp [flushed]
  | nil =>
      rw [pump_end c d waiting]
      have ended : Held c { d with running := false, closed := false } lines :=
        ⟨order, by simp [quiet, handed], accepted, by simp [quiet], fun _ => waiting, room, by simp [flushes, done], by simp [flushed]⟩
      by_cases closed : d.closed = true
      · rw [if_pos closed]
        exact flush_held c { d with running := false } lines ended closed rfl
      · rw [if_neg closed]
        rw [Bool.not_eq_true] at closed
        refine ⟨order, ended.handed, accepted, ended.one, ended.idle, room, ?_, ?_⟩
        · simp [closed, flushes, done]
        · simp [flushed]

theorem refuses_false (c : Config) (d : Delivery) (line : Line) (admitted : d.refuses c line = false) :
    d.closed = false ∧ (d.running = true → d.queue.length < c.capacity) := by
  simp only [Delivery.refuses, Bool.or_eq_false_iff, Bool.and_eq_false_iff, decide_eq_false_iff_not, Nat.not_le] at admitted
  obtain ⟨⟨closed, _⟩, full⟩ := admitted
  refine ⟨closed, fun running => ?_⟩
  rcases full with idle | less
  · rw [running] at idle
    cases idle
  · exact less

theorem write_accepts (c : Config) (d : Delivery) (lines : List Line) (line : Line) (held : Held c d lines)
    (admitted : d.refuses c line = false) : Held c (d.write c line) (lines ++ [line]) := by
  obtain ⟨closed, room⟩ := refuses_false c d line admitted
  have order : lines ++ [line] = d.handed ++ (d.queue ++ [line]) := by rw [held.order, List.append_assoc]
  have accepted : d.counts.accepted + 1 = (lines ++ [line]).length := by rw [held.accepted, List.length_append]; rfl
  by_cases running : d.running = true
  · rw [Delivery.write, admitted, if_neg Bool.false_ne_true, if_pos running]
    refine ⟨order, held.handed, accepted, held.one, ?_, ?_, held.asked, held.flushed⟩
    · intro idle
      rw [show d.running = false from idle] at running
      cases running
    · have less := room running
      simp only [Delivery.accept, List.length_append, List.length_cons, List.length_nil]
      omega
  · rw [Delivery.write, admitted, if_neg Bool.false_ne_true, if_neg running]
    rw [Bool.not_eq_true] at running
    have quiet : d.writes = [] := by
      have one := held.one
      rw [running] at one
      exact List.eq_nil_of_length_eq_zero one
    have asked := held.asked
    have flushed := held.flushed
    simp only [closed, Bool.false_and, Bool.toNat_false, Nat.add_eq_zero_iff, Nat.le_zero, List.length_eq_zero_iff] at asked flushed
    have handed := held.handed
    rw [quiet, List.length_nil] at handed
    refine pump_held c _ _ ⟨order, handed, accepted, rfl, quiet, ?_, asked.1, ?_, flushed⟩
    · simp [Delivery.accept, held.idle running, c.roomy]
    · cases done : d.done with
      | false => exact done
      | true => simp [done] at asked

theorem drop_held (c : Config) (d : Delivery) (lines : List Line) (held : Held c d lines) : Held c d.drop lines :=
  ⟨held.order, held.handed, held.accepted, held.one, held.idle, held.room, held.asked, held.flushed⟩

theorem fail_held (c : Config) (d : Delivery) (lines : List Line) (held : Held c d lines) : Held c d.fail lines :=
  ⟨held.order, held.handed, held.accepted, held.one, held.idle, held.room, held.asked, held.flushed⟩

theorem open_write (c : Config) (d : Delivery) (lines : List Line) (write : Line × Stop) (held : Held c d lines) (open' : write ∈ d.writes) :
    d.running = true ∧ d.writes = [write] := by
  have one := held.one
  cases running : d.running with
  | false =>
      rw [running] at one
      rw [List.eq_nil_of_length_eq_zero one] at open'
      cases open'
  | true =>
      rw [running] at one
      obtain ⟨only, same⟩ := List.length_eq_one_iff.mp one
      rw [same, List.mem_singleton] at open'
      rw [same, open']
      exact ⟨rfl, rfl⟩

theorem written_held (c : Config) (d : Delivery) (lines : List Line) (write : Line × Stop) (ok : Bool) (held : Held c d lines)
    (open' : write ∈ d.writes) : Held c (d.written c write ok) lines := by
  obtain ⟨running, only⟩ := open_write c d lines write held open'
  have erased : d.writes.erase write = [] := by rw [only, List.erase_cons_head]
  have handed := held.handed
  rw [only, List.length_singleton] at handed
  have one : d.handed.length = d.counts.written + 1 + d.lost := by omega
  have asked := held.asked
  have flushed := held.flushed
  simp only [running, Bool.not_true, Bool.and_false, Bool.toNat_false, Nat.add_eq_zero_iff, Nat.le_zero, List.length_eq_zero_iff,
    Bool.toNat_eq_zero] at asked flushed
  cases ok with
  | true => exact pump_held c _ _ ⟨held.order, one, held.accepted, running, erased, held.room, asked.1, asked.2, flushed⟩
  | false => exact pump_held c _ _ ⟨held.order, handed, held.accepted, running, erased, held.room, asked.1, asked.2, flushed⟩

theorem returned_held (c : Config) (d : Delivery) (lines : List Line) (line : Line) (held : Held c d lines)
    (open' : (line, Stop.inside) ∈ d.writes) :
    Held c { d with writes := (line, .awaiting) :: d.writes.erase (line, .inside) } lines := by
  have same : ((line, Stop.awaiting) :: d.writes.erase (line, .inside)).length = d.writes.length := by
    rw [List.length_cons, List.length_erase_of_mem open']
    exact Nat.succ_pred_eq_of_pos (List.length_pos_of_mem open')
  refine ⟨held.order, ?_, held.accepted, ?_, held.idle, held.room, held.asked, held.flushed⟩
  · rw [same]
    exact held.handed
  · rw [same]
    exact held.one

theorem flush_returned_held (c : Config) (d : Delivery) (lines : List Line) (held : Held c d lines) (open' : Stop.inside ∈ d.flushes) :
    Held c { d with flushes := .awaiting :: d.flushes.erase .inside } lines := by
  have same : (Stop.awaiting :: d.flushes.erase .inside).length = d.flushes.length := by
    rw [List.length_cons, List.length_erase_of_mem open']
    exact Nat.succ_pred_eq_of_pos (List.length_pos_of_mem open')
  refine ⟨held.order, held.handed, held.accepted, held.one, held.idle, held.room, ?_, held.flushed⟩
  rw [same]
  exact held.asked

theorem finish_held (c : Config) (d : Delivery) (lines : List Line) (flush : Stop) (ok : Bool) (held : Held c d lines)
    (open' : flush ∈ d.flushes) : Held c (d.finish flush ok) lines := by
  have asked := held.asked
  have some := List.length_pos_of_mem open'
  have most := Bool.toNat_le (d.closed && !d.running)
  have undone : d.done.toNat = 0 := by omega
  have rest : (d.flushes.erase flush).length + true.toNat = (d.closed && !d.running).toNat := by
    rw [List.length_erase_of_mem open', Bool.toNat_true]
    omega
  cases ok with
  | true => exact ⟨held.order, held.handed, held.accepted, held.one, held.idle, held.room, rest, held.flushed⟩
  | false => exact ⟨held.order, held.handed, held.accepted, held.one, held.idle, held.room, rest, held.flushed⟩

theorem close_held (c : Config) (d : Delivery) (lines : List Line) (held : Held c d lines) : Held c (d.close c) lines := by
  rw [Delivery.close]
  split_ifs with closed running
  · exact held
  · have asked := held.asked
    have flushed := held.flushed
    simp only [closed, Bool.false_and] at asked flushed
    refine ⟨held.order, held.handed, held.accepted, held.one, held.idle, held.room, ?_, ?_⟩
    · simpa [running] using asked
    · simpa [running] using flushed
  · rw [Bool.not_eq_true] at closed running
    apply flush_held c { d with closed := true } lines _ rfl running
    rw [← closed]
    exact held

theorem flush_kept (c : Config) (d : Delivery) :
    (d.flush c).counts = d.counts ∧ (d.flush c).closed = d.closed ∧ (d.flush c).lost = d.lost ∧ (d.flush c).spoiled = d.spoiled := by
  rw [Delivery.flush]
  split_ifs
  · exact ⟨rfl, rfl, rfl, rfl⟩
  · exact ⟨rfl, rfl, rfl, rfl⟩

theorem pump_kept (c : Config) (d : Delivery) :
    (d.pump c).counts = d.counts ∧ (d.pump c).closed = d.closed ∧ (d.pump c).lost = d.lost ∧ (d.pump c).spoiled = d.spoiled := by
  cases waiting : d.queue with
  | cons line rest =>
      rw [pump_next c d line rest waiting]
      exact ⟨rfl, rfl, rfl, rfl⟩
  | nil =>
      rw [pump_end c d waiting]
      split_ifs
      · exact flush_kept c { d with running := false }
      · exact ⟨rfl, rfl, rfl, rfl⟩

structure Tallied (d : Delivery) (dropped unencodable : ℕ) : Prop where
  dropped : d.counts.dropped = dropped
  failed : d.counts.failed = unencodable + d.lost + d.spoiled

theorem pump_tallied (c : Config) (d : Delivery) (dropped unencodable : ℕ) (tallied : Tallied d dropped unencodable) :
    Tallied (d.pump c) dropped unencodable := by
  obtain ⟨counts, _, lost, spoiled⟩ := pump_kept c d
  refine ⟨?_, ?_⟩
  · rw [counts]
    exact tallied.dropped
  · rw [counts, lost, spoiled]
    exact tallied.failed

theorem write_tallied (c : Config) (d : Delivery) (line : Line) (dropped unencodable : ℕ) (tallied : Tallied d dropped unencodable) :
    Tallied (d.write c line) (dropped + (d.refuses c line).toNat) unencodable := by
  rw [Delivery.write]
  by_cases refused : d.refuses c line = true
  · rw [if_pos refused, refused]
    exact ⟨congrArg (· + 1) tallied.dropped, tallied.failed⟩
  · rw [if_neg refused]
    rw [Bool.not_eq_true] at refused
    rw [refused]
    split_ifs
    · exact ⟨tallied.dropped, tallied.failed⟩
    · exact pump_tallied c _ dropped unencodable ⟨tallied.dropped, tallied.failed⟩

theorem written_tallied (c : Config) (d : Delivery) (write : Line × Stop) (ok : Bool) (dropped unencodable : ℕ)
    (tallied : Tallied d dropped unencodable) : Tallied (d.written c write ok) dropped unencodable := by
  cases ok with
  | true => exact pump_tallied c _ dropped unencodable ⟨tallied.dropped, tallied.failed⟩
  | false =>
      refine pump_tallied c _ dropped unencodable ⟨tallied.dropped, ?_⟩
      have failed := tallied.failed
      simp only [Delivery.fail]
      omega

theorem finish_tallied (d : Delivery) (flush : Stop) (ok : Bool) (dropped unencodable : ℕ)
    (tallied : Tallied d dropped unencodable) : Tallied (d.finish flush ok) dropped unencodable := by
  cases ok with
  | true => exact ⟨tallied.dropped, tallied.failed⟩
  | false => exact ⟨tallied.dropped, congrArg (· + 1) tallied.failed⟩

theorem close_tallied (c : Config) (d : Delivery) (dropped unencodable : ℕ) (tallied : Tallied d dropped unencodable) :
    Tallied (d.close c) dropped unencodable := by
  rw [Delivery.close]
  split_ifs
  · exact tallied
  · exact ⟨tallied.dropped, tallied.failed⟩
  · obtain ⟨counts, _, lost, spoiled⟩ := flush_kept c { d with closed := true }
    refine ⟨?_, ?_⟩
    · rw [counts]
      exact tallied.dropped
    · rw [counts, lost, spoiled]
      exact tallied.failed

def droppedCount (verdicts : List (ℕ × Verdict)) : ℕ := verdicts.countP fun v => v.2 = .dropped

def unencodableCount (verdicts : List (ℕ × Verdict)) : ℕ := verdicts.countP fun v => v.2 = .unencodable

structure Sound (c : Config) (r : Runtime) : Prop where
  numbers : (r.verdicts.map Prod.fst ++ r.encoding).Perm (List.range r.issued)
  held : Held c r.delivery (acceptedLines r.verdicts)
  tallied : Tallied r.delivery (droppedCount r.verdicts) (unencodableCount r.verdicts)

theorem accepted_append (verdicts : List (ℕ × Verdict)) (number : ℕ) (v : Verdict) :
    acceptedLines (verdicts ++ [(number, v)]) = acceptedLines verdicts ++ v.line?.toList := by
  rw [acceptedLines, List.filterMap_append]
  cases v <;> rfl

theorem dropped_append (verdicts : List (ℕ × Verdict)) (number : ℕ) (v : Verdict) :
    droppedCount (verdicts ++ [(number, v)]) = droppedCount verdicts + (decide (v = .dropped)).toNat := by
  rw [droppedCount, List.countP_append]
  cases v <;> rfl

theorem unencodable_append (verdicts : List (ℕ × Verdict)) (number : ℕ) (v : Verdict) :
    unencodableCount (verdicts ++ [(number, v)]) = unencodableCount verdicts + (decide (v = .unencodable)).toNat := by
  rw [unencodableCount, List.countP_append]
  cases v <;> rfl

theorem numbers_decided (verdicts : List (ℕ × Verdict)) (encoding : List ℕ) (number issued : ℕ) (v : Verdict)
    (numbers : (verdicts.map Prod.fst ++ encoding).Perm (List.range issued)) (open' : number ∈ encoding) :
    ((verdicts ++ [(number, v)]).map Prod.fst ++ encoding.erase number).Perm (List.range issued) := by
  rw [List.map_append, List.append_assoc]
  exact (List.Perm.append_left _ (List.perm_cons_erase open').symm).trans numbers

theorem numbers_issued (verdicts : List (ℕ × Verdict)) (encoding : List ℕ) (issued : ℕ)
    (numbers : (verdicts.map Prod.fst ++ encoding).Perm (List.range issued)) :
    (verdicts.map Prod.fst ++ issued :: encoding).Perm (List.range (issued + 1)) := by
  rw [List.range_succ]
  calc verdicts.map Prod.fst ++ issued :: encoding
      _ |>.Perm (issued :: (verdicts.map Prod.fst ++ encoding)) := List.perm_middle
      _ |>.Perm (issued :: List.range issued) := numbers.cons issued
      _ |>.Perm (List.range issued ++ [issued]) := (List.perm_append_singleton issued _).symm

theorem start_sound (c : Config) : Sound c Runtime.start where
  numbers := List.Perm.refl []
  held := ⟨rfl, rfl, rfl, rfl, fun _ => rfl, Nat.zero_le _, rfl, Nat.le_refl 0⟩
  tallied := ⟨rfl, rfl⟩

theorem emit_sound (c : Config) (r : Runtime) (severity : Level) (sound : Sound c r) : Sound c (r.emit c severity) := by
  rw [Runtime.emit]
  split_ifs
  · exact sound
  · refine ⟨?_, ?_, ?_⟩
    · have issued := numbers_issued r.verdicts r.encoding r.issued sound.numbers
      have decided := numbers_decided r.verdicts (r.issued :: r.encoding) r.issued (r.issued + 1) .dropped issued List.mem_cons_self
      rwa [List.erase_cons_head] at decided
    · rw [accepted_append]
      simpa [Verdict.line?] using drop_held c r.delivery _ sound.held
    · rw [dropped_append, unencodable_append]
      exact ⟨congrArg (· + 1) sound.tallied.dropped, sound.tallied.failed⟩
  · exact ⟨numbers_issued r.verdicts r.encoding r.issued sound.numbers, sound.held, sound.tallied⟩

theorem encoded_sound (c : Config) (r : Runtime) (number : ℕ) (e : Encoding) (sound : Sound c r) (open' : number ∈ r.encoding) :
    Sound c (r.encoded c number e) := by
  have numbers (v : Verdict) := numbers_decided r.verdicts r.encoding number r.issued v sound.numbers open'
  rw [Runtime.encoded]
  cases result : e.result with
  | none =>
      refine ⟨numbers .unencodable, ?_, ?_⟩
      · rw [accepted_append]
        simpa [Verdict.line?] using fail_held c r.delivery _ sound.held
      · rw [dropped_append, unencodable_append]
        refine ⟨sound.tallied.dropped, ?_⟩
        have failed := sound.tallied.failed
        simp only [Delivery.fail, decide_true, Bool.toNat_true]
        omega
  | some line =>
      refine ⟨numbers _, ?_, ?_⟩
      · rw [accepted_append]
        by_cases refused : r.delivery.refuses c line = true
        · simpa [refused, Delivery.write, Verdict.line?] using drop_held c r.delivery _ sound.held
        · rw [Bool.not_eq_true] at refused
          simpa [refused, Verdict.line?] using write_accepts c r.delivery _ line sound.held refused
      · rw [dropped_append, unencodable_append]
        have tallied := write_tallied c r.delivery line _ _ sound.tallied
        cases refused : r.delivery.refuses c line <;> simpa [refused] using tallied

inductive Served (c : Config) (d : Delivery) : Delivery → Prop where
  | still : Served c d d
  | returned (line : Line) (open' : (line, Stop.inside) ∈ d.writes) :
      Served c d { d with writes := (line, .awaiting) :: d.writes.erase (line, .inside) }
  | written (write : Line × Stop) (ok : Bool) (open' : write ∈ d.writes) : Served c d (d.written c write ok)
  | flushing (open' : Stop.inside ∈ d.flushes) : Served c d { d with flushes := .awaiting :: d.flushes.erase .inside }
  | finish (flush : Stop) (ok : Bool) (open' : flush ∈ d.flushes) : Served c d (d.finish flush ok)
  | close : Served c d (d.close c)

inductive Stepped (c : Config) (r t : Runtime) : Prop where
  | emit (severity : Level) (same : r.emit c severity = t)
  | encoded (number : ℕ) (e : Encoding) (open' : number ∈ r.encoding) (same : r.encoded c number e = t)
  | served (d : Delivery) (closers : List Closer) (served : Served c r.delivery d) (same : { r with delivery := d, closers := closers } = t)

theorem step_stepped (c : Config) (r t : Runtime) (e : Event) (moved : step c r e = some t) : Stepped c r t := by
  cases e with
  | emit severity => exact .emit severity (Option.some.inj moved)
  | encoded number e =>
      obtain ⟨open', same⟩ := Option.ite_none_right_eq_some.mp moved
      exact .encoded number e open' (Option.some.inj same)
  | writeReturned line =>
      obtain ⟨open', same⟩ := Option.ite_none_right_eq_some.mp moved
      exact .served _ r.closers (.returned line open') (Option.some.inj same)
  | writeThrew line =>
      obtain ⟨open', same⟩ := Option.ite_none_right_eq_some.mp moved
      exact .served _ r.closers (.written (line, .inside) false open') (Option.some.inj same)
  | writeSettled line ok =>
      obtain ⟨open', same⟩ := Option.ite_none_right_eq_some.mp moved
      exact .served _ r.closers (.written (line, .awaiting) ok open') (Option.some.inj same)
  | flushReturned =>
      obtain ⟨open', same⟩ := Option.ite_none_right_eq_some.mp moved
      exact .served _ r.closers (.flushing open') (Option.some.inj same)
  | flushThrew =>
      obtain ⟨open', same⟩ := Option.ite_none_right_eq_some.mp moved
      exact .served _ r.closers (.finish .inside false open') (Option.some.inj same)
  | flushSettled ok =>
      obtain ⟨⟨open', _⟩, same⟩ := Option.ite_none_right_eq_some.mp moved
      exact .served _ r.closers (.finish .awaiting ok open') (Option.some.inj same)
  | close timeoutMs =>
      cases moved
      rw [Runtime.close]
      split_ifs
      · exact .served _ _ .close rfl
      · exact .served _ _ .still rfl
  | decide closer late =>
      simp only [step] at moved
      split at moved
      · split_ifs at moved
        cases moved
        exact .served _ _ .still rfl
      · cases moved
  | answer closer =>
      simp only [step] at moved
      split at moved
      · cases moved
        exact .served _ _ .still rfl
      · cases moved

theorem served_held (c : Config) (d d' : Delivery) (lines : List Line) (held : Held c d lines) (served : Served c d d') :
    Held c d' lines := by
  cases served with
  | still => exact held
  | returned line open' => exact returned_held c d lines line held open'
  | written write ok open' => exact written_held c d lines write ok held open'
  | flushing open' => exact flush_returned_held c d lines held open'
  | finish flush ok open' => exact finish_held c d lines flush ok held open'
  | close => exact close_held c d lines held

theorem served_tallied (c : Config) (d d' : Delivery) (dropped unencodable : ℕ) (tallied : Tallied d dropped unencodable)
    (served : Served c d d') : Tallied d' dropped unencodable := by
  cases served with
  | still => exact tallied
  | returned line open' => exact ⟨tallied.dropped, tallied.failed⟩
  | written write ok open' => exact written_tallied c d write ok dropped unencodable tallied
  | flushing open' => exact ⟨tallied.dropped, tallied.failed⟩
  | finish flush ok open' => exact finish_tallied d flush ok dropped unencodable tallied
  | close => exact close_tallied c d dropped unencodable tallied

theorem step_sound (c : Config) (r t : Runtime) (e : Event) (sound : Sound c r) (moved : step c r e = some t) : Sound c t := by
  cases step_stepped c r t e moved with
  | emit severity same => exact same ▸ emit_sound c r severity sound
  | encoded number e open' same => exact same ▸ encoded_sound c r number e sound open'
  | served d closers served same =>
      subst same
      exact ⟨sound.numbers, served_held c r.delivery d _ sound.held served, served_tallied c r.delivery d _ _ sound.tallied served⟩

theorem reachable_sound (c : Config) (r : Runtime) (reached : (machine c).Reachable r) : Sound c r := by
  apply (machine c).invariant (Sound c) (start_sound c) _ r reached
  intro s t e _ sound moved
  exact step_sound c s t e sound moved

theorem written_closed (c : Config) (d : Delivery) (write : Line × Stop) (ok : Bool) : (d.written c write ok).closed = d.closed := by
  cases ok with
  | true => exact (pump_kept c _).2.1
  | false => exact (pump_kept c _).2.1

theorem finish_closed (d : Delivery) (flush : Stop) (ok : Bool) : (d.finish flush ok).closed = d.closed := by
  cases ok <;> rfl

theorem close_closes (c : Config) (d : Delivery) : (d.close c).closed = true := by
  rw [Delivery.close]
  split_ifs with closed
  · exact closed
  · rfl
  · exact (flush_kept c _).2.1

theorem served_closed (c : Config) (d d' : Delivery) (closed : d.closed = true) (served : Served c d d') : d'.closed = true := by
  cases served with
  | still => exact closed
  | returned line open' => exact closed
  | written write ok open' => exact (written_closed c d write ok).trans closed
  | flushing open' => exact closed
  | finish flush ok open' => exact (finish_closed d flush ok).trans closed
  | close => exact close_closes c d

theorem step_closed (c : Config) (r t : Runtime) (e : Event) (closed : r.delivery.closed = true) (moved : step c r e = some t) :
    t.delivery.closed = true ∧ acceptedLines t.verdicts = acceptedLines r.verdicts := by
  cases step_stepped c r t e moved with
  | emit severity same =>
      rw [← same, Runtime.emit, if_pos closed]
      split_ifs
      · exact ⟨closed, rfl⟩
      · refine ⟨closed, ?_⟩
        simp [accepted_append, Verdict.line?]
  | encoded number e open' same =>
      rw [← same, Runtime.encoded]
      cases e.result with
      | none =>
          refine ⟨closed, ?_⟩
          simp [accepted_append, Verdict.line?]
      | some line =>
          have refused : r.delivery.refuses c line = true := by simp [Delivery.refuses, closed]
          refine ⟨?_, ?_⟩
          · simp only [Delivery.write, refused, if_true]
            exact closed
          · simp [accepted_append, refused, Verdict.line?]
  | served d closers served same =>
      subst same
      exact ⟨served_closed c r.delivery d closed served, rfl⟩

theorem run_closed (c : Config) (r t : Runtime) (later : List Event) (closed : r.delivery.closed = true)
    (ran : (machine c).run r later = some t) : acceptedLines t.verdicts = acceptedLines r.verdicts := by
  have kept := (machine c).run_keeps (fun u => u.delivery.closed = true ∧ acceptedLines u.verdicts = acceptedLines r.verdicts)
  refine (kept ?_ r t later ⟨closed, rfl⟩ ran).2
  rintro s u e ⟨shut, same⟩ moved
  obtain ⟨still, same'⟩ := step_closed c s u e shut moved
  exact ⟨still, same'.trans same⟩

structure Accounted (c : Config) (r : Runtime) : Prop where
  classified : (r.verdicts.map Prod.fst ++ r.encoding).Perm (List.range r.issued)
  accepted : r.delivery.counts.accepted = (acceptedLines r.verdicts).length
  dropped : r.delivery.counts.dropped = droppedCount r.verdicts
  failed : r.delivery.counts.failed = unencodableCount r.verdicts + r.delivery.lost + r.delivery.spoiled
  balance : r.delivery.counts.accepted =
    r.delivery.counts.written + r.delivery.lost + r.delivery.queue.length + r.delivery.writes.length
  single : r.delivery.writes.length ≤ 1
  order : acceptedLines r.verdicts = r.delivery.handed ++ r.delivery.queue
  room : r.delivery.queue.length ≤ c.capacity
  flushedOnce : r.delivery.flushed ≤ 1
  flushedLast : r.delivery.flushed = 0 ∨ r.delivery.closed = true ∧ r.delivery.queue = [] ∧ r.delivery.writes = []

theorem sound_accounted (c : Config) (r : Runtime) (sound : Sound c r) : Accounted c r where
  classified := sound.numbers
  accepted := sound.held.accepted
  dropped := sound.tallied.dropped
  failed := sound.tallied.failed
  balance := by
    have handed := sound.held.handed
    rw [sound.held.accepted, sound.held.order, List.length_append]
    omega
  single := by
    rw [sound.held.one]
    split_ifs <;> decide
  order := sound.held.order
  room := sound.held.room
  flushedOnce := Nat.le_trans sound.held.flushed (Bool.toNat_le _)
  flushedLast := by
    have flushed := sound.held.flushed
    have one := sound.held.one
    cases ended : r.delivery.closed && !r.delivery.running with
    | false =>
        rw [ended] at flushed
        exact .inl (Nat.le_zero.mp flushed)
    | true =>
        simp only [Bool.and_eq_true, Bool.not_eq_true'] at ended
        rw [ended.2] at one
        exact .inr ⟨ended.1, sound.held.idle ended.2, List.eq_nil_of_length_eq_zero one⟩

theorem emissions_accounted (c : Config) (r : Runtime) (reached : (machine c).Reachable r) :
    Accounted c r ∧ ∀ timeoutMs t u later, validDeadline timeoutMs = true → step c r (.close timeoutMs) = some t →
      (machine c).run t later = some u → acceptedLines u.verdicts = acceptedLines r.verdicts := by
  refine ⟨sound_accounted c r (reachable_sound c r reached), ?_⟩
  intro timeoutMs t u later valid moved ran
  cases moved
  have closed : (r.close c timeoutMs).delivery.closed = true := by
    rw [Runtime.close, if_pos valid]
    exact close_closes c r.delivery
  have same : (r.close c timeoutMs).verdicts = r.verdicts := by rw [Runtime.close, if_pos valid]
  rw [run_closed c _ u later closed ran, same]

def demoConfig : Config := ⟨.info, 1, 64, true, Nat.le_refl 1⟩

def demoRecord (line : Line) : Encoding := ⟨false, .time 0, some line⟩

def demoOpen : List Event :=
  [.emit .info, .encoded 0 (demoRecord ['a']), .emit .warn, .encoded 1 (demoRecord ['b']), .emit .debug, .emit .error,
    .encoded 2 (demoRecord ['c']), .writeReturned ['a']]

def demoClosed : List Event := [.writeSettled ['a'] true, .emit .error, .writeThrew ['b']]

theorem emissions_accounted_demo : ∃ r u, (machine demoConfig).run Runtime.start demoOpen = some r ∧
    (machine demoConfig).run r (.close Ecma.Number.zero :: demoClosed) = some u ∧ Accounted demoConfig r ∧
    acceptedLines u.verdicts = acceptedLines r.verdicts := by
  have ran : ((machine demoConfig).run Runtime.start demoOpen).any
      (fun r => ((machine demoConfig).run r (.close Ecma.Number.zero :: demoClosed)).isSome) = true := by decide +kernel
  cases opened : (machine demoConfig).run Runtime.start demoOpen with
  | none => simp [opened] at ran
  | some r =>
      rw [opened] at ran
      obtain ⟨u, closed⟩ := Option.isSome_iff_exists.mp ran
      obtain ⟨t, moved, later⟩ := Option.bind_eq_some_iff.mp closed
      obtain ⟨accounted, quiet⟩ := emissions_accounted demoConfig r ((machine demoConfig).run_reachable _ r demoOpen .start opened)
      exact ⟨r, u, rfl, closed, accounted, quiet Ecma.Number.zero t u demoClosed (by decide +kernel) moved later⟩

end N2F.Logger

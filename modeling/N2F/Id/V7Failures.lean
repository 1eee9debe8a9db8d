import N2F.Id.V7

set_option autoImplicit false

namespace N2F

open Ecma

-- A call up to its entropy: it is over, or bytes are asked for and come or are refused.
inductive Filling where
  | over (answer : Result Str) (g : V7)
  | fill (bytes : ℕ) (next : Option Entropy → Filling)

def V7.begin (g : V7) (now : Number) : Filling :=
  match wallMillis now with
  | none => .over (.error (failure .invalid "ID timestamp out of range" "id.time_range")) g
  | some wall =>
      let fresh := g.last.all (· < wall)
      let ms := if fresh then wall else g.last.getD wall
      if !fresh && g.counter = 4095 then .over (.error (failure .unavailable "ID counter exhausted" "id.exhausted")) g
      else
        .fill 10 fun entropy =>
          match entropy with
          | none => .over (.error (failure .unavailable "ID entropy unavailable" "id.entropy")) g
          | some random =>
              let counter := if fresh then seed random else g.counter + 1
              .over (.ok (encodeV7 ms counter (random.toList.drop 2))) ⟨some ms, counter⟩

def Filling.finish (entropy : Option Entropy) : Filling → Result Str × V7
  | .over answer g => (answer, g)
  | .fill _ next => (next entropy).finish entropy

def Filling.requests (entropy : Option Entropy) : Filling → List ℕ
  | .over _ _ => []
  | .fill bytes next => bytes :: (next entropy).requests entropy

def V7.Exhausted (g : V7) (now : Number) : Prop :=
  g.counter = 4095 ∧ ∃ wall last, wallMillis now = some wall ∧ g.last = some last ∧ wall ≤ last

structure IdRecord where
  answer : Result Str
  requests : List ℕ

def V7.record (g : V7) (call : IdCall) : IdRecord :=
  ⟨((g.begin call.now).finish call.entropy).1, (g.begin call.now).requests call.entropy⟩

def V7.next (g : V7) (call : IdCall) : V7 := ((g.begin call.now).finish call.entropy).2

def V7.records (g : V7) : List IdCall → List IdRecord
  | [] => []
  | call :: rest => g.record call :: (g.next call).records rest

def V7.after (g : V7) : List IdCall → V7
  | [] => g
  | call :: rest => (g.next call).after rest

def kept {α : Type} : List Bool → List α → List α
  | true :: keep, x :: xs => x :: kept keep xs
  | false :: keep, _ :: xs => kept keep xs
  | [], xs => xs
  | _ :: _, [] => []

theorem begin_finish (g : V7) (now : Number) (entropy : Option Entropy) :
    (g.begin now).finish entropy = g.newId now entropy := by
  cases read : wallMillis now with
  | none => simp only [V7.begin, V7.newId, read, Filling.finish]
  | some wall =>
      simp only [V7.begin, V7.newId, read]
      split
      · rfl
      · cases entropy <;> rfl

theorem exhausted_iff (g : V7) (now : Number) (wall : ℕ) (read : wallMillis now = some wall) :
    (!g.last.all (· < wall) && decide (g.counter = 4095)) = true ↔ g.Exhausted now := by
  rw [Bool.and_eq_true, decide_eq_true_iff, Bool.not_eq_true', V7.Exhausted]
  constructor
  · rintro ⟨stale, full⟩
    cases started : g.last with
    | none => simp [started] at stale
    | some last => exact ⟨full, wall, last, read, rfl, by simpa [started] using stale⟩
  · rintro ⟨full, wall', last, read', started, behind⟩
    obtain rfl : wall = wall' := Option.some.inj (read.symm.trans read')
    exact ⟨by simpa [started] using behind, full⟩

theorem begin_requests (g : V7) (now : Number) (entropy : Option Entropy) :
    ((wallMillis now = none ∨ g.Exhausted now) → (g.begin now).requests entropy = []) ∧
    (¬ (wallMillis now = none ∨ g.Exhausted now) → (g.begin now).requests entropy = [10]) := by
  cases read : wallMillis now with
  | none => exact ⟨fun _ => by simp only [V7.begin, read, Filling.requests], fun held => absurd (.inl rfl) held⟩
  | some wall =>
      simp only [reduceCtorEq, false_or, ← exhausted_iff g now wall read]
      constructor
      · intro exhausted
        simp only [V7.begin, read, exhausted, if_true, Filling.requests]
      · intro room
        simp only [V7.begin, read, if_neg room, Filling.requests]
        cases entropy <;> rfl

theorem failed_next (g : V7) (call : IdCall) (e : Failure) (failed : (g.record call).answer = .error e) : g.next call = g := by
  simp only [V7.record, begin_finish] at failed
  simp only [V7.next, begin_finish]
  exact new_id_error g _ call.now call.entropy e (Prod.ext failed rfl)

theorem kept_records (g : V7) (keep : List Bool) (calls : List IdCall)
    (failing : ∀ i : ℕ, keep[i]? = some false → ∀ r, (g.records calls)[i]? = some r → ∃ e, r.answer = .error e) :
    g.records (kept keep calls) = kept keep (g.records calls) := by
  induction calls generalizing g keep with
  | nil => cases keep with
    | nil => rfl
    | cons k keep => cases k <;> rfl
  | cons call rest ih =>
      cases keep with
      | nil => rfl
      | cons k keep =>
          have later (i : ℕ) (dropped : keep[i]? = some false) (r : IdRecord) (here : ((g.next call).records rest)[i]? = some r) :
              ∃ e, r.answer = .error e := failing (i + 1) dropped r here
          cases k with
          | true => exact congrArg (g.record call :: ·) (ih (g.next call) keep later)
          | false =>
              obtain ⟨e, failed⟩ := failing 0 rfl (g.record call) rfl
              rw [failed_next g call e failed] at later
              simp only [kept, V7.records, failed_next g call e failed]
              exact ih g keep later

theorem failed_ids_leave_no_trace (g : V7) :
    (∀ (keep : List Bool) (calls : List IdCall),
      (∀ i : ℕ, keep[i]? = some false → ∀ r, (g.records calls)[i]? = some r → ∃ e, r.answer = .error e) →
        g.records (kept keep calls) = kept keep (g.records calls)) ∧
    ∀ (now : Number) (entropy : Option Entropy),
      (g.begin now).finish entropy = g.newId now entropy ∧
      ((wallMillis now = none ∨ g.Exhausted now) → (g.begin now).requests entropy = []) ∧
      (¬ (wallMillis now = none ∨ g.Exhausted now) → (g.begin now).requests entropy = [10]) :=
  ⟨kept_records g, fun now entropy => ⟨begin_finish g now entropy, begin_requests g now entropy⟩⟩

def demoCalls : List IdCall :=
  let random : Entropy := Vector.replicate 10 7
  [⟨.negZero, some random⟩, ⟨.nan, some random⟩, ⟨.negZero, none⟩, ⟨.negZero, some random⟩]

theorem failed_ids_leave_no_trace_demo :
    V7.new.records (kept [true, false, false, true] demoCalls) = kept [true, false, false, true] (V7.new.records demoCalls) := by
  refine (failed_ids_leave_no_trace V7.new).1 [true, false, false, true] demoCalls fun i dropped r here => ?_
  have answers : (V7.new.records demoCalls).map (fun r => r.answer.isOk) = [true, false, false, true] := by decide +kernel
  have answered : [true, false, false, true][i]? = some r.answer.isOk := by
    rw [← answers, List.getElem?_map, here]
    rfl
  rw [dropped] at answered
  cases failed : r.answer with
  | error e => exact ⟨e, rfl⟩
  | ok id =>
      rw [failed] at answered
      cases answered

end N2F

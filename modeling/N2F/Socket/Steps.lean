import N2F.Socket.Server

set_option autoImplicit false

namespace N2F.Socket

def turns (v : ℕ) : Stage → ConnectionEvent → Prop
  | .handling, .settled number _ => number = v
  | .sending, .sent number _ => number = v
  | .ended, .cleared number => number = v
  | .gone, .cleaned => True
  | _, _ => False

inductive Stepped (c c' : Connection) : ConnectionEvent → Prop where
  | aside (e : ConnectionEvent) (pong closing terminated : Bool) (codes : List (ℕ × String))
      (later : c.closing = true → closing = true) (calm : ∀ v stage, ¬ turns v stage e)
      (same : { c with pong := pong, closing := closing, terminated := terminated, codes := codes } = c') : Stepped c c' e
  | start (frame : Frame) (m : Message) (unasked : c.cleanup = .unasked) (idle : c.pending = none)
      (same : { c with works := c.works ++ [⟨m, .handling, false⟩], pending := some c.works.length } = c') : Stepped c c' (.message frame)
  | finish (e : ConnectionEvent) (number : ℕ) (w : Work) (closing : Bool) (codes : List (ℕ × String))
      (found : c.works[number]? = some w) (running : w.stage = .handling ∨ w.stage = .sending) (turn : turns number w.stage e)
      (later : c.closing = true → closing = true)
      (same : { c with closing := closing, codes := codes }.put number { w with stage := .ended } = c') : Stepped c c' e
  | send (number : ℕ) (w : Work) (outcome : Outcome) (body : ByteArray) (found : c.works[number]? = some w)
      (running : w.stage = .handling) (live : w.aborted = false) (opened : c.closing = false)
      (same : { c with sent := c.sent ++ [(number, body)] }.put number { w with stage := .sending } = c') :
      Stepped c c' (.settled number outcome)
  | timeout (number : ℕ) (w : Work) (found : c.works[number]? = some w) (running : w.stage = .handling ∨ w.stage = .sending)
      (same : (c.put number { w with aborted := true }).terminate = c') : Stepped c c' (.timeout number)
  | clear (number : ℕ) (w : Work) (found : c.works[number]? = some w) (ended : w.stage = .ended)
      (same : { c.put number { w with stage := .gone } with pending := none } = c') : Stepped c c' (.cleared number)
  | close (unasked : c.cleanup = .unasked) (same : c.close = c') : Stepped c c' .close
  | cleaned (target : Option ℕ) (asked : c.cleanup = .awaiting target)
      (gone : ∀ v, target = some v → ∃ a, c.works[v]? = some a ∧ a.stage = .gone) (same : c.cleaned = c') : Stepped c c' .cleaned

theorem at_some_iff (c c' : Connection) (number : ℕ) (stages : List Stage) (f : Work → Connection) :
    c.at number stages f = some c' ↔ ∃ w, c.works[number]? = some w ∧ w.stage ∈ stages ∧ f w = c' := by
  rw [Connection.at, Option.bind_eq_some_iff]
  simp only [Option.ite_none_right_eq_some, Option.some.injEq]

theorem refused (c : Connection) (e : ConnectionEvent) (code : ℕ) (reason : String) (calm : ∀ v stage, ¬ turns v stage e) :
    Stepped c (c.refuse code reason) e :=
  .aside e c.pong true c.terminated (c.codes ++ [(code, reason)]) (fun _ => rfl) calm rfl

theorem calm (e : ConnectionEvent) (aside : (∃ frame, e = .message frame) ∨ e = .heartbeat ∨ e = .pong) (v : ℕ) (stage : Stage) :
    ¬ turns v stage e := by
  rcases aside with ⟨frame, rfl⟩ | rfl | rfl
  · cases stage with
    | _ => exact id
  · cases stage with
    | _ => exact id
  · cases stage with
    | _ => exact id

theorem message_stepped (c : Connection) (frame : Frame) (unasked : c.cleanup = .unasked) :
    Stepped c (c.message frame) (.message frame) := by
  have still := calm (.message frame) (.inl ⟨frame, rfl⟩)
  rw [Connection.message]
  by_cases closing : c.closing = true
  · rw [if_pos closing]
    exact .aside _ c.pong c.closing c.terminated c.codes id still rfl
  · rw [if_neg closing]
    by_cases busy : c.pending.isSome = true
    · rw [if_pos busy]
      exact refused c _ 1013 _ still
    · rw [if_neg busy]
      by_cases binary : frame.binary = true
      · rw [if_pos binary]
        exact refused c _ 1003 _ still
      · rw [if_neg binary]
        cases Message.decode frame.raw with
        | error e => exact refused c _ 1008 _ still
        | ok m => exact .start frame m unasked (Option.not_isSome_iff_eq_none.mp busy) rfl

theorem failed (c : Connection) (e : ConnectionEvent) (number : ℕ) (w : Work) (found : c.works[number]? = some w)
    (running : w.stage = .handling ∨ w.stage = .sending) (turn : turns number w.stage e) : Stepped c (c.fail number w) e :=
  .finish e number w true (c.codes ++ [(1011, "message failed")]) found running turn (fun _ => rfl) rfl

theorem finished (c : Connection) (e : ConnectionEvent) (number : ℕ) (w : Work) (found : c.works[number]? = some w)
    (running : w.stage = .handling ∨ w.stage = .sending) (turn : turns number w.stage e) :
    Stepped c (c.put number { w with stage := .ended }) e :=
  .finish e number w c.closing c.codes found running turn id rfl

theorem settle_stepped (c : Connection) (number : ℕ) (w : Work) (outcome : Outcome) (found : c.works[number]? = some w)
    (running : w.stage = .handling) : Stepped c (c.settle number w outcome) (.settled number outcome) := by
  have turn : turns number w.stage (.settled number outcome) := by rw [running]; rfl
  cases outcome with
  | threw => exact failed c _ number w found (.inl running) turn
  | returned response =>
      rw [Connection.settle]
      by_cases past : (w.aborted || c.closing) = true
      · rw [if_pos past]
        exact finished c _ number w found (.inl running) turn
      · rw [if_neg past]
        cases response.bind Message.encode with
        | error e => exact failed c _ number w found (.inl running) turn
        | ok body =>
            rw [Bool.not_eq_true, Bool.or_eq_false_iff] at past
            exact .send number w _ body found running past.1 past.2 rfl

theorem cleaned_inv (c c' : Connection) (moved : c.step .cleaned = some c') : ∃ target, c.cleanup = .awaiting target ∧
    (∀ v, target = some v → ∃ a, c.works[v]? = some a ∧ a.stage = .gone) ∧ c.cleaned = c' := by
  rw [Connection.step] at moved
  cases asked : c.cleanup with
  | unasked =>
      rw [asked] at moved
      cases moved
  | done =>
      rw [asked] at moved
      cases moved
  | awaiting target =>
      cases target with
      | none =>
          rw [asked] at moved
          injection moved with same
          exact ⟨none, rfl, nofun, same⟩
      | some number =>
          rw [asked] at moved
          obtain ⟨w, found, stage, same⟩ := (at_some_iff c c' number _ _).mp moved
          refine ⟨some number, rfl, ?_, same⟩
          intro v own
          injection own with own
          exact own ▸ ⟨w, found, List.mem_singleton.mp stage⟩

theorem step_stepped (c c' : Connection) (e : ConnectionEvent) (moved : c.step e = some c') : Stepped c c' e := by
  cases e with
  | message frame =>
      obtain ⟨unasked, same⟩ := Option.ite_none_right_eq_some.mp moved
      injection same with same
      exact same ▸ message_stepped c frame unasked
  | settled number outcome =>
      obtain ⟨w, found, stage, same⟩ := (at_some_iff c c' number _ _).mp moved
      exact same ▸ settle_stepped c number w outcome found (List.mem_singleton.mp stage)
  | sent number ok =>
      obtain ⟨w, found, stage, same⟩ := (at_some_iff c c' number _ _).mp moved
      have running : w.stage = .sending := List.mem_singleton.mp stage
      have turn : turns number w.stage (.sent number ok) := by rw [running]; rfl
      cases ok with
      | true => exact same ▸ finished c _ number w found (.inr running) turn
      | false => exact same ▸ failed c _ number w found (.inr running) turn
  | cleared number =>
      obtain ⟨w, found, stage, same⟩ := (at_some_iff c c' number _ _).mp moved
      exact .clear number w found (List.mem_singleton.mp stage) same
  | timeout number =>
      obtain ⟨w, found, stage, same⟩ := (at_some_iff c c' number _ _).mp moved
      exact .timeout number w found (by simpa using stage) same
  | heartbeat =>
      obtain ⟨_, same⟩ := Option.ite_none_right_eq_some.mp moved
      injection same with same
      rw [← same, Connection.heartbeat]
      by_cases answered : c.pong = true
      · rw [if_pos answered]
        exact .aside _ false c.closing c.terminated c.codes id (calm _ (.inr (.inl rfl))) rfl
      · rw [if_neg answered]
        exact .aside _ c.pong c.closing true c.codes id (calm _ (.inr (.inl rfl))) rfl
  | pong =>
      injection moved with same
      exact .aside _ true c.closing c.terminated c.codes id (calm _ (.inr (.inr rfl))) same
  | close =>
      obtain ⟨unasked, same⟩ := Option.ite_none_right_eq_some.mp moved
      injection same with same
      exact .close unasked same
  | cleaned =>
      obtain ⟨target, asked, gone, same⟩ := cleaned_inv c c' moved
      exact .cleaned target asked gone same

end N2F.Socket

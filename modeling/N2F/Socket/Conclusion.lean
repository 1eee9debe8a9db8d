import N2F.Socket.Completion

set_option autoImplicit false

namespace N2F.Socket

variable {origin : String}

theorem owed (x : (machine origin).Execution) (P Q : Connection → Prop) (awaited : ConnectionEvent → Prop)
    (departs : ∀ c, P c → P c.depart) (halts : ∀ c, P c → P c.halt)
    (kept : ∀ c e c', P c → ¬ awaited e → c.step e = some c' → P c') (lands : ∀ c e c', P c → awaited e → c.step e = some c' → Q c')
    (n i : ℕ) (holds : On i P (x.states n)) (comes : ∃ k a, n ≤ k ∧ x.actions k = some a ∧ ∃ e, a = .on i e ∧ awaited e) :
    ∃ k, n ≤ k ∧ On i Q (x.states k) := by
  obtain ⟨k, a, later, ⟨e, same, now⟩, holds, moved⟩ :=
    x.response (On i P) (fun a => ∃ e, a = .on i e ∧ awaited e) (fun s t a holds other moved =>
      on_step P i s t a departs halts (fun c e c' holds own went => kept c e c' holds (fun now => other ⟨e, own, now⟩) went) holds moved)
      n holds comes
  subst same
  refine ⟨k + 1, by omega, ?_⟩
  obtain ⟨c, found, went⟩ := Option.bind_eq_some_iff.mp moved
  obtain ⟨c', went, same⟩ := Option.map_eq_some_iff.mp went
  obtain ⟨d, there, holds⟩ := holds
  rw [found] at there
  injection there with own
  subst own
  exact ⟨c', by rw [← same, after_at _ i e c c' found, if_pos rfl], lands c e c' holds now went⟩

theorem turns_same (v number : ℕ) (stage stage' : Stage) (e : ConnectionEvent) (running : stage ≠ .gone) (turn : turns v stage e)
    (turn' : turns number stage' e) : number = v := by
  cases e with
  | settled u outcome =>
      cases stage with
      | handling =>
          cases stage' with
          | handling => exact (turn' : u = number) ▸ turn
          | _ => exact turn'.elim
      | _ => exact turn.elim
  | sent u ok =>
      cases stage with
      | sending =>
          cases stage' with
          | sending => exact (turn' : u = number) ▸ turn
          | _ => exact turn'.elim
      | _ => exact turn.elim
  | cleared u =>
      cases stage with
      | ended =>
          cases stage' with
          | ended => exact (turn' : u = number) ▸ turn
          | _ => exact turn'.elim
      | _ => exact turn.elim
  | cleaned =>
      cases stage with
      | gone => exact absurd rfl running
      | _ => exact turn.elim
  | _ =>
      cases stage with
      | _ => exact turn.elim

theorem running_ends (v : ℕ) (stage : Stage) (aborted : Bool) (c c' : Connection) (e : ConnectionEvent)
    (running : stage = .handling ∨ stage = .sending) (waits : Waiting v stage aborted c) (turn : turns v stage e)
    (moved : c.step e = some c') : Waiting v .ended false c' := by
  have left := running_left stage running
  cases step_stepped c c' e moved with
  | aside _ _ _ _ _ _ calm _ => exact absurd turn (calm v stage)
  | start _ _ unasked _ _ =>
      rw [waits.asked] at unasked
      cases unasked
  | finish _ number w closing codes found _ turn' later same =>
      have own := turns_same v number stage w.stage e left turn turn'
      subst own
      have there := put_at { c with closing := closing, codes := codes } number w { w with stage := .ended } found number
      rw [if_pos rfl] at there
      exact ⟨same ▸ waits.asked, same ▸ later waits.closing, { w with stage := .ended }, same ▸ there, rfl, nofun⟩
  | send _ _ _ _ _ _ _ opened _ =>
      rw [waits.closing] at opened
      cases opened
  | timeout number w _ _ _ =>
      cases stage with
      | _ => exact turn.elim
  | clear number w _ ended _ =>
      cases stage with
      | ended =>
          rcases running with running | running
          · cases running
          · cases running
      | _ => exact turn.elim
  | close unasked _ =>
      rw [waits.asked] at unasked
      cases unasked
  | cleaned target asked gone _ =>
      cases stage with
      | gone => exact absurd rfl left
      | _ => exact turn.elim

theorem ended_goes (v : ℕ) (aborted : Bool) (c c' : Connection) (e : ConnectionEvent) (waits : Waiting v .ended aborted c)
    (turn : turns v .ended e) (moved : c.step e = some c') : Waiting v .gone false c' := by
  cases e with
  | cleared number =>
      obtain ⟨w, found, _, same⟩ := (at_some_iff c c' number _ _).mp moved
      have there := put_at c number w { w with stage := .gone } found number
      rw [if_pos rfl] at there
      exact ⟨same ▸ waits.asked, same ▸ waits.closing, { w with stage := .gone }, same ▸ (turn : number = v) ▸ there, rfl, nofun⟩
  | _ => exact turn.elim

theorem timer_aborts (v : ℕ) (aborted : Bool) (c c' : Connection) (waits : Waiting v .handling aborted c)
    (moved : c.step (.timeout v) = some c') : Waiting v .handling true c' := by
  obtain ⟨w, found, _, same⟩ := (at_some_iff c c' v _ _).mp moved
  obtain ⟨a, here, stage, _⟩ := waits.work
  rw [found] at here
  injection here with own
  have there := put_at c v w { w with aborted := true } found v
  rw [if_pos rfl] at there
  exact ⟨same ▸ waits.asked, same ▸ waits.closing, { w with aborted := true }, same ▸ there, own ▸ stage, fun _ => rfl⟩

theorem gone_finishes (v : ℕ) (c c' : Connection) (e : ConnectionEvent) (turn : turns v .gone e)
    (moved : c.step e = some c') : c'.cleanup = .done := by
  cases e with
  | cleaned =>
      obtain ⟨_, _, _, same⟩ := cleaned_inv c c' moved
      exact same ▸ rfl
  | _ => exact turn.elim

section Conclusion

variable (x : (machine origin).Execution) (n i : ℕ)

theorem waiting_leads (Q : Connection → Prop) (v : ℕ) (stage : Stage) (aborted : Bool)
    (lands : ∀ c e c', Waiting v stage aborted c → turns v stage e → c.step e = some c' → Q c')
    (holds : On i (Waiting v stage aborted) (x.states n))
    (comes : ∃ k a, n ≤ k ∧ x.actions k = some a ∧ ∃ e, a = .on i e ∧ turns v stage e) : ∃ k, n ≤ k ∧ On i Q (x.states k) := by
  apply owed x (Waiting v stage aborted) Q (turns v stage) _ (waiting_halt v stage aborted) _ lands n i holds comes
  · intro c waits
    exact ⟨waits.asked, waits.closing, waits.work⟩
  · intro c e c' waits other moved
    exact waiting_kept v stage aborted c c' e waits moved other

def Over (c : Connection) : Prop := c.cleanup = .done

variable {x} (fair : Fair origin x)

include fair

theorem gone_over (v : ℕ) (holds : On i (Waiting v .gone false) (x.states n)) : ∃ k, n ≤ k ∧ On i Over (x.states k) := by
  apply waiting_leads x n i Over v .gone false _ holds
  · obtain ⟨c, found, waits⟩ := holds
    obtain ⟨a, here, stage, _⟩ := waits.work
    have finished : ∀ u, some v = some u → ∃ a, c.works[u]? = some a ∧ a.stage = .gone := by
      intro u same
      injection same with same
      exact ⟨a, same ▸ here, stage⟩
    obtain ⟨k, action, later, comes, same⟩ := fair.cleanups n i ⟨c, found, some v, waits.asked, finished⟩
    exact ⟨k, action, later, comes, .cleaned, same, trivial⟩
  · intro c e c' _ turn moved
    exact gone_finishes v c c' e turn moved

theorem ended_over (v : ℕ) (holds : On i (Waiting v .ended false) (x.states n)) : ∃ k, n ≤ k ∧ On i Over (x.states k) := by
  have goes : ∃ k, n ≤ k ∧ On i (Waiting v .gone false) (x.states k) := by
    apply waiting_leads x n i (Waiting v .gone false) v .ended false _ holds
    · obtain ⟨c, found, waits⟩ := holds
      obtain ⟨a, here, stage, _⟩ := waits.work
      exact fair.jobs n i v .ended (.inr rfl) ⟨c, found, a, here, stage⟩
    · intro c e c' waits turn moved
      exact ended_goes v false c c' e waits turn moved
  obtain ⟨k, later, gone⟩ := goes
  obtain ⟨k', later', past⟩ := gone_over k i fair v gone
  exact ⟨k', later.trans later', past⟩

theorem running_over (v : ℕ) (stage : Stage) (aborted : Bool) (running : stage = .handling ∨ stage = .sending)
    (holds : On i (Waiting v stage aborted) (x.states n))
    (comes : ∃ k a, n ≤ k ∧ x.actions k = some a ∧ ∃ e, a = .on i e ∧ turns v stage e) : ∃ k, n ≤ k ∧ On i Over (x.states k) := by
  have ends : ∃ k, n ≤ k ∧ On i (Waiting v .ended false) (x.states k) := by
    apply waiting_leads x n i (Waiting v .ended false) v stage aborted _ holds comes
    intro c e c' waits turn moved
    exact running_ends v stage aborted c c' e running waits turn moved
  obtain ⟨k, later, ended⟩ := ends
  obtain ⟨k', later', past⟩ := ended_over k i fair v ended
  exact ⟨k', later.trans later', past⟩

theorem sending_over (v : ℕ) (holds : On i (Waiting v .sending false) (x.states n)) : ∃ k, n ≤ k ∧ On i Over (x.states k) := by
  apply running_over n i fair v .sending false (.inr rfl) holds
  obtain ⟨c, found, waits⟩ := holds
  obtain ⟨a, here, stage, _⟩ := waits.work
  exact fair.jobs n i v .sending (.inl rfl) ⟨c, found, a, here, stage⟩

theorem aborted_over (v : ℕ) (holds : On i (Waiting v .handling true) (x.states n)) : ∃ k, n ≤ k ∧ On i Over (x.states k) := by
  apply running_over n i fair v .handling true (.inl rfl) holds
  obtain ⟨c, found, waits⟩ := holds
  obtain ⟨a, here, stage, aborted⟩ := waits.work
  exact fair.handlers n i v ⟨c, found, a, here, stage, aborted rfl⟩

theorem handling_over (v : ℕ) (holds : On i (Waiting v .handling false) (x.states n)) : ∃ k, n ≤ k ∧ On i Over (x.states k) := by
  have turned : ∃ k, n ≤ k ∧ On i (fun c => Waiting v .handling true c ∨ Waiting v .ended false c) (x.states k) := by
    apply owed x (Waiting v .handling false) _ (fun e => e = .timeout v ∨ turns v .handling e) _ (waiting_halt v .handling false) _ _ n i holds
    · obtain ⟨c, found, waits⟩ := holds
      obtain ⟨a, here, stage, _⟩ := waits.work
      exact fair.timers n i v ⟨c, found, a, here, stage⟩
    · intro c waits
      exact ⟨waits.asked, waits.closing, waits.work⟩
    · intro c e c' waits other moved
      exact waiting_kept v .handling false c c' e waits moved (fun turn => other (.inr turn))
    · rintro c e c' waits (timeout | turn) moved
      · subst timeout
        exact .inl (timer_aborts v false c c' waits moved)
      · exact .inr (running_ends v .handling false c c' e (.inl rfl) waits turn moved)
  obtain ⟨k, later, c, found, aborted | ended⟩ := turned
  · obtain ⟨k', later', past⟩ := aborted_over k i fair v ⟨c, found, aborted⟩
    exact ⟨k', later.trans later', past⟩
  · obtain ⟨k', later', past⟩ := ended_over k i fair v ⟨c, found, ended⟩
    exact ⟨k', later.trans later', past⟩

theorem idle_over (holds : On i (fun c => c.cleanup = .awaiting none) (x.states n)) : ∃ k, n ≤ k ∧ On i Over (x.states k) := by
  apply owed x (fun c => c.cleanup = .awaiting none) Over (fun e => e = .cleaned) _ _ _ _ n i holds
  · obtain ⟨c, found, asked⟩ := holds
    obtain ⟨k, action, later, comes, same⟩ := fair.cleanups n i ⟨c, found, none, asked, nofun⟩
    exact ⟨k, action, later, comes, .cleaned, same, rfl⟩
  · intro c asked
    exact asked
  · intro c asked
    exact (halt_rest c).2.2.1.trans asked
  · intro c e c' asked other moved
    rcases step_cleanup c c' e moved with same | ⟨_, unasked⟩ | ⟨ends, _⟩
    · exact same.trans asked
    · rw [asked] at unasked
      cases unasked
    · exact absurd ends other
  · rintro c e c' _ rfl moved
    exact gone_finishes 0 c c' .cleaned trivial moved

theorem asked_over (holds : On i (fun c => c.cleanup ≠ .unasked) (x.states n)) : ∃ k, n ≤ k ∧ On i Over (x.states k) := by
  obtain ⟨c, found, asked⟩ := holds
  have sound := reachable_sound origin (x.states n) (x.reachable n) i c found
  cases cleanup : c.cleanup with
  | unasked => exact absurd cleanup asked
  | done => exact ⟨n, Nat.le_refl n, c, found, cleanup⟩
  | awaiting target =>
      cases target with
      | none => exact idle_over n i fair ⟨c, found, cleanup⟩
      | some v =>
          obtain ⟨⟨a, here⟩, _⟩ := sound.target v cleanup
          have waits (stage : Stage) (stands : a.stage = stage) : On i (Waiting v stage false) (x.states n) :=
            ⟨c, found, cleanup, sound.closing asked, a, here, stands, nofun⟩
          cases stage : a.stage with
          | handling => exact handling_over n i fair v (waits .handling stage)
          | sending => exact sending_over n i fair v (waits .sending stage)
          | ended => exact ended_over n i fair v (waits .ended stage)
          | gone => exact gone_over n i fair v (waits .gone stage)

theorem every_over (inside : i < (x.states n).connections.length) : ∃ k, n ≤ k ∧ On i Over (x.states k) := by
  have found := List.getElem?_eq_getElem inside
  by_cases unasked : (x.states n).connections[i].cleanup = .unasked
  · have closed : ∃ k, n ≤ k ∧ On i (fun c => c.cleanup ≠ .unasked) (x.states k) := by
      apply owed x (fun c => c.cleanup = .unasked) _ (fun e => e = .close) _ _ _ _ n i ⟨_, found, unasked⟩
      · obtain ⟨k, action, later, comes, same⟩ := fair.closes n i ⟨_, found, unasked⟩
        exact ⟨k, action, later, comes, .close, same, rfl⟩
      · intro c unasked
        exact unasked
      · intro c unasked
        exact (halt_rest c).2.2.1.trans unasked
      · intro c e c' unasked other moved
        rcases step_cleanup c c' e moved with same | ⟨opens, _⟩ | ⟨_, target, asked, _⟩
        · exact same.trans unasked
        · exact absurd opens other
        · rw [unasked] at asked
          cases asked
      · rintro c e c' _ rfl moved
        obtain ⟨_, same⟩ := Option.ite_none_right_eq_some.mp moved
        injection same with same
        rw [← same, Connection.close]
        nofun
    obtain ⟨k, later, asked⟩ := closed
    obtain ⟨k', later', past⟩ := asked_over k i fair asked
    exact ⟨k', later.trans later', past⟩
  · exact asked_over n i fair ⟨_, found, unasked⟩

end Conclusion

structure Orderly (c : Connection) : Prop where
  serial : ∀ (v w : ℕ) (a b : Work), c.works[v]? = some a → c.works[w]? = some b → a.stage = .handling → b.stage = .handling → v = w
  single : (c.sent.map Prod.fst).Nodup ∧ ∀ v ∈ c.sent.map Prod.fst, v < c.works.length
  once : c.closes ≤ 1
  last : 0 < c.closes → ∀ w ∈ c.works, w.stage = .gone

theorem over_step (i : ℕ) (s t : Server) (a : Event) (holds : On i Over s) (moved : step s a = some t) : On i Over t := by
  apply on_step Over i s t a _ _ _ holds moved
  · intro c past
    exact past
  · intro c past
    exact (halt_rest c).2.2.1.trans past
  · intro c e c' past _ went
    rcases step_cleanup c c' e went with same | ⟨_, unasked⟩ | ⟨_, target, asked, _⟩
    · exact same.trans past
    · rw [show c.cleanup = .done from past] at unasked
      cases unasked
    · rw [show c.cleanup = .done from past] at asked
      cases asked

theorem sound_orderly (c : Connection) (sound : Sound c) : Orderly c := by
  refine ⟨?_, ⟨sound.numbers, ?_⟩, ?_, ?_⟩
  · intro v w a b first second running running'
    have pending := (sound.pending v).mpr ⟨a, first, by rw [running]; nofun⟩
    have pending' := (sound.pending w).mpr ⟨b, second, by rw [running']; nofun⟩
    rw [pending] at pending'
    exact Option.some.inj pending'
  · intro v member
    obtain ⟨a, found, _⟩ := sound.bodies v member
    exact (List.getElem?_eq_some_iff.mp found).1
  · rw [sound.closes]
    split_ifs
    · exact Nat.le_refl 1
    · exact Nat.zero_le 1
  · intro closed w member
    have past : c.cleanup = .done := by
      by_contra left
      rw [sound.closes, if_neg left] at closed
      exact Nat.lt_irrefl 0 closed
    obtain ⟨v, found⟩ := List.mem_iff_getElem?.mp member
    by_contra left
    have pending := (sound.pending v).mpr ⟨w, found, left⟩
    rw [sound.quiet (.inr past)] at pending
    cases pending

def Silent (c c' : Connection) : Prop :=
  (c.closing = true → c'.sent = c.sent) ∧
    ∀ (v : ℕ) a, c.works[v]? = some a → a.aborted = true → v ∈ c'.sent.map Prod.fst → v ∈ c.sent.map Prod.fst

theorem run_silent (s t : Server) (later : List Event) (i : ℕ) (c c' : Connection) (before : s.connections[i]? = some c)
    (after : t.connections[i]? = some c') (ran : (machine origin).run s later = some t) : Silent c c' := by
  constructor
  · intro closing
    obtain ⟨d, found, _, same⟩ := closing_silent origin s t later i c before closing ran
    rw [after] at found
    exact Option.some.inj found ▸ same
  · intro v a here aborted
    obtain ⟨d, found, _, silent⟩ := aborted_silent origin s t later i v c a before here aborted ran
    rw [after] at found
    exact Option.some.inj found ▸ silent

theorem sessions_orderly (origin : String) (s : Server) (reached : (machine origin).Reachable s) :
    (∀ (i : ℕ) c, s.connections[i]? = some c → Orderly c) ∧
      (∀ (t : Server) later (i : ℕ) c c', (machine origin).run s later = some t → s.connections[i]? = some c →
        t.connections[i]? = some c' → Silent c c') ∧
      (s.connections.countP fun c => c.closes = 0) ≤ 64 ∧
      ∀ (x : (machine origin).Execution) n i, Fair origin x → i < (x.states n).connections.length →
        ∃ k, ∀ j, k ≤ j → On i (fun c => c.closes = 1) (x.states j) := by
  refine ⟨?_, ?_, ?_, ?_⟩
  · intro i c found
    exact sound_orderly c (reachable_sound origin s reached i c found)
  · intro t later i c c' ran before after
    exact run_silent s t later i c c' before after ran
  · have slots := reachable_slots origin s reached
    have size := slots.size
    rw [List.count_eq_countP, List.countP_map] at size
    exact size ▸ slots.limit
  · intro x n i fair inside
    obtain ⟨k, _, past⟩ := every_over n i fair inside
    refine ⟨k, ?_⟩
    intro j later
    obtain ⟨c, found, past⟩ := x.keeps (On i Over) (over_step i) k j later past
    have closes := (reachable_sound origin (x.states j) (x.reachable j) i c found).closes
    exact ⟨c, found, closes.trans (if_pos past)⟩

def demoMessage : Message := ⟨Ecma.str "a", Ecma.str "ping", []⟩

def demoRaw : ByteArray := Ecma.encodeUtf8 demoMessage.document.text

theorem demo_decoded : Message.decode demoRaw = .ok demoMessage := by
  apply Message.decode_document demoMessage ⟨by decide +kernel, by decide +kernel⟩ ⟨List.Pairwise.nil, trivial⟩
  have short : demoMessage.document.text.length ≤ 64 := by decide +kernel
  have size := Ecma.encode_size demoMessage.document.text
  rw [maxMessage]
  omega

def demoUpgrade : Upgrade := ⟨["Origin", "https://n2f.example"], some "https://n2f.example", some "other, n2f.v1"⟩

def demoConnection : ℕ → Connection
  | 0 => Connection.start
  | 1 => ⟨some 0, true, false, false, false, [], [⟨demoMessage, .handling, false⟩], .unasked, [], 0⟩
  | 2 => ⟨some 0, true, true, true, false, [], [⟨demoMessage, .handling, true⟩], .awaiting (some 0), [], 0⟩
  | 3 => ⟨some 0, true, true, true, false, [], [⟨demoMessage, .ended, true⟩], .awaiting (some 0), [], 0⟩
  | 4 => ⟨none, true, true, true, false, [], [⟨demoMessage, .gone, true⟩], .awaiting (some 0), [], 0⟩
  | _ => ⟨none, true, true, true, false, [], [⟨demoMessage, .gone, true⟩], .done, [], 1⟩

def demoStates : ℕ → Server
  | 0 => Server.start "https://n2f.example"
  | n + 1 => ⟨"https://n2f.example", false, [demoConnection n], if n < 5 then [0] else [], [], []⟩

def demoActions : ℕ → Option Event
  | 0 => some (.upgrade demoUpgrade .opened)
  | 1 => some (.on 0 (.message ⟨demoRaw, false⟩))
  | 2 => some (.on 0 .close)
  | 3 => some (.on 0 (.settled 0 (.returned (.ok (some demoRaw)))))
  | 4 => some (.on 0 (.cleared 0))
  | 5 => some (.on 0 .cleaned)
  | _ => none

theorem demo_opened : step (demoStates 0) (.upgrade demoUpgrade .opened) = some (demoStates 1) := by
  have origins : demoUpgrade.origins = 1 := by decide +kernel
  have speaks : demoUpgrade.speaks = true := by decide +kernel
  have own : demoUpgrade.origin = some "https://n2f.example" := rfl
  simp [step, Server.upgrade, demoStates, Server.start, origins, speaks, own, demoConnection]

theorem demo_started : step (demoStates 1) (.on 0 (.message ⟨demoRaw, false⟩)) = some (demoStates 2) := by
  simp [step, demoStates, demoConnection, Connection.start, Connection.step, Connection.message, demo_decoded, Server.after]

def demoRun : (machine "https://n2f.example").Execution where
  states := demoStates
  actions := demoActions
  starts := rfl
  moves n := match n with
    | 0 => demo_opened
    | 1 => demo_started
    | 2 => rfl
    | 3 => rfl
    | 4 => rfl
    | 5 => rfl
    | _ + 6 => rfl

theorem demo_found (n i : ℕ) (c : Connection) (found : (demoStates n).connections[i]? = some c) :
    ∃ m, n = m + 1 ∧ i = 0 ∧ demoConnection m = c := by
  cases n with
  | zero => cases found
  | succ m =>
      cases i with
      | zero => exact ⟨m, rfl, rfl, Option.some.inj found⟩
      | succ i => cases found

theorem demo_works (m v : ℕ) (a : Work) (found : (demoConnection m).works[v]? = some a) :
    v = 0 ∧ (m = 1 ∧ a.stage = .handling ∧ a.aborted = false ∨ m = 2 ∧ a.stage = .handling ∨ m = 3 ∧ a.stage = .ended ∨ 4 ≤ m ∧ a.stage = .gone) := by
  have single (stage : Stage) (aborted : Bool) (there : [Work.mk demoMessage stage aborted][v]? = some a) :
      v = 0 ∧ a.stage = stage ∧ a.aborted = aborted := by
    cases v with
    | zero =>
        injection there with same
        exact ⟨rfl, same ▸ rfl, same ▸ rfl⟩
    | succ v => cases there
  match m with
  | 0 => cases found
  | 1 =>
      obtain ⟨zero, stage, aborted⟩ := single .handling false found
      exact ⟨zero, .inl ⟨rfl, stage, aborted⟩⟩
  | 2 =>
      obtain ⟨zero, stage, _⟩ := single .handling true found
      exact ⟨zero, .inr (.inl ⟨rfl, stage⟩)⟩
  | 3 =>
      obtain ⟨zero, stage, _⟩ := single .ended true found
      exact ⟨zero, .inr (.inr (.inl ⟨rfl, stage⟩))⟩
  | 4 =>
      obtain ⟨zero, stage, _⟩ := single .gone true found
      exact ⟨zero, .inr (.inr (.inr ⟨Nat.le_refl 4, stage⟩))⟩
  | k + 5 =>
      obtain ⟨zero, stage, _⟩ := single .gone true found
      exact ⟨zero, .inr (.inr (.inr ⟨by omega, stage⟩))⟩

theorem demo_fair : Fair "https://n2f.example" demoRun := by
  refine ⟨?_, ?_, ?_, ?_, ?_⟩
  · rintro n i ⟨c, found, unasked⟩
    obtain ⟨m, rfl, rfl, rfl⟩ := demo_found n i c found
    match m with
    | 0 => exact ⟨2, _, by decide, rfl, rfl⟩
    | 1 => exact ⟨2, _, by decide, rfl, rfl⟩
    | 2 => cases unasked
    | 3 => cases unasked
    | 4 => cases unasked
    | k + 5 => cases unasked
  · rintro n i v ⟨c, found, a, here, stage⟩
    obtain ⟨m, rfl, rfl, rfl⟩ := demo_found n i c found
    obtain ⟨rfl, ⟨rfl, _⟩ | ⟨rfl, _⟩ | ⟨_, other⟩ | ⟨_, other⟩⟩ := demo_works m v a here
    · exact ⟨3, _, by decide, rfl, _, rfl, .inr rfl⟩
    · exact ⟨3, _, by decide, rfl, _, rfl, .inr rfl⟩
    · rw [stage] at other
      cases other
    · rw [stage] at other
      cases other
  · rintro n i v ⟨c, found, a, here, stage, aborted⟩
    obtain ⟨m, rfl, rfl, rfl⟩ := demo_found n i c found
    obtain ⟨rfl, ⟨_, _, live⟩ | ⟨rfl, _⟩ | ⟨_, other⟩ | ⟨_, other⟩⟩ := demo_works m v a here
    · rw [aborted] at live
      cases live
    · exact ⟨3, _, by decide, rfl, _, rfl, rfl⟩
    · rw [stage] at other
      cases other
    · rw [stage] at other
      cases other
  · rintro n i v stage which ⟨c, found, a, here, stands⟩
    obtain ⟨m, rfl, rfl, rfl⟩ := demo_found n i c found
    obtain ⟨rfl, ⟨_, other, _⟩ | ⟨_, other⟩ | ⟨rfl, ended⟩ | ⟨_, other⟩⟩ := demo_works m v a here
    · rw [stands] at other
      rw [other] at which
      simp at which
    · rw [stands] at other
      rw [other] at which
      simp at which
    · rw [stands] at ended
      subst ended
      exact ⟨4, _, by decide, rfl, _, rfl, rfl⟩
    · rw [stands] at other
      rw [other] at which
      simp at which
  · rintro n i ⟨c, found, target, asked, gone⟩
    obtain ⟨m, rfl, rfl, rfl⟩ := demo_found n i c found
    match m with
    | 0 => cases asked
    | 1 => cases asked
    | 2 =>
        injection asked with own
        obtain ⟨a, here, past⟩ := gone 0 own.symm
        injection here with same
        rw [← same] at past
        cases past
    | 3 =>
        injection asked with own
        obtain ⟨a, here, past⟩ := gone 0 own.symm
        injection here with same
        rw [← same] at past
        cases past
    | 4 => exact ⟨5, _, by decide, rfl, rfl⟩
    | k + 5 => cases asked

theorem sessions_orderly_demo : Fair "https://n2f.example" demoRun ∧ Orderly (demoConnection 2) ∧ (demoConnection 2).pending = some 0 ∧
    ∃ k, ∀ j, k ≤ j → On 0 (fun c => c.closes = 1) (demoRun.states j) := by
  obtain ⟨orderly, _, _, closes⟩ := sessions_orderly "https://n2f.example" (demoRun.states 3) (demoRun.reachable 3)
  exact ⟨demo_fair, orderly 0 (demoConnection 2) rfl, rfl, closes demoRun 1 0 demo_fair (by decide)⟩

end N2F.Socket

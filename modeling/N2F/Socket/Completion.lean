import N2F.Execution
import N2F.Socket.Serving

set_option autoImplicit false

namespace N2F.Socket

theorem stepped_cleanup (c c' : Connection) (e : ConnectionEvent) (moved : Stepped c c' e) (opens : e ≠ .close) (ends : e ≠ .cleaned) :
    c'.cleanup = c.cleanup := by
  cases moved with
  | aside _ _ _ _ _ _ _ same => exact same ▸ rfl
  | start _ _ _ _ same => exact same ▸ rfl
  | finish _ _ _ _ _ _ _ _ _ same => exact same ▸ rfl
  | send _ _ _ _ _ _ _ _ same => exact same ▸ rfl
  | timeout _ _ _ _ same => exact same ▸ rfl
  | clear _ _ _ _ same => exact same ▸ rfl
  | close _ _ => exact absurd rfl opens
  | cleaned _ _ _ _ => exact absurd rfl ends

theorem step_cleanup (c c' : Connection) (e : ConnectionEvent) (moved : c.step e = some c') : c'.cleanup = c.cleanup ∨
    e = .close ∧ c.cleanup = .unasked ∨ e = .cleaned ∧ ∃ target, c.cleanup = .awaiting target ∧
      ∀ v, target = some v → ∃ a, c.works[v]? = some a ∧ a.stage = .gone := by
  by_cases opens : e = .close
  · subst opens
    exact .inr (.inl ⟨rfl, (Option.ite_none_right_eq_some.mp moved).1⟩)
  · by_cases ends : e = .cleaned
    · subst ends
      obtain ⟨target, asked, gone, _⟩ := cleaned_inv c c' moved
      exact .inr (.inr ⟨rfl, target, asked, gone⟩)
    · exact .inl (stepped_cleanup c c' e (step_stepped c c' e moved) opens ends)

theorem stepped_closing (c c' : Connection) (e : ConnectionEvent) (moved : Stepped c c' e) (closing : c.closing = true) :
    c'.closing = true := by
  cases moved with
  | aside _ _ _ _ _ later _ same => exact same ▸ later closing
  | start _ _ _ _ same => exact same ▸ closing
  | finish _ _ _ _ _ _ _ _ later same => exact same ▸ later closing
  | send _ _ _ _ _ _ _ _ same => exact same ▸ closing
  | timeout _ _ _ _ same => exact same ▸ closing
  | clear _ _ _ _ same => exact same ▸ closing
  | close _ same => exact same ▸ (stop_rest { c with closing := true }).2.1
  | cleaned _ _ _ same => exact same ▸ closing

theorem stepped_sent (c c' : Connection) (e : ConnectionEvent) (moved : Stepped c c' e) : c'.sent = c.sent ∨
    ∃ number w body, c.works[number]? = some w ∧ w.aborted = false ∧ c.closing = false ∧ c'.sent = c.sent ++ [(number, body)] := by
  cases moved with
  | aside _ _ _ _ _ _ _ same => exact .inl (same ▸ rfl)
  | start _ _ _ _ same => exact .inl (same ▸ rfl)
  | finish _ _ _ _ _ _ _ _ _ same => exact .inl (same ▸ rfl)
  | send number w outcome body found _ live opened same => exact .inr ⟨number, w, body, found, live, opened, same ▸ rfl⟩
  | timeout _ _ _ _ same => exact .inl (same ▸ rfl)
  | clear _ _ _ _ same => exact .inl (same ▸ rfl)
  | close _ same => exact .inl (same ▸ (stop_rest { c with closing := true }).2.2.2.1)
  | cleaned _ _ _ same => exact .inl (same ▸ rfl)

theorem stepped_work (c c' : Connection) (e : ConnectionEvent) (moved : Stepped c c' e) (v : ℕ) (a : Work) (found : c.works[v]? = some a) :
    ∃ a', c'.works[v]? = some a' ∧ (a.aborted = true → a'.aborted = true) ∧ (¬ turns v a.stage e → a'.stage = a.stage) := by
  have put (number : ℕ) (w w' : Work) (here : c.works[number]? = some w) (aborted : w.aborted = true → w'.aborted = true)
      (stage : ¬ turns number w.stage e → w'.stage = w.stage) : ∃ a', (c.put number w').works[v]? = some a' ∧
        (a.aborted = true → a'.aborted = true) ∧ (¬ turns v a.stage e → a'.stage = a.stage) := by
    rw [put_at c number w w' here v]
    by_cases own : v = number
    · subst own
      rw [found] at here
      injection here with same
      subst same
      exact ⟨w', if_pos rfl, aborted, stage⟩
    · exact ⟨a, by rw [if_neg own, found], id, fun _ => rfl⟩
  cases moved with
  | aside _ _ _ _ _ _ _ same => exact ⟨a, same ▸ found, id, fun _ => rfl⟩
  | start _ _ _ _ same =>
      have inside := (List.getElem?_eq_some_iff.mp found).1
      exact ⟨a, same ▸ (List.getElem?_append_left inside).trans found, id, fun _ => rfl⟩
  | finish _ number w _ _ here _ turn _ same => exact same ▸ put number w { w with stage := .ended } here id (fun other => absurd turn other)
  | send number w outcome body here running _ _ same =>
      refine same ▸ put number w { w with stage := .sending } here id (fun other => absurd ?_ other)
      rw [running]
      rfl
  | timeout number w here _ same => exact same ▸ put number w { w with aborted := true } here (fun _ => rfl) (fun _ => rfl)
  | clear number w here ended same =>
      refine same ▸ put number w { w with stage := .gone } here id (fun other => absurd ?_ other)
      rw [ended]
      rfl
  | close _ same =>
      obtain ⟨f, keeps, works⟩ := stop_works { c with closing := true }
      exact ⟨f a, same ▸ (works v).trans (found ▸ rfl), (keeps a).2, fun _ => (keeps a).1⟩
  | cleaned _ _ _ same => exact ⟨a, same ▸ found, id, fun _ => rfl⟩

theorem halt_rest (c : Connection) : c.halt.pending = c.pending ∧ c.halt.closing = c.closing ∧ c.halt.cleanup = c.cleanup ∧
    c.halt.sent = c.sent ∧ c.halt.closes = c.closes := stop_rest c

theorem halt_work (c : Connection) (v : ℕ) (a : Work) (found : c.works[v]? = some a) :
    ∃ a', c.halt.works[v]? = some a' ∧ (a.aborted = true → a'.aborted = true) ∧ a'.stage = a.stage := by
  obtain ⟨f, keeps, works⟩ := stop_works c
  exact ⟨f a, (works v).trans (found ▸ rfl), (keeps a).2, (keeps a).1⟩

theorem closing_silent (origin : String) (s t : Server) (later : List Event) (i : ℕ) (c : Connection)
    (found : s.connections[i]? = some c) (closing : c.closing = true) (ran : (machine origin).run s later = some t) :
    On i (fun c' => c'.closing = true ∧ c'.sent = c.sent) t := by
  apply (machine origin).run_keeps (On i fun c' => c'.closing = true ∧ c'.sent = c.sent) _ s t later ⟨c, found, closing, rfl⟩ ran
  intro s t a holds moved
  apply on_step _ i s t a _ _ _ holds moved
  · intro c' silent
    exact silent
  · intro c' silent
    exact ⟨(halt_rest c').2.1.trans silent.1, (halt_rest c').2.2.2.1.trans silent.2⟩
  · intro d e d' silent _ went
    have stepped := step_stepped d d' e went
    refine ⟨stepped_closing d d' e stepped silent.1, ?_⟩
    rcases stepped_sent d d' e stepped with same | ⟨_, _, _, _, _, opened, _⟩
    · exact same.trans silent.2
    · rw [silent.1] at opened
      cases opened

theorem aborted_silent (origin : String) (s t : Server) (later : List Event) (i v : ℕ) (c : Connection) (a : Work)
    (found : s.connections[i]? = some c) (here : c.works[v]? = some a) (aborted : a.aborted = true)
    (ran : (machine origin).run s later = some t) :
    On i (fun c' => (∃ a', c'.works[v]? = some a' ∧ a'.aborted = true) ∧
      (v ∈ c'.sent.map Prod.fst → v ∈ c.sent.map Prod.fst)) t := by
  apply (machine origin).run_keeps _ _ s t later ⟨c, found, ⟨a, here, aborted⟩, id⟩ ran
  intro s t action holds moved
  apply on_step _ i s t action _ _ _ holds moved
  · intro c' silent
    exact silent
  · rintro c' ⟨⟨b, there, dead⟩, silent⟩
    obtain ⟨b', there', keeps, _⟩ := halt_work c' v b there
    exact ⟨⟨b', there', keeps dead⟩, by rwa [(halt_rest c').2.2.2.1]⟩
  · rintro d e d' ⟨⟨b, there, dead⟩, silent⟩ _ went
    have stepped := step_stepped d d' e went
    obtain ⟨b', there', keeps, _⟩ := stepped_work d d' e stepped v b there
    refine ⟨⟨b', there', keeps dead⟩, ?_⟩
    rcases stepped_sent d d' e stepped with same | ⟨number, w, body, own, live, _, more⟩
    · rwa [same]
    · rw [more, List.map_append]
      intro member
      rcases List.mem_append.mp member with earlier | now
      · exact silent earlier
      · rw [List.mem_singleton.mp now, own] at there
        injection there with same
        rw [← same, live] at dead
        cases dead

-- ws, the timers, the handlers and the jobs of the runtime each come to what they
-- owe: a close for every connection, the timer of a running handler, the result of
-- a handler that was aborted, the callback of ws.send and the continuations.
structure Fair (origin : String) (x : (machine origin).Execution) : Prop where
  closes : ∀ n i, On i (fun c => c.cleanup = .unasked) (x.states n) → ∃ k a, n ≤ k ∧ x.actions k = some a ∧ a = .on i .close
  timers : ∀ n i v, On i (fun c => ∃ a, c.works[v]? = some a ∧ a.stage = .handling) (x.states n) →
    ∃ k a, n ≤ k ∧ x.actions k = some a ∧ ∃ e, a = .on i e ∧ (e = .timeout v ∨ turns v .handling e)
  handlers : ∀ n i v, On i (fun c => ∃ a, c.works[v]? = some a ∧ a.stage = .handling ∧ a.aborted = true) (x.states n) →
    ∃ k a, n ≤ k ∧ x.actions k = some a ∧ ∃ e, a = .on i e ∧ turns v .handling e
  jobs : ∀ n i v stage, stage = .sending ∨ stage = .ended → On i (fun c => ∃ a, c.works[v]? = some a ∧ a.stage = stage) (x.states n) →
    ∃ k a, n ≤ k ∧ x.actions k = some a ∧ ∃ e, a = .on i e ∧ turns v stage e
  cleanups : ∀ n i, On i (fun c => ∃ target, c.cleanup = .awaiting target ∧
      ∀ v, target = some v → ∃ a, c.works[v]? = some a ∧ a.stage = .gone) (x.states n) →
    ∃ k a, n ≤ k ∧ x.actions k = some a ∧ a = .on i .cleaned

structure Waiting (v : ℕ) (stage : Stage) (aborted : Bool) (c : Connection) : Prop where
  asked : c.cleanup = .awaiting (some v)
  closing : c.closing = true
  work : ∃ a, c.works[v]? = some a ∧ a.stage = stage ∧ (aborted = true → a.aborted = true)

theorem waiting_halt (v : ℕ) (stage : Stage) (aborted : Bool) (c : Connection) (waits : Waiting v stage aborted c) :
    Waiting v stage aborted c.halt := by
  obtain ⟨_, closing, cleanup, _⟩ := halt_rest c
  obtain ⟨a, found, here, dead⟩ := waits.work
  obtain ⟨a', found', keeps, same⟩ := halt_work c v a found
  exact ⟨cleanup.trans waits.asked, closing.trans waits.closing, a', found', same.trans here, fun asks => keeps (dead asks)⟩

theorem waiting_kept (v : ℕ) (stage : Stage) (aborted : Bool) (c c' : Connection) (e : ConnectionEvent)
    (waits : Waiting v stage aborted c) (moved : c.step e = some c') (other : ¬ turns v stage e) : Waiting v stage aborted c' := by
  obtain ⟨a, found, here, dead⟩ := waits.work
  have stepped := step_stepped c c' e moved
  have asked : c'.cleanup = .awaiting (some v) := by
    rcases step_cleanup c c' e moved with same | ⟨_, unasked⟩ | ⟨rfl, target, asked, gone⟩
    · exact same.trans waits.asked
    · rw [waits.asked] at unasked
      cases unasked
    · rw [waits.asked] at asked
      injection asked with own
      obtain ⟨b, found', past⟩ := gone v own.symm
      rw [found] at found'
      injection found' with same
      rw [← same, here] at past
      exact absurd (by rw [past]; trivial) other
  obtain ⟨a', found', keeps, same⟩ := stepped_work c c' e stepped v a found
  refine ⟨asked, stepped_closing c c' e stepped waits.closing, a', found', ?_, ?_⟩
  · rw [same (by rwa [here]), here]
  · intro asks
    exact keeps (dead asks)

end N2F.Socket

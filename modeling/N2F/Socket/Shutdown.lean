import N2F.Socket.Conclusion

set_option autoImplicit false

namespace N2F.Socket

def Server.handled (s : Server) : ℕ := (s.connections.map fun c => c.works.length).sum

def Connection.takes (c : Connection) (frame : Frame) : Prop :=
  c.closing = false ∧ c.pending = none ∧ frame.binary = false ∧ ∃ m, Message.decode frame.raw = .ok m

def Quiet (s : Server) : Event → Prop
  | .on i (.message frame) => ∀ c, s.connections[i]? = some c → ¬ c.takes frame
  | _ => True

theorem sum_set (ns : List ℕ) (i old new : ℕ) (found : ns[i]? = some old) : (ns.set i new).sum + old = ns.sum + new := by
  induction ns generalizing i with
  | nil => cases found
  | cons n rest ih =>
      cases i with
      | zero =>
          injection found with same
          rw [List.set_cons_zero, List.sum_cons, List.sum_cons]
          omega
      | succ i =>
          have tail := ih i found
          rw [List.set_cons_succ, List.sum_cons, List.sum_cons]
          omega

theorem message_takes (c : Connection) (frame : Frame) (takes : c.takes frame) :
    (c.message frame).works.length = c.works.length + 1 := by
  obtain ⟨opened, idle, text, m, decoded⟩ := takes
  rw [Connection.message, if_neg (by simp [opened]), if_neg (by simp [idle]), if_neg (by simp [text]), decoded]
  exact List.length_append

theorem message_refuses (c : Connection) (frame : Frame) (refuses : ¬ c.takes frame) : (c.message frame).works = c.works := by
  rw [Connection.message]
  by_cases closing : c.closing = true
  · rw [if_pos closing]
  · rw [if_neg closing]
    by_cases busy : c.pending.isSome = true
    · rw [if_pos busy]
      rfl
    · rw [if_neg busy]
      by_cases binary : frame.binary = true
      · rw [if_pos binary]
        rfl
      · rw [if_neg binary]
        cases decoded : Message.decode frame.raw with
        | error e => rfl
        | ok m =>
            rw [Bool.not_eq_true] at closing binary
            exact absurd ⟨closing, Option.not_isSome_iff_eq_none.mp busy, binary, m, decoded⟩ refuses

theorem put_length (c : Connection) (number : ℕ) (w : Work) : (c.put number w).works.length = c.works.length := List.length_set

theorem stop_length (c : Connection) : c.stop.works.length = c.works.length := by
  rw [Connection.stop]
  by_cases stopped : c.stopped = true
  · rw [if_pos stopped]
  · rw [if_neg stopped]
    exact List.length_map Work.stop

theorem others_length (c c' : Connection) (e : ConnectionEvent) (other : ∀ frame, e ≠ .message frame)
    (moved : c.step e = some c') : c'.works.length = c.works.length := by
  cases step_stepped c c' e moved with
  | aside e pong closing terminated codes later calm same => rw [← same]
  | start frame m unasked idle same => exact absurd rfl (other frame)
  | finish e number w closing codes found running turn later same =>
      rw [← same]
      exact put_length _ number _
  | send number w outcome body found running live opened same =>
      rw [← same]
      exact put_length _ number _
  | timeout number w found running same =>
      rw [← same]
      exact put_length c number _
  | clear number w found ended same =>
      rw [← same]
      exact put_length c number _
  | close unasked same =>
      rw [← same]
      exact stop_length _
  | cleaned target asked gone same => rw [← same]; rfl

theorem handled_each (s t : Server) (f : Connection → Connection) (entries : List ℕ)
    (keeps : ∀ c, (f c).works.length = c.works.length) (same : t.connections = each f entries s.connections) :
    t.handled = s.handled := by
  rw [Server.handled, Server.handled, same, each_map f (fun c => c.works.length) keeps]

theorem handled_after (s : Server) (i : ℕ) (e : ConnectionEvent) (c c' : Connection) (found : s.connections[i]? = some c) :
    (s.after i e c').handled + c.works.length = s.handled + c'.works.length := by
  rw [Server.handled, after_connections, List.map_set]
  apply sum_set
  rw [List.getElem?_map, found]
  rfl

theorem step_closed (s t : Server) (a : Event) (closed : s.closed = true) (moved : step s a = some t) : t.closed = true := by
  cases a with
  | upgrade u h =>
      injection moved with same
      subst same
      unfold Server.upgrade
      split_ifs with refused full
      · exact closed
      · exact closed
      · cases h with
        | _ => exact closed
  | on i e =>
      obtain ⟨c, _, moved⟩ := Option.bind_eq_some_iff.mp moved
      obtain ⟨c', _, same⟩ := Option.map_eq_some_iff.mp moved
      rw [← same]
      exact closed
  | close =>
      injection moved with same
      rw [← same]
  | expire closer =>
      rw [step] at moved
      split at moved
      · injection moved with same
        rw [← same]
        exact closed
      · cases moved
  | drained closer =>
      rw [step] at moved
      split at moved
      · split_ifs at moved
        injection moved with same
        rw [← same]
        exact closed
      · cases moved

theorem upgrade_closed (s : Server) (u : Upgrade) (h : Handshake) (closed : s.closed = true) :
    (s.upgrade u h).connections = s.connections := by
  unfold Server.upgrade
  split_ifs with refused full
  · rfl
  · rfl
  · rw [closed, Bool.true_or] at full
    exact absurd rfl full

theorem step_handled (s t : Server) (a : Event) (closed : s.closed = true) (moved : step s a = some t) :
    Quiet s a ∧ t.handled = s.handled ∨ ¬ Quiet s a ∧ t.handled = s.handled + 1 := by
  cases step_moved s t a moved with
  | upgrade u h same =>
      refine .inl ⟨trivial, ?_⟩
      rw [← same, Server.handled, upgrade_closed s u h closed, Server.handled]
  | on i e c c' found changed same =>
      subst same
      have whole := handled_after s i e c c' found
      by_cases frames : ∃ frame, e = .message frame
      · obtain ⟨frame, rfl⟩ := frames
        obtain ⟨_, same⟩ := Option.ite_none_right_eq_some.mp changed
        injection same with same
        subst same
        by_cases takes : c.takes frame
        · rw [message_takes c frame takes] at whole
          exact .inr ⟨fun quiet => quiet c found takes, by omega⟩
        · rw [message_refuses c frame takes] at whole
          refine .inl ⟨?_, by omega⟩
          intro other here
          rw [found] at here
          injection here with own
          exact own ▸ takes
      · have other : ∀ frame, e ≠ .message frame := fun frame same => frames ⟨frame, same⟩
        rw [others_length c c' e other changed] at whole
        refine .inl ⟨?_, by omega⟩
        cases e with
        | message frame => exact absurd rfl (other frame)
        | _ => trivial
  | depart same active => exact .inl ⟨trivial, handled_each s t Connection.depart s.active (fun _ => rfl) same⟩
  | halt closer entries same active => exact .inl ⟨trivial, handled_each s t Connection.halt entries (fun c => stop_length c) same⟩
  | drained closer same active =>
      refine .inl ⟨trivial, ?_⟩
      rw [Server.handled, same, Server.handled]

theorem shutdown_quiet_iff (origin : String) (s t : Server) (events : List Event) (closed : s.closed = true)
    (ran : (machine origin).run s events = some t) : t.handled = s.handled ↔ (machine origin).Meets Quiet s events := by
  refine (machine origin).run_steady_iff Quiet (fun s => s.closed = true) Server.handled ?_ ?_ ?_ s t events closed ran
  · exact step_closed
  · intro s t a closed moved
    rcases step_handled s t a closed moved with ⟨_, same⟩ | ⟨_, more⟩
    · exact same.ge
    · omega
  · intro s t a closed moved
    rcases step_handled s t a closed moved with ⟨quiet, same⟩ | ⟨loud, more⟩
    · exact ⟨fun _ => quiet, fun _ => same⟩
    · exact ⟨fun same => absurd same (by omega), fun quiet => absurd quiet loud⟩

def demoDeparted : Server := ⟨"https://n2f.example", true, [Connection.start.depart], [0], [], [([0], none)]⟩

theorem demo_departed : (machine "https://n2f.example").run (demoStates 0) [.upgrade demoUpgrade .opened, .close] = some demoDeparted := by
  rw [Machine.run]
  exact Option.bind_eq_some_iff.mpr ⟨demoStates 1, demo_opened, rfl⟩

theorem departed_handles : ∃ t, (machine "https://n2f.example").run (demoStates 0) [.upgrade demoUpgrade .opened, .close] = some demoDeparted ∧
    demoDeparted.closed = true ∧ (machine "https://n2f.example").run demoDeparted [.on 0 (.message ⟨demoRaw, false⟩)] = some t ∧
    t.handled ≠ demoDeparted.handled := by
  have moved : step demoDeparted (.on 0 (.message ⟨demoRaw, false⟩)) =
      some { demoDeparted with connections := [{ Connection.start.depart with works := [⟨demoMessage, .handling, false⟩], pending := some 0 }] } := by
    simp [step, demoDeparted, Connection.start, Connection.depart, Connection.ask, Connection.step, Connection.message, demo_decoded,
      Server.after]
  refine ⟨_, demo_departed, rfl, Option.bind_eq_some_iff.mpr ⟨_, moved, rfl⟩, ?_⟩
  decide

theorem shutdown_quiet_iff_demo : demoDeparted.closed = true ∧
    (machine "https://n2f.example").run demoDeparted [.on 0 (.message ⟨demoRaw, true⟩)] =
      some { demoDeparted with connections := [Connection.start.depart.refuse 1003 "text required"] } ∧
    ({ demoDeparted with connections := [Connection.start.depart.refuse 1003 "text required"] } : Server).handled = demoDeparted.handled := by
  have ran : (machine "https://n2f.example").run demoDeparted [.on 0 (.message ⟨demoRaw, true⟩)] =
      some { demoDeparted with connections := [Connection.start.depart.refuse 1003 "text required"] } := rfl
  refine ⟨rfl, ran, (shutdown_quiet_iff "https://n2f.example" _ _ _ rfl ran).mpr ⟨?_, fun _ _ => trivial⟩⟩
  intro c _ takes
  cases takes.2.2.1

end N2F.Socket

import N2F.Socket.Sessions

set_option autoImplicit false

namespace N2F.Socket

def On (i : ℕ) (P : Connection → Prop) (s : Server) : Prop := ∃ c, s.connections[i]? = some c ∧ P c

theorem each_keeps (f : Connection → Connection) (P : Connection → Prop) (keeps : ∀ c, P c → P (f c)) (entries : List ℕ)
    (cs : List Connection) (i : ℕ) (holds : ∃ c, cs[i]? = some c ∧ P c) : ∃ c, (each f entries cs)[i]? = some c ∧ P c := by
  induction entries generalizing cs with
  | nil => exact holds
  | cons entry rest ih =>
      obtain ⟨c, found, holds⟩ := holds
      apply ih (cs.modify entry f)
      by_cases same : entry = i
      · subst same
        exact ⟨f c, by rw [List.getElem?_modify_eq, found]; rfl, keeps c holds⟩
      · exact ⟨c, by rw [List.getElem?_modify_ne f cs same, found], holds⟩

theorem each_map {α : Type} (f : Connection → Connection) (g : Connection → α) (keeps : ∀ c, g (f c) = g c) (entries : List ℕ)
    (cs : List Connection) : (each f entries cs).map g = cs.map g := by
  induction entries generalizing cs with
  | nil => rfl
  | cons entry rest ih =>
      have once : (cs.modify entry f).map g = cs.map g := by
        apply List.ext_getElem?
        intro i
        rw [List.getElem?_map, List.getElem?_map, List.getElem?_modify]
        cases cs[i]? with
        | none => rfl
        | some c =>
            by_cases same : entry = i
            · simp [same, keeps]
            · simp [same]
      exact (ih (cs.modify entry f)).trans once

theorem each_length (f : Connection → Connection) (entries : List ℕ) (cs : List Connection) :
    (each f entries cs).length = cs.length := by
  have same := congrArg List.length (each_map f (fun _ => ()) (fun _ => rfl) entries cs)
  rwa [List.length_map, List.length_map] at same

theorem upgrade_cases (s : Server) (u : Upgrade) (h : Handshake) :
    (s.upgrade u h).connections = s.connections ∧ (s.upgrade u h).active = s.active ∨
      s.active.length < 64 ∧ (s.upgrade u h).connections = s.connections ++ [Connection.start] ∧
        (s.upgrade u h).active = s.active ++ [s.connections.length] := by
  unfold Server.upgrade
  split_ifs with refused full
  · exact .inl ⟨rfl, rfl⟩
  · exact .inl ⟨rfl, rfl⟩
  · cases h with
    | declined => exact .inl ⟨rfl, rfl⟩
    | unopened => exact .inl ⟨rfl, rfl⟩
    | opened =>
        simp only [Bool.or_eq_true, decide_eq_true_eq, not_or, Nat.not_le] at full
        exact .inr ⟨full.2, rfl, rfl⟩

inductive Moved (s t : Server) : Event → Prop where
  | upgrade (u : Upgrade) (h : Handshake) (same : s.upgrade u h = t) : Moved s t (.upgrade u h)
  | on (i : ℕ) (e : ConnectionEvent) (c c' : Connection) (found : s.connections[i]? = some c) (moved : c.step e = some c')
      (same : s.after i e c' = t) : Moved s t (.on i e)
  | depart (same : t.connections = each Connection.depart s.active s.connections) (active : t.active = s.active) : Moved s t .close
  | halt (closer : ℕ) (entries : List ℕ) (same : t.connections = each Connection.halt entries s.connections)
      (active : t.active = s.active) : Moved s t (.expire closer)
  | drained (closer : ℕ) (same : t.connections = s.connections) (active : t.active = s.active) : Moved s t (.drained closer)

theorem step_moved (s t : Server) (a : Event) (moved : step s a = some t) : Moved s t a := by
  cases a with
  | upgrade u h =>
      injection moved with same
      exact .upgrade u h same
  | on i e =>
      obtain ⟨c, found, moved⟩ := Option.bind_eq_some_iff.mp moved
      obtain ⟨c', moved, same⟩ := Option.map_eq_some_iff.mp moved
      exact .on i e c c' found moved same
  | close =>
      injection moved with same
      subst same
      exact .depart rfl rfl
  | expire closer =>
      rw [step] at moved
      split at moved
      · next entries _ =>
          injection moved with same
          subst same
          exact .halt closer entries rfl rfl
      · cases moved
  | drained closer =>
      rw [step] at moved
      split at moved
      · split_ifs at moved
        injection moved with same
        subst same
        exact .drained closer rfl rfl
      · cases moved

theorem after_connections (s : Server) (i : ℕ) (e : ConnectionEvent) (c : Connection) :
    (s.after i e c).connections = s.connections.set i c := rfl

theorem after_at (s : Server) (i : ℕ) (e : ConnectionEvent) (c c' : Connection) (found : s.connections[i]? = some c) (j : ℕ) :
    (s.after i e c').connections[j]? = if j = i then some c' else s.connections[j]? :=
  Roster.set_at s.connections i c c' found j

theorem on_step (P : Connection → Prop) (i : ℕ) (s t : Server) (a : Event) (departs : ∀ c, P c → P c.depart)
    (halts : ∀ c, P c → P c.halt) (steps : ∀ c e c', P c → a = .on i e → c.step e = some c' → P c') (holds : On i P s)
    (moved : step s a = some t) : On i P t := by
  cases step_moved s t a moved with
  | upgrade u h same =>
      subst same
      obtain ⟨c, found, holds⟩ := holds
      rcases upgrade_cases s u h with ⟨same, _⟩ | ⟨_, added, _⟩
      · exact ⟨c, by rw [same, found], holds⟩
      · exact ⟨c, by rw [added]; exact Roster.join_kept _ _ _ _ found, holds⟩
  | on j e d d' there moved same =>
      subst same
      obtain ⟨c, found, holds⟩ := holds
      by_cases own : i = j
      · subst own
        rw [found] at there
        injection there with this
        subst this
        exact ⟨d', by rw [after_at s i e c d' found, if_pos rfl], steps c e d' holds rfl moved⟩
      · exact ⟨c, by rw [after_at s j e d d' there, if_neg own, found], holds⟩
  | depart same =>
      rw [On, same]
      exact each_keeps _ P departs s.active s.connections i holds
  | halt closer entries same =>
      rw [On, same]
      exact each_keeps _ P halts entries s.connections i holds
  | drained closer same =>
      rw [On, same]
      exact holds

theorem step_fresh (s t : Server) (a : Event) (i : ℕ) (c : Connection) (moved : step s a = some t) (fresh : s.connections.length ≤ i)
    (found : t.connections[i]? = some c) : c = Connection.start := by
  have inside : i < t.connections.length := (List.getElem?_eq_some_iff.mp found).1
  cases step_moved s t a moved with
  | upgrade u h same =>
      subst same
      rcases upgrade_cases s u h with ⟨same, _⟩ | ⟨_, added, _⟩
      · rw [same] at inside
        omega
      · rw [added, List.length_append, List.length_singleton] at inside
        have last : i = s.connections.length := by omega
        rw [added, last, List.getElem?_concat_length] at found
        exact (Option.some.inj found).symm
  | on j e d d' there moved same =>
      subst same
      rw [after_connections, List.length_set] at inside
      omega
  | depart same =>
      rw [same, each_length] at inside
      omega
  | halt closer entries same =>
      rw [same, each_length] at inside
      omega
  | drained closer same =>
      rw [same] at inside
      omega

theorem connections_invariant (origin : String) (I : Connection → Prop) (starts : I Connection.start) (departs : ∀ c, I c → I c.depart)
    (halts : ∀ c, I c → I c.halt) (steps : ∀ c e c', I c → c.step e = some c' → I c') (s : Server)
    (reached : (machine origin).Reachable s) (i : ℕ) (c : Connection) (found : s.connections[i]? = some c) : I c := by
  apply (machine origin).invariant (fun s => ∀ i c, s.connections[i]? = some c → I c) _ _ s reached i c found
  · intro i c found
    cases found
  · intro s t a _ before moved i c found
    by_cases old : i < s.connections.length
    · have holds : On i I s := ⟨s.connections[i], List.getElem?_eq_getElem old, before i _ (List.getElem?_eq_getElem old)⟩
      obtain ⟨c', found', holds'⟩ := on_step I i s t a departs halts (fun c e c' holds _ => steps c e c' holds) holds moved
      rw [found] at found'
      injection found' with same
      exact same ▸ holds'
    · exact step_fresh s t a i c moved (Nat.not_lt.mp old) found ▸ starts

theorem reachable_sound (origin : String) (s : Server) (reached : (machine origin).Reachable s) (i : ℕ) (c : Connection)
    (found : s.connections[i]? = some c) : Sound c := by
  apply connections_invariant origin Sound start_sound depart_sound halt_sound _ s reached i c found
  intro c e c' sound moved
  exact step_sound c c' e sound moved

theorem stepped_closes (c c' : Connection) (e : ConnectionEvent) (moved : Stepped c c' e) (ends : e ≠ .cleaned) :
    c'.closes = c.closes := by
  cases moved with
  | aside _ _ _ _ _ _ _ same => exact same ▸ rfl
  | start _ _ _ _ same => exact same ▸ rfl
  | finish _ _ _ _ _ _ _ _ _ same => exact same ▸ rfl
  | send _ _ _ _ _ _ _ _ same => exact same ▸ rfl
  | timeout _ _ _ _ same => exact same ▸ rfl
  | clear _ _ _ _ same => exact same ▸ rfl
  | close _ same => exact same ▸ (stop_rest { c with closing := true }).2.2.2.2
  | cleaned _ _ _ _ => exact absurd rfl ends

structure Slots (closes : List ℕ) (active : List ℕ) : Prop where
  held : ∀ i : ℕ, closes[i]? = some 0 → i ∈ active
  size : active.length = closes.count 0
  limit : active.length ≤ 64

theorem slots_add (closes active : List ℕ) (slots : Slots closes active) (room : active.length < 64) :
    Slots (closes ++ [0]) (active ++ [closes.length]) := by
  refine ⟨?_, ?_, ?_⟩
  · intro i fresh
    by_cases old : i < closes.length
    · rw [List.getElem?_append_left old] at fresh
      exact List.mem_append_left _ (slots.held i fresh)
    · have inside := (List.getElem?_eq_some_iff.mp fresh).1
      rw [List.length_append, List.length_singleton] at inside
      have last : i = closes.length := by omega
      exact last ▸ List.mem_append_right _ (List.mem_singleton_self _)
  · rw [List.length_append, List.count_append, slots.size]
    rfl
  · rw [List.length_append, List.length_singleton]
    exact room

theorem slots_free (closes active : List ℕ) (i : ℕ) (slots : Slots closes active) (held : closes[i]? = some 0) :
    Slots (closes.set i 1) (active.erase i) := by
  have member := slots.held i held
  obtain ⟨inside, zero⟩ := List.getElem?_eq_some_iff.mp held
  have one := List.length_erase_of_mem member
  refine ⟨?_, ?_, ?_⟩
  · intro j still
    by_cases same : j = i
    · subst same
      rw [List.getElem?_set_self inside] at still
      cases still
    · rw [List.getElem?_set_ne (fun own => same own.symm)] at still
      exact (List.mem_erase_of_ne same).mpr (slots.held j still)
  · rw [one, slots.size, List.count_set inside, zero]
    rfl
  · have limit := slots.limit
    omega

theorem after_active (s : Server) (i : ℕ) (e : ConnectionEvent) (c : Connection) (other : e ≠ .cleaned) :
    (s.after i e c).active = s.active := by
  cases e with
  | cleaned => exact absurd rfl other
  | _ => rfl

theorem step_slots (s t : Server) (a : Event) (slots : Slots (s.connections.map Connection.closes) s.active)
    (sound : ∀ (i : ℕ) c, s.connections[i]? = some c → Sound c) (moved : step s a = some t) :
    Slots (t.connections.map Connection.closes) t.active := by
  cases step_moved s t a moved with
  | upgrade u h same =>
      subst same
      rcases upgrade_cases s u h with ⟨same, active⟩ | ⟨room, added, active⟩
      · rw [same, active]
        exact slots
      · rw [added, active, List.map_append]
        have longer := slots_add _ _ slots room
        rwa [List.length_map] at longer
  | on i e c c' found went same =>
      subst same
      have before : (s.connections.map Connection.closes)[i]? = some c.closes := by rw [List.getElem?_map, found, Option.map_some]
      rw [after_connections, List.map_set]
      by_cases ends : e = .cleaned
      · subst ends
        obtain ⟨target, asked, _, same⟩ := cleaned_inv c c' went
        have count := (sound i c found).closes
        rw [asked, if_neg nofun] at count
        rw [count] at before
        rw [← same, Connection.cleaned, count]
        exact slots_free _ _ i slots before
      · obtain ⟨inside, value⟩ := List.getElem?_eq_some_iff.mp before
        rw [after_active s i e c' ends, stepped_closes c c' e (step_stepped c c' e went) ends, ← value, List.set_getElem_self inside]
        exact slots
  | depart same active =>
      rw [same, active, each_map Connection.depart Connection.closes (fun _ => rfl)]
      exact slots
  | halt closer entries same active =>
      rw [same, active, each_map Connection.halt Connection.closes (fun c => (stop_rest c).2.2.2.2)]
      exact slots
  | drained closer same active =>
      rw [same, active]
      exact slots

theorem reachable_slots (origin : String) (s : Server) (reached : (machine origin).Reachable s) :
    Slots (s.connections.map Connection.closes) s.active := by
  apply (machine origin).invariant (fun s => Slots (s.connections.map Connection.closes) s.active) _ _ s reached
  · exact ⟨nofun, rfl, Nat.zero_le 64⟩
  · intro s t a reached slots moved
    exact step_slots s t a slots (reachable_sound origin s reached) moved

end N2F.Socket

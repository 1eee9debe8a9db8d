import N2F.Socket.Shutdown

set_option autoImplicit false

namespace N2F.Socket

inductive Asked (s t : Server) : Event → Prop where
  | aside (e : Event) (same : t.closers = s.closers) (closed : t.closed = s.closed) : Asked s t e
  | close (same : t.closers = s.closers ++ [(s.active, none)]) (closed : t.closed = true) : Asked s t .close
  | expire (closer : ℕ) (entries : List ℕ) (found : s.closers[closer]? = some (entries, none))
      (same : t.closers = s.closers.set closer (entries, some false)) (closed : t.closed = s.closed) : Asked s t (.expire closer)
  | drained (closer : ℕ) (entries : List ℕ) (found : s.closers[closer]? = some (entries, none))
      (ended : entries.all s.finished = true) (same : t.closers = s.closers.set closer (entries, some true))
      (closed : t.closed = s.closed) : Asked s t (.drained closer)

theorem step_asked (s t : Server) (a : Event) (moved : step s a = some t) : Asked s t a := by
  cases a with
  | upgrade u h =>
      cases moved
      unfold Server.upgrade
      split_ifs
      · exact .aside _ rfl rfl
      · exact .aside _ rfl rfl
      · cases h with
        | _ => exact .aside _ rfl rfl
  | on i e =>
      obtain ⟨c, _, moved⟩ := Option.bind_eq_some_iff.mp moved
      obtain ⟨c', _, same⟩ := Option.map_eq_some_iff.mp moved
      exact same ▸ .aside _ rfl rfl
  | close =>
      cases moved
      exact .close rfl rfl
  | expire closer =>
      rw [step] at moved
      split at moved
      · next entries found =>
          cases moved
          exact .expire closer entries found rfl rfl
      · cases moved
  | drained closer =>
      rw [step] at moved
      split at moved
      · next entries found =>
          split_ifs at moved with ended
          cases moved
          exact .drained closer entries found ended rfl rfl
      · cases moved

theorem step_refusals (s t : Server) (e : Event) (other : ∀ u h, e ≠ .upgrade u h) (moved : step s e = some t) :
    t.refusals = s.refusals := by
  cases e with
  | upgrade u h => exact absurd rfl (other u h)
  | on i e =>
      obtain ⟨c, _, moved⟩ := Option.bind_eq_some_iff.mp moved
      obtain ⟨c', _, rfl⟩ := Option.map_eq_some_iff.mp moved
      rfl
  | close =>
      cases moved
      rfl
  | expire closer =>
      rw [step] at moved
      split at moved
      · cases moved
        rfl
      · cases moved
  | drained closer =>
      rw [step] at moved
      split at moved
      · split_ifs at moved
        cases moved
        rfl
      · cases moved

structure Closers (s : Server) : Prop where
  closed : s.closers ≠ [] → s.closed = true
  seen : ∀ (k : ℕ) entries answer, s.closers[k]? = some (entries, answer) → ∀ i < s.connections.length, i ∈ entries ∨ On i Over s
  ended : ∀ (k : ℕ) entries, s.closers[k]? = some (entries, some true) → ∀ i < s.connections.length, On i Over s

theorem closed_length (s t : Server) (a : Event) (closed : s.closed = true) (moved : step s a = some t) :
    t.connections.length = s.connections.length := by
  cases step_moved s t a moved with
  | upgrade u h same => rw [← same, upgrade_closed s u h closed]
  | on i e c c' found changed same => rw [← same, after_connections, List.length_set]
  | depart same active => rw [same, each_length]
  | halt closer entries same active => rw [same, each_length]
  | drained closer same active => rw [same]

theorem finished_over (s : Server) (i : ℕ) (inside : i < s.connections.length) (finished : s.finished i = true) : On i Over s := by
  rw [Server.finished, List.getElem?_eq_getElem inside, Option.all_some, decide_eq_true_eq] at finished
  exact ⟨_, List.getElem?_eq_getElem inside, finished⟩

theorem active_or_over (origin : String) (s : Server) (reached : (machine origin).Reachable s) (i : ℕ)
    (inside : i < s.connections.length) : i ∈ s.active ∨ On i Over s := by
  have found := List.getElem?_eq_getElem inside
  have closes := (reachable_sound origin s reached i _ found).closes
  by_cases ended : s.connections[i].cleanup = .done
  · exact .inr ⟨_, found, ended⟩
  · rw [if_neg ended] at closes
    refine .inl ((reachable_slots origin s reached).held i ?_)
    rw [List.getElem?_map, found, Option.map_some, closes]

theorem step_closers (origin : String) (s t : Server) (a : Event) (reached : (machine origin).Reachable s) (closers : Closers s)
    (moved : step s a = some t) : Closers t := by
  have lasting (i : ℕ) (holds : On i Over s) : On i Over t := over_step i s t a holds moved
  have old (k : ℕ) (entries : List ℕ) (answer : Option Bool) (here : s.closers[k]? = some (entries, answer)) :
      t.connections.length = s.connections.length := by
    refine closed_length s t a (closers.closed fun none => ?_) moved
    rw [none] at here
    cases here
  have seen (k : ℕ) (entries : List ℕ) (answer : Option Bool) (here : s.closers[k]? = some (entries, answer)) :
      ∀ i < t.connections.length, i ∈ entries ∨ On i Over t := by
    intro i inside
    rw [old k entries answer here] at inside
    exact (closers.seen k entries answer here i inside).imp_right (lasting i)
  have ended (k : ℕ) (entries : List ℕ) (here : s.closers[k]? = some (entries, some true)) :
      ∀ i < t.connections.length, On i Over t := by
    intro i inside
    rw [old k entries (some true) here] at inside
    exact lasting i (closers.ended k entries here i inside)
  cases step_asked s t a moved with
  | aside e same closed =>
      refine ⟨fun asked => closed.trans (closers.closed (same ▸ asked)), fun k entries answer here => ?_, fun k entries here => ?_⟩
      · exact seen k entries answer (same ▸ here)
      · exact ended k entries (same ▸ here)
  | close same closed =>
      have length : t.connections.length = s.connections.length := by
        cases moved
        exact each_length _ _ _
      refine ⟨fun _ => closed, fun k entries answer here => ?_, fun k entries here => ?_⟩
      · rw [same] at here
        rcases Roster.join_cases s.closers k _ _ here with ⟨_, new⟩ | ⟨_, there⟩
        · injection new with found
          intro i inside
          rw [length] at inside
          exact found ▸ (active_or_over origin s reached i inside).imp_right (lasting i)
        · exact seen k entries answer there
      · rw [same] at here
        rcases Roster.join_cases s.closers k _ _ here with ⟨_, new⟩ | ⟨_, there⟩
        · injection new with _ unanswered
          cases unanswered
        · exact ended k entries there
  | expire closer entries found same closed =>
      refine ⟨fun _ => closed.trans (closers.closed fun none => ?_), fun k entries' answer here => ?_, fun k entries' here => ?_⟩
      · rw [none] at found
        cases found
      · rw [same] at here
        rcases Roster.set_cases s.closers closer k _ _ here with ⟨_, new⟩ | ⟨_, there⟩
        · injection new with own
          exact own ▸ seen closer entries none found
        · exact seen k entries' answer there
      · rw [same] at here
        rcases Roster.set_cases s.closers closer k _ _ here with ⟨_, new⟩ | ⟨_, there⟩
        · injection new with _ answered
          cases answered
        · exact ended k entries' there
  | drained closer entries found finished same closed =>
      refine ⟨fun _ => closed.trans (closers.closed fun none => ?_), fun k entries' answer here => ?_, fun k entries' here => ?_⟩
      · rw [none] at found
        cases found
      · rw [same] at here
        rcases Roster.set_cases s.closers closer k _ _ here with ⟨_, new⟩ | ⟨_, there⟩
        · injection new with own
          exact own ▸ seen closer entries none found
        · exact seen k entries' answer there
      · rw [same] at here
        rcases Roster.set_cases s.closers closer k _ _ here with ⟨_, new⟩ | ⟨_, there⟩
        · intro i inside
          rw [old closer entries none found] at inside
          rcases closers.seen closer entries none found i inside with entry | past
          · exact lasting i (finished_over s i inside (List.all_eq_true.mp finished i entry))
          · exact lasting i past
        · exact ended k entries' there

theorem reachable_closers (origin : String) (s : Server) (reached : (machine origin).Reachable s) : Closers s := by
  refine (machine origin).invariant Closers ?_ (fun s t a reached closers moved => step_closers origin s t a reached closers moved) s reached
  exact ⟨fun asked => absurd rfl asked, nofun, nofun⟩

def Idle (s : Server) : Prop := ∀ c ∈ s.connections, c.cleanup = .done ∧ ∀ w ∈ c.works, w.stage = .gone

theorem over_idle (origin : String) (s : Server) (reached : (machine origin).Reachable s)
    (ended : ∀ i < s.connections.length, On i Over s) : Idle s := by
  intro c member
  obtain ⟨i, inside, rfl⟩ := List.getElem_of_mem member
  have found := List.getElem?_eq_getElem inside
  obtain ⟨c, here, past⟩ := ended i inside
  rw [found] at here
  cases here
  have sound := reachable_sound origin s reached i _ found
  refine ⟨past, (sound_orderly _ sound).last ?_⟩
  rw [sound.closes, if_pos (show s.connections[i].cleanup = .done from past)]
  exact Nat.one_pos

end N2F.Socket

import N2F.Roster
import N2F.Socket.Steps

set_option autoImplicit false

namespace N2F.Socket

structure Sound (c : Connection) : Prop where
  pending : ∀ w, c.pending = some w ↔ ∃ a, c.works[w]? = some a ∧ a.stage ≠ .gone
  numbers : (c.sent.map Prod.fst).Nodup
  bodies : ∀ w ∈ c.sent.map Prod.fst, ∃ a, c.works[w]? = some a ∧ a.stage ≠ .handling
  closes : c.closes = if c.cleanup = .done then 1 else 0
  closing : c.cleanup ≠ .unasked → c.closing = true
  quiet : c.cleanup = .awaiting none ∨ c.cleanup = .done → c.pending = none
  target : ∀ w, c.cleanup = .awaiting (some w) → (∃ a, c.works[w]? = some a) ∧ ∀ v, c.pending = some v → v = w

theorem put_at (c : Connection) (number : ℕ) (w w' : Work) (found : c.works[number]? = some w) (v : ℕ) :
    (c.put number w').works[v]? = if v = number then some w' else c.works[v]? :=
  Roster.set_at c.works number w w' found v

theorem start_sound : Sound Connection.start := by
  refine ⟨?_, List.nodup_nil, ?_, rfl, ?_, ?_, ?_⟩
  · simp [Connection.start]
  · intro w member
    cases member
  · intro asked
    exact absurd rfl asked
  · intro _
    rfl
  · intro w asked
    cases asked

theorem aside_sound (c : Connection) (pong closing terminated : Bool) (codes : List (ℕ × String)) (later : c.closing = true → closing = true)
    (sound : Sound c) : Sound { c with pong := pong, closing := closing, terminated := terminated, codes := codes } :=
  ⟨sound.pending, sound.numbers, sound.bodies, sound.closes, fun asked => later (sound.closing asked), sound.quiet, sound.target⟩

theorem put_sound (c : Connection) (number : ℕ) (w w' : Work) (sound : Sound c) (found : c.works[number]? = some w)
    (pending : w.stage ≠ .gone) (pending' : w'.stage ≠ .gone) (settled : w.stage ≠ .handling → w'.stage ≠ .handling) :
    Sound (c.put number w') := by
  have works := put_at c number w w' found
  refine ⟨?_, sound.numbers, ?_, sound.closes, sound.closing, sound.quiet, ?_⟩
  · intro v
    rw [works v]
    by_cases same : v = number
    · subst same
      rw [if_pos rfl]
      constructor
      · intro _
        exact ⟨w', rfl, pending'⟩
      · intro _
        exact (sound.pending v).mpr ⟨w, found, pending⟩
    · rw [if_neg same]
      exact sound.pending v
  · intro v member
    obtain ⟨a, old, behind⟩ := sound.bodies v member
    rw [works v]
    by_cases same : v = number
    · subst same
      rw [found] at old
      injection old with same
      subst same
      exact ⟨w', if_pos rfl, settled behind⟩
    · exact ⟨a, by rw [if_neg same, old], behind⟩
  · intro v asked
    obtain ⟨⟨a, old⟩, only⟩ := sound.target v asked
    refine ⟨?_, only⟩
    rw [works v]
    by_cases same : v = number
    · exact ⟨w', if_pos same⟩
    · exact ⟨a, by rw [if_neg same, old]⟩

theorem stop_work (w : Work) : w.stop.stage = w.stage ∧ (w.aborted = true → w.stop.aborted = true) := by
  by_cases running : w.stage = .handling ∨ w.stage = .sending
  · rw [Work.stop, if_pos running]
    exact ⟨rfl, fun _ => rfl⟩
  · rw [Work.stop, if_neg running]
    exact ⟨rfl, id⟩

theorem stop_works (c : Connection) : ∃ f : Work → Work, (∀ w, (f w).stage = w.stage ∧ (w.aborted = true → (f w).aborted = true)) ∧
    ∀ v : ℕ, c.stop.works[v]? = (c.works[v]?).map f := by
  by_cases stopped : c.stopped = true
  · rw [Connection.stop, if_pos stopped]
    exact ⟨id, fun w => ⟨rfl, id⟩, fun v => by rw [Option.map_id_fun, id_eq]⟩
  · rw [Connection.stop, if_neg stopped]
    refine ⟨Work.stop, stop_work, ?_⟩
    intro v
    exact List.getElem?_map

theorem stop_rest (c : Connection) : c.stop.pending = c.pending ∧ c.stop.closing = c.closing ∧ c.stop.cleanup = c.cleanup ∧
    c.stop.sent = c.sent ∧ c.stop.closes = c.closes := by
  by_cases stopped : c.stopped = true
  · rw [Connection.stop, if_pos stopped]
    exact ⟨rfl, rfl, rfl, rfl, rfl⟩
  · rw [Connection.stop, if_neg stopped]
    exact ⟨rfl, rfl, rfl, rfl, rfl⟩

theorem stop_sound (c : Connection) (sound : Sound c) : Sound c.stop := by
  obtain ⟨f, keeps, works⟩ := stop_works c
  obtain ⟨pending, closing, cleanup, sent, closes⟩ := stop_rest c
  refine ⟨?_, ?_, ?_, ?_, ?_, ?_, ?_⟩
  · intro w
    rw [pending, works, sound.pending w]
    constructor
    · rintro ⟨a, found, left⟩
      exact ⟨f a, by rw [found, Option.map_some], by rwa [(keeps a).1]⟩
    · rintro ⟨a, found, left⟩
      obtain ⟨b, old, same⟩ := Option.map_eq_some_iff.mp found
      exact ⟨b, old, by rwa [← same, (keeps b).1] at left⟩
  · rw [sent]
    exact sound.numbers
  · rw [sent]
    intro w member
    obtain ⟨a, found, settled⟩ := sound.bodies w member
    exact ⟨f a, by rw [works, found, Option.map_some], by rwa [(keeps a).1]⟩
  · rw [closes, cleanup]
    exact sound.closes
  · rw [closing, cleanup]
    exact sound.closing
  · rw [pending, cleanup]
    exact sound.quiet
  · rw [pending, cleanup]
    intro w asked
    obtain ⟨⟨a, found⟩, only⟩ := sound.target w asked
    exact ⟨⟨f a, by rw [works, found, Option.map_some]⟩, only⟩

theorem depart_sound (c : Connection) (sound : Sound c) : Sound c.depart := aside_sound c c.pong c.closing c.terminated _ id sound

theorem halt_sound (c : Connection) (sound : Sound c) : Sound c.halt :=
  aside_sound c.stop c.stop.pong c.stop.closing true c.stop.codes id (stop_sound c sound)

theorem start_work (c : Connection) (m : Message) (sound : Sound c) (idle : c.pending = none) (unasked : c.cleanup = .unasked) :
    Sound { c with works := c.works ++ [⟨m, .handling, false⟩], pending := some c.works.length } := by
  have old (v : ℕ) (a : Work) (found : c.works[v]? = some a) : a.stage = .gone := by
    by_contra left
    have running := (sound.pending v).mpr ⟨a, found, left⟩
    rw [idle] at running
    cases running
  refine ⟨?_, sound.numbers, ?_, sound.closes, sound.closing, ?_, ?_⟩
  · intro w
    simp only [Option.some.injEq]
    constructor
    · intro same
      exact ⟨⟨m, .handling, false⟩, same ▸ List.getElem?_concat_length, nofun⟩
    · rintro ⟨a, found, left⟩
      by_cases inside : w < c.works.length
      · rw [List.getElem?_append_left inside] at found
        exact absurd (old w a found) left
      · have bound := (List.getElem?_eq_some_iff.mp found).1
        rw [List.length_append, List.length_singleton] at bound
        omega
  · intro w member
    obtain ⟨a, found, settled⟩ := sound.bodies w member
    exact ⟨a, Roster.join_kept _ _ _ _ found, settled⟩
  · intro asked
    rw [show c.cleanup = .unasked from unasked] at asked
    rcases asked with asked | asked
    · cases asked
    · cases asked
  · intro w asked
    rw [show c.cleanup = .unasked from unasked] at asked
    cases asked

theorem send_sound (c : Connection) (number : ℕ) (w : Work) (body : ByteArray) (sound : Sound c) (found : c.works[number]? = some w)
    (running : w.stage = .handling) : Sound ({ c with sent := c.sent ++ [(number, body)] }.put number { w with stage := .sending }) := by
  have pending : w.stage ≠ .gone := by rw [running]; nofun
  have moved := put_sound c number w { w with stage := .sending } sound found pending nofun nofun
  refine ⟨moved.pending, ?_, ?_, moved.closes, moved.closing, moved.quiet, moved.target⟩
  · have fresh : number ∉ c.sent.map Prod.fst := by
      intro member
      obtain ⟨a, old, settled⟩ := sound.bodies number member
      rw [found] at old
      injection old with same
      exact settled (same ▸ running)
    rw [Connection.put, List.map_append]
    refine List.nodup_append.mpr ⟨sound.numbers, List.nodup_singleton _, ?_⟩
    intro v member u own same
    rw [same, List.mem_singleton.mp own] at member
    exact fresh member
  · intro v member
    rw [Connection.put, List.map_append] at member
    rcases List.mem_append.mp member with earlier | now
    · exact moved.bodies v earlier
    · rw [List.mem_singleton.mp now]
      exact ⟨{ w with stage := .sending }, Roster.set_self c.works _ _ _ found, nofun⟩

theorem clear_sound (c : Connection) (number : ℕ) (w : Work) (sound : Sound c) (found : c.works[number]? = some w)
    (ended : w.stage = .ended) : Sound { c.put number { w with stage := .gone } with pending := none } := by
  have running : c.pending = some number := (sound.pending number).mpr ⟨w, found, by rw [ended]; nofun⟩
  have works := put_at c number w { w with stage := .gone } found
  refine ⟨?_, sound.numbers, ?_, sound.closes, sound.closing, fun _ => rfl, ?_⟩
  · intro v
    refine ⟨nofun, ?_⟩
    rintro ⟨a, there, left⟩
    rw [works v] at there
    by_cases same : v = number
    · rw [if_pos same] at there
      injection there with gone
      exact absurd (gone ▸ rfl) left
    · rw [if_neg same] at there
      have other := (sound.pending v).mpr ⟨a, there, left⟩
      rw [running] at other
      injection other with own
      exact absurd own.symm same
  · intro v member
    obtain ⟨a, old, settled⟩ := sound.bodies v member
    rw [works v]
    by_cases same : v = number
    · exact ⟨{ w with stage := .gone }, if_pos same, nofun⟩
    · exact ⟨a, by rw [if_neg same, old], settled⟩
  · intro v asked
    obtain ⟨⟨a, old⟩, _⟩ := sound.target v asked
    refine ⟨?_, nofun⟩
    rw [works v]
    by_cases same : v = number
    · exact ⟨{ w with stage := .gone }, if_pos same⟩
    · exact ⟨a, by rw [if_neg same, old]⟩

theorem close_sound (c : Connection) (sound : Sound c) (unasked : c.cleanup = .unasked) : Sound c.close := by
  have closes : c.closes = 0 := by rw [sound.closes, unasked]; rfl
  have closed : Sound { c with closing := true } := aside_sound c c.pong true c.terminated c.codes (fun _ => rfl) sound
  have stopped := stop_sound _ closed
  obtain ⟨pending, closing, _, _, same⟩ := stop_rest { c with closing := true }
  refine ⟨stopped.pending, stopped.numbers, stopped.bodies, same.trans closes, fun _ => closing, ?_, ?_⟩
  · intro asked
    rcases asked with asked | asked
    · injection asked with idle
      exact pending.trans idle
    · cases asked
  · intro v asked
    injection asked with running
    obtain ⟨a, found, _⟩ := (stopped.pending v).mp (pending.trans running)
    refine ⟨⟨a, found⟩, ?_⟩
    intro u other
    rw [show c.close.pending = some v from pending.trans running] at other
    exact (Option.some.inj other).symm

theorem cleaned_sound (c : Connection) (sound : Sound c) (asked : c.cleanup ≠ .unasked) (before : c.cleanup ≠ .done)
    (idle : c.pending = none) : Sound c.cleaned := by
  have closes : c.closes = 0 := by rw [sound.closes, if_neg before]
  refine ⟨sound.pending, sound.numbers, sound.bodies, ?_, fun _ => sound.closing asked, fun _ => idle, nofun⟩
  rw [Connection.cleaned, if_pos rfl, closes]

theorem awaited_gone (c : Connection) (v : ℕ) (a : Work) (sound : Sound c) (asked : c.cleanup = .awaiting (some v))
    (found : c.works[v]? = some a) (gone : a.stage = .gone) : c.pending = none := by
  cases running : c.pending with
  | none => rfl
  | some u =>
      have same := (sound.target v asked).2 u running
      subst same
      obtain ⟨b, there, left⟩ := (sound.pending u).mp running
      rw [found] at there
      injection there with same
      exact absurd (same ▸ gone) left

theorem running_left (stage : Stage) (running : stage = .handling ∨ stage = .sending) : stage ≠ .gone := by
  rintro rfl
  rcases running with running | running
  · cases running
  · cases running

theorem step_sound (c c' : Connection) (e : ConnectionEvent) (sound : Sound c) (moved : c.step e = some c') : Sound c' := by
  cases step_stepped c c' e moved with
  | aside e pong closing terminated codes later calm same => exact same ▸ aside_sound c pong closing terminated codes later sound
  | start frame m unasked idle same => exact same ▸ start_work c m sound idle unasked
  | finish e number w closing codes found running turn later same =>
      have pending := running_left w.stage running
      exact same ▸ put_sound _ number w _ (aside_sound c c.pong closing c.terminated codes later sound) found pending nofun nofun
  | send number w outcome body found running live opened same => exact same ▸ send_sound c number w body sound found running
  | timeout number w found running same =>
      have pending := running_left w.stage running
      exact same ▸ aside_sound _ c.pong c.closing true c.codes id (put_sound c number w _ sound found pending pending id)
  | clear number w found ended same => exact same ▸ clear_sound c number w sound found ended
  | close unasked same => exact same ▸ close_sound c sound unasked
  | cleaned target asked gone same =>
      have waits : c.cleanup ≠ .unasked ∧ c.cleanup ≠ .done := by
        rw [asked]
        exact ⟨nofun, nofun⟩
      refine same ▸ cleaned_sound c sound waits.1 waits.2 ?_
      cases target with
      | none => exact sound.quiet (.inl asked)
      | some v =>
          obtain ⟨a, found, past⟩ := gone v rfl
          exact awaited_gone c v a sound asked found past

end N2F.Socket

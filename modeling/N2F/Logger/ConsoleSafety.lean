import N2F.Logger.Secrets
import N2F.Logger.Closing
import N2F.Ecma.Printable

set_option autoImplicit false

namespace N2F.Logger

open Ecma

-- U+0000..U+001F, U+007F..U+009F, U+2028 and U+2029.
def isControl (c : Char) : Bool := c.toNat ≤ 0x1F || isConsoleControl c

def Clean (cs : List Char) : Prop := ∀ c ∈ cs, isControl c = false

def opening (level : Level) (color : Bool) : List Char := if color then escapeCharacter :: '[' :: shade level ++ ['m'] else []

def closing (color : Bool) : List Char := if color then escapeCharacter :: "[0m".toList else []

def SafeLine (color : Bool) (level : Level) (line : Line) : Prop :=
  ∃ before after, line = before ++ opening level color ++ level.upperCase ++ closing color ++ after ++ ['\n'] ∧
    Clean before ∧ Clean level.upperCase ∧ Clean after

theorem visible_clean (cs : List Char) (visible : Visible cs) : Clean cs := by
  intro c member
  obtain ⟨lower, upper⟩ := visible c member
  have small : ¬ c.toNat ≤ 0x1F := by omega
  have early : ¬ 0x7F ≤ c.toNat := by omega
  have line : c.toNat ≠ 0x2028 := by omega
  have paragraph : c.toNat ≠ 0x2029 := by omega
  simp only [isControl, isConsoleControl, small, early, line, paragraph, decide_false, Bool.false_and, Bool.or_self]

theorem clean_append (xs ys : List Char) (left : Clean xs) (right : Clean ys) : Clean (xs ++ ys) :=
  List.forall_mem_append.mpr ⟨left, right⟩

theorem clean_cons (c : Char) (cs : List Char) (head : isControl c = false) (tail : Clean cs) : Clean (c :: cs) :=
  List.forall_mem_cons.mpr ⟨head, tail⟩

theorem console_controls_clean (cs : List Char) (printable : Printable cs) : Clean (consoleControls cs) := by
  intro c member
  obtain ⟨d, inside, from'⟩ := List.mem_flatMap.mp member
  by_cases control : isConsoleControl d = true
  · rw [if_pos control] at from'
    have visible : Visible ('\\' :: 'u' :: (Nat.toDigits 16 d.toNat).leftpad 4 '0') :=
      visible_cons _ _ (by decide) (visible_cons _ _ (by decide)
        (leftpad_visible 4 _ (to_digits_visible 16 _ (by decide) (by decide))))
    exact visible_clean _ visible c from'
  · rw [if_neg control, List.mem_singleton] at from'
    have large := printable d inside
    have low : ¬ d.toNat ≤ 0x1F := by omega
    rw [from', isControl, Bool.eq_false_of_not_eq_true control, decide_eq_false low, Bool.or_self]

theorem escape_clean (s : Str) : Clean (escape s) := by
  apply console_controls_clean
  intro c member
  exact quote_printable s c (List.mem_of_mem_drop (List.mem_of_mem_dropLast member))

theorem utc_time_clean (ms : ℕ) : Clean (utcTime ms) := by
  have padded (width n : ℕ) : Visible ((Nat.toDigits 10 n).leftpad width '0') :=
    leftpad_visible width _ (to_digits_visible 10 n (by decide) (by decide))
  have behind (c : Char) (visible : 0x20 ≤ c.toNat ∧ c.toNat ≤ 0x7E) (front : List Char) (width n : ℕ) (before : Visible front) :
      Visible (front ++ c :: (Nat.toDigits 10 n).leftpad width '0') :=
    visible_append _ _ before (visible_cons _ _ visible (padded width n))
  exact visible_clean _ (behind '.' (by decide) _ 3 _ (behind ':' (by decide) _ 2 _ (behind ':' (by decide) _ 2 _ (padded 2 _))))

theorem upper_case_clean (level : Level) : Clean level.upperCase := by
  cases level with
  | debug | info | warn | error => exact visible_clean _ (by decide)

theorem severity_parts (level : Level) (color : Bool) : severityText level color = opening level color ++ level.upperCase ++ closing color := by
  cases color with
  | false => simp [severityText, opening, closing]
  | true => simp [severityText, opening, closing]

theorem console_line_safe (k : Console) (r : LogRecord) : SafeLine k.color r.level (consoleLine k r) := by
  have blank : isControl ' ' = false := by decide
  refine ⟨utcTime r.timestampMs.toNat ++ [' '], ' ' :: escape k.service ++ ' ' :: escape r.message ++
    ' ' :: consoleControls (Json.obj (present
      [(str "fields", some (.obj r.fields)), (str "scope", r.scope), (str "error", r.error), (str "trace", r.trace)])).text,
    ?_, ?_, upper_case_clean r.level, ?_⟩
  · rw [consoleLine, severity_parts]
    simp only [List.append_assoc, List.cons_append, List.nil_append]
  · exact clean_append _ _ (utc_time_clean _) (clean_cons _ _ blank (visible_clean _ visible_nil))
  · exact clean_append _ _ (clean_append _ _ (clean_cons _ _ blank (escape_clean _)) (clean_cons _ _ blank (escape_clean _)))
      (clean_cons _ _ blank (console_controls_clean _ (json_text_printable _)))

theorem encoding_safe (k : Console) (e : Emission) (reading : Date) (line : Line) (encoded : (e.encoding k reading).result = some line) :
    SafeLine k.color e.severity line := by
  have produced : (e.encoding k reading).line = some line := by
    rw [Encoding.result] at encoded
    split_ifs at encoded
    cases timed : normalizedTime (e.encoding k reading).reading with
    | none => simp [timed] at encoded
    | some ms => simpa [timed] using encoded
  obtain ⟨ms, _, made⟩ := Option.bind_eq_some_iff.mp produced
  obtain ⟨r, recorded, rfl⟩ := Option.map_eq_some_iff.mp made
  obtain ⟨extra, _, rfl⟩ := Option.map_eq_some_iff.mp recorded
  exact console_line_safe k _

inductive Calls (k : Console) (s t : Session) : Prop where
  | quiet (same : t.runtime = s.runtime)
  | encoded (number : ℕ) (e : Emission) (reading : Date) (moved : step k.toConfig s.runtime (.encoded number (e.encoding k reading)) = some t.runtime)
  | other (e : Event) (plain : ∀ number encoding, e ≠ .encoded number encoding) (moved : step k.toConfig s.runtime e = some t.runtime)

theorem session_calls (k : Console) (s t : Session) (c : Call) (moved : s.step k c = some t) : Calls k s t := by
  cases c with
  | «with» logger fields =>
      obtain ⟨l, _, rfl⟩ := Option.map_eq_some_iff.mp moved
      exact .quiet rfl
  | withScope logger scope =>
      obtain ⟨l, _, rfl⟩ := Option.map_eq_some_iff.mp moved
      refine .quiet ?_
      cases l.withScope scope <;> rfl
  | withTrace logger ref =>
      obtain ⟨l, _, rfl⟩ := Option.map_eq_some_iff.mp moved
      refine .quiet ?_
      cases l.withTrace ref <;> rfl
  | withError logger error =>
      obtain ⟨l, _, rfl⟩ := Option.map_eq_some_iff.mp moved
      exact .quiet rfl
  | emit logger severity message fields =>
      obtain ⟨l, _, rfl⟩ := Option.map_eq_some_iff.mp moved
      exact .other (.emit severity) (fun number encoding same => by cases same) rfl
  | encode number reading =>
      obtain ⟨p, _, stepped⟩ := Option.bind_eq_some_iff.mp moved
      exact .encoded number p.2 reading (output_runtime k { s with pending := s.pending.filter fun q => q.1 ≠ number } t _ stepped)
  | output e =>
      obtain ⟨foreign, stepped⟩ := Option.ite_none_right_eq_some.mp moved
      refine .other e (fun number encoding same => ?_) (output_runtime k s t e stepped)
      rw [same] at foreign
      cases foreign

theorem accepted_grows (c : Config) (r t : Runtime) (e : Event) (moved : step c r e = some t) :
    acceptedLines t.verdicts = acceptedLines r.verdicts ∨
      ∃ number encoding line, e = .encoded number encoding ∧ encoding.result = some line ∧
        acceptedLines t.verdicts = acceptedLines r.verdicts ++ [line] := by
  cases e with
  | encoded number e =>
      obtain ⟨_, same⟩ := Option.ite_none_right_eq_some.mp moved
      obtain rfl := Option.some.inj same
      rw [Runtime.encoded]
      cases result : e.result with
      | none => exact .inl (by simp [accepted_append, Verdict.line?])
      | some line =>
          by_cases refused : r.delivery.refuses c line = true
          · exact .inl (by simp [accepted_append, refused, Verdict.line?])
          · rw [Bool.not_eq_true] at refused
            exact .inr ⟨number, e, line, rfl, result, by simp [accepted_append, refused, Verdict.line?]⟩
  | emit severity =>
      left
      obtain rfl := Option.some.inj moved
      rw [Runtime.emit]
      split_ifs
      · rfl
      · simp [accepted_append, Verdict.line?]
      · rfl
  | writeReturned line | writeThrew line | writeSettled line ok | flushReturned | flushThrew | flushSettled ok =>
      obtain ⟨_, same⟩ := Option.ite_none_right_eq_some.mp moved
      obtain rfl := Option.some.inj same
      exact .inl rfl
  | close timeoutMs =>
      left
      obtain rfl := Option.some.inj moved
      rw [Runtime.close]
      split_ifs <;> rfl
  | decide closer late =>
      obtain ⟨_, _, rfl⟩ := decide_step c r t closer late moved
      exact .inl rfl
  | answer closer =>
      obtain ⟨_, _, rfl⟩ := answer_step c r t closer moved
      exact .inl rfl

theorem session_lines_safe (k : Console) (s : Session) (reached : (session k).Reachable s) :
    ∀ line ∈ acceptedLines s.runtime.verdicts, ∃ level, SafeLine k.color level line := by
  apply (session k).invariant (fun s => ∀ line ∈ acceptedLines s.runtime.verdicts, ∃ level, SafeLine k.color level line) _ _ s reached
  · intro line none
    cases none
  · intro s t c _ safe moved
    cases session_calls k s t c moved with
    | quiet same =>
        rw [same]
        exact safe
    | encoded number e reading moved =>
        rcases accepted_grows _ _ _ _ moved with same | ⟨number', encoding, line, own, result, grown⟩
        · rw [same]
          exact safe
        · cases own
          rw [grown]
          exact List.forall_mem_append.mpr ⟨safe, List.forall_mem_singleton.mpr ⟨e.severity, encoding_safe k e reading line result⟩⟩
    | other e plain moved =>
        rcases accepted_grows _ _ _ _ moved with same | ⟨number, encoding, line, own, _⟩
        · rw [same]
          exact safe
        · exact absurd own (plain number encoding)

theorem clean_feeds (cs : List Char) (clean : Clean cs) : cs.count '\n' = 0 := by
  rw [List.count_eq_zero]
  intro member
  have control : isControl '\n' = true := by decide
  rw [clean '\n' member] at control
  cases control

theorem safe_line_feeds (color : Bool) (level : Level) (line : Line) (safe : SafeLine color level line) : line.count '\n' = 1 := by
  obtain ⟨before, after, rfl, clean, _, clean'⟩ := safe
  have severity : (opening level color ++ level.upperCase ++ closing color).count '\n' = 0 := by
    cases color <;> cases level <;> decide
  simp only [List.count_append] at severity ⊢
  rw [clean_feeds before clean, clean_feeds after clean', List.count_singleton_self]
  omega

theorem console_lines_controlled (k : Console) :
    (∀ r, SafeLine k.color r.level (consoleLine k r) ∧ (consoleLine k r).count '\n' = 1) ∧
    ∀ s, (session k).Reachable s → ∀ line ∈ s.runtime.delivery.handed,
      ∃ level, SafeLine k.color level line ∧ line.count '\n' = 1 := by
  refine ⟨fun r => ⟨console_line_safe k r, safe_line_feeds _ _ _ (console_line_safe k r)⟩, fun s reached line member => ?_⟩
  have sound := reachable_sound k.toConfig s.runtime
    ((machine k.toConfig).simulates_reachable (session k) Session.runtime (session_runtime k) s reached)
  have accepted : line ∈ acceptedLines s.runtime.verdicts := by
    rw [sound.held.order]
    exact List.mem_append_left _ member
  obtain ⟨level, safe⟩ := session_lines_safe k s reached line accepted
  exact ⟨level, safe, safe_line_feeds _ _ _ safe⟩

theorem console_lines_controlled_demo : ∃ s line, (session demoConsole).run Session.start (demoCalls (str "a\n")) = some s ∧
    s.runtime.delivery.handed = [line] ∧ ∃ level, SafeLine demoConsole.color level line ∧ line.count '\n' = 1 := by
  have ran : ((session demoConsole).run Session.start (demoCalls (str "a\n"))).any
      (fun s => s.runtime.delivery.handed.length = 1) = true := by decide +kernel
  obtain ⟨s, made, one⟩ := (Option.any_eq_true _ _).mp ran
  obtain ⟨line, only⟩ := List.length_eq_one_iff.mp (of_decide_eq_true one)
  have reached := (session demoConsole).run_reachable Session.start s _ .start made
  exact ⟨s, line, made, only, (console_lines_controlled demoConsole).2 s reached line (by simp [only])⟩

end N2F.Logger

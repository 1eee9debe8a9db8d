import N2F.Root.Config

set_option autoImplicit false

namespace N2F.Root

open Ecma Env Stateful

structure Config.Valid (c : Config) : Prop where
  executor : named c.resource = true
  environment : c.resource.environment ∈ ["development", "test", "production"].map str
  format : c.format ∈ ["console", "json", "none"].map str
  level : c.level ∈ ["debug", "info", "warn", "error"].map str
  color : c.color ∈ ["auto", "always", "never"].map str
  capacity : Within 1 65536 c.capacity
  maxBytes : Within 256 1048576 c.maxBytes
  flushMs : Within 1 10000 c.flushMs
  token : c.token ≠ []

theorem config_reads (lookup : Lookup) : Sound Quiet (readConfig lookup) fun c => named c.resource = true → c.Valid := by
  refine sound_bind _ _ _ _ (string_sound lookup _ _) fun name => ?_
  refine sound_bind _ _ _ _ (string_sound lookup _ _) fun group => ?_
  refine sound_bind _ _ _ _ (string_sound lookup _ _) fun version => ?_
  refine sound_bind _ _ _ _ (enumeration_sound lookup _ _ _) fun environment => ?_
  refine sound_bind _ _ _ _ (enumeration_sound lookup _ _ _) fun format => ?_
  refine sound_bind _ _ _ _ (enumeration_sound lookup _ _ _) fun level => ?_
  refine sound_bind _ _ _ _ (enumeration_sound lookup _ _ _) fun color => ?_
  refine sound_bind _ _ _ _ (int_sound lookup _ _ 1 65536 (by norm_num) (by norm_num)) fun capacity => ?_
  refine sound_bind _ _ _ _ (int_sound lookup _ _ 256 1048576 (by norm_num) (by norm_num)) fun maxBytes => ?_
  refine sound_bind _ _ _ _ (int_sound lookup _ _ 1 10000 (by norm_num) (by norm_num)) fun flushMs => ?_
  refine sound_bind _ _ _ _ (boolean_sound lookup _ _) fun verbose => ?_
  refine sound_bind _ _ _ _ (string_sound lookup _ _) fun noColor => ?_
  refine sound_bind _ _ _ _ (secret_sound lookup _) fun token => ?_
  refine sound_pure _ _ ?_
  intro given _ _ flushed sized roomy colored leveled formatted placed _ _ _ executor
  exact ⟨executor, placed, formatted, leveled, colored, roomy, sized, flushed, given⟩

theorem problems_quiet (r : Reader) (resource : Resource) (none : (problems r resource).isEmpty = true) : Quiet r ∧ named resource = true := by
  rw [problems] at none
  split_ifs at none with executor
  · exact ⟨List.isEmpty_iff.mp none, executor⟩
  · exact absurd (List.isEmpty_iff.mp none) (put_nonempty _ _ _)

theorem load_config_ok (lookup : Lookup) (c : Config) (loaded : loadConfig lookup = .ok c) :
    c.Valid ∧ (readConfig lookup Reader.new).2.manifest = .ok c.manifest := by
  rw [loadConfig] at loaded
  split at loaded
  next read r same =>
    split_ifs at loaded with none
    obtain ⟨still, executor⟩ := problems_quiet r read.resource none
    cases listed : r.manifest with
    | error e =>
        rw [listed] at loaded
        cases loaded
    | ok manifest =>
        rw [listed] at loaded
        have valid := (config_reads lookup Reader.new (by rw [same]; exact still)).2
        rw [same] at valid
        have valid := valid executor
        injection loaded with own
        rw [← own, same]
        exact ⟨⟨valid.executor, valid.environment, valid.format, valid.level, valid.color, valid.capacity, valid.maxBytes, valid.flushMs,
          valid.token⟩, listed⟩

end N2F.Root

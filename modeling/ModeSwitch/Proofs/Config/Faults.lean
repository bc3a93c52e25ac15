import Mathlib
import ModeSwitch.Proofs.Config.Soundness

/-! Which fault of a description is reported.

The faults of a toggle are numbered in the order in which they are looked for.  Validation reports
the first fault of the first toggle that has one, where a collision is a fault of the later toggle;
so what follows a toggle at fault makes no difference.
-/

namespace ModeSwitch

theorem Text.isBlankText_iff {text : String}
    : isBlankText text = true ↔ ∀ c ∈ text.toList, isBlank c = true := by
  simp [isBlankText]

/-- A text that has characters, none of them blank. -/
def IsWord (text : String) : Prop :=
  text ≠ "" ∧ ∀ c ∈ text.toList, Text.isBlank c = false

/-- A text can be a token exactly if it is a word. -/
theorem isToken_iff {text : String} : isToken text = true ↔ IsWord text := by
  simp [isToken, IsWord]

namespace ToggleSpec

/-- A toggle that follows the toggles `earlier` has a fault, which is the one with the given number
among those that are looked for. -/
inductive HasFault (earlier : List ToggleSpec) (spec : ToggleSpec) : Nat → ConfigFault → Prop where
  | blankKey (blank : ∀ c ∈ spec.key.toList, Text.isBlank c = true)
    : HasFault earlier spec 0 (.blankKey spec.title)
  | usedKey {other : ToggleSpec} (before : other ∈ earlier) (same : other.key = spec.key)
    : HasFault earlier spec 1 (.usedKey spec.key)
  | enabledToken (bad : ¬ IsWord spec.tokens.enabled)
    : HasFault earlier spec 2 (.badToken spec.key spec.tokens.enabled)
  | disabledToken (bad : ¬ IsWord spec.tokens.disabled)
    : HasFault earlier spec 3 (.badToken spec.key spec.tokens.disabled)
  | equalTokens (same : spec.tokens.enabled = spec.tokens.disabled)
    : HasFault earlier spec 4 (.equalTokens spec.key spec.tokens.enabled)
  | usedId {other : ToggleSpec} {n m : Notification} (before : other ∈ earlier)
    (found : other.notification = some n) (own : spec.notification = some m) (same : n.id = m.id)
    : HasFault earlier spec 5 (.usedId m.id spec.key)

/-- None of the first faults that are looked for is there. -/
def ClearOf (earlier : List ToggleSpec) (spec : ToggleSpec) (count : Nat) : Prop :=
  ∀ number < count, ∀ fault, ¬ spec.HasFault earlier number fault

/-- A toggle that has no fault, neither of its own nor beside the toggles `earlier`. -/
def Faultless (earlier : List ToggleSpec) (spec : ToggleSpec) : Prop :=
  ∀ number fault, ¬ spec.HasFault earlier number fault

/-- The fault of a toggle that none of its other faults comes before. -/
def FirstFault (earlier : List ToggleSpec) (spec : ToggleSpec) (fault : ConfigFault) : Prop :=
  ∃ number, spec.HasFault earlier number fault ∧ spec.ClearOf earlier number

variable {earlier : List ToggleSpec} {spec : ToggleSpec} {fault : ConfigFault}

theorem HasFault.unique {number : Nat} {other : ConfigFault}
    (has : spec.HasFault earlier number fault) (has' : spec.HasFault earlier number other)
    : fault = other := by
  cases has <;> cases has' <;> simp_all

/-- There is only one first fault. -/
theorem FirstFault.unique {other : ConfigFault} (first : spec.FirstFault earlier fault)
    (first' : spec.FirstFault earlier other)
    : fault = other := by
  obtain ⟨number, has, clear⟩ := first
  obtain ⟨number', has', clear'⟩ := first'
  rcases Nat.lt_trichotomy number number' with lower | rfl | higher
  · exact (clear' number lower fault has).elim
  · exact has.unique has'
  · exact (clear number' higher other has').elim

theorem ClearOf.succ {count : Nat} (clear : spec.ClearOf earlier count)
    (passed : ∀ fault, ¬ spec.HasFault earlier count fault)
    : spec.ClearOf earlier (count + 1) := by
  intro number below fault
  rcases Nat.lt_succ_iff_lt_or_eq.mp below with lower | rfl
  · exact clear number lower fault
  · exact passed fault

/-- A toggle that is clear of all six faults has none. -/
theorem ClearOf.faultless (clear : spec.ClearOf earlier 6) : spec.Faultless earlier := by
  intro number fault has
  have below : number < 6 := by cases has <;> omega
  exact clear number below fault has

/-- An id that is reported as used belongs to the toggle and to one before it. -/
theorem usedId?_eq_some {id : UInt32} (found : spec.usedId? earlier = some id)
    : ∃ m, spec.notification = some m ∧ m.id = id
        ∧ ∃ other ∈ earlier, ∃ n, other.notification = some n ∧ n.id = m.id := by
  unfold usedId? at found
  split at found
  · cases found
  · rename_i m own
    split at found
    · rename_i used
      obtain ⟨other, before, held⟩ := List.any_eq_true.mp used
      obtain ⟨n, shown, same⟩ := Option.any_eq_true .. |>.mp held
      exact ⟨m, own, Option.some.inj found, other, before, n, shown, by simpa using same⟩
    · cases found

/-- The faults are looked for in the order of their numbers, and each that is not found leaves the
toggle clear of one more. -/
theorem fault?_finds
    : match spec.fault? earlier with
      | some fault => spec.FirstFault earlier fault
      | none => spec.Faultless earlier := by
  have clear : spec.ClearOf earlier 0 := fun number below => absurd below (Nat.not_lt_zero number)
  unfold fault?
  by_cases blank : Text.isBlankText spec.key = true
  · rw [if_pos blank]
    exact ⟨0, .blankKey (Text.isBlankText_iff.mp blank), clear⟩
  rw [if_neg blank]
  -- A check that passes rules out its own fault, and the ones before are ruled out already.
  replace clear := clear.succ fun fault has => by
    cases has with
    | blankKey every => exact blank (Text.isBlankText_iff.mpr every)
  by_cases used : spec.keyIsUsed earlier = true
  · rw [if_pos used]
    obtain ⟨other, before, same⟩ := List.any_eq_true.mp used
    exact ⟨1, .usedKey before (of_decide_eq_true same), clear⟩
  rw [if_neg used]
  replace clear := clear.succ fun fault has => by
    cases has with
    | usedKey before same => exact used (List.any_eq_true.mpr ⟨_, before, decide_eq_true same⟩)
  by_cases enabled : isToken spec.tokens.enabled = true
  swap
  · rw [if_pos (by simpa using enabled)]
    exact ⟨2, .enabledToken (mt isToken_iff.mpr enabled), clear⟩
  rw [if_neg (by simpa using enabled)]
  replace clear := clear.succ fun fault has => by
    cases has with
    | enabledToken bad => exact bad (isToken_iff.mp enabled)
  by_cases disabled : isToken spec.tokens.disabled = true
  swap
  · rw [if_pos (by simpa using disabled)]
    exact ⟨3, .disabledToken (mt isToken_iff.mpr disabled), clear⟩
  rw [if_neg (by simpa using disabled)]
  replace clear := clear.succ fun fault has => by
    cases has with
    | disabledToken bad => exact bad (isToken_iff.mp disabled)
  by_cases equal : spec.tokens.enabled = spec.tokens.disabled
  · rw [if_pos equal]
    exact ⟨4, .equalTokens equal, clear⟩
  rw [if_neg equal]
  replace clear := clear.succ fun fault has => by
    cases has with
    | equalTokens same => exact equal same
  cases found : spec.usedId? earlier with
  | some id =>
      obtain ⟨m, own, rfl, other, before, n, shown, same⟩ := usedId?_eq_some found
      exact ⟨5, .usedId before shown own same, clear⟩
  | none =>
      refine (clear.succ fun fault has => ?_).faultless
      cases has with
      | usedId before shown own same =>
          exact usedId?_eq_none_iff.mp found _ before _ _ shown own same

/-- The fault that is reported is the first one in the order of the checks. -/
theorem fault?_eq_some_iff : spec.fault? earlier = some fault ↔ spec.FirstFault earlier fault := by
  have finds := @fault?_finds earlier spec
  cases found : spec.fault? earlier with
  | some other =>
      rw [found] at finds
      constructor
      · rintro ⟨⟩
        exact finds
      · intro first
        rw [finds.unique first]
  | none =>
      rw [found] at finds
      constructor
      · rintro ⟨⟩
      · rintro ⟨number, has, -⟩
        exact (finds number fault has).elim

/-- No fault is reported exactly if there is none. -/
theorem fault?_eq_none_iff_faultless : spec.fault? earlier = none ↔ spec.Faultless earlier := by
  have finds := @fault?_finds earlier spec
  cases found : spec.fault? earlier with
  | some fault =>
      rw [found] at finds
      obtain ⟨number, has, -⟩ := finds
      exact ⟨nofun, fun faultless => (faultless number fault has).elim⟩
  | none =>
      rw [found] at finds
      exact ⟨fun _ => finds, fun _ => rfl⟩

end ToggleSpec

namespace Config

open ToggleSpec

/-- Toggles without a fault, each beside those before it. -/
def AllFaultless (toggles : List ToggleSpec) : Prop :=
  ∀ earlier spec rest, toggles = earlier ++ spec :: rest → spec.Faultless earlier

/-- The search goes through the toggles in order and stops at the first fault. -/
theorem firstFault?_append (earlier first rest : List ToggleSpec)
    : firstFault? earlier (first ++ rest)
      = (firstFault? earlier first).or (firstFault? (earlier ++ first) rest) := by
  induction first generalizing earlier with
  | nil => simp [firstFault?]
  | cons spec first ih => simp [firstFault?, ih, Option.or_assoc]

/-- The first fault is that of a toggle whose predecessors have none. -/
theorem firstFault?_eq_some_iff {earlier toggles : List ToggleSpec} {fault : ConfigFault}
    : firstFault? earlier toggles = some fault
      ↔ ∃ before spec rest,
          toggles = before ++ spec :: rest
          ∧ firstFault? earlier before = none
          ∧ spec.fault? (earlier ++ before) = some fault := by
  constructor
  · intro found
    induction toggles generalizing earlier with
    | nil => cases found
    | cons spec rest ih =>
        cases own : spec.fault? earlier with
        | some other =>
            have same : some other = some fault := by simpa [firstFault?, own] using found
            exact ⟨[], spec, rest, rfl, rfl, by rw [List.append_nil, own, same]⟩
        | none =>
            have later : firstFault? (earlier ++ [spec]) rest = some fault := by
              simpa [firstFault?, own] using found
            obtain ⟨before, other, rest, rfl, clear, faulty⟩ := ih later
            refine ⟨spec :: before, other, rest, rfl, ?_, by simpa using faulty⟩
            simpa [firstFault?, own] using clear
  · rintro ⟨before, spec, rest, rfl, clear, faulty⟩
    rw [firstFault?_append, clear, Option.none_or, firstFault?, faulty, Option.some_or]

theorem firstFault?_eq_none_iff_allFaultless {toggles : List ToggleSpec}
    : firstFault? [] toggles = none ↔ AllFaultless toggles := by
  constructor
  · rintro none earlier spec rest rfl
    rw [firstFault?_append, firstFault?, Option.or_eq_none_iff, Option.or_eq_none_iff] at none
    simpa using fault?_eq_none_iff_faultless.mp none.2.1
  · intro faultless
    cases found : firstFault? [] toggles with
    | none => rfl
    | some fault =>
        obtain ⟨before, spec, rest, same, -, faulty⟩ := firstFault?_eq_some_iff.mp found
        have clear := fault?_eq_none_iff_faultless.mpr (faultless before spec rest same)
        cases clear.symm.trans faulty

theorem validate_eq_error_iff {config : Config} {fault : ConfigFault}
    : config.validate = .error fault ↔ firstFault? [] config.toggles = some fault := by
  unfold validate
  cases firstFault? [] config.toggles <;> simp

/-- The rules that a description has to keep. -/
structure KeepsRules (config : Config) : Prop where
  named : ∀ spec ∈ config.toggles, ∃ c ∈ spec.key.toList, Text.isBlank c = false
  keys : (config.toggles.map (·.key)).Nodup
  words : ∀ spec ∈ config.toggles, IsWord spec.tokens.enabled ∧ IsWord spec.tokens.disabled
  distinct : ∀ spec ∈ config.toggles, spec.tokens.enabled ≠ spec.tokens.disabled
  ids : (config.toggles.filterMap fun spec => spec.notification.map (·.id)).Nodup

/-- A description is sound exactly if it keeps the rules. -/
theorem sound_iff_keepsRules {config : Config} : config.Sound ↔ config.KeepsRules := by
  have named_iff (key : String)
      : Text.isBlankText key = false ↔ ∃ c ∈ key.toList, Text.isBlank c = false := by
    rw [← Bool.not_eq_true, Text.isBlankText_iff]
    simp
  have keys_iff : (config.toggles.map (·.key)).Nodup
      ↔ config.toggles.Pairwise fun first second => first.key ≠ second.key :=
    List.pairwise_map
  -- Toggles without a notification have no id in this list, and no condition in the other one.
  have ids_iff : (config.toggles.filterMap fun spec => spec.notification.map (·.id)).Nodup
      ↔ config.toggles.Pairwise fun first second =>
          ∀ n m, first.notification = some n → second.notification = some m → n.id ≠ m.id := by
    rw [List.Nodup, List.pairwise_filterMap]
    refine iff_of_eq (congrArg (List.Pairwise · config.toggles) ?_)
    funext first second
    simp only [Option.map_eq_some_iff, eq_iff_iff]
    constructor
    · rintro apart n m hn hm
      exact apart n.id ⟨n, hn, rfl⟩ m.id ⟨m, hm, rfl⟩
    · rintro apart _ ⟨n, hn, rfl⟩ _ ⟨m, hm, rfl⟩
      exact apart n m hn hm
  constructor
  · intro sound
    exact {
      named := fun spec member => (named_iff spec.key).mp (sound.wellFormed spec member).named
      keys := keys_iff.mpr (sound.compatible.imp fun compatible => compatible.keys)
      words := fun spec member =>
        ⟨isToken_iff.mp (sound.wellFormed spec member).enabledWord,
          isToken_iff.mp (sound.wellFormed spec member).disabledWord⟩
      distinct := fun spec member => (sound.wellFormed spec member).distinct
      ids := ids_iff.mpr (sound.compatible.imp fun compatible => compatible.ids)
    }
  · intro rules
    refine ⟨fun spec member => ?_, ?_⟩
    · exact {
        named := (named_iff spec.key).mpr (rules.named spec member)
        enabledWord := isToken_iff.mpr (rules.words spec member).1
        disabledWord := isToken_iff.mpr (rules.words spec member).2
        distinct := rules.distinct spec member
      }
    · have both := (keys_iff.mp rules.keys).and (ids_iff.mp rules.ids)
      exact both.imp fun apart => ⟨apart.1, apart.2⟩

end Config

/-- The text by which a fault names its toggle: the key, or the title where the key is blank. -/
def ConfigFault.subject : ConfigFault → String
  | .blankKey title => title
  | .usedKey key | .badToken key _ | .equalTokens key _ | .usedId _ key => key

/-- A message names the toggle that it is about, in quotes. -/
theorem ConfigFault.message_names (fault : ConfigFault)
    : ∃ front behind, fault.message = front ++ ("'" ++ fault.subject ++ "'") ++ behind := by
  -- The wording is cut at the quotes, which belong to the literals beside the name.
  have cut (front name behind : String)
      : (front ++ "'") ++ name ++ ("'" ++ behind) = front ++ ("'" ++ name ++ "'") ++ behind := by
    simp only [String.append_assoc]
  cases fault with
  | blankKey title =>
      have front : "Toggle with empty key (title '" = "Toggle with empty key (title " ++ "'" := by
        decide
      have behind : "')" = "'" ++ ")" := by decide
      refine ⟨"Toggle with empty key (title ", ")", ?_⟩
      unfold message subject
      dsimp only
      rw [front, behind, cut]
  | usedKey key =>
      have front : "Duplicate toggle key '" = "Duplicate toggle key " ++ "'" := by decide
      refine ⟨"Duplicate toggle key ", "", ?_⟩
      unfold message subject
      dsimp only
      rw [front, ← cut, String.append_empty]
  | badToken key token =>
      have front : "Toggle '" = "Toggle " ++ "'" := by decide
      have behind : "' has an invalid mode token " = "'" ++ " has an invalid mode token " := by
        decide
      refine ⟨"Toggle ", " has an invalid mode token " ++ Text.quote token, ?_⟩
      unfold message subject
      dsimp only
      rw [front, behind, cut, String.append_assoc]
  | equalTokens key token =>
      have front : "Toggle '" = "Toggle " ++ "'" := by decide
      have behind : "' uses the same token '" = "'" ++ " uses the same token '" := by decide
      refine ⟨"Toggle ", " uses the same token '" ++ token ++ "' for both modes", ?_⟩
      unfold message subject
      dsimp only
      rw [front, behind, cut]
      simp only [String.append_assoc]
  | usedId id key =>
      have quoted : " of toggle '" = " of toggle " ++ "'" := by decide
      have front : "Notification id " ++ toString id.toNat ++ " of toggle '"
          = "Notification id " ++ toString id.toNat ++ " of toggle " ++ "'" := by
        rw [quoted]
        exact String.append_assoc.symm
      have behind : "' is already in use" = "'" ++ " is already in use" := by decide
      refine ⟨"Notification id " ++ toString id.toNat ++ " of toggle ", " is already in use", ?_⟩
      unfold message subject
      dsimp only
      rw [front, behind, cut]

namespace Config

open ToggleSpec

/-- Validation passes exactly the descriptions that keep the rules.  Otherwise it reports the first
fault of the first toggle that has one, by name, and toggles that follow it change nothing. -/
theorem validate_reports_first_fault (config : Config)
    : (config.validate = .ok () ↔ config.KeepsRules)
      ∧ (∀ fault,
          config.validate = .error fault
          ↔ ∃ earlier spec rest,
              config.toggles = earlier ++ spec :: rest
              ∧ AllFaultless earlier
              ∧ spec.FirstFault earlier fault)
      ∧ (∀ fault more,
          config.validate = .error fault
          → ({ config with toggles := config.toggles ++ more } : Config).validate = .error fault)
      ∧ ∀ fault : ConfigFault,
          ∃ front behind, fault.message = front ++ ("'" ++ fault.subject ++ "'") ++ behind := by
  refine ⟨validate_eq_ok_iff.trans sound_iff_keepsRules, ?_, ?_, ConfigFault.message_names⟩
  · intro fault
    simp only [validate_eq_error_iff, firstFault?_eq_some_iff, firstFault?_eq_none_iff_allFaultless,
      fault?_eq_some_iff, List.nil_append]
  · intro fault more reported
    have found := validate_eq_error_iff.mp reported
    rw [validate_eq_error_iff, firstFault?_append, found, Option.some_or]

/-- Of a third switch that takes a key and has no tokens, the key is reported, whatever follows. -/
theorem charger_reports_first_fault
    : let third : ToggleSpec := ⟨"fast", "Slow charging", ⟨"/sys/slow"⟩, ⟨"", ""⟩, none⟩
      let nameless : ToggleSpec := ⟨" ", "", ⟨"/sys/none"⟩, ⟨"1", "0"⟩, none⟩
      let crowded : Config := { charger with toggles := charger.toggles ++ [third] }
      crowded.validate = .error (.usedKey "fast")
      ∧ ({ crowded with toggles := crowded.toggles ++ [nameless] } : Config).validate
        = .error (.usedKey "fast") := by
  intro third nameless crowded
  have reported : crowded.validate = .error (.usedKey "fast") := by decide
  exact ⟨reported, (validate_reports_first_fault crowded).2.2.1 _ [nameless] reported⟩

end Config

end ModeSwitch

import PagePaint.CommandLine.Options
import PagePaint.Proofs.Number.Numerals

set_option autoImplicit false

/-!
# The grammar of command lines

A command line is a row of groups, each a switch or an option with its value. What the groups ask
for is what is read. If the row breaks off at something that no group begins with, that decides the
error, and nothing behind it is looked at.
-/

namespace PagePaint.CommandLine

open PagePaint

def switches : List (String × Setting) :=
  [("--annot", .flags (.single .annotations)), ("--fill-to-stroke", .flags (.single .fillToStroke)),
    ("--scheme", .scheme), ("--forms", .forms)]

namespace ValuedOption

def spellings : ValuedOption → List String
  | output => ["--output", "-o"]
  | pauseEvery => ["--pause-every"]
  | stepLimit => ["--step-limit"]
  | scale => ["--scale"]
  | rotate => ["--rotate"]
  | flags => ["--flags"]

inductive Accepts : ValuedOption → String → Setting → Prop where
  | output (path : String) : Accepts output path (.output path)
  | pauseEvery {value : String} {interval : Nat}
      (numeral : Numeral.Natural UInt64.size value.toList interval) :
      Accepts pauseEvery value (.pauseEvery interval)
  | stepLimit {value : String} {limit : Nat}
      (numeral : Numeral.Natural UInt64.size value.toList limit) :
      Accepts stepLimit value (.stepLimit limit)
  | scale {value : String} {factor : Float32} (numeral : Numeral.Decimal value.toList factor) :
      Accepts scale value (.scale factor)
  | rotate {value : String} {rotation : Rotation}
      (numeral : Numeral.Natural UInt8.size value.toList rotation.quarterTurns.toNat) :
      Accepts rotate value (.rotate rotation)
  | flags {value : String} {word : Nat}
      (numeral : Numeral.Natural UInt32.size value.toList word) :
      Accepts flags value (.flags (.ofBits (UInt32.ofNat word)))

/-- Why a text is no value of an option that was spelled in some way. A number of quarter turns that
is none of a page is read first and then refused. -/
inductive Rejects (argument value : String) : ValuedOption → UsageError → Prop where
  | pauseEvery (noNumber : ∀ interval, ¬Numeral.Natural UInt64.size value.toList interval) :
      Rejects argument value pauseEvery (.invalidValue argument value)
  | stepLimit (noNumber : ∀ limit, ¬Numeral.Natural UInt64.size value.toList limit) :
      Rejects argument value stepLimit (.invalidValue argument value)
  | scale (noNumber : ∀ factor, ¬Numeral.Decimal value.toList factor) :
      Rejects argument value scale (.invalidValue argument value)
  | rotate (noNumber : ∀ turns, ¬Numeral.Natural UInt8.size value.toList turns) :
      Rejects argument value rotate (.invalidValue argument value)
  | turned {turns : Nat} (numeral : Numeral.Natural UInt8.size value.toList turns)
      (many : 3 < turns) :
      Rejects argument value rotate (.refusedValue (.quarterTurns (UInt8.ofNat turns)))
  | flags (noNumber : ∀ word, ¬Numeral.Natural UInt32.size value.toList word) :
      Rejects argument value flags (.invalidValue argument value)

end ValuedOption

/-- A group of arguments, with what it asks for. -/
inductive Group : List String → Setting → Prop where
  | switch {name : String} {setting : Setting} (known : (name, setting) ∈ switches) :
      Group [name] setting
  | valued {option : ValuedOption} {name value : String} {setting : Setting}
      (spelled : name ∈ option.spellings) (accepts : option.Accepts value setting) :
      Group [name, value] setting

inductive Fault : List String → UsageError → Prop where
  | unknown {argument : String} {rest : List String}
      (noSwitch : ∀ setting, (argument, setting) ∉ switches)
      (noOption : ∀ option : ValuedOption, argument ∉ option.spellings) :
      Fault (argument :: rest) (.unknownArgument argument)
  | lacksValue {option : ValuedOption} {name : String} (spelled : name ∈ option.spellings) :
      Fault [name] (.missingValue name)
  | badValue {option : ValuedOption} {name value : String} {rest : List String}
      {error : UsageError} (spelled : name ∈ option.spellings)
      (rejects : option.Rejects name value error) :
      Fault (name :: value :: rest) error

/-!
## One group
-/

theorem switch?_eq_some_iff {argument : String} {setting : Setting} :
    switch? argument = some setting ↔ (argument, setting) ∈ switches := by
  constructor
  · intro found
    unfold switch? at found
    split_ifs at found with annot fill scheme forms
    all_goals
      cases found
      subst argument
      simp [switches]
  · intro known
    simp only [switches, List.mem_cons, Prod.mk.injEq, List.not_mem_nil, or_false] at known
    rcases known with ⟨rfl, rfl⟩ | ⟨rfl, rfl⟩ | ⟨rfl, rfl⟩ | ⟨rfl, rfl⟩ <;> rfl

theorem ofArgument?_eq_some_iff {argument : String} {option : ValuedOption} :
    ValuedOption.ofArgument? argument = some option ↔ argument ∈ option.spellings := by
  constructor
  · intro found
    unfold ValuedOption.ofArgument? at found
    split_ifs at found
    all_goals
      cases found
      simp_all [ValuedOption.spellings]
  · intro spelled
    cases option <;> simp only [ValuedOption.spellings, List.mem_cons, List.not_mem_nil, or_false]
      at spelled
    case output => rcases spelled with rfl | rfl <;> rfl
    all_goals
      subst argument
      rfl

theorem switch?_of_spelled {argument : String} {option : ValuedOption}
    (spelled : argument ∈ option.spellings) : switch? argument = none := by
  have apart : ∀ option : ValuedOption, ∀ argument ∈ option.spellings, switch? argument = none := by
    intro option
    cases option <;> decide
  exact apart option argument spelled

namespace ValuedOption

variable {option : ValuedOption} {argument value : String} {setting : Setting} {error : UsageError}

theorem ofQuarterTurns?_cases (turns : UInt8) :
    (∃ rotation : Rotation, rotation.quarterTurns = turns) ∨
      3 < turns.toNat ∧ Rotation.ofQuarterTurns? turns = none := by
  by_cases few : turns = 0 ∨ turns = 1 ∨ turns = 2 ∨ turns = 3
  · left
    rcases few with rfl | rfl | rfl | rfl
    · exact ⟨.upright, rfl⟩
    · exact ⟨.clockwise90, rfl⟩
    · exact ⟨.half, rfl⟩
    · exact ⟨.clockwise270, rfl⟩
  · right
    simp only [not_or] at few
    refine ⟨?_, by simp [Rotation.ofQuarterTurns?, few]⟩
    simp only [← UInt8.toNat_inj, UInt8.toNat_ofNat] at few
    omega

private theorem read_of_accepts (accepts : option.Accepts value setting) :
    option.read argument value = .ok setting := by
  cases accepts with
  | output => rfl
  | pauseEvery numeral | stepLimit numeral | flags numeral =>
      simp only [read, Numeral.readNat?_eq_some_iff.mpr numeral, Option.map_some]
  | scale numeral => simp only [read, Numeral.readFloat?_eq_some_iff.mpr numeral, Option.map_some]
  | @rotate _ rotation numeral =>
      simp only [read, readRotation, Numeral.readNat?_eq_some_iff.mpr numeral, UInt8.ofNat_toNat]
      cases rotation <;> rfl

private theorem read_of_rejects (rejects : option.Rejects argument value error) :
    option.read argument value = .error error := by
  cases rejects with
  | pauseEvery noNumber | stepLimit noNumber | flags noNumber =>
      simp only [read, Numeral.readNat?_eq_none noNumber, Option.map_none]
  | scale noNumber => simp only [read, Numeral.readFloat?_eq_none noNumber, Option.map_none]
  | rotate noNumber => simp only [read, readRotation, Numeral.readNat?_eq_none noNumber]
  | @turned turns numeral many =>
      have whole : (UInt8.ofNat turns).toNat = turns := UInt8.toNat_ofNat_of_lt numeral.lt
      rcases ofQuarterTurns?_cases (UInt8.ofNat turns) with ⟨rotation, same⟩ | ⟨-, refused⟩
      · rw [← same] at whole
        cases rotation <;> simp [Rotation.quarterTurns] at whole <;> omega
      · simp only [read, readRotation, Numeral.readNat?_eq_some_iff.mpr numeral, refused]

/-- A value is accepted or rejected. -/
theorem accepts_or_rejects (option : ValuedOption) (argument value : String) :
    (∃ setting, option.Accepts value setting) ∨ ∃ error, option.Rejects argument value error := by
  cases option with
  | output => exact .inl ⟨_, .output value⟩
  | pauseEvery =>
      by_cases natural : ∃ interval, Numeral.Natural UInt64.size value.toList interval
      · exact .inl ⟨_, .pauseEvery natural.choose_spec⟩
      · exact .inr ⟨_, .pauseEvery (not_exists.mp natural)⟩
  | stepLimit =>
      by_cases natural : ∃ limit, Numeral.Natural UInt64.size value.toList limit
      · exact .inl ⟨_, .stepLimit natural.choose_spec⟩
      · exact .inr ⟨_, .stepLimit (not_exists.mp natural)⟩
  | scale =>
      by_cases decimal : ∃ factor, Numeral.Decimal value.toList factor
      · exact .inl ⟨_, .scale decimal.choose_spec⟩
      · exact .inr ⟨_, .scale (not_exists.mp decimal)⟩
  | rotate =>
      by_cases natural : ∃ turns, Numeral.Natural UInt8.size value.toList turns
      · obtain ⟨turns, numeral⟩ := natural
        have whole : (UInt8.ofNat turns).toNat = turns := UInt8.toNat_ofNat_of_lt numeral.lt
        rcases ofQuarterTurns?_cases (UInt8.ofNat turns) with ⟨rotation, same⟩ | ⟨many, -⟩
        · rw [← whole, ← same] at numeral
          exact .inl ⟨_, .rotate numeral⟩
        · rw [whole] at many
          exact .inr ⟨_, .turned numeral many⟩
      · exact .inr ⟨_, .rotate (not_exists.mp natural)⟩
  | flags =>
      by_cases natural : ∃ word, Numeral.Natural UInt32.size value.toList word
      · exact .inl ⟨_, .flags natural.choose_spec⟩
      · exact .inr ⟨_, .flags (not_exists.mp natural)⟩

end ValuedOption

private theorem settings_group {group : List String} {setting : Setting}
    (grouped : Group group setting) (rest : List String) :
    settings (group ++ rest) = (settings rest).map (setting :: ·) := by
  cases grouped with
  | switch known =>
      simp only [List.cons_append, List.nil_append, settings, switch?_eq_some_iff.mpr known]
  | valued spelled accepts =>
      simp only [List.cons_append, List.nil_append, settings, switch?_of_spelled spelled,
        ofArgument?_eq_some_iff.mpr spelled, ValuedOption.read_of_accepts accepts]

theorem settings_of_fault {arguments : List String} {error : UsageError}
    (fault : Fault arguments error) : settings arguments = .error error := by
  cases fault with
  | @unknown argument rest noSwitch noOption =>
      have switch : switch? argument = none := by
        rw [Option.eq_none_iff_forall_ne_some]
        intro setting found
        exact noSwitch setting (switch?_eq_some_iff.mp found)
      have option : ValuedOption.ofArgument? argument = none := by
        rw [Option.eq_none_iff_forall_ne_some]
        intro option found
        exact noOption option (ofArgument?_eq_some_iff.mp found)
      simp only [settings, switch, option]
  | lacksValue spelled =>
      simp only [settings, switch?_of_spelled spelled, ofArgument?_eq_some_iff.mpr spelled]
  | badValue spelled rejects =>
      simp only [settings, switch?_of_spelled spelled, ofArgument?_eq_some_iff.mpr spelled,
        ValuedOption.read_of_rejects rejects]

/-!
## A row of groups
-/

theorem settings_groups {groups : List (List String)} {all : List Setting}
    (grouped : List.Forall₂ Group groups all) (rest : List String) :
    settings (groups.flatten ++ rest) = (settings rest).map (all ++ ·) := by
  induction grouped with
  | nil => cases read : settings rest <;> simp [read, Except.map]
  | cons group grouped ih =>
      rw [List.flatten_cons, List.append_assoc, settings_group group, ih]
      cases settings rest <;> rfl

private theorem begins_with_group (argument : String) (rest : List String) :
    (∃ group setting others, Group group setting ∧ group ++ others = argument :: rest ∧
        others.length ≤ rest.length) ∨
      ∃ error, Fault (argument :: rest) error := by
  cases switch : switch? argument with
  | some setting =>
      exact .inl ⟨[argument], setting, rest, .switch (switch?_eq_some_iff.mp switch), rfl,
        Nat.le_refl _⟩
  | none =>
      cases option : ValuedOption.ofArgument? argument with
      | none =>
          refine .inr ⟨_, .unknown ?_ ?_⟩
          · intro setting known
            cases switch.symm.trans (switch?_eq_some_iff.mpr known)
          · intro other spelled
            cases option.symm.trans (ofArgument?_eq_some_iff.mpr spelled)
      | some option' =>
          have spelled := ofArgument?_eq_some_iff.mp option
          cases rest with
          | nil => exact .inr ⟨_, .lacksValue spelled⟩
          | cons value others =>
              rcases option'.accepts_or_rejects argument value with
                ⟨setting, accepts⟩ | ⟨error, rejects⟩
              · exact .inl ⟨[argument, value], setting, others, .valued spelled accepts, rfl,
                  Nat.le_succ _⟩
              · exact .inr ⟨error, .badValue spelled rejects⟩

/-- Every command line is a row of groups, behind which it ends or goes wrong. -/
theorem exists_groups (arguments : List String) :
    ∃ groups all rest, List.Forall₂ Group groups all ∧ groups.flatten ++ rest = arguments ∧
      (rest = [] ∨ ∃ error, Fault rest error) := by
  -- A group may take two arguments, so the induction is on a bound of their number.
  obtain ⟨bound, within⟩ : ∃ bound, arguments.length ≤ bound := ⟨_, Nat.le_refl _⟩
  induction bound generalizing arguments with
  | zero =>
      obtain rfl := List.length_eq_zero_iff.mp (Nat.le_zero.mp within)
      exact ⟨[], [], [], .nil, rfl, .inl rfl⟩
  | succ bound ih =>
      cases arguments with
      | nil => exact ⟨[], [], [], .nil, rfl, .inl rfl⟩
      | cons argument rest =>
          rcases begins_with_group argument rest with
            ⟨group, setting, others, grouped, split, shorter⟩ | fault
          · obtain ⟨groups, all, last, row, others_eq, ends⟩ :=
              ih others (Nat.le_trans shorter (Nat.le_of_succ_le_succ within))
            refine ⟨group :: groups, setting :: all, last, .cons grouped row, ?_, ends⟩
            rw [List.flatten_cons, List.append_assoc, others_eq, split]
          · exact ⟨[], [], argument :: rest, .nil, rfl, .inr fault⟩

theorem settings_eq_ok_iff {arguments : List String} {all : List Setting} :
    settings arguments = .ok all ↔
      ∃ groups, List.Forall₂ Group groups all ∧ groups.flatten = arguments := by
  constructor
  · intro read
    obtain ⟨groups, found, rest, grouped, rfl, ends⟩ := exists_groups arguments
    rw [settings_groups grouped] at read
    rcases ends with rfl | ⟨error, fault⟩
    · rw [List.append_nil]
      obtain rfl : found ++ [] = all := Except.ok.inj read
      rw [List.append_nil]
      exact ⟨groups, grouped, rfl⟩
    · rw [settings_of_fault fault] at read
      cases read
  · rintro ⟨groups, grouped, rfl⟩
    have read := settings_groups grouped []
    rw [List.append_nil] at read
    rw [read, settings]
    exact congrArg Except.ok (List.append_nil all)

theorem settings_eq_error_iff {arguments : List String} {error : UsageError} :
    settings arguments = .error error ↔
      ∃ groups all rest, List.Forall₂ Group groups all ∧ groups.flatten ++ rest = arguments ∧
        Fault rest error := by
  constructor
  · intro read
    obtain ⟨groups, all, rest, grouped, rfl, ends⟩ := exists_groups arguments
    rw [settings_groups grouped] at read
    rcases ends with rfl | ⟨found, fault⟩
    · cases read
    · rw [settings_of_fault fault] at read
      cases read
      exact ⟨groups, all, rest, grouped, rfl, fault⟩
  · rintro ⟨groups, all, rest, grouped, rfl, fault⟩
    rw [settings_groups grouped, settings_of_fault fault]
    rfl

end PagePaint.CommandLine

import Mathlib.Data.List.Perm.Basic
import PagePaint.Proofs.CommandLine.Grammar

set_option autoImplicit false

/-!
# What repeated options come to

Of every option with a value the last one counts, and flags add up. Groups may therefore change
places, as long as those that give a value to the same option stay in order.
-/

namespace PagePaint.CommandLine

open PagePaint

namespace Setting

def path? : Setting → Option String
  | output path => some path
  | _ => none

def interval? : Setting → Option Nat
  | pauseEvery interval => some interval
  | _ => none

def limit? : Setting → Option Nat
  | stepLimit limit => some limit
  | _ => none

def factor? : Setting → Option Float32
  | scale factor => some factor
  | _ => none

def rotation? : Setting → Option Rotation
  | rotate rotation => some rotation
  | _ => none

def flags? : Setting → Option RenderFlags
  | flags set => some set
  | _ => none

/-- The option whose earlier value a setting replaces. Flags and switches replace nothing. -/
def replaces? : Setting → Option ValuedOption
  | output _ => some .output
  | pauseEvery _ => some .pauseEvery
  | stepLimit _ => some .stepLimit
  | scale _ => some .scale
  | rotate _ => some .rotate
  | flags _ | scheme | forms => none

end Setting

namespace Options

/-- What settings come to: the last value that is given, or else the one of a program that is told
nothing, and all flags together. -/
def ofSettings (all : List Setting) : Options where
  output := (all.filterMap Setting.path?).getLastD initial.output
  pauseEvery := (all.filterMap Setting.interval?).getLast?
  stepLimit := (all.filterMap Setting.limit?).getLastD initial.stepLimit
  scale := (all.filterMap Setting.factor?).getLastD initial.scale
  rotation := (all.filterMap Setting.rotation?).getLastD initial.rotation
  flags := (all.filterMap Setting.flags?).foldl RenderFlags.union .empty
  scheme := decide (.scheme ∈ all)
  forms := decide (.forms ∈ all)

theorem ofSettings_concat (all : List Setting) (setting : Setting) :
    ofSettings (all ++ [setting]) = (ofSettings all).apply setting := by
  cases setting <;>
    simp [ofSettings, apply, List.filterMap_cons, Setting.path?, Setting.interval?, Setting.limit?,
      Setting.factor?, Setting.rotation?, Setting.flags?]

private theorem foldl_apply (all : List Setting) : all.foldl apply initial = ofSettings all := by
  induction all using List.reverseRecOn with
  | nil => rfl
  | append_singleton all setting ih =>
      rw [List.foldl_append, ih, ofSettings_concat]
      rfl

private theorem has_union (left right : RenderFlags) (flag : RenderFlag) :
    (left.union right).has flag = (left.has flag || right.has flag) := by
  simp only [RenderFlags.has, RenderFlags.union, UInt32.toNat_or, Nat.testBit_or]

theorem has_ofSettings (all : List Setting) (flag : RenderFlag) :
    (ofSettings all).flags.has flag = true ↔ ∃ set, .flags set ∈ all ∧ set.has flag = true := by
  induction all using List.reverseRecOn with
  | nil => simp [ofSettings, RenderFlags.has, RenderFlags.empty]
  | append_singleton all setting ih =>
      rw [ofSettings_concat]
      cases setting with
      | flags set =>
          rw [apply, has_union, Bool.or_eq_true, ih]
          constructor
          · rintro (⟨other, member, held⟩ | held)
            · exact ⟨other, List.mem_append_left _ member, held⟩
            · exact ⟨set, List.mem_append_right _ List.mem_cons_self, held⟩
          · rintro ⟨other, member, held⟩
            rcases List.mem_append.mp member with before | last
            · exact .inl ⟨other, before, held⟩
            · cases List.mem_singleton.mp last
              exact .inr held
      | output | pauseEvery | stepLimit | scale | rotate | scheme | forms =>
          simpa [apply] using ih

/-!
## Changing places
-/

def Apart (first second : Setting) : Prop :=
  first.replaces? = none ∨ second.replaces? ≠ first.replaces?

private theorem apply_comm {first second : Setting} (apart : Apart first second)
    (options : Options) :
    (options.apply first).apply second = (options.apply second).apply first := by
  cases first <;> cases second
  case flags.flags left right =>
    simp only [apply, RenderFlags.union, UInt32.or_assoc, UInt32.or_comm left.bits]
  case output.output | pauseEvery.pauseEvery | stepLimit.stepLimit | scale.scale | rotate.rotate =>
    rcases apart with impossible | impossible
    · cases impossible
    · exact absurd rfl impossible
  all_goals rfl

private theorem foldl_apply_front {setting : Setting} {before : List Setting}
    (apart : ∀ other ∈ before, Apart setting other) (after : List Setting) (options : Options) :
    (before ++ setting :: after).foldl apply options =
      (setting :: (before ++ after)).foldl apply options := by
  induction before generalizing options with
  | nil => rfl
  | cons other before ih =>
      obtain ⟨first, rest⟩ := List.forall_mem_cons.mp apart
      rw [List.cons_append, List.foldl_cons, ih rest, List.foldl_cons, ← apply_comm first]
      rfl

/-- A setting of a row is found in a row that keeps its order, behind settings that it is apart
from. -/
theorem exists_front {setting : Setting} {rest all : List Setting}
    (perm : (setting :: rest).Perm all)
    (order : ∀ option, (setting :: rest).filter (·.replaces? = some option) =
      all.filter (·.replaces? = some option)) :
    ∃ before after, all = before ++ setting :: after ∧ ∀ other ∈ before, Apart setting other := by
  cases replaced : setting.replaces? with
  | none =>
      obtain ⟨before, after, rfl⟩ := List.append_of_mem (perm.subset List.mem_cons_self)
      exact ⟨before, after, rfl, fun _ _ => .inl replaced⟩
  | some option =>
      have kept := (order option).symm
      rw [List.filter_cons_of_pos (by simp [replaced]), List.filter_eq_cons_iff] at kept
      obtain ⟨before, after, rfl, others, -⟩ := kept
      refine ⟨before, after, rfl, fun other member => .inr ?_⟩
      have apart := others other member
      rw [replaced]
      simpa using apart

private theorem filter_rest {setting : Setting} {rest before after : List Setting}
    (apart : ∀ other ∈ before, Apart setting other) {option : ValuedOption}
    (order : (setting :: rest).filter (·.replaces? = some option) =
      (before ++ setting :: after).filter (·.replaces? = some option)) :
    rest.filter (·.replaces? = some option) =
      (before ++ after).filter (·.replaces? = some option) := by
  rw [List.filter_append] at order ⊢
  by_cases replaced : setting.replaces? = some option
  · have none : before.filter (·.replaces? = some option) = [] := by
      rw [List.filter_eq_nil_iff]
      intro other member
      rcases apart other member with free | other'
      · cases free.symm.trans replaced
      · simpa [← replaced] using other'
    rw [none, List.nil_append, List.filter_cons_of_pos (by simp [replaced]),
      List.filter_cons_of_pos (by simp [replaced])] at order
    rw [none, List.nil_append]
    exact (List.cons.inj order).2
  · rw [List.filter_cons_of_neg (by simp [replaced]),
      List.filter_cons_of_neg (by simp [replaced])] at order
    exact order

/-- Settings may change places unless they give values to the same option. -/
theorem foldl_apply_perm {all all' : List Setting} (perm : all.Perm all')
    (order : ∀ option, all.filter (·.replaces? = some option) =
      all'.filter (·.replaces? = some option)) (options : Options) :
    all.foldl apply options = all'.foldl apply options := by
  induction all generalizing all' options with
  | nil =>
      obtain rfl := perm.nil_eq
      rfl
  | cons setting rest ih =>
      obtain ⟨before, after, rfl, apart⟩ := exists_front perm order
      have perm' : rest.Perm (before ++ after) := (perm.trans List.perm_middle).cons_inv
      rw [foldl_apply_front apart, List.foldl_cons, List.foldl_cons]
      exact ih perm' (fun option => filter_rest apart (order option)) _

/-!
## Command lines
-/

/-- A command line is read if it is a row of groups, and then as what its groups ask for, with every
flag that one of them sets. Otherwise the first place where no group begins tells what is wrong.
Groups in front may change places, unless they give values to the same option, whatever stands
behind them. -/
theorem ofArguments_grammar (arguments : List String) :
    (∀ options, ofArguments arguments = .ok options ↔
      ∃ groups all, List.Forall₂ Group groups all ∧ groups.flatten = arguments ∧
        options = ofSettings all ∧
        ∀ flag, options.flags.has flag = true ↔
          ∃ set, .flags set ∈ all ∧ set.has flag = true) ∧
    (∀ error, ofArguments arguments = .error error ↔
      ∃ groups all rest, List.Forall₂ Group groups all ∧ groups.flatten ++ rest = arguments ∧
        Fault rest error) ∧
    ∀ groups all, List.Forall₂ Group groups all → ∀ groups' all', List.Forall₂ Group groups' all' →
      all.Perm all' →
      (∀ option, all.filter (·.replaces? = some option) =
        all'.filter (·.replaces? = some option)) →
      ofArguments (groups.flatten ++ arguments) = ofArguments (groups'.flatten ++ arguments) := by
  refine ⟨?_, ?_, ?_⟩
  · intro options
    rw [ofArguments]
    constructor
    · intro read
      cases found : settings arguments with
      | error error =>
          rw [found] at read
          cases read
      | ok all =>
          rw [found] at read
          obtain ⟨groups, grouped, joined⟩ := settings_eq_ok_iff.mp found
          obtain rfl : options = ofSettings all := by
            rw [← foldl_apply]
            exact (Except.ok.inj read).symm
          exact ⟨groups, all, grouped, joined, rfl, has_ofSettings all⟩
    · rintro ⟨groups, all, grouped, joined, rfl, -⟩
      rw [settings_eq_ok_iff.mpr ⟨groups, grouped, joined⟩, ← foldl_apply]
      rfl
  · intro error
    rw [← settings_eq_error_iff, ofArguments]
    cases settings arguments with
    | error found => simp [Except.map]
    | ok all => simp [Except.map]
  · intro groups all grouped groups' all' grouped' perm order
    rw [ofArguments, ofArguments, settings_groups grouped, settings_groups grouped']
    cases settings arguments with
    | error error => rfl
    | ok later =>
        simp only [Except.map, List.foldl_append, foldl_apply_perm perm order]

theorem ofArguments_grammar_reordered :
    let groups := [["-o", "--forms"], ["--rotate", "+3"], ["--annot"], ["--rotate", "1"]]
    let groups' := [["--annot"], ["--rotate", "+3"], ["--rotate", "1"], ["-o", "--forms"]]
    let all : List Setting := [.output "--forms", .rotate .clockwise270,
      .flags (.single .annotations), .rotate .clockwise90]
    let all' : List Setting := [.flags (.single .annotations), .rotate .clockwise270,
      .rotate .clockwise90, .output "--forms"]
    List.Forall₂ Group groups all ∧ List.Forall₂ Group groups' all' ∧ all.Perm all' ∧
      (∀ option, all.filter (·.replaces? = some option) =
        all'.filter (·.replaces? = some option)) ∧
      (ofArguments groups'.flatten = .ok (ofSettings all')) ∧
      ofArguments (groups.flatten ++ ["--scale"]) = ofArguments (groups'.flatten ++ ["--scale"]) ∧
      ofArguments (groups'.flatten ++ ["--scale"]) = .error (.missingValue "--scale") := by
  intro groups groups' all all'
  have output : Group ["-o", "--forms"] (.output "--forms") :=
    .valued (by decide : "-o" ∈ ValuedOption.output.spellings) (.output "--forms")
  have annot : Group ["--annot"] (.flags (.single .annotations)) := .switch (by decide)
  have left : Group ["--rotate", "+3"] (.rotate .clockwise270) :=
    .valued (by decide : "--rotate" ∈ ValuedOption.rotate.spellings)
      (.rotate (Numeral.readNat?_eq_some_iff.mp (by decide)))
  have right : Group ["--rotate", "1"] (.rotate .clockwise90) :=
    .valued (by decide : "--rotate" ∈ ValuedOption.rotate.spellings)
      (.rotate (Numeral.readNat?_eq_some_iff.mp (by decide)))
  have grouped : List.Forall₂ Group groups all :=
    .cons output (.cons left (.cons annot (.cons right .nil)))
  have grouped' : List.Forall₂ Group groups' all' :=
    .cons annot (.cons left (.cons right (.cons output .nil)))
  have perm : all.Perm all' := by decide
  have order : ∀ option, all.filter (·.replaces? = some option) =
      all'.filter (·.replaces? = some option) := by
    intro option
    cases option <;> rfl
  have broken : Fault ["--scale"] (.missingValue "--scale") :=
    .lacksValue (by decide : "--scale" ∈ ValuedOption.scale.spellings)
  refine ⟨grouped, grouped', perm, order, ?_, ?_, ?_⟩
  · exact ((ofArguments_grammar groups'.flatten).1 _).mpr
      ⟨groups', all', grouped', rfl, rfl, has_ofSettings all'⟩
  · exact (ofArguments_grammar ["--scale"]).2.2 groups all grouped groups' all' grouped' perm order
  · exact ((ofArguments_grammar (groups'.flatten ++ ["--scale"])).2.1 _).mpr
      ⟨groups', all', ["--scale"], grouped', rfl, broken⟩

end Options

end PagePaint.CommandLine

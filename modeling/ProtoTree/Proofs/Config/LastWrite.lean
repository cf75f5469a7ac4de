import Mathlib.Data.List.Induction
import ProtoTree.Config.Basic

/-! # The last write of a field

Settings are read field by field, where the options of each generator are a
field of their own. After changes in order, a field holds what the last change
of it wrote, and the finished configuration shows the same, with one field
standing in for another that nothing set.
-/

namespace ProtoTree

namespace PluginOptions

/-- The options of a generator are those stored under its name, or none. -/
theorem get_eq_lookup (all : PluginOptions) (name : String) : all.get name = (all.lookup name).getD [] := rfl

@[simp] theorem lookup_set_self (name : String) (options : List String) (all : PluginOptions) :
    (all.set name options).lookup name = some options := by
  induction all with
  | nil => exact List.lookup_cons_self
  | cons entry rest ih =>
      rw [set]
      split
      · exact List.lookup_cons_self
      · split
        · exact List.lookup_cons_self
        · next other _ => rw [List.lookup_cons, beq_false_of_ne (Ne.symm other), ih]

theorem lookup_set_of_ne {name other : String} (different : name ≠ other) (options : List String)
    (all : PluginOptions) : (all.set name options).lookup other = all.lookup other := by
  have skip := beq_false_of_ne (Ne.symm different)
  induction all with
  | nil => rw [set, List.lookup_cons, skip]
  | cons entry rest ih =>
      rw [set]
      split
      · next same => rw [List.lookup_cons, List.lookup_cons, same, skip]
      · split
        · rw [List.lookup_cons, skip]
        · rw [List.lookup_cons, List.lookup_cons, ih]

theorem mem_names_set {name other : String} {options : List String} {all : PluginOptions} :
    other ∈ (all.set name options).map (·.1) ↔ other = name ∨ other ∈ all.map (·.1) := by
  induction all with
  | nil => simp [set]
  | cons entry rest ih =>
      rw [set]
      split
      · next same => simp [same]
      · split
        · simp
        · rw [List.map_cons, List.mem_cons, ih, List.map_cons, List.mem_cons, or_left_comm]

theorem isSome_lookup_iff {all : PluginOptions} {name : String} :
    (all.lookup name).isSome ↔ name ∈ all.map (·.1) := by
  rw [List.lookup_isSome_iff, List.mem_map]
  exact exists_congr fun entry => and_congr_right fun _ => by rw [beq_iff_eq, eq_comm]

/-- The names come in increasing order, so each comes once. -/
def Sorted (all : PluginOptions) : Prop := (all.map (·.1)).Pairwise (· < ·)

theorem Sorted.set {all : PluginOptions} (h : all.Sorted) (name : String) (options : List String) :
    (all.set name options).Sorted := by
  induction all with
  | nil => exact List.pairwise_singleton _ _
  | cons entry rest ih =>
      obtain ⟨above, sorted⟩ := List.pairwise_cons.mp h
      rw [PluginOptions.set]
      split
      · next same => exact List.pairwise_cons.mpr ⟨same ▸ above, sorted⟩
      · next different =>
          split
          · next before =>
              refine List.pairwise_cons.mpr ⟨fun other member => ?_, h⟩
              rcases List.mem_cons.mp member with rfl | later
              · exact before
              · exact String.lt_trans before (above other later)
          · next notBefore =>
              refine List.pairwise_cons.mpr ⟨fun other member => ?_, ih sorted⟩
              rcases mem_names_set.mp member with rfl | later
              · refine Decidable.byContradiction fun notAfter => different ?_
                exact String.le_antisymm (String.not_lt.mp notBefore) (String.not_lt.mp notAfter)
              · exact above other later

end PluginOptions

/-- The fields of a configuration. The options of each generator are a field of their own. -/
inductive Config.Field where
  | protoDir
  | workspaceDir
  | outputDir
  | protoPaths
  | plugins
  | options (plugin : String)
  | verbose
  | autoDetectImports
  | maxAscent
  | timeout
  | protoc
  deriving DecidableEq, Repr

/-- What a field holds. -/
def Config.Field.Value : Config.Field → Type
  | .protoDir | .workspaceDir | .outputDir => Path
  | .protoPaths => List Path
  | .plugins | .options _ => List String
  | .verbose | .autoDetectImports => Bool
  | .maxAscent => Nat
  | .timeout => Option Duration
  | .protoc => String

namespace Setting

/-- The field that a change writes. -/
def field : Setting → Config.Field
  | .protoDir _ => .protoDir
  | .workspaceDir _ => .workspaceDir
  | .outputDir _ => .outputDir
  | .protoPaths _ => .protoPaths
  | .plugins _ => .plugins
  | .pluginOptions plugin _ => .options plugin
  | .verbose _ => .verbose
  | .autoDetectImports _ => .autoDetectImports
  | .maxAscent _ => .maxAscent
  | .timeout _ => .timeout
  | .protoc _ => .protoc

/-- What a change writes to its field. -/
def value : (change : Setting) → change.field.Value
  | .protoDir dir => dir
  | .workspaceDir dir => dir
  | .outputDir dir => dir
  | .protoPaths dirs => dirs
  | .plugins names => names
  | .pluginOptions _ options => options
  | .verbose on => on
  | .autoDetectImports on => on
  | .maxAscent levels => levels
  | .timeout limit => limit
  | .protoc program => program

/-- What a change writes to a field, if it writes that one. -/
def writes? (f : Config.Field) (change : Setting) : Option f.Value :=
  if same : change.field = f then some (same ▸ change.value) else none

@[simp] theorem writes?_field (change : Setting) : change.writes? change.field = some change.value := dif_pos rfl

theorem writes?_of_ne {f : Config.Field} {change : Setting} (other : change.field ≠ f) : change.writes? f = none :=
  dif_neg other

end Setting

/-- What the last change of a field wrote. -/
def lastWrite? (f : Config.Field) (changes : List Setting) : Option f.Value := changes.reverse.findSome? (·.writes? f)

theorem lastWrite?_concat (f : Config.Field) (changes : List Setting) (change : Setting) :
    lastWrite? f (changes ++ [change]) = (change.writes? f).or (lastWrite? f changes) := by
  rw [lastWrite?, List.reverse_concat, List.findSome?_cons, lastWrite?]
  cases change.writes? f <;> rfl

theorem lastWrite?_append (f : Config.Field) (changes more : List Setting) :
    lastWrite? f (changes ++ more) = (lastWrite? f more).or (lastWrite? f changes) := by
  rw [lastWrite?, List.reverse_append, List.findSome?_append, lastWrite?, lastWrite?]

theorem lastWrite?_eq_none {f : Config.Field} {changes : List Setting} (others : ∀ change ∈ changes, change.field ≠ f) :
    lastWrite? f changes = none := by
  rw [lastWrite?, List.findSome?_eq_none_iff]
  exact fun change member => Setting.writes?_of_ne (others change (List.mem_reverse.mp member))

namespace Settings

/-- What a field holds, if it is set. -/
def get? (s : Settings) : (f : Config.Field) → Option f.Value
  | .protoDir => some s.protoDir
  | .workspaceDir => s.workspaceDir
  | .outputDir => some s.outputDir
  | .protoPaths => some s.protoPaths
  | .plugins => some s.plugins
  | .options plugin => s.pluginOptions.lookup plugin
  | .verbose => some s.verbose
  | .autoDetectImports => some s.autoDetectImports
  | .maxAscent => some s.maxAscent
  | .timeout => some s.timeout
  | .protoc => some s.protoc

theorem get?_apply_self (s : Settings) (change : Setting) : (s.apply change).get? change.field = some change.value := by
  cases change with
  | pluginOptions plugin options => exact PluginOptions.lookup_set_self plugin options s.pluginOptions
  | _ => rfl

theorem get?_apply_of_ne {f : Config.Field} {change : Setting} (other : change.field ≠ f) (s : Settings) :
    (s.apply change).get? f = s.get? f := by
  cases change with
  | pluginOptions plugin options =>
      cases f with
      | options name =>
          have different : plugin ≠ name := fun same => other (congrArg Config.Field.options same)
          exact PluginOptions.lookup_set_of_ne different options s.pluginOptions
      | _ => rfl
  | _ => cases f <;> first | rfl | exact absurd rfl other

/-- One change writes its field and leaves the others alone. -/
theorem get?_apply (s : Settings) (change : Setting) (f : Config.Field) :
    (s.apply change).get? f = (change.writes? f).or (s.get? f) := by
  by_cases same : change.field = f
  · subst same
    rw [get?_apply_self, Setting.writes?_field, Option.some_or]
  · rw [get?_apply_of_ne same, Setting.writes?_of_ne same, Option.none_or]

theorem applyAll_append (s : Settings) (changes more : List Setting) :
    s.applyAll (changes ++ more) = (s.applyAll changes).applyAll more := List.foldl_append

theorem applyAll_concat (s : Settings) (changes : List Setting) (change : Setting) :
    s.applyAll (changes ++ [change]) = (s.applyAll changes).apply change := applyAll_append s changes [change]

theorem sorted_apply {s : Settings} (h : s.pluginOptions.Sorted) (change : Setting) :
    (s.apply change).pluginOptions.Sorted := by
  cases change with
  | pluginOptions plugin options => exact h.set plugin options
  | _ => exact h

theorem sorted_applyAll {s : Settings} (h : s.pluginOptions.Sorted) (changes : List Setting) :
    (s.applyAll changes).pluginOptions.Sorted := by
  induction changes using List.reverseRecOn with
  | nil => exact h
  | append_singleton changes change ih =>
      rw [applyAll_concat]
      exact sorted_apply ih change

/-- After changes in order, a field holds what the last change of it wrote. -/
theorem get?_applyAll (s : Settings) (changes : List Setting) (f : Config.Field) :
    (s.applyAll changes).get? f = (lastWrite? f changes).or (s.get? f) := by
  induction changes using List.reverseRecOn with
  | nil => rfl
  | append_singleton changes change ih =>
      rw [applyAll_concat, get?_apply, ih, lastWrite?_concat, Option.or_assoc]

end Settings

namespace Config

/-- What a field of a configuration holds. Only the options of a generator may be missing. -/
def get? (c : Config) : (f : Field) → Option f.Value
  | .protoDir => some c.protoDir
  | .workspaceDir => some c.workspaceDir
  | .outputDir => some c.outputDir
  | .protoPaths => some c.protoPaths
  | .plugins => some c.plugins
  | .options plugin => c.pluginOptions.lookup plugin
  | .verbose => some c.verbose
  | .autoDetectImports => some c.autoDetectImports
  | .maxAscent => some c.maxAscent
  | .timeout => some c.timeout
  | .protoc => some c.protoc

theorem get?_build {f : Field} (plain : f ≠ .workspaceDir) (s : Settings) : s.build.get? f = s.get? f := by
  cases f with
  | workspaceDir => exact absurd rfl plain
  | _ => rfl

theorem workspaceDir_build (s : Settings) :
    s.build.workspaceDir = (s.get? .workspaceDir).getD s.build.protoDir := rfl

end Config

end ProtoTree

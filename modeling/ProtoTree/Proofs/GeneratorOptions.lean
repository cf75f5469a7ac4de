import Mathlib.Data.List.Forall2
import Mathlib.Data.List.TakeWhile
import ProtoTree.CommandLine.Grammar
import ProtoTree.Proofs.Config.LastWrite
import ProtoTree.Proofs.Distinct

/-! # Options of generators

An option of a generator is given as one text, which is cut at its first `=`.
Gathering the options by generator keeps those of each in the order given, and
in the settings that follow they stand in place of what the generator would
have otherwise.
-/

namespace ProtoTree

/-- A text that names a generator and one option of it, with the first `=` between the two. -/
structure OptionText (text name option : String) : Prop where
  written : text = name ++ "=" ++ option
  first : '=' ∉ name.toList
  named : name ≠ ""
  filled : option ≠ ""

theorem OptionText.toList {text name option : String} (h : OptionText text name option) :
    text.toList = name.toList ++ '=' :: option.toList := by
  rw [h.written, String.toList_append, String.toList_append]
  simp

namespace Switch

theorem splitPluginOption_of_optionText {text name option : String} (h : OptionText text name option) :
    splitPluginOption text = some (name, option) := by
  have free : ∀ c ∈ name.toList, c != '=' := by
    intro c member
    rw [bne_iff_ne]
    rintro rfl
    exact h.first member
  have front : text.toList.takeWhile (· != '=') = name.toList := by
    rw [h.toList, List.takeWhile_append_of_pos free]
    simp
  have back : text.toList.dropWhile (· != '=') = '=' :: option.toList := by
    rw [h.toList, List.dropWhile_append_of_pos free]
    simp
  have kept : ¬ (name.toList.isEmpty || option.toList.isEmpty) := by
    rw [Bool.or_eq_true, List.isEmpty_iff, List.isEmpty_iff, String.toList_eq_nil_iff, String.toList_eq_nil_iff]
    exact fun blank => blank.elim h.named h.filled
  rw [splitPluginOption, front, back, List.drop_one, List.tail_cons, if_neg kept, String.ofList_toList,
    String.ofList_toList]

theorem optionText_of_splitPluginOption {text name option : String}
    (split : splitPluginOption text = some (name, option)) : OptionText text name option := by
  rw [splitPluginOption] at split
  split at split
  · cases split
  · next kept =>
      rw [Bool.or_eq_true, List.isEmpty_iff, List.isEmpty_iff, not_or] at kept
      obtain ⟨named, filled⟩ := kept
      obtain ⟨rfl, rfl⟩ := Prod.mk.inj (Option.some.inj split)
      cases back : text.toList.dropWhile (· != '=') with
      | nil => exact absurd (by rw [back, List.drop_nil]) filled
      | cons c rest =>
          have sign : c = '=' := by
            have stops := List.head?_dropWhile_not (· != '=') text.toList
            rw [back] at stops
            simpa using stops
          have whole := List.takeWhile_append_dropWhile (p := (· != '=')) (l := text.toList)
          rw [back, sign] at whole
          rw [back] at filled
          refine ⟨?_, ?_, ?_, ?_⟩
          · rw [← String.toList_inj]
            simpa [String.toList_append] using whole.symm
          · rw [String.toList_ofList]
            exact fun member => absurd (List.mem_takeWhile_imp member) (by simp)
          · simpa using named
          · simpa using filled

/-- A text is read just when it has the form of an option of a generator. -/
theorem readAll_eq_ok_iff {text : String} {values : List SwitchValue} :
    pluginOption.readAll (some text) = .ok values ↔
      ∃ name option, OptionText text name option ∧ values = [.pluginOption name option] := by
  have single : pluginOption.readAll (some text) = (pluginOption.read .pluginOption text).map fun value => [value] := by
    change [text].mapM (pluginOption.read .pluginOption) = _
    rw [List.mapM_cons, List.mapM_nil]
    cases pluginOption.read .pluginOption text <;> rfl
  rw [single, read]
  cases split : splitPluginOption text with
  | none =>
      constructor
      · intro accepted
        cases accepted
      · rintro ⟨name, option, written, -⟩
        rw [splitPluginOption_of_optionText written] at split
        cases split
  | some given =>
      constructor
      · intro accepted
        exact ⟨given.1, given.2, optionText_of_splitPluginOption split, (Except.ok.inj accepted).symm⟩
      · rintro ⟨name, option, written, rfl⟩
        rw [splitPluginOption_of_optionText written] at split
        cases split
        rfl

end Switch

/-! ## Gathering by generator -/

namespace SourceOptions

/-- The options of one generator, in the order given. -/
def optionsOf (options : List (String × String)) (name : String) : List String :=
  (options.filter fun given => given.1 == name).map (·.2)

theorem groupOptions_eq (options : List (String × String)) :
    groupOptions options = (options.map (·.1)).eraseDups.map fun name => (name, optionsOf options name) := by
  rw [groupOptions, ImportGraph.distinctBy_id_eq_eraseDups]
  rfl

theorem optionsOf_concat (options : List (String × String)) (given : String × String) (name : String) :
    optionsOf (options ++ [given]) name = optionsOf options name ++ if given.1 = name then [given.2] else [] := by
  rw [optionsOf, optionsOf, List.filter_append, List.map_append]
  split
  · next same => simp [same]
  · next other => simp [other]

theorem optionsOf_eq_nil {options : List (String × String)} {name : String} (new : name ∉ options.map (·.1)) :
    optionsOf options name = [] := by
  rw [optionsOf, List.map_eq_nil_iff, List.filter_eq_nil_iff]
  intro given member same
  exact new (List.mem_map.mpr ⟨given, member, by simpa using same⟩)

/-- Adds one option behind those of its generator, or the generator behind all others. -/
def gather (given : String × String) : List (String × List String) → List (String × List String)
  | [] => [(given.1, [given.2])]
  | entry :: rest =>
    if entry.1 = given.1 then (entry.1, entry.2 ++ [given.2]) :: rest else entry :: gather given rest

theorem gather_of_new {given : String × String} {names : List String} (new : given.1 ∉ names)
    (held : String → List String) :
    gather given (names.map fun name => (name, held name)) =
      names.map (fun name => (name, held name)) ++ [(given.1, [given.2])] := by
  induction names with
  | nil => rfl
  | cons name names ih =>
      rw [List.mem_cons, not_or] at new
      rw [List.map_cons, gather, if_neg (Ne.symm new.1), ih new.2, List.cons_append]

/-- An option of another generator adds nothing. -/
theorem map_held_of_new {given : String × String} {names : List String} (new : given.1 ∉ names)
    (held : String → List String) :
    (names.map fun name => (name, held name ++ if given.1 = name then [given.2] else [])) =
      names.map fun name => (name, held name) := by
  refine List.map_congr_left fun name member => ?_
  have different : given.1 ≠ name := fun same => new (same ▸ member)
  rw [if_neg different, List.append_nil]

theorem gather_of_known {given : String × String} {names : List String} (distinct : names.Nodup)
    (known : given.1 ∈ names) (held : String → List String) :
    gather given (names.map fun name => (name, held name)) =
      names.map fun name => (name, held name ++ if given.1 = name then [given.2] else []) := by
  induction names with
  | nil => cases known
  | cons name names ih =>
      obtain ⟨new, distinct⟩ := List.nodup_cons.mp distinct
      rw [List.map_cons, List.map_cons, gather]
      by_cases same : name = given.1
      · rw [if_pos same, if_pos same.symm, map_held_of_new (same ▸ new)]
      · rw [if_neg same, if_neg (Ne.symm same), List.append_nil,
          ih distinct ((List.mem_cons.mp known).resolve_left (Ne.symm same))]

theorem gather_groupOptions (options : List (String × String)) (given : String × String) :
    gather given (groupOptions options) = groupOptions (options ++ [given]) := by
  have listed : given.1 ∈ (options.map (·.1)).eraseDups ↔ given.1 ∈ options.map (·.1) := List.mem_eraseDups
  rw [groupOptions_eq, groupOptions_eq, List.map_append, List.map_singleton, List.eraseDups_append]
  simp only [optionsOf_concat]
  by_cases known : given.1 ∈ options.map (·.1)
  · have dropped : [given.1].removeAll (options.map (·.1)) = [] := by simpa [List.removeAll] using known
    rw [dropped, List.eraseDups_nil, List.append_nil,
      gather_of_known (ImportGraph.nodup_eraseDups _) (listed.mpr known)]
  · have kept : [given.1].removeAll (options.map (·.1)) = [given.1] := by simpa [List.removeAll] using known
    have new := mt listed.mp known
    rw [kept, gather_of_new new, List.map_append, map_held_of_new new, List.eraseDups_cons, List.filter_nil,
      List.eraseDups_nil, List.map_singleton, optionsOf_eq_nil known, if_pos rfl, List.nil_append]

/-- Options that are added one by one end up gathered by generator. -/
theorem foldl_gather (options : List (String × String)) :
    options.foldl (fun grouped given => gather given grouped) [] = groupOptions options := by
  induction options using List.reverseRecOn with
  | nil => rfl
  | append_singleton options given ih => rw [List.foldl_concat, ih, gather_groupOptions]

/-! ## The options of a configuration -/

/-- The options that the last change of a generator's options sets. -/
def lastOptions (name : String) (changes : List Setting) : Option (List String) :=
  lastWrite? (.options name) changes

theorem lastOptions_append (name : String) (changes more : List Setting) :
    lastOptions name (changes ++ more) = (lastOptions name more).or (lastOptions name changes) :=
  lastWrite?_append (.options name) changes more

theorem lastOptions_eq_none {name : String} {changes : List Setting}
    (others : ∀ change ∈ changes, change.field ≠ .options name) : lastOptions name changes = none :=
  lastWrite?_eq_none others

theorem lastOptions_singleton (plugin name : String) (options : List String) :
    lastOptions name [.pluginOptions plugin options] = if name = plugin then some options else none := by
  split
  · next same =>
      subst same
      have own := lastWrite?_concat (Setting.pluginOptions name options).field [] (.pluginOptions name options)
      rw [Setting.writes?_field, Option.some_or] at own
      exact own
  · next other =>
      refine lastOptions_eq_none fun change member => ?_
      rw [List.mem_singleton.mp member]
      exact fun same => other (Config.Field.options.inj same).symm

/-- Among options that are set name by name, each name has its own. -/
theorem lastOptions_map (names : List String) (held : String → List String) (name : String) :
    lastOptions name (names.map fun other => .pluginOptions other (held other)) =
      if name ∈ names then some (held name) else none := by
  induction names using List.reverseRecOn with
  | nil => rfl
  | append_singleton names last ih =>
      rw [List.map_append, List.map_singleton, lastOptions_append, ih, lastOptions_singleton]
      by_cases same : name = last
      · subst same
        have member : name ∈ names ++ [name] := List.mem_append_right names (List.mem_singleton_self name)
        rw [if_pos rfl, if_pos member, Option.some_or]
      · have kept : name ∈ names ++ [last] ↔ name ∈ names := by simp [same]
        rw [if_neg same, if_congr kept rfl rfl, Option.none_or]

theorem lookup_applyAll (s : Settings) (changes : List Setting) (name : String) :
    (s.applyAll changes).pluginOptions.lookup name =
      (lastOptions name changes).or (s.pluginOptions.lookup name) :=
  Settings.get?_applyAll s changes (.options name)

/-- The changes that have nothing to do with single options of a generator. -/
def plainChanges (o : SourceOptions) : List Setting :=
  (o.workspaceDir.map Setting.workspaceDir).toList ++ (if o.listAll then [.autoDetectImports false] else []) ++
    (o.maxAscent.map Setting.maxAscent).toList ++ (o.protoc.map Setting.protoc).toList

theorem field_of_mem_plainChanges {o : SourceOptions} {change : Setting} (member : change ∈ o.plainChanges)
    (name : String) : change.field ≠ .options name := by
  simp only [plainChanges, List.mem_append, Option.mem_toList, Option.map_eq_some_iff] at member
  rcases member with ((⟨dir, -, rfl⟩ | flag) | ⟨levels, -, rfl⟩) | ⟨program, -, rfl⟩
  · exact Config.Field.noConfusion
  · split at flag
    · rw [List.mem_singleton.mp flag]
      exact Config.Field.noConfusion
    · cases flag
  · exact Config.Field.noConfusion
  · exact Config.Field.noConfusion

theorem changes_eq (o : SourceOptions) (verbose : Bool) :
    o.changes verbose =
      [.protoDir o.protoDir, .outputDir o.outputDir, .protoPaths o.protoPaths, .plugins o.plugins] ++
        [.pluginOptions "go" o.goOptions] ++ [.pluginOptions "go-grpc" o.goGrpcOptions] ++ [.verbose verbose] ++
        o.plainChanges ++
        (o.pluginOptions.map (·.1)).eraseDups.map fun name => .pluginOptions name (optionsOf o.pluginOptions name) := by
  rw [changes, groupOptions_eq, List.map_map, plainChanges]
  simp only [List.append_assoc]
  rfl

theorem lastOptions_changes (o : SourceOptions) (verbose : Bool) (name : String) :
    lastOptions name (o.changes verbose) =
      if name ∈ o.pluginOptions.map (·.1) then some (optionsOf o.pluginOptions name)
      else if name = "go-grpc" then some o.goGrpcOptions
      else if name = "go" then some o.goOptions
      else none := by
  have plain : lastOptions name o.plainChanges = none :=
    lastOptions_eq_none fun change member => field_of_mem_plainChanges member name
  have leading : lastOptions name
      [.protoDir o.protoDir, .outputDir o.outputDir, .protoPaths o.protoPaths, .plugins o.plugins] = none :=
    lastOptions_eq_none (by simp [Setting.field])
  have verbosity : lastOptions name [.verbose verbose] = none := lastOptions_eq_none (by simp [Setting.field])
  have listed : name ∈ (o.pluginOptions.map (·.1)).eraseDups ↔ name ∈ o.pluginOptions.map (·.1) := List.mem_eraseDups
  simp only [changes_eq, lastOptions_append, lastOptions_map, lastOptions_singleton, plain, leading, verbosity,
    Option.none_or, Option.or_none, if_congr listed rfl rfl]
  split
  · rfl
  · split
    · rfl
    · rfl

variable (o : SourceOptions) (env : Environment) (verbose : Bool)

/-- The options of a generator are those given for it by name, else those of its own option, else there are none. -/
theorem lookup_build_settings (name : String) :
    (o.settings env verbose).build.pluginOptions.lookup name =
      if name ∈ o.pluginOptions.map (·.1) then some (optionsOf o.pluginOptions name)
      else if name = "go-grpc" then some o.goGrpcOptions
      else if name = "go" then some o.goOptions
      else none := by
  have defaults (notGrpc : name ≠ "go-grpc") (notGo : name ≠ "go") :
      (Settings.ofEnvironment env).pluginOptions.lookup name = none := by
    simp [Settings.ofEnvironment, List.lookup_cons, beq_false_of_ne notGo, beq_false_of_ne notGrpc]
  refine (lookup_applyAll (Settings.ofEnvironment env) (o.changes verbose) name).trans ?_
  rw [lastOptions_changes]
  split
  · rfl
  · split
    · rfl
    · split
      · rfl
      · next notGrpc notGo => rw [defaults notGrpc notGo, Option.or_none]

theorem sorted_build_settings : (o.settings env verbose).build.pluginOptions.Sorted := by
  have defaults : (Settings.ofEnvironment env).pluginOptions.Sorted := by
    change PluginOptions.Sorted [("go", _), ("go-grpc", _)]
    simp only [PluginOptions.Sorted, List.map_cons, List.map_nil]
    decide
  exact Settings.sorted_applyAll defaults (o.changes verbose)

variable {o env verbose} {texts : List String}

/-- Texts that are all read as options of generators are each cut at their first `=`, and only texts of that form are
    read. A generator that is named by some of them has their options in the order given, the go generators have those
    of their own option otherwise, and no other generator has any. -/
theorem pluginOptions_of_texts
    (read : List.Forall₂ (fun text given =>
      Switch.pluginOption.readAll (some text) = .ok [.pluginOption given.1 given.2]) texts o.pluginOptions) :
    List.Forall₂ (fun text given => OptionText text given.1 given.2) texts o.pluginOptions ∧
      (∀ text, (∃ values, Switch.pluginOption.readAll (some text) = .ok values) ↔
        ∃ name option, OptionText text name option) ∧
      o.pluginOptions.foldl (fun grouped given => gather given grouped) [] = groupOptions o.pluginOptions ∧
      (∀ name ∈ o.pluginOptions.map (·.1), (o.settings env verbose).build.pluginOptions.lookup name =
        some ((o.pluginOptions.filter fun given => given.1 == name).map (·.2))) ∧
      ("go" ∉ o.pluginOptions.map (·.1) →
        (o.settings env verbose).build.pluginOptions.lookup "go" = some o.goOptions) ∧
      ("go-grpc" ∉ o.pluginOptions.map (·.1) →
        (o.settings env verbose).build.pluginOptions.lookup "go-grpc" = some o.goGrpcOptions) ∧
      (∀ name, name ∈ (o.settings env verbose).build.pluginOptions.map (·.1) ↔
        name ∈ o.pluginOptions.map (·.1) ∨ name = "go" ∨ name = "go-grpc") ∧
      (o.settings env verbose).build.pluginOptions.Sorted := by
  refine ⟨read.imp fun text given accepted => ?_, fun text => ⟨?_, ?_⟩, foldl_gather o.pluginOptions,
    fun name given => ?_, fun unnamed => ?_, fun unnamed => ?_, fun name => ?_, sorted_build_settings o env verbose⟩
  · obtain ⟨name, option, written, same⟩ := Switch.readAll_eq_ok_iff.mp accepted
    obtain ⟨named, optioned⟩ := SwitchValue.pluginOption.inj (List.singleton_inj.mp same)
    rw [named, optioned]
    exact written
  · rintro ⟨values, accepted⟩
    obtain ⟨name, option, written, -⟩ := Switch.readAll_eq_ok_iff.mp accepted
    exact ⟨name, option, written⟩
  · rintro ⟨name, option, written⟩
    exact ⟨_, Switch.readAll_eq_ok_iff.mpr ⟨name, option, written, rfl⟩⟩
  · rw [lookup_build_settings, if_pos given, optionsOf]
  · rw [lookup_build_settings, if_neg unnamed, if_neg (by decide), if_pos rfl]
  · rw [lookup_build_settings, if_neg unnamed, if_pos rfl]
  · rw [← PluginOptions.isSome_lookup_iff, lookup_build_settings]
    split
    · next given => simp [given]
    · next unnamed =>
        split
        · next grpc => simp [grpc]
        · next notGrpc =>
            split
            · next go => simp [go]
            · next notGo => simpa [notGo, notGrpc] using unnamed

/-- Options of two generators in turns, one of them a go generator. -/
def takingTurns : SourceOptions :=
  { protoDir := .ofString "api", workspaceDir := none, outputDir := .ofString "gen", protoPaths := [],
    plugins := ["go", "grpc-gateway"], goOptions := ["paths=import"], goGrpcOptions := ["paths=source_relative"],
    pluginOptions := [("grpc-gateway", "logtostderr=true"), ("go", "M=x,y"), ("grpc-gateway", "paths=import")],
    listAll := true, maxAscent := some 2, protoc := none }

theorem pluginOptions_of_texts_takingTurns :
    List.Forall₂ (fun text given => Switch.pluginOption.readAll (some text) = .ok [.pluginOption given.1 given.2])
        ["grpc-gateway=logtostderr=true", "go=M=x,y", "grpc-gateway=paths=import"] takingTurns.pluginOptions ∧
      "go-grpc" ∉ takingTurns.pluginOptions.map (·.1) ∧
      (takingTurns.settings [] false).build.pluginOptions.lookup "grpc-gateway" =
        some ["logtostderr=true", "paths=import"] ∧
      (takingTurns.settings [] false).build.pluginOptions.lookup "go" = some ["M=x,y"] ∧
      (takingTurns.settings [] false).build.pluginOptions.lookup "go-grpc" = some ["paths=source_relative"] ∧
      "java" ∉ (takingTurns.settings [] false).build.pluginOptions.map (·.1) := by
  have read : List.Forall₂ (fun text given =>
      Switch.pluginOption.readAll (some text) = .ok [.pluginOption given.1 given.2])
      ["grpc-gateway=logtostderr=true", "go=M=x,y", "grpc-gateway=paths=import"] takingTurns.pluginOptions :=
    .cons rfl (.cons rfl (.cons rfl .nil))
  obtain ⟨-, -, -, named, -, grpc, listed, -⟩ := @pluginOptions_of_texts takingTurns [] false _ read
  exact ⟨read, by decide, named "grpc-gateway" (by decide), named "go" (by decide), grpc (by decide),
    fun member => absurd ((listed "java").mp member) (by decide)⟩

end SourceOptions

end ProtoTree

import ProtoTree.Proofs.Config.LastWrite
import ProtoTree.Proofs.Distinct
import ProtoTree.Proofs.Path.Repaired
import ProtoTree.Proofs.Plan

/-! # Output arguments

Each requested generator has one argument: its own flag, its options and the
directory. Names without `=` have different flags. The value behind a flag may be
read in two ways, because a colon ends the options, may stand in them and in the
directory, and is never escaped: then one of the two directories begins with what
the other reading takes for the end of the options.
-/

namespace ProtoTree

namespace Plugin

/-! ## Values -/

section Readings

variable {options options' : List String} {dir dir' : String}

end Readings

/-- The entries of the table have the flags and programs that the names would have by the rule. -/
theorem known_by_rule :
    ∀ p ∈ known, p.outFlag = p.name ++ "_out" ∧ (p.binary = none ∨ p.binary = some ("protoc-gen-" ++ p.name)) := by
  decide

theorem outFlag_ofName (name : String) : (ofName name).outFlag = name ++ "_out" := by
  rw [ofName]
  cases found : known.find? fun p => p.name == name with
  | none => rfl
  | some p =>
      have named : p.name = name := by simpa using List.find?_some found
      rw [Option.getD_some, (known_by_rule p (List.mem_of_find?_eq_some found)).1, named]

theorem outputArg_ofName (name : String) (options : List String) (dir : String) :
    (ofName name).outputArg options dir = "--" ++ name ++ "_out=" ++ outputValue options dir := by
  rw [← String.toList_inj, outputArg, outFlag_ofName]
  simp [String.toList_append]

/-- The flag of an argument: what stands before its first `=`. -/
def flagOf (arg : String) : List Char := arg.toList.takeWhile (· ≠ '=')

theorem flagOf_outputArg {name : String} (plain : '=' ∉ name.toList) (options : List String) (dir : String) :
    flagOf ((ofName name).outputArg options dir) = "--".toList ++ name.toList ++ "_out".toList := by
  -- the first equals sign is the one behind the flag
  have free : ∀ c ∈ "--".toList ++ name.toList ++ "_out".toList, decide (c ≠ '=') := by
    intro c member
    refine decide_eq_true ?_
    rintro rfl
    rw [List.mem_append, List.mem_append] at member
    rcases member with (dash | inner) | ending
    · exact absurd dash (by decide)
    · exact plain inner
    · exact absurd ending (by decide)
  have split : ((ofName name).outputArg options dir).toList =
      ("--".toList ++ name.toList ++ "_out".toList) ++ '=' :: (outputValue options dir).toList := by
    rw [outputArg_ofName]
    simp [String.toList_append]
  rw [flagOf, split, List.takeWhile_append_of_pos free]
  simp

theorem name_eq_of_flagOf {name name' : String} (plain : '=' ∉ name.toList) (plain' : '=' ∉ name'.toList)
    {options options' : List String} {dir dir' : String}
    (same : flagOf ((ofName name).outputArg options dir) = flagOf ((ofName name').outputArg options' dir')) :
    name = name' := by
  rw [flagOf_outputArg plain, flagOf_outputArg plain'] at same
  exact String.toList_inj.mp (List.append_cancel_left (List.append_cancel_right same))

end Plugin

/-! ## Requested outputs -/

namespace Config

variable {c : Config}

/-- What is asked of one generator: its options that are not empty, joined by commas and ended by a colon if there are
    any, and the directory. -/
def requestedValue (options : List String) (dir : Path) : String :=
  if options.filter (· ≠ "") = [] then dir.text
  else ",".intercalate (options.filter (· ≠ "")) ++ ":" ++ dir.text

theorem outputValue_eq_requestedValue (options : List String) (dir : Path) :
    Plugin.outputValue options dir.text = requestedValue options dir := by
  have filled : (options.filter fun o => !o.isEmpty) = options.filter (· ≠ "") := by
    refine List.filter_congr fun o _ => ?_
    rw [Bool.eq_iff_iff, Bool.not_eq_true', Bool.eq_false_iff, Ne, String.isEmpty_iff, decide_eq_true_iff]
  have empty : options.all String.isEmpty ↔ options.filter (· ≠ "") = [] := by
    rw [← filled, List.filter_eq_nil_iff, List.all_eq_true]
    simp
  rw [Plugin.outputValue, requestedValue, Plugin.joinOptions, filled, if_congr empty rfl rfl]

theorem pluginOutputs_eq (c : Config) :
    c.pluginOutputs = c.plugins.eraseDups.map fun name =>
      ⟨.ofName name, (c.pluginOptions.lookup name).getD []⟩ := by
  simp only [pluginOutputs, ImportGraph.distinctBy_id_eq_eraseDups, PluginOptions.get_eq_lookup]

theorem outputArgs_commandRequest (paths : ResolvedPaths) (s : SourceSet) :
    (c.commandRequest paths s).outputArgs = c.plugins.eraseDups.map fun name =>
      "--" ++ name ++ "_out=" ++ requestedValue ((c.pluginOptions.lookup name).getD []) paths.outputDir := by
  have outputs : (c.commandRequest paths s).outputs = c.pluginOutputs := rfl
  have dir : (c.commandRequest paths s).outputDir = paths.outputDir := rfl
  rw [CommandRequest.outputArgs, outputs, dir, pluginOutputs_eq, List.map_map]
  refine List.map_congr_left fun name _ => ?_
  rw [Function.comp_apply, Plugin.outputArg_ofName, outputValue_eq_requestedValue]

theorem eraseDups_of_repeated {front back : List String} {name : String} (given : name ∈ front) :
    (front ++ name :: back).eraseDups = (front ++ back).eraseDups := by
  have dropped : (name :: back).removeAll front = back.removeAll front := by
    rw [List.removeAll, List.removeAll, List.filter_cons_of_neg (by simpa using given)]
  rw [List.eraseDups_append, List.eraseDups_append, dropped]

theorem commandRequest_of_repeated {front back : List String} {name : String} (given : name ∈ front)
    (paths : ResolvedPaths) (s : SourceSet) :
    { c with plugins := front ++ name :: back }.commandRequest paths s =
      { c with plugins := front ++ back }.commandRequest paths s := by
  simp only [commandRequest, pluginOutputs_eq, eraseDups_of_repeated given]

/-- Each requested generator is asked for once, in the order in which the names are first given, under the flag of its
    name and with its own options. -/
theorem outputs_by_name (c : Config) (paths : ResolvedPaths) (s : SourceSet) :
    (∃ names : List String, names.Nodup ∧ (∀ name, name ∈ names ↔ name ∈ c.plugins) ∧
      names.Pairwise (fun a b => c.plugins.idxOf a < c.plugins.idxOf b) ∧
      (c.commandRequest paths s).outputArgs = names.map fun name =>
        "--" ++ name ++ "_out=" ++ requestedValue ((c.pluginOptions.lookup name).getD []) paths.outputDir) ∧
    (∀ a b : String, a ≠ b → '=' ∉ a.toList → '=' ∉ b.toList → ∀ options options' dir dir',
      Plugin.flagOf ((Plugin.ofName a).outputArg options dir) ≠
        Plugin.flagOf ((Plugin.ofName b).outputArg options' dir')) ∧
    ∀ front name back, c.plugins = front ++ back → name ∈ front →
      { c with plugins := front ++ name :: back }.commandRequest paths s = c.commandRequest paths s := by
  refine ⟨⟨c.plugins.eraseDups, ImportGraph.nodup_eraseDups _, fun name => List.mem_eraseDups, ?_,
    outputArgs_commandRequest paths s⟩, ?_, ?_⟩
  · rw [← ImportGraph.distinctBy_id_eq_eraseDups]
    exact ImportGraph.pairwise_idxOf_distinctBy c.plugins
  · intro a b apart plain plain' options options' dir dir' same
    exact apart (Plugin.name_eq_of_flagOf plain plain' same)
  · intro front name back given known
    rw [commandRequest_of_repeated known, ← given]

/-- A configuration with options of its own for one generator, besides those that two others have by default. -/
def askingFor (plugins : List String) : Config :=
  { Config.ofPaths "p" "." "/o" [] with
    plugins, pluginOptions := (Config.ofPaths "p" "." "/o" []).pluginOptions.set "cpp" ["lite", "", "speed"] }

/-- Every generator gets its own options. A name that continues another one has its own flag, and asking for it again
    adds nothing. -/
theorem outputs_by_name_continued :
    (∀ arg ∈ ["--cpp_out=lite,speed:/o", "--go_out=paths=source_relative:/o", "--java_out=/o"],
        arg ∈ ((askingFor ["cpp", "java", "go", "cpp"]).commandRequest
          ((askingFor []).resolvePaths (.ofString "/w")) default).outputArgs) ∧
      Plugin.flagOf ((Plugin.ofName "go").outputArg ["-grpc_out"] "/o") ≠
        Plugin.flagOf ((Plugin.ofName "go-grpc").outputArg [] "/o") ∧
      (askingFor ["go", "go-grpc", "go"]).commandRequest ((askingFor []).resolvePaths (.ofString "/w")) default =
        (askingFor ["go", "go-grpc"]).commandRequest ((askingFor []).resolvePaths (.ofString "/w")) default := by
  obtain ⟨⟨names, -, given, -, args⟩, -, -⟩ :=
    outputs_by_name (askingFor ["cpp", "java", "go", "cpp"]) ((askingFor []).resolvePaths (.ofString "/w")) default
  obtain ⟨-, apart, again⟩ :=
    outputs_by_name (askingFor ["go", "go-grpc"]) ((askingFor []).resolvePaths (.ofString "/w")) default
  refine ⟨fun arg listed => ?_, apart "go" "go-grpc" (by decide) (by decide) (by decide) _ _ _ _,
    again ["go", "go-grpc"] "go" [] rfl (by decide)⟩
  have spelled : arg ∈ ["cpp", "go", "java"].map fun name => "--" ++ name ++ "_out=" ++
      requestedValue (((askingFor ["cpp", "java", "go", "cpp"]).pluginOptions.lookup name).getD [])
        ((askingFor []).resolvePaths (.ofString "/w")).outputDir := by
    revert arg
    decide
  rw [args]
  obtain ⟨name, asked, rfl⟩ := List.mem_map.mp spelled
  refine List.mem_map_of_mem ((given name).mpr ?_)
  revert name
  decide

end Config

end ProtoTree

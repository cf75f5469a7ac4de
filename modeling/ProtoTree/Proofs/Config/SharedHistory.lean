import Mathlib.Data.List.Basic
import Mathlib.Logic.Relation
import ProtoTree.Proofs.Config.LastWrite
import ProtoTree.Proofs.Config.SharedSteps

/-! # Histories of shared configurations

Steps of several handles come in one order, whichever order that is, since each
holds the lock. Handles that are cloned from one another share settings, and a
snapshot is what the finished updates through those handles have made of the
settings they began with.
-/

namespace ProtoTree

/-- Steps in order, each on a handle, from one handle on. -/
abbrev History := List (Nat × SharedStep)

namespace History

/-- All settings and handles after a history. -/
def reached (fresh first : Settings) (past : History) : SharedConfig := (SharedConfig.new first).after fresh past

/-- Where each handle comes from, by number: from another handle, or from none. -/
def origins (past : History) : List (Option Nat) := none :: past.filterMap fun entry => entry.2.origin? entry.1

/-- Each step is on a handle that exists by then. -/
def Numbered (past : History) : Prop := ∀ n (inside : n < past.length), past[n].1 < (origins (past.take n)).length

instance (past : History) : Decidable past.Numbered := inferInstanceAs (Decidable (∀ _ _, _ < _))

/-- One handle was cloned from another. -/
def ClonedFrom (past : History) (child parent : Nat) : Prop := past.origins[child]? = some (some parent)

/-- One handle is another or was cloned from it, directly or through others. -/
abbrev DescendsFrom (past : History) : Nat → Nat → Prop := Relation.ReflTransGen past.ClonedFrom

/-- Two handles descend from one. -/
def Shares (past : History) : Nat → Nat → Prop := Relation.Join past.DescendsFrom

open Classical in
/-- The changes of the finished updates through the handles that share with a handle, in order. -/
noncomputable def finishedChanges (past : History) (handle : Nat) : List Setting :=
  (past.filter fun entry => past.Shares entry.1 handle).flatMap (·.2.finished)

/-- What a handle that was not cloned began with: the first one with the settings it was given, a detached one with
    fresh settings and what a snapshot showed. -/
inductive StartsWith (fresh first : Settings) : History → Nat → Settings → Prop
  | first (past : History) : StartsWith fresh first past 0 first
  | detached {past : History} {handle : Nat} {shown : Config} (later : History) :
      (past.reached fresh first).snapshot? handle = some shown →
      StartsWith fresh first (past ++ (handle, .detach) :: later) past.origins.length
        (fresh.applyAll [.protoDir shown.protoDir, .plugins shown.plugins])

variable {fresh first : Settings} {past : History} {handle other : Nat} {step : SharedStep}

theorem reached_concat (past : History) (handle : Nat) (step : SharedStep) :
    reached fresh first (past ++ [(handle, step)]) = ((past.reached fresh first).step fresh handle step).1 :=
  List.foldl_append

theorem origins_append (past more : History) :
    origins (past ++ more) = past.origins ++ more.filterMap fun entry => entry.2.origin? entry.1 := by
  rw [origins, List.filterMap_append, origins, List.cons_append]

theorem origins_concat (past : History) (handle : Nat) (step : SharedStep) :
    origins (past ++ [(handle, step)]) = past.origins ++ (step.origin? handle).toList := by
  rw [origins_append]
  cases step <;> rfl

/-- The handles that exist after a step existed before it or are made by it. -/
theorem known_concat : other < (origins (past ++ [(handle, step)])).length ↔
    other < past.origins.length ∨ other = past.origins.length ∧ (step.origin? handle).isSome := by
  rw [origins_concat, List.length_append]
  cases step.origin? handle with
  | none => simp
  | some origin =>
      simp only [Option.toList_some, List.length_singleton, Option.isSome_some, and_true]
      exact Nat.lt_succ_iff_lt_or_eq

theorem numbered_concat :
    Numbered (past ++ [(handle, step)]) ↔ past.Numbered ∧ handle < past.origins.length := by
  constructor
  · intro numbered
    refine ⟨fun n inside => ?_, ?_⟩
    · have here := numbered n (by simp; omega)
      rwa [List.getElem_append_left inside, List.take_append_of_le_length (Nat.le_of_lt inside)] at here
    · have last := numbered past.length (by simp)
      rwa [List.getElem_concat_length rfl, List.take_left] at last
  · rintro ⟨numbered, known⟩ n inside
    rcases Nat.lt_succ_iff_lt_or_eq.mp (by simpa using inside) with before | rfl
    · rw [List.getElem_append_left before, List.take_append_of_le_length (Nat.le_of_lt before)]
      exact numbered n before
    · rwa [List.getElem_concat_length rfl, List.take_left]

/-- A numbered history is reached by adding steps on handles that exist. -/
@[elab_as_elim]
theorem Numbered.induction {motive : (past : History) → past.Numbered → Prop}
    (nil : ∀ numbered, motive [] numbered)
    (concat : ∀ past handle step (numbered : past.Numbered) (known : handle < past.origins.length),
      motive past numbered → motive (past ++ [(handle, step)]) (numbered_concat.mpr ⟨numbered, known⟩))
    {past : History} (numbered : past.Numbered) : motive past numbered := by
  induction past using List.reverseRecOn with
  | nil => exact nil numbered
  | append_singleton past entry ih =>
      obtain ⟨before, known⟩ := numbered_concat.mp numbered
      exact concat past entry.1 entry.2 before known (ih before)

theorem length_handles_reached (past : History) :
    (past.reached fresh first).handles.length = past.origins.length := by
  induction past using List.reverseRecOn with
  | nil => rfl
  | append_singleton past entry ih =>
      rw [reached_concat, SharedConfig.handles_step, List.length_append, ih, origins_concat,
        List.length_append]
      cases entry.2 <;> rfl

theorem sound_reached (numbered : past.Numbered) : (past.reached fresh first).Sound := by
  induction numbered using Numbered.induction with
  | nil => exact SharedConfig.sound_new first
  | concat past handle step numbered known ih =>
      rw [reached_concat]
      exact SharedConfig.sound_step ih (length_handles_reached past ▸ known) step

/-! ## Handles that share -/

theorem getElem?_origins_concat {origin : Option Nat} :
    (origins (past ++ [(handle, step)]))[other]? = some origin ↔
      past.origins[other]? = some origin ∨ other = past.origins.length ∧ step.origin? handle = some origin := by
  rw [origins_concat]
  cases step.origin? handle <;> grind

theorem ClonedFrom.concat {child parent : Nat} (cloned : past.ClonedFrom child parent) :
    ClonedFrom (past ++ [(handle, step)]) child parent := getElem?_origins_concat.mpr (.inl cloned)

theorem descends_concat {child ancestor : Nat} (descends : past.DescendsFrom child ancestor) :
    DescendsFrom (past ++ [(handle, step)]) child ancestor :=
  Relation.ReflTransGen.mono (fun _ _ => ClonedFrom.concat) _ _ descends

theorem cell_reached_concat (known : other < past.origins.length) :
    (reached fresh first (past ++ [(handle, step)])).cell other = (past.reached fresh first).cell other := by
  rw [reached_concat]
  exact SharedConfig.cell_step (length_handles_reached past ▸ known) step

/-- A handle that a step makes has the cell that the step says. -/
theorem cell_reached_made {cell : Nat} (made : (past.reached fresh first).madeCell? handle step = some cell) :
    (reached fresh first (past ++ [(handle, step)])).cell past.origins.length = cell := by
  rw [reached_concat, ← length_handles_reached past]
  exact SharedConfig.cell_made made

theorem cell_of_clonedFrom (numbered : past.Numbered) {child parent : Nat} (cloned : past.ClonedFrom child parent) :
    parent < past.origins.length ∧
      (past.reached fresh first).cell child = (past.reached fresh first).cell parent := by
  induction numbered using Numbered.induction with
  | nil => cases child <;> cases cloned
  | concat past handle step numbered known ih =>
      rcases getElem?_origins_concat.mp cloned with before | ⟨rfl, here⟩
      · obtain ⟨parentKnown, same⟩ := ih before
        have childKnown := (List.getElem?_eq_some_iff.mp before).1
        refine ⟨known_concat.mpr (.inl parentKnown), ?_⟩
        rw [cell_reached_concat childKnown, cell_reached_concat parentKnown, same]
      · cases step with
        | clone =>
            obtain rfl := Option.some.inj (Option.some.inj here)
            refine ⟨known_concat.mpr (.inl known), ?_⟩
            rw [cell_reached_concat known]
            exact cell_reached_made rfl
        | detach | update changes | abandonedUpdate changes | snapshot => cases here

theorem cell_of_descends (numbered : past.Numbered) {child ancestor : Nat}
    (descends : past.DescendsFrom child ancestor) :
    (past.reached fresh first).cell child = (past.reached fresh first).cell ancestor := by
  induction descends with
  | refl => rfl
  | tail _ cloned ih => exact ih.trans (cell_of_clonedFrom numbered cloned).2

/-- A handle descends from the first handle on its cell. -/
theorem descends_first (numbered : past.Numbered) (known : other < past.origins.length) :
    past.DescendsFrom other
      ((past.reached fresh first).handles.idxOf ((past.reached fresh first).cell other)) := by
  induction numbered using Numbered.induction generalizing other with
  | nil =>
      obtain rfl := Nat.lt_one_iff.mp known
      exact .refl
  | concat past handle step numbered handleKnown ih =>
      have first_old : ∀ {old : Nat}, old < past.origins.length →
          DescendsFrom (past ++ [(handle, step)]) old
            ((reached fresh first (past ++ [(handle, step)])).handles.idxOf ((past.reached fresh first).cell old)) := by
        intro old oldKnown
        rw [reached_concat, SharedConfig.handles_step, List.idxOf_append_of_mem
          (SharedConfig.cell_mem (length_handles_reached past ▸ oldKnown))]
        exact descends_concat (ih oldKnown)
      rcases known_concat.mp known with old | ⟨rfl, made⟩
      · rw [cell_reached_concat old]
        exact first_old old
      · cases step with
        | clone =>
            rw [cell_reached_made rfl]
            exact .head (getElem?_origins_concat.mpr (.inr ⟨rfl, rfl⟩)) (first_old handleKnown)
        | detach =>
            have unused : (past.reached fresh first).cells.length ∉ (past.reached fresh first).handles :=
              fun member => Nat.lt_irrefl _ (sound_reached numbered _ member)
            rw [cell_reached_made rfl, reached_concat, SharedConfig.handles_step, List.idxOf_append_of_notMem unused,
              length_handles_reached past, SharedConfig.madeCell?, Option.toList_some, List.idxOf_cons_self]
            exact .refl
        | update changes | abandonedUpdate changes | snapshot => cases made

/-- Handles share when they refer to one cell. -/
theorem shares_iff (fresh first : Settings) (numbered : past.Numbered) (known : handle < past.origins.length)
    (otherKnown : other < past.origins.length) :
    past.Shares handle other ↔
      (past.reached fresh first).cell handle = (past.reached fresh first).cell other := by
  constructor
  · rintro ⟨founder, descends, otherDescends⟩
    rw [cell_of_descends numbered descends, cell_of_descends numbered otherDescends]
  · intro same
    exact ⟨_, descends_first numbered known, same ▸ descends_first numbered otherKnown⟩

/-! ## Where handles begin -/

theorem StartsWith.concat {founder : Nat} {start : Settings} (starts : StartsWith fresh first past founder start) :
    StartsWith fresh first (past ++ [(handle, step)]) founder start := by
  cases starts with
  | first => exact .first _
  | detached later shown =>
      rw [List.append_assoc, List.cons_append]
      exact .detached _ shown

theorem origins_append_detach (past later : History) (handle : Nat) :
    ∃ more, origins (past ++ (handle, .detach) :: later) = past.origins ++ none :: more := by
  rw [origins_append]
  exact ⟨_, rfl⟩

/-- A handle with settings to begin with comes from no other. -/
theorem StartsWith.origin {founder : Nat} {start : Settings} (starts : StartsWith fresh first past founder start) :
    past.origins[founder]? = some none := by
  cases starts with
  | first => rfl
  | @detached before handle shown later =>
      obtain ⟨more, eq⟩ := origins_append_detach before later handle
      rw [eq, List.getElem?_append_right (Nat.le_refl _), Nat.sub_self, List.getElem?_cons_zero]

theorem founder_unique {founder founder' : Nat} (descends : past.DescendsFrom handle founder)
    (descends' : past.DescendsFrom handle founder') (origin : past.origins[founder]? = some none)
    (origin' : past.origins[founder']? = some none) : founder = founder' := by
  have rightUnique : Relator.RightUnique past.ClonedFrom := fun _ _ _ cloned cloned' =>
    Option.some.inj (Option.some.inj (cloned.symm.trans cloned'))
  have stays : ∀ {old ancestor : Nat}, past.origins[old]? = some none →
      past.DescendsFrom old ancestor → old = ancestor := by
    intro old ancestor none_ further
    rcases further.cases_head with same | ⟨parent, cloned, -⟩
    · exact same
    · cases none_.symm.trans cloned
  rcases Relation.ReflTransGen.total_of_right_unique rightUnique descends descends' with further | further
  · exact stays origin further
  · exact (stays origin' further).symm

/-- The steps before a detaching one are told by how many handles there are by then. -/
theorem not_shorter_of_detach {before before' later rest : History}
    (same : before ++ (handle, .detach) :: later = before' ++ rest)
    (number : before.origins.length = before'.origins.length) : ¬ before.length < before'.length := by
  intro shorter
  rcases List.append_eq_append_iff.mp same with ⟨between, rfl, at_between⟩ | ⟨between, rfl, -⟩
  · cases between with
    | nil => simp at shorter
    | cons entry between =>
        -- The detaching step itself would be among the steps before, and its handle would count.
        obtain ⟨rfl, -⟩ := List.cons.inj at_between
        obtain ⟨more, eq⟩ := origins_append_detach before between handle
        rw [eq, List.length_append, List.length_cons] at number
        omega
  · rw [List.length_append] at shorter
    omega

theorem StartsWith.unique {founder : Nat} {start start' : Settings} (starts : StartsWith fresh first past founder start)
    (starts' : StartsWith fresh first past founder start') : start = start' := by
  cases starts with
  | first =>
      generalize zero : 0 = founder at starts'
      cases starts' with
      | first => rfl
      | detached => cases zero
  | @detached before handle shown later seen =>
      generalize whole : before ++ (handle, SharedStep.detach) :: later = past at starts'
      generalize number : before.origins.length = founder at starts'
      cases starts' with
      | first => cases number
      | @detached before' handle' shown' later' seen' =>
          have same_length : before.length = before'.length :=
            Nat.le_antisymm (Nat.not_lt.mp (not_shorter_of_detach whole.symm number.symm))
              (Nat.not_lt.mp (not_shorter_of_detach whole number))
          obtain ⟨rfl, rest⟩ := List.append_inj whole same_length
          obtain ⟨here, -⟩ := List.cons.inj rest
          obtain ⟨rfl, -⟩ := Prod.mk.inj here
          rw [Option.some.inj (seen.symm.trans seen')]

/-! ## What finished updates leave -/

theorem known_of_mem (numbered : past.Numbered) {entry : Nat × SharedStep} (member : entry ∈ past) :
    entry.1 < past.origins.length := by
  induction numbered using Numbered.induction with
  | nil => cases member
  | concat past handle step numbered known ih =>
      rcases List.mem_append.mp member with before | last
      · exact known_concat.mpr (.inl (ih before))
      · obtain rfl := List.mem_singleton.mp last
        exact known_concat.mpr (.inl known)

/-- The finished changes for a handle are those to its cell. -/
theorem finishedChanges_eq (fresh first : Settings) (numbered : past.Numbered) (known : other < past.origins.length) :
    past.finishedChanges other =
      (past.filter fun entry => (past.reached fresh first).cell entry.1 = (past.reached fresh first).cell other).flatMap
        (·.2.finished) := by
  rw [finishedChanges]
  congr 1
  apply List.filter_congr
  intro entry member
  exact decide_eq_decide.mpr (shares_iff fresh first numbered (known_of_mem numbered member) known)

theorem finishedChanges_concat (fresh first : Settings) (numbered : past.Numbered)
    (handleKnown : handle < past.origins.length) (known : other < past.origins.length) :
    finishedChanges (past ++ [(handle, step)]) other = past.finishedChanges other ++
      if (past.reached fresh first).cell handle = (past.reached fresh first).cell other then step.finished else [] := by
  have same : (past.filter fun entry => (reached fresh first (past ++ [(handle, step)])).cell entry.1 =
        (past.reached fresh first).cell other) =
      past.filter fun entry => (past.reached fresh first).cell entry.1 = (past.reached fresh first).cell other := by
    apply List.filter_congr
    intro entry member
    rw [cell_reached_concat (known_of_mem numbered member)]
  rw [finishedChanges_eq fresh first (numbered_concat.mpr ⟨numbered, handleKnown⟩) (known_concat.mpr (.inl known)),
    finishedChanges_eq fresh first numbered known, cell_reached_concat known, List.filter_append, same,
    List.flatMap_append, List.filter_singleton, cell_reached_concat handleKnown]
  by_cases shared : (past.reached fresh first).cell handle = (past.reached fresh first).cell other
  · simp [shared]
  · simp [shared]

/-- A clone has the finished changes of the handle it was cloned from. -/
theorem finishedChanges_clone (fresh first : Settings) (numbered : past.Numbered)
    (known : handle < past.origins.length) :
    finishedChanges (past ++ [(handle, .clone)]) past.origins.length = past.finishedChanges handle := by
  have numbered' : Numbered (past ++ [(handle, .clone)]) := numbered_concat.mpr ⟨numbered, known⟩
  have made : past.origins.length < (origins (past ++ [(handle, .clone)])).length :=
    known_concat.mpr (.inr ⟨rfl, rfl⟩)
  have same : (reached fresh first (past ++ [(handle, .clone)])).cell past.origins.length =
      (reached fresh first (past ++ [(handle, .clone)])).cell handle := by
    rw [cell_reached_made rfl, cell_reached_concat known]
  rw [finishedChanges_eq fresh first numbered' made, same,
    ← finishedChanges_eq fresh first numbered' (known_concat.mpr (.inl known)),
    finishedChanges_concat fresh first numbered known known]
  simp [SharedStep.finished]

/-- A detached handle has no finished changes yet. -/
theorem finishedChanges_detach (fresh first : Settings) (numbered : past.Numbered)
    (known : handle < past.origins.length) :
    finishedChanges (past ++ [(handle, .detach)]) past.origins.length = [] := by
  have numbered' : Numbered (past ++ [(handle, .detach)]) := numbered_concat.mpr ⟨numbered, known⟩
  have made : past.origins.length < (origins (past ++ [(handle, .detach)])).length :=
    known_concat.mpr (.inr ⟨rfl, rfl⟩)
  have elsewhere : ∀ {old : Nat}, old < past.origins.length →
      (reached fresh first (past ++ [(handle, .detach)])).cell old ≠ (past.reached fresh first).cells.length := by
    intro old oldKnown
    rw [cell_reached_concat oldKnown]
    exact Nat.ne_of_lt (sound_reached numbered _ (SharedConfig.cell_mem (length_handles_reached past ▸ oldKnown)))
  have none_shares : (past ++ [(handle, SharedStep.detach)]).filter (fun entry =>
      (reached fresh first (past ++ [(handle, .detach)])).cell entry.1 =
        (past.reached fresh first).cells.length) = [] := by
    rw [List.filter_eq_nil_iff]
    intro entry member
    rw [decide_eq_true_eq]
    rcases List.mem_append.mp member with before | last
    · exact elsewhere (known_of_mem numbered before)
    · obtain rfl := List.mem_singleton.mp last
      exact elsewhere known
  rw [finishedChanges_eq fresh first numbered' made, cell_reached_made rfl, none_shares, List.flatMap_nil]

/-- Each handle shows what the finished updates through the handles that share with it have made of the settings that
    they began with. -/
theorem settings?_reached (fresh first : Settings) (numbered : past.Numbered) (known : other < past.origins.length) :
    ∃ founder start, StartsWith fresh first past founder start ∧
      past.DescendsFrom other founder ∧
      (past.reached fresh first).settings? other = some (start.applyAll (past.finishedChanges other)) := by
  -- On the last step, for all handles at once: a clone takes over what its origin shows.
  induction numbered using Numbered.induction generalizing other with
  | nil =>
      obtain rfl := Nat.lt_one_iff.mp known
      exact ⟨0, first, .first [], .refl, rfl⟩
  | concat past handle step numbered handleKnown ih =>
      have sound : (past.reached fresh first).Sound := sound_reached numbered
      rcases known_concat.mp known with old | ⟨rfl, made⟩
      · obtain ⟨founder, start, starts, descends, shown⟩ := ih old
        refine ⟨founder, start, starts.concat, descends_concat descends, ?_⟩
        rw [reached_concat, SharedConfig.settings?_step sound (length_handles_reached past ▸ old), shown,
          finishedChanges_concat fresh first numbered handleKnown old, Settings.applyAll_append, Option.map_some]
      · cases step with
        | clone =>
            obtain ⟨founder, start, starts, descends, shown⟩ := ih handleKnown
            refine ⟨founder, start, starts.concat, .head (getElem?_origins_concat.mpr (.inr ⟨rfl, rfl⟩))
              (descends_concat descends), ?_⟩
            rw [finishedChanges_clone fresh first numbered handleKnown, ← shown, SharedConfig.settings?,
              cell_reached_made rfl, reached_concat]
            rfl
        | detach =>
            obtain ⟨_, _, _, _, shown⟩ := ih handleKnown
            refine ⟨past.origins.length, _, .detached [] (congrArg (Option.map Settings.build) shown), .refl, ?_⟩
            rw [finishedChanges_detach fresh first numbered handleKnown, SharedConfig.settings?, cell_reached_made rfl,
              reached_concat, SharedConfig.step, shown]
            simp [Settings.applyAll, LockedSettings.enter_eq, LockedSettings.new]
        | update changes | abandonedUpdate changes | snapshot => cases made

/-- A snapshot shows, field by field, what the last finished write through a handle that shares with its own has left,
    else what those handles began with, whatever comes after it. The workspace stays with the proto directory until it
    is set. -/
theorem snapshot_lastWrites (fresh first : Settings) (numbered : past.Numbered) (known : handle < past.origins.length) :
    (∃ founder start, StartsWith fresh first past founder start ∧
        past.DescendsFrom handle founder) ∧
      ∃ c, (∀ later, ((SharedConfig.new first).run fresh (past ++ (handle, .snapshot) :: later))[past.length]? =
          some (.config c)) ∧
        ∀ founder start, StartsWith fresh first past founder start →
          past.DescendsFrom handle founder →
          (∀ f ≠ .workspaceDir, c.get? f = (lastWrite? f (past.finishedChanges handle)).or (start.get? f)) ∧
            c.workspaceDir =
              ((lastWrite? .workspaceDir (past.finishedChanges handle)).or start.workspaceDir).getD c.protoDir := by
  obtain ⟨founder, start, starts, descends, shown⟩ := settings?_reached fresh first numbered known
  refine ⟨⟨founder, start, starts, descends⟩, (start.applyAll (past.finishedChanges handle)).build, ?_, ?_⟩
  · intro later
    rw [SharedConfig.getElem?_run, SharedConfig.step, ← reached, shown]
    rfl
  · intro founder' start' starts' descends'
    obtain rfl := founder_unique descends' descends starts'.origin starts.origin
    obtain rfl := starts'.unique starts
    refine ⟨fun f plain => ?_, ?_⟩
    · rw [Config.get?_build plain, Settings.get?_applyAll]
    · rw [Config.workspaceDir_build, Settings.get?_applyAll]
      rfl

/-- Steps of four handles, three of which share. -/
def woven : History :=
  [(0, .clone), (1, .clone), (2, .update [.outputDir (.ofString "gen"), .pluginOptions "go" ["lite"]]),
    (0, .abandonedUpdate [.workspaceDir (.ofString "w"), .outputDir (.ofString "lost")]), (1, .detach),
    (3, .update [.outputDir (.ofString "apart")]), (0, .update [.protoDir (.ofString "p")])]

/-- A clone shows what a clone of its own and the first handle have set, before and after an update that broke off. -/
theorem snapshot_lastWrites_woven :
    ∃ c, (∀ later, ((SharedConfig.new (.ofEnvironment [])).run (.ofEnvironment [])
          (woven ++ (1, .snapshot) :: later))[7]? = some (.config c)) ∧
      c.outputDir = .ofString "gen" ∧ c.protoDir = .ofString "p" ∧ c.workspaceDir = .ofString "p" ∧
      c.pluginOptions.lookup "go" = some ["lite"] ∧
      c.pluginOptions.lookup "go-grpc" = some [Settings.defaultGoOption] := by
  have numbered : woven.Numbered := by decide
  have known : 1 < woven.origins.length := by decide
  have changes : woven.finishedChanges 1 =
      [.outputDir (.ofString "gen"), .pluginOptions "go" ["lite"], .protoDir (.ofString "p")] := by
    rw [finishedChanges_eq (.ofEnvironment []) (.ofEnvironment []) numbered known]
    decide
  obtain ⟨-, c, shown, shows⟩ := snapshot_lastWrites (.ofEnvironment []) (.ofEnvironment []) numbered known
  obtain ⟨fields, workspace⟩ := shows 0 _ (.first woven) (.single rfl)
  rw [changes] at fields workspace
  have protoDir : c.protoDir = .ofString "p" := Option.some.inj (fields .protoDir (by decide))
  refine ⟨c, shown, Option.some.inj (fields .outputDir (by decide)), protoDir, ?_, fields (.options "go") (by decide),
    fields (.options "go-grpc") (by decide)⟩
  rw [workspace, protoDir]
  rfl

end History

end ProtoTree

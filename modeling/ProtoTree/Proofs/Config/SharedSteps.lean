import ProtoTree.Config.Shared

/-! # Steps on shared configurations

An update goes through a lock, poisoned or not, and reaches the settings only
when it finishes. A step changes the settings of its own handle and of the
handles on the same cell, and what it gives back is settled by the steps before
it.
-/

namespace ProtoTree

namespace LockedSettings

theorem enter_eq (l : LockedSettings) : l.enter = l.settings := by
  rw [enter, lock]
  cases l.poisoned <;> rfl

/-- An update changes what the lock guards when it finishes and not otherwise, poisoned or not. -/
@[simp] theorem enter_update (l : LockedSettings) (changes : List Setting) (finishes : Bool) :
    (l.update changes finishes).enter = if finishes then l.enter.applyAll changes else l.enter := by
  rw [enter_eq, update, enter_eq]
  cases finishes <;> rfl

end LockedSettings

namespace SharedStep

/-- The changes that a step leaves behind. -/
def finished : SharedStep → List Setting
  | .update changes => changes
  | .abandonedUpdate _ | .clone | .detach | .snapshot => []

/-- Where a handle that a step makes comes from: from the step's own handle, or from none. -/
def origin? (handle : Nat) : SharedStep → Option (Option Nat)
  | .clone => some (some handle)
  | .detach => some none
  | .update _ | .abandonedUpdate _ | .snapshot => none

end SharedStep

/-! ## One step -/

namespace SharedConfig

variable {fresh : Settings} {s : SharedConfig} {handle other : Nat}

/-- Every handle refers to a cell. -/
def Sound (s : SharedConfig) : Prop := ∀ cell ∈ s.handles, cell < s.cells.length

theorem getElem?_handles (known : handle < s.handles.length) : s.handles[handle]? = some (s.cell handle) := by
  rw [cell, List.getElem?_eq_getElem known, Option.getD_some]

theorem cell_mem (known : handle < s.handles.length) : s.cell handle ∈ s.handles :=
  List.mem_of_getElem? (getElem?_handles known)

/-- The cell of the handle that a step makes. -/
def madeCell? (s : SharedConfig) (handle : Nat) : SharedStep → Option Nat
  | .clone => some (s.cell handle)
  | .detach => some s.cells.length
  | .update _ | .abandonedUpdate _ | .snapshot => none

theorem handles_step (step : SharedStep) :
    (s.step fresh handle step).1.handles = s.handles ++ (s.madeCell? handle step).toList := by
  cases step <;> simp [SharedConfig.step, madeCell?, update]

theorem cell_made {cell : Nat} {step : SharedStep} (made : s.madeCell? handle step = some cell) :
    (s.step fresh handle step).1.cell s.handles.length = cell := by
  rw [SharedConfig.cell, handles_step, made]
  simp

theorem cell_step (known : other < s.handles.length) (step : SharedStep) :
    (s.step fresh handle step).1.cell other = s.cell other := by
  rw [cell, handles_step, List.getElem?_append_left known, cell]

/-- A step does its finished changes to the cell of its handle and nothing to the other cells. -/
theorem enter_cells_step {position : Nat} (present : position < s.cells.length) (step : SharedStep) :
    (s.step fresh handle step).1.cells[position]?.map LockedSettings.enter =
      (s.cells[position]?.map LockedSettings.enter).map
        (·.applyAll (if s.cell handle = position then step.finished else [])) := by
  cases step with
  | update changes | abandonedUpdate changes =>
      simp only [SharedConfig.step, update, List.getElem?_modify, SharedStep.finished]
      split <;> simp [Function.comp_def, Settings.applyAll]
  | clone | snapshot => simp [SharedConfig.step, SharedStep.finished, Settings.applyAll, Function.comp_def]
  | detach =>
      simp [SharedConfig.step, List.getElem?_append_left present, SharedStep.finished, Settings.applyAll,
        Function.comp_def]

theorem settings?_step (sound : s.Sound) (known : other < s.handles.length) (step : SharedStep) :
    (s.step fresh handle step).1.settings? other =
      (s.settings? other).map (·.applyAll (if s.cell handle = s.cell other then step.finished else [])) := by
  rw [settings?, cell_step known, enter_cells_step (sound _ (cell_mem known)), settings?]

theorem length_cells_step (step : SharedStep) : s.cells.length ≤ (s.step fresh handle step).1.cells.length := by
  cases step <;> simp [SharedConfig.step, update]

theorem sound_new (first : Settings) : (new first).Sound := by
  simp [Sound, new]

theorem sound_step (sound : s.Sound) (known : handle < s.handles.length) (step : SharedStep) :
    (s.step fresh handle step).1.Sound := by
  intro cell member
  rw [handles_step] at member
  rcases List.mem_append.mp member with old | made
  · exact Nat.lt_of_lt_of_le (sound cell old) (length_cells_step step)
  · cases step with
    | clone =>
        obtain rfl := List.mem_singleton.mp made
        exact sound _ (cell_mem known)
    | detach =>
        obtain rfl := List.mem_singleton.mp made
        simp [SharedConfig.step]
    | update changes | abandonedUpdate changes | snapshot => cases made

/-! ## Steps in order -/

/-- What steps leave of all settings and handles. -/
def after (fresh : Settings) (s : SharedConfig) (steps : List (Nat × SharedStep)) : SharedConfig :=
  steps.foldl (fun s entry => (s.step fresh entry.1 entry.2).1) s

theorem run_cons (s : SharedConfig) (handle : Nat) (step : SharedStep) (rest : List (Nat × SharedStep)) :
    s.run fresh ((handle, step) :: rest) =
      (s.step fresh handle step).2 :: (s.step fresh handle step).1.run fresh rest := rfl

theorem run_append (s : SharedConfig) (steps more : List (Nat × SharedStep)) :
    s.run fresh (steps ++ more) = s.run fresh steps ++ (s.after fresh steps).run fresh more := by
  induction steps generalizing s with
  | nil => rfl
  | cons entry rest ih =>
      rw [List.cons_append, run_cons, run_cons, ih, List.cons_append]
      rfl

theorem length_run (s : SharedConfig) (steps : List (Nat × SharedStep)) :
    (s.run fresh steps).length = steps.length := by
  induction steps generalizing s with
  | nil => rfl
  | cons entry rest ih => rw [run_cons, List.length_cons, ih, List.length_cons]

/-- What a step gives back is decided by the steps before it. -/
theorem getElem?_run (s : SharedConfig) (steps more : List (Nat × SharedStep)) (handle : Nat) (step : SharedStep) :
    (s.run fresh (steps ++ (handle, step) :: more))[steps.length]? =
      some ((s.after fresh steps).step fresh handle step).2 := by
  rw [run_append, List.getElem?_append_right (Nat.le_of_eq (length_run s steps)), length_run, Nat.sub_self, run_cons]
  rfl

end SharedConfig

end ProtoTree

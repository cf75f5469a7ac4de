import ProtoTree.Config.Basic

/-! # Shared configurations

Settings that several handles share, behind a lock. An update works on a copy
that takes the settings' place only when the update is finished, and a snapshot
is a finished configuration that later updates leave alone. An update that
breaks off leaves the lock poisoned, and later steps enter it all the same.
-/

namespace ProtoTree

/-- One step on a handle. -/
inductive SharedStep where
  | update (changes : List Setting)
  /-- An update that makes its changes and then breaks off. -/
  | abandonedUpdate (changes : List Setting)
  /-- A new handle on the same settings. -/
  | clone
  /-- A new handle on fresh settings that keep only the snapshot's proto directory and generators. -/
  | detach
  | snapshot
  deriving DecidableEq, Repr, Inhabited

/-- What a step gives back. -/
inductive SharedReply where
  | updated
  | abandoned
  | handle (number : Nat)
  | config (c : Config)
  deriving DecidableEq, Repr, Inhabited

/-- Settings behind a lock. -/
structure LockedSettings where
  settings : Settings
  /-- An update broke off while it held the lock. -/
  poisoned : Bool
  deriving DecidableEq, Repr, Inhabited

namespace LockedSettings

/-- Settings behind a lock that nothing has held. -/
def new (s : Settings) : LockedSettings := ⟨s, false⟩

/-- Takes the lock. A poisoned lock is an error that carries the settings. -/
def lock (l : LockedSettings) : Except Settings Settings :=
  if l.poisoned then .error l.settings else .ok l.settings

/-- The settings, also behind a poisoned lock. -/
def enter (l : LockedSettings) : Settings :=
  match l.lock with
  | .ok s => s
  | .error s => s

/-- Makes changes to a copy, which takes the settings' place when the update finishes. -/
def update (l : LockedSettings) (changes : List Setting) (finishes : Bool) : LockedSettings :=
  let copy := l.enter.applyAll changes
  if finishes then { l with settings := copy } else { l with poisoned := true }

end LockedSettings

/-- All settings and the handles on them. -/
structure SharedConfig where
  /-- The settings, each a cell that handles refer to by position. -/
  cells : List LockedSettings
  /-- The cell of each handle. -/
  handles : List Nat
  deriving DecidableEq, Repr, Inhabited

namespace SharedConfig

/-- One handle on the given settings. -/
def new (s : Settings) : SharedConfig := ⟨[.new s], [0]⟩

/-- The cell of a handle. -/
def cell (s : SharedConfig) (handle : Nat) : Nat := (s.handles[handle]?).getD 0

/-- The settings that a handle shows. -/
def settings? (s : SharedConfig) (handle : Nat) : Option Settings :=
  s.cells[s.cell handle]?.map LockedSettings.enter

/-- A finished configuration of a handle's settings. -/
def snapshot? (s : SharedConfig) (handle : Nat) : Option Config :=
  (s.settings? handle).map Settings.build

/-- Makes changes to a handle's settings. -/
def update (s : SharedConfig) (handle : Nat) (changes : List Setting) (finishes : Bool) : SharedConfig :=
  { s with cells := s.cells.modify (s.cell handle) (·.update changes finishes) }

/-- Carries out one step on a handle; `fresh` are the settings that a detached handle starts from. -/
def step (fresh : Settings) (s : SharedConfig) (handle : Nat) : SharedStep → SharedConfig × SharedReply
  | .update changes => (s.update handle changes true, .updated)
  | .abandonedUpdate changes => (s.update handle changes false, .abandoned)
  | .clone => ({ s with handles := s.handles ++ [s.cell handle] }, .handle s.handles.length)
  | .detach =>
    let shown := ((s.settings? handle).getD fresh).build
    let own := fresh.applyAll [.protoDir shown.protoDir, .plugins shown.plugins]
    (⟨s.cells ++ [.new own], s.handles ++ [s.cells.length]⟩, .handle s.handles.length)
  | .snapshot => (s, .config ((s.settings? handle).getD fresh).build)

/-- Carries out steps in order and gathers what they give back. -/
def run (fresh : Settings) (s : SharedConfig) : List (Nat × SharedStep) → List SharedReply
  | [] => []
  | (handle, step) :: rest =>
    let (next, reply) := s.step fresh handle step
    reply :: run fresh next rest

end SharedConfig

end ProtoTree

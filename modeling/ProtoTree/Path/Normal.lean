import ProtoTree.Path.Basic

/-! # Normal form of paths

`normalize` removes `.` and `..` parts without looking at any file system.
`Normal` says what is left: an optional root, then `..` parts only when there
is no root, then names.
-/

namespace ProtoTree

namespace Path

/-- Adds one component to the reversed components of a normal path. -/
def push (stack : List Component) : Component → List Component
  | .current => stack
  | .parent =>
    match stack with
    | .name _ :: below => below
    | .root :: _ => stack
    | _ => .parent :: stack
  | part => part :: stack

/-- The components that remain once `.` and `..` are worked off. -/
def reduce (parts : List Component) : List Component :=
  (parts.foldl push []).reverse

/-- The normal spelling of `p`. A `..` above the root is dropped; one at the start of a relative path stays. -/
def normalize (p : Path) : Path := ofComponents (reduce p.components)

/-- `p` taken from `base` when it is relative, in normal form. -/
def absolutize (p base : Path) : Path :=
  if p.isAbsolute then p.normalize else (base.join p).normalize

/-- A text without the separators at its end; a separator at its start stays. -/
def dropSeparators : List Char → List Char
  | [] => []
  | c :: rest => c :: (rest.reverse.dropWhile (· == '/')).reverse

/-- The text under which spellings of one directory compare equal. -/
def key (p : Path) : String := String.ofList (dropSeparators p.normalize.text.toList)

/-- What is left of `p` below `base`, when `base` is a prefix of `p`. -/
def relativeTo? (p base : Path) : Option Path :=
  (base.components.isPrefixOf? p.components).map ofComponents

/-- `..` parts, then names. -/
def climbs : List Component → Bool
  | .parent :: rest => climbs rest
  | parts => parts.all Component.isName

/-- A component list with nothing left to work off. -/
def isReduced : List Component → Bool
  | .root :: rest => rest.all Component.isName
  | parts => climbs parts

/-- A path in normal form: reduced components in their plainest spelling. -/
def Normal (p : Path) : Prop := isReduced p.components ∧ p = ofComponents p.components

end Path

end ProtoTree

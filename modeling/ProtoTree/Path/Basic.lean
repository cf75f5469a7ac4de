import ProtoTree.Text.Utf8

/-! # Paths

A path keeps the bytes it was spelled with, which need not be UTF-8. Everything
that compares or orders paths looks at their components instead, so repeated
separators, inner `.` parts and trailing separators never matter. The text of a
path is for people and for comparison keys: bytes that are no text all look the
same there.
-/

namespace ProtoTree

open Text (Bytes)

/-- A file path as it was spelled. -/
structure Path where
  bytes : Bytes
  deriving DecidableEq, Inhabited, Repr

namespace Path

/-- The byte that separates the parts of a path. -/
def slash : UInt8 := 0x2F

/-- The byte of which `.` and `..` are made. -/
def dot : UInt8 := 0x2E

@[simp] theorem slash_ne_dot : slash ≠ dot := by decide

@[simp] theorem dot_ne_slash : dot ≠ slash := by decide

end Path

/-- One part of a path. -/
inductive Component where
  /-- The leading separator of an absolute path. -/
  | root
  /-- A leading `.`; later ones are not components. -/
  | current
  /-- `..` -/
  | parent
  /-- Any other part. -/
  | name (bytes : Bytes)
  deriving DecidableEq, Inhabited, Repr

namespace Component

open Path (slash dot)

/-- A number that equal names share. -/
def hashOf (bytes : Bytes) : UInt64 := bytes.foldl (fun h b => mixHash h (hash b.toNat)) 7

instance : Hashable Component where
  hash
    | root => 1
    | current => 2
    | parent => 3
    | name bytes => hashOf bytes

/-- The component as it is written inside a path. -/
def bytes : Component → Bytes
  | root => [slash]
  | current => [dot]
  | parent => [dot, dot]
  | name bs => bs

/-- Components sort as root, `.`, `..`, then names by their bytes. -/
def rank : Component → Nat
  | root => 0
  | current => 1
  | parent => 2
  | name _ => 3

/-- The order of components: by rank, and names by their bytes. -/
def compare (a b : Component) : Ordering :=
  match Ord.compare a.rank b.rank with
  | .eq => compareOfLessAndEq a.bytes b.bytes
  | order => order

/-- The component that one separator-free part of a path denotes; empty parts and `.` denote none. -/
def ofSegment (segment : Bytes) : Option Component :=
  if segment = [] ∨ segment = [dot] then none
  else if segment = [dot, dot] then some parent
  else some (name segment)

/-- Whether the component is a plain name. -/
def isName : Component → Bool
  | name _ => true
  | _ => false

end Component

namespace Path

/-- The path spelled by a text. -/
def ofString (text : String) : Path := ⟨Text.encode text.toList⟩

/-- A path as people read it, with replacements for what is not UTF-8. -/
def text (p : Path) : String := Text.decodeText p.bytes

instance : ToString Path := ⟨text⟩

/-- Whether a path is UTF-8 as a whole. -/
def isUtf8 (p : Path) : Bool := ofString p.text == p

/-- The path without any parts. -/
def empty : Path := ⟨[]⟩

def isEmpty (p : Path) : Bool := p.bytes.isEmpty

/-- An absolute path starts with a separator. -/
def isAbsolute (p : Path) : Bool := p.bytes.head? == some slash

/-- The parts between separators, as spelled. -/
def segments (p : Path) : List Bytes := p.bytes.splitOn slash

/-- The component that stands before all named parts: the root, or a leading `.`. -/
def lead (p : Path) : List Component :=
  match p.bytes with
  | [] => []
  | first :: rest =>
    if first = slash then [.root]
    else if first = dot ∧ (rest = [] ∨ rest.head? = some slash) then [.current]
    else []

/-- The components of a path, in order. -/
def components (p : Path) : List Component :=
  p.lead ++ p.segments.filterMap Component.ofSegment

/-- Two spellings name the same path when their components agree. -/
def Same (p q : Path) : Prop := p.components = q.components

instance : DecidableRel Same := fun p q => inferInstanceAs (Decidable (p.components = q.components))

/-- Component-wise lexicographic order. -/
def compareComponents : List Component → List Component → Ordering
  | [], [] => .eq
  | [], _ :: _ => .lt
  | _ :: _, [] => .gt
  | a :: as, b :: bs =>
    match a.compare b with
    | .eq => compareComponents as bs
    | order => order

/-- The order of paths, part by part: `/a/x` comes before `/a.b/x`. -/
def compare (p q : Path) : Ordering := compareComponents p.components q.components

/-- Whether `p` does not come after `q`. -/
def le (p q : Path) : Bool := (p.compare q).isLE

/-- Paths in component order; paths with the same components stay in their given order. -/
def sort (paths : List Path) : List Path := paths.mergeSort le

/-- Whether `root` names `p` or a directory above it, component by component. -/
def isUnder (p root : Path) : Bool := root.components.isPrefixOf p.components

/-- The bytes that join components into one spelling. -/
def joinComponents : List Component → Bytes
  | .root :: rest => slash :: [slash].intercalate (rest.map Component.bytes)
  | parts => [slash].intercalate (parts.map Component.bytes)

/-- The plainest spelling of a list of components. -/
def ofComponents (parts : List Component) : Path := ⟨joinComponents parts⟩

/-- `base` followed by `p`; an absolute `p` replaces `base`. -/
def join (base p : Path) : Path :=
  if p.isAbsolute then p
  else if base.isEmpty ∨ base.bytes.getLast? = some slash then ⟨base.bytes ++ p.bytes⟩
  else ⟨base.bytes ++ slash :: p.bytes⟩

/-- The last component, when it is a name. -/
def fileName? (p : Path) : Option Bytes :=
  match p.components.getLast? with
  | some (.name bs) => some bs
  | _ => none

/-- Drops trailing parts that denote no component. -/
def trimSegments (segments : List Bytes) : List Bytes :=
  (segments.reverse.dropWhile fun s => (Component.ofSegment s).isNone).reverse

/-- Drops the last part that denotes a component, and the blank parts around it. -/
def dropLastSegment (segments : List Bytes) : List Bytes :=
  trimSegments (trimSegments segments).dropLast

/-- The directory that holds `p`, in `p`'s own spelling; the root and the empty path have none. -/
def parent? (p : Path) : Option Path :=
  let body (segments : List Bytes) := [slash].intercalate (dropLastSegment segments)
  match p.lead with
  | .root :: _ =>
    if trimSegments p.segments = [] then none else some ⟨slash :: body p.segments.tail⟩
  | .current :: _ =>
    if trimSegments p.segments.tail = [] then some empty
    else if dropLastSegment p.segments.tail = [] then some ⟨[dot]⟩
    else some ⟨dot :: slash :: body p.segments.tail⟩
  | _ =>
    if trimSegments p.segments = [] then none else some ⟨body p.segments⟩

/-- The directories above `p`, nearest first, at most `levels` of them. -/
def ancestors (p : Path) : Nat → List Path
  | 0 => []
  | levels + 1 =>
    match p.parent? with
    | some dir => dir :: dir.ancestors levels
    | none => []

end Path

end ProtoTree

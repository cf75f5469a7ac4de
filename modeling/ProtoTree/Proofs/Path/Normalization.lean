import Mathlib.Data.List.Induction
import ProtoTree.Proofs.Path.Components

/-! # Normalization

What following some parts does to a directory is the same for every directory:
climb some levels, then go down through some names. A normal form is what is
left of that, so normalizing twice changes nothing, and a directory may be
normalized before or after a relative path is joined to it.
-/

namespace ProtoTree

open Text (Bytes)

open Component

/-- What following some components amounts to. -/
structure Trail where
  /-- How many levels are climbed first. -/
  climbed : Nat := 0
  /-- The names gone down through afterwards, innermost first. -/
  names : List Component := []

namespace Trail

def step (t : Trail) : Component → Trail
  | .parent =>
    match t.names with
    | [] => { t with climbed := t.climbed + 1 }
    | _ :: rest => { t with names := rest }
  | .name cs => { t with names := .name cs :: t.names }
  | _ => t

def along (parts : List Component) : Trail := parts.foldl step {}

@[simp] theorem along_concat (parts : List Component) (c : Component) :
    along (parts ++ [c]) = (along parts).step c := by
  simp [along]

theorem mem_names {parts : List Component} {c : Component} (h : c ∈ (along parts).names) :
    c ∈ parts ∧ c.isName := by
  induction parts using List.reverseRecOn generalizing c with
  | nil => simp [along] at h
  | append_singleton parts last ih =>
      have keep : c ∈ (along parts).names → c ∈ parts ++ [last] ∧ c.isName :=
        fun old => ⟨List.mem_append_left _ (ih old).1, (ih old).2⟩
      rw [along_concat] at h
      cases last with
      | root | current => exact keep h
      | name cs =>
          rcases List.mem_cons.mp h with rfl | old
          · exact ⟨by simp, rfl⟩
          · exact keep old
      | parent =>
          cases names : (along parts).names with
          | nil => simp [step, names] at h
          | cons name rest =>
              simp only [step, names] at h
              exact keep (names ▸ List.mem_cons_of_mem name h)

theorem isName_of_mem_reverse (parts : List Component) :
    ∀ c ∈ (along parts).names.reverse, c.isName :=
  fun _ member => (mem_names (List.mem_reverse.mp member)).2

end Trail

namespace Path

open Trail

theorem push_parent_of_isName {c : Component} (h : c.isName) (below : List Component) :
    push (c :: below) .parent = below := by
  cases c with
  | name cs => rfl
  | root | current | parent => cases h

theorem foldl_push_names {parts : List Component} (h : ∀ c ∈ parts, c.isName)
    (stack : List Component) : parts.foldl push stack = parts.reverse ++ stack := by
  induction parts generalizing stack with
  | nil => rfl
  | cons c parts ih =>
      have named := h c List.mem_cons_self
      have pushed : push stack c = c :: stack := by
        cases c with
        | name cs => rfl
        | root | current | parent => cases named
      rw [List.foldl_cons, pushed, ih fun d member => h d (List.mem_cons_of_mem c member)]
      simp

theorem foldl_push_parents (count below : Nat) :
    (List.replicate count .parent).foldl push (List.replicate below .parent) =
      List.replicate (count + below) .parent := by
  induction count generalizing below with
  | zero => simp
  | succ count ih =>
      have pushed : push (List.replicate below .parent) .parent =
          List.replicate (below + 1) .parent := by
        cases below <;> rfl
      rw [List.replicate_succ, List.foldl_cons, pushed, ih]
      congr 1
      omega

/-- Following parts from below some floor. The floor says what is left after climbing out of every name. -/
theorem foldl_push_floor {floor : Nat → List Component}
    (sinks : ∀ depth, push (floor depth) .parent = floor (depth + 1))
    {parts names : List Component} (free : ∀ c ∈ parts, c ≠ .root)
    (named : ∀ c ∈ names, c.isName) :
    parts.foldl push (names ++ floor 0) =
      (along parts).names ++ (names.drop (along parts).climbed ++
        floor ((along parts).climbed - names.length)) := by
  induction parts using List.reverseRecOn with
  | nil => simp [along]
  | append_singleton parts last ih =>
      rw [List.foldl_concat, ih fun c member => free c (List.mem_append_left _ member), along_concat]
      cases last with
      | root => exact absurd rfl (free .root (by simp))
      | current => rfl
      | name cs => rfl
      | parent =>
          cases inner : (along parts).names with
          | cons name rest =>
              have isName := (mem_names (inner ▸ List.mem_cons_self : name ∈ (along parts).names)).2
              simp only [step, inner, List.cons_append]
              exact push_parent_of_isName isName _
          | nil =>
              simp only [step, inner, List.nil_append]
              rw [← List.tail_drop]
              cases left : names.drop (along parts).climbed with
              | nil =>
                  have short : names.length ≤ (along parts).climbed := List.drop_eq_nil_iff.mp left
                  rw [List.nil_append, sinks, List.tail_nil, List.nil_append, Nat.succ_sub short]
              | cons name rest =>
                  have member : name ∈ names := List.mem_of_mem_drop (left ▸ List.mem_cons_self)
                  have long : (along parts).climbed < names.length := by
                    by_contra short
                    rw [List.drop_eq_nil_iff.mpr (by omega)] at left
                    cases left
                  rw [List.cons_append, push_parent_of_isName (named name member), List.tail_cons,
                    Nat.sub_eq_zero_of_le (Nat.le_of_lt long), Nat.sub_eq_zero_of_le long]

/-- Below the root, climbing stops at the root. -/
theorem foldl_push_rooted {parts names : List Component} (free : ∀ c ∈ parts, c ≠ .root)
    (named : ∀ c ∈ names, c.isName) :
    parts.foldl push (names ++ [.root]) =
      (along parts).names ++ (names.drop (along parts).climbed ++ [.root]) :=
  @foldl_push_floor (fun _ => [.root]) (fun _ => rfl) parts names free named

/-- Without a root, climbing leaves `..` parts. -/
theorem foldl_push_unrooted {parts : List Component} (free : ∀ c ∈ parts, c ≠ .root) :
    parts.foldl push [] =
      (along parts).names ++ List.replicate (along parts).climbed .parent := by
  have sinks (depth : Nat) : push (List.replicate depth .parent) .parent =
      List.replicate (depth + 1) .parent := by
    cases depth <;> rfl
  simpa using foldl_push_floor sinks free (by simp : ∀ c ∈ ([] : List Component), c.isName)

/-! ## The stack of a path -/

/-- The components that remain of a path, last first. -/
def stack (p : Path) : List Component := p.components.foldl push []

theorem ne_root_of_mem_body {p : Path} {c : Component} (h : c ∈ p.body) : c ≠ .root :=
  (spelled_of_mem_body h).ne_root

theorem stack_of_absolute {p : Path} (h : p.isAbsolute) :
    p.stack = (along p.body).names ++ [.root] := by
  have start : p.stack = p.body.foldl push [.root] := by simp [stack, components_of_absolute h, push]
  rw [start]
  simpa using foldl_push_rooted (fun c member => ne_root_of_mem_body member)
    (by simp : ∀ c ∈ ([] : List Component), c.isName)

theorem foldl_push_components_of_relative {p : Path} (h : p.isAbsolute = false)
    (below : List Component) : p.components.foldl push below = p.body.foldl push below := by
  rcases lead_of_relative h with bare | dot
  · simp [components, body, bare]
  · simp [components, body, dot, push]

theorem stack_of_relative {p : Path} (h : p.isAbsolute = false) :
    p.stack = (along p.body).names ++ List.replicate (along p.body).climbed .parent := by
  rw [stack, foldl_push_components_of_relative h]
  exact foldl_push_unrooted fun c member => ne_root_of_mem_body member

theorem spelled_of_mem_names {p : Path} {c : Component} (h : c ∈ (along p.body).names) : c.Spelled :=
  spelled_of_mem_body (mem_names h).1

theorem normalize_eq (p : Path) : p.normalize = ofComponents p.stack.reverse := rfl

theorem normalize_congr {p q : Path} (same : p.components = q.components) :
    p.normalize = q.normalize := by
  rw [normalize, normalize, same]

theorem spelled_of_mem_parents {count : Nat} :
    ∀ c ∈ List.replicate count Component.parent, c.Spelled := by
  intro c member
  obtain ⟨-, rfl⟩ := List.mem_replicate.mp member
  exact spelled_parent

theorem spelled_of_mem_stack {p : Path} (h : p.isAbsolute = false) {c : Component}
    (member : c ∈ p.stack.reverse) : c.Spelled := by
  rw [List.mem_reverse, stack_of_relative h] at member
  rcases List.mem_append.mp member with name | climb
  · exact spelled_of_mem_names name
  · exact spelled_of_mem_parents c climb

theorem components_normalize (p : Path) : p.normalize.components = p.stack.reverse := by
  rw [normalize_eq]
  cases rooted : p.isAbsolute with
  | true =>
      rw [stack_of_absolute rooted, List.reverse_append]
      exact components_ofComponents_rooted fun c member =>
        spelled_of_mem_names (List.mem_reverse.mp member)
  | false => exact components_ofComponents fun c => spelled_of_mem_stack rooted

@[simp] theorem stack_normalize (p : Path) : p.normalize.stack = p.stack := by
  rw [stack, components_normalize]
  have named := isName_of_mem_reverse p.body
  cases rooted : p.isAbsolute with
  | true =>
      rw [stack_of_absolute rooted, List.reverse_append, List.foldl_append, foldl_push_names named]
      simp [push]
  | false =>
      have climb := foldl_push_parents (along p.body).climbed 0
      rw [List.replicate_zero] at climb
      rw [stack_of_relative rooted, List.reverse_append, List.foldl_append, List.reverse_replicate,
        climb, foldl_push_names named]
      simp

theorem normalize_eq_iff {p q : Path} : p.normalize = q.normalize ↔ p.stack = q.stack := by
  constructor
  · intro same
    rw [← stack_normalize p, same, stack_normalize]
  · intro same
    rw [normalize_eq, same, normalize_eq]

@[simp] theorem normalize_normalize (p : Path) : p.normalize.normalize = p.normalize := by
  rw [normalize_eq p.normalize, stack_normalize, normalize_eq]

@[simp] theorem isAbsolute_normalize (p : Path) : p.normalize.isAbsolute = p.isAbsolute := by
  rw [Bool.eq_iff_iff, head_components_absolute, components_normalize, List.head?_reverse]
  cases rooted : p.isAbsolute with
  | true => simp [stack_of_absolute rooted]
  | false =>
      simp only [Bool.false_eq_true, iff_false, stack_of_relative rooted]
      intro last
      rcases List.mem_append.mp (List.mem_of_getLast? last) with name | climb
      · exact absurd (mem_names name).2 (by simp [isName])
      · simp at climb

/-! ## Joining -/

theorem stack_join {base p : Path} (relative : p.isAbsolute = false) :
    (base.join p).stack = p.body.foldl push base.stack := by
  have rooted := isAbsolute_join base p
  rw [relative, Bool.or_false] at rooted
  cases top : base.isAbsolute with
  | true =>
      rw [stack, components_of_absolute (rooted.trans top), stack, components_of_absolute top,
        body_join relative, ← List.foldl_append, List.cons_append]
  | false =>
      rw [stack, foldl_push_components_of_relative (rooted.trans top), stack,
        foldl_push_components_of_relative top, body_join relative, List.foldl_append]

/-- Joining looks at a directory only through its normal form. -/
theorem normalize_join_normalize (base p : Path) :
    (base.normalize.join p).normalize = (base.join p).normalize := by
  cases rooted : p.isAbsolute with
  | true => simp [join, rooted]
  | false =>
      rw [normalize_eq, stack_join rooted, stack_normalize, ← stack_join rooted, ← normalize_eq]

/-! ## Normal paths -/

theorem foldl_push_of_climbs {parts below : List Component} (h : climbs parts)
    (floor : ∀ c ∈ below, c = .parent) : parts.foldl push below = parts.reverse ++ below := by
  induction parts generalizing below with
  | nil => rfl
  | cons c parts ih =>
      by_cases dots : c = .parent
      · subst dots
        have pushed : push below .parent = .parent :: below := by
          cases below with
          | nil => rfl
          | cons d rest => rw [floor d List.mem_cons_self]; rfl
        have deeper : ∀ d ∈ Component.parent :: below, d = .parent := by
          intro d member
          rcases List.mem_cons.mp member with rfl | member
          · rfl
          · exact floor d member
        rw [List.foldl_cons, pushed, ih (by simpa [climbs] using h) deeper]
        simp
      · have named : ∀ d ∈ c :: parts, d.isName := by
          cases c with
          | parent => exact absurd rfl dots
          | root | current | name => simpa [climbs] using h
        exact foldl_push_names named below

theorem stack_of_isReduced {p : Path} (h : isReduced p.components) :
    p.stack = p.components.reverse := by
  rw [stack]
  cases parts : p.components with
  | nil => rfl
  | cons c rest =>
      rw [parts] at h
      by_cases top : c = .root
      · subst top
        have named : ∀ d ∈ rest, d.isName := by simpa [isReduced] using h
        rw [List.foldl_cons, foldl_push_names named]
        simp [push]
      · have climbing : climbs (c :: rest) := by
          cases c with
          | root => exact absurd rfl top
          | current | parent | name => simpa [isReduced] using h
        simpa using foldl_push_of_climbs climbing (by simp : ∀ d ∈ ([] : List Component), d = .parent)

theorem Normal.normalize_eq_self {p : Path} (h : p.Normal) : p.normalize = p := by
  rw [normalize_eq, stack_of_isReduced h.1, List.reverse_reverse, ← h.2]

theorem climbs_replicate_append {names : List Component} (h : ∀ c ∈ names, c.isName) (count : Nat) :
    climbs (List.replicate count .parent ++ names) := by
  induction count with
  | succ count ih => simpa [List.replicate_succ, climbs] using ih
  | zero =>
      cases names with
      | nil => rfl
      | cons c rest =>
          have named := h c List.mem_cons_self
          cases c with
          | root | current | parent => cases named
          | name cs => simpa [climbs] using h

theorem isReduced_of_climbs {parts : List Component} (h : climbs parts) : isReduced parts := by
  cases parts with
  | nil => rfl
  | cons c rest =>
      cases c with
      | root => simp [climbs, isName] at h
      | current | parent | name => exact h

theorem normal_normalize (p : Path) : p.normalize.Normal := by
  refine ⟨?_, by rw [components_normalize, ← normalize_eq]⟩
  rw [components_normalize]
  have named := isName_of_mem_reverse p.body
  cases rooted : p.isAbsolute with
  | true =>
      rw [stack_of_absolute rooted, List.reverse_append]
      simpa [isReduced] using named
  | false =>
      rw [stack_of_relative rooted, List.reverse_append, List.reverse_replicate]
      exact isReduced_of_climbs (climbs_replicate_append named _)

instance : DecidablePred Normal := fun p =>
  inferInstanceAs (Decidable (isReduced p.components ∧ p = ofComponents p.components))

theorem Normal.eq_of_components {p q : Path} (hp : p.Normal) (hq : q.Normal)
    (same : p.components = q.components) : p = q := by
  rw [hp.2, hq.2, same]

/-- A normal form has no separator at its end, the root apart. -/
theorem getLast?_tail_normalize (p : Path) : p.normalize.bytes.tail.getLast? ≠ some slash := by
  rw [normalize_eq]
  cases rooted : p.isAbsolute with
  | true =>
      rw [stack_of_absolute rooted, List.reverse_append]
      exact getLast?_intercalate_bytes fun c member => spelled_of_mem_names (List.mem_reverse.mp member)
  | false =>
      have spelled : ∀ c ∈ p.stack.reverse, c.Spelled := fun c => spelled_of_mem_stack rooted
      have ends := getLast?_intercalate_bytes spelled
      rw [← joinComponents_of_spelled spelled] at ends
      intro last
      rw [ofComponents] at last
      cases text : joinComponents p.stack.reverse with
      | nil => simp [text] at last
      | cons c rest =>
          rw [text, List.tail_cons] at last
          rw [text, List.getLast?_cons, last] at ends
          exact ends rfl

/-! ## Absolute normal paths -/

theorem isAbsolute_absolutize {base : Path} (h : base.isAbsolute) (p : Path) :
    (p.absolutize base).isAbsolute := by
  rw [absolutize]
  split
  · next rooted => simpa using rooted
  · simp [isAbsolute_join, h]

theorem normal_absolutize (p base : Path) : (p.absolutize base).Normal := by
  rw [absolutize]
  split
  · exact normal_normalize p
  · exact normal_normalize _

theorem absolutize_of_absolute {p : Path} (h : p.isAbsolute) (base : Path) :
    p.absolutize base = p.normalize := by
  simp [absolutize, h]

theorem absolutize_of_relative {p : Path} (relative : p.isAbsolute = false) (base : Path) :
    p.absolutize base = (base.normalize.join p).normalize := by
  rw [absolutize, if_neg (by simp [relative]), normalize_join_normalize]

theorem Normal.absolutize_eq_self {p : Path} (h : p.Normal) (rooted : p.isAbsolute) (base : Path) :
    p.absolutize base = p := by
  rw [absolutize_of_absolute rooted, h.normalize_eq_self]

theorem absolutize_absolutize {base : Path} (h : base.isAbsolute) (p : Path) :
    (p.absolutize base).absolutize base = p.absolutize base :=
  (normal_absolutize p base).absolutize_eq_self (isAbsolute_absolutize h p) base

theorem fileName?_eq_some {p : Path} {name : Bytes} :
    p.fileName? = some name ↔ ∃ front, p.components = front ++ [.name name] := by
  rw [← List.getLast?_eq_some_iff, fileName?]
  constructor
  · intro named
    split at named
    · next found => rw [found, Option.some.inj named]
    · cases named
  · intro last
    rw [last]

/-- Normal form keeps the name of a file. -/
theorem fileName?_normalize {p : Path} {name : Bytes} (named : p.fileName? = some name) :
    p.normalize.fileName? = some name := by
  obtain ⟨front, split⟩ := fileName?_eq_some.mp named
  have pushed (below : List Component) : push below (.name name) = .name name :: below := rfl
  rw [fileName?_eq_some, components_normalize, stack, split, List.foldl_concat, pushed, List.reverse_cons]
  exact ⟨_, rfl⟩

end Path

end ProtoTree

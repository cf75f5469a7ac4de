import Mathlib.Data.List.Nodup
import ProtoTree.Path.Normal

/-! # The order of paths

Paths are compared part by part. The order is total and tells apart what has
different components, so sorting paths with different components leaves them in
strictly increasing order, and no other list with the same members is in it.
-/

namespace ProtoTree

open Text (Bytes)

namespace Component

/-- Texts by code point. -/
instance : Std.TransCmp fun a b : Component => compareOfLessAndEq a.bytes b.bytes :=
  have texts : Std.TransCmp fun a b : Bytes => compareOfLessAndEq a b :=
    .compareOfLessAndEq_of_irrefl_of_trans_of_antisymm List.lt_irrefl List.lt_trans
      fun left right => List.le_antisymm (List.not_lt.mp right) (List.not_lt.mp left)
  { eq_swap := texts.eq_swap, isLE_trans := texts.isLE_trans }

theorem compare_eq_lex :
    Component.compare = compareLex (compareOn rank) fun a b => compareOfLessAndEq a.bytes b.bytes := by
  funext a b
  rw [Component.compare, compareLex, compareOn]
  cases Ord.compare a.rank b.rank <;> rfl

instance : Std.TransCmp Component.compare := by
  rw [compare_eq_lex]
  infer_instance

theorem eq_of_rank_of_bytes {a b : Component} (ranks : a.rank = b.rank) (texts : a.bytes = b.bytes) :
    a = b := by
  cases a <;> cases b <;> simp_all [rank, bytes]

instance : Std.LawfulEqCmp Component.compare where
  compare_self := Std.ReflCmp.compare_self
  eq_of_compare {a b} same := by
    rw [compare_eq_lex, compareLex_eq_eq, compareOn, Nat.compare_eq_eq] at same
    refine eq_of_rank_of_bytes same.1 ?_
    have texts := same.2
    rw [compareOfLessAndEq] at texts
    split at texts
    · cases texts
    · split at texts
      · next equal => exact equal
      · cases texts

end Component

namespace Path

theorem compareComponents_eq (as bs : List Component) :
    compareComponents as bs = List.compareLex Component.compare as bs := by
  induction as generalizing bs with
  | nil => cases bs <;> rfl
  | cons a as ih =>
      cases bs with
      | nil => rfl
      | cons b bs =>
          rw [compareComponents, List.compareLex_cons_cons]
          cases a.compare b with
          | eq => exact ih bs
          | lt | gt => rfl

theorem compare_eq_lex (p q : Path) :
    p.compare q = List.compareLex Component.compare p.components q.components :=
  compareComponents_eq p.components q.components

instance : Std.TransCmp Path.compare where
  eq_swap := by
    intro p q
    rw [compare_eq_lex, compare_eq_lex]
    exact Std.OrientedCmp.eq_swap
  isLE_trans := by
    intro p q r
    simp only [compare_eq_lex]
    exact Std.TransCmp.isLE_trans

theorem compare_swap (p q : Path) : (p.compare q).swap = q.compare p :=
  Std.OrientedCmp.eq_swap.symm

theorem compare_eq_eq {p q : Path} : p.compare q = .eq ↔ p.components = q.components := by
  rw [compare_eq_lex]
  exact Std.LawfulEqCmp.compare_eq_iff_eq

/-- Every path comes before the later ones of a list. -/
def Increasing (paths : List Path) : Prop := paths.Pairwise fun p q => p.compare q = .lt

instance : DecidablePred Increasing := fun paths =>
  inferInstanceAs (Decidable (paths.Pairwise fun p q => p.compare q = .lt))

theorem pairwise_sort (paths : List Path) : (sort paths).Pairwise fun p q => p.le q := by
  apply List.pairwise_mergeSort
  · exact fun p q r => Std.TransCmp.isLE_trans
  · intro p q
    rw [le, le, ← compare_swap p q]
    cases p.compare q <;> rfl

/-- Paths with different components are sorted strictly. -/
theorem increasing_sort {paths : List Path} (distinct : (paths.map components).Nodup) :
    Increasing (sort paths) := by
  have apart : (sort paths).Pairwise fun p q => p.components ≠ q.components := by
    have sorted := ((List.mergeSort_perm paths le).map components).nodup_iff.mpr distinct
    exact List.pairwise_map.mp sorted
  refine ((pairwise_sort paths).and apart).imp fun {p q} order => ?_
  obtain ⟨notAfter, different⟩ := order
  rw [le] at notAfter
  cases place : p.compare q with
  | lt => rfl
  | eq => exact absurd (compare_eq_eq.mp place) different
  | gt => simp [place] at notAfter

theorem Increasing.nodup {paths : List Path} (h : Increasing paths) : paths.Nodup :=
  h.imp fun {p q} before => by
    rintro rfl
    rw [compare_eq_eq.mpr rfl] at before
    cases before

/-- An increasing list is told by its members. -/
theorem Increasing.eq_of_mem_iff {ps qs : List Path} (hp : Increasing ps) (hq : Increasing qs)
    (same : ∀ p, p ∈ ps ↔ p ∈ qs) : ps = qs := by
  have perm : ps.Perm qs := (List.perm_ext_iff_of_nodup hp.nodup hq.nodup).mpr same
  refine perm.eq_of_pairwise (fun p q _ _ before after => ?_) hp hq
  rw [← compare_swap, before] at after
  cases after

/-- Two paths neither of which comes after the other have the same components. -/
theorem components_eq_of_le {p q : Path} (before : p.le q) (after : q.le p) :
    p.components = q.components := by
  rw [le] at before after
  rw [← compare_swap] at after
  apply compare_eq_eq.mp
  cases place : p.compare q with
  | eq => rfl
  | lt | gt => simp [place] at before after

/-- Sorting normal paths gives one list, in whichever order they come. -/
theorem sort_eq_of_perm {ps qs : List Path} (normal : ∀ p ∈ qs, p.Normal) (perm : ps.Perm qs) :
    sort ps = sort qs := by
  have sorted : (sort ps).Perm (sort qs) :=
    (List.mergeSort_perm ps le).trans (perm.trans (List.mergeSort_perm qs le).symm)
  refine sorted.eq_of_pairwise (fun p q hp hq before after => ?_) (pairwise_sort ps) (pairwise_sort qs)
  have first := (normal p (perm.subset (List.mem_mergeSort.mp hp))).2
  have second := (normal q (List.mem_mergeSort.mp hq)).2
  rw [first, second, components_eq_of_le before after]

end Path

end ProtoTree

import Mathlib.Data.List.Basic
import Mathlib.Data.List.Induction
import ProtoTree.ImportGraph

/-! # First occurrences

`distinctBy` keeps the first member of every key. A search that cannot tell
members of one key apart finds the same member before and after.
-/

namespace ProtoTree.ImportGraph

/-- What a search of an ordered list finds comes before everything else it could find. -/
theorem rel_of_find? {α : Type} {R : α → α → Prop} {holds : α → Bool} {items : List α}
    (ordered : items.Pairwise R) {first other : α} (found : items.find? holds = some first)
    (member : other ∈ items) (held : holds other) (different : other ≠ first) : R first other := by
  obtain ⟨-, before, after, rfl, missed⟩ := List.find?_eq_some_iff_append.mp found
  rcases List.mem_append.mp member with early | late
  · exact absurd held (by simpa using missed other early)
  · rcases List.mem_cons.mp late with rfl | late
    · exact absurd rfl different
    · exact (List.pairwise_cons.mp (List.pairwise_append.mp ordered).2.1).1 other late

variable {α κ : Type} [BEq κ]

/-- Adds a keyed member unless its key has come before; the latest member stands first. -/
def keepNew (kept : List (κ × α)) (item : κ × α) : List (κ × α) :=
  if kept.any fun other => other.1 == item.1 then kept else item :: kept

/-- The keyed members that have been kept so far, the latest first. -/
def keptBy (key : α → κ) (items : List α) : List (κ × α) :=
  (items.map fun a => (key a, a)).foldl keepNew []

theorem distinctBy_eq (key : α → κ) (items : List α) :
    distinctBy key items = (keptBy key items).reverse.map (·.2) := rfl

@[simp] theorem distinctBy_nil (key : α → κ) : distinctBy key [] = [] := rfl

theorem keptBy_concat (key : α → κ) (items : List α) (a : α) :
    keptBy key (items ++ [a]) = keepNew (keptBy key items) (key a, a) := by
  simp [keptBy]

theorem keptBy_keys (key : α → κ) (items : List α) :
    ∀ entry ∈ keptBy key items, entry.1 = key entry.2 := by
  induction items using List.reverseRecOn with
  | nil => simp [keptBy]
  | append_singleton items a ih =>
      rw [keptBy_concat, keepNew]
      split
      · exact ih
      · intro entry member
        rcases List.mem_cons.mp member with rfl | member
        · rfl
        · exact ih entry member

/-- A member is appended exactly when its key is new. -/
theorem distinctBy_concat (key : α → κ) (items : List α) (a : α) :
    distinctBy key (items ++ [a]) =
      if (distinctBy key items).any fun b => key b == key a then distinctBy key items
      else distinctBy key items ++ [a] := by
  have known : ((distinctBy key items).any fun b => key b == key a) =
      (keptBy key items).any fun other => other.1 == key a := by
    rw [distinctBy_eq, List.any_map, List.any_reverse, Bool.eq_iff_iff, List.any_eq_true,
      List.any_eq_true]
    refine exists_congr fun entry => and_congr_right fun member => ?_
    rw [keptBy_keys key items entry member, Function.comp_apply]
  rw [known, distinctBy_eq key (items ++ [a]), keptBy_concat, keepNew]
  split
  · rfl
  · simp [distinctBy_eq]

theorem mem_of_mem_distinctBy {key : α → κ} {items : List α} {a : α}
    (h : a ∈ distinctBy key items) : a ∈ items := by
  induction items using List.reverseRecOn with
  | nil => simp at h
  | append_singleton items last ih =>
      rw [distinctBy_concat] at h
      split at h
      · exact List.mem_append_left _ (ih h)
      · rcases List.mem_append.mp h with old | new
        · exact List.mem_append_left _ (ih old)
        · exact List.mem_append_right _ new

theorem prefix_distinctBy_append (key : α → κ) (items later : List α) :
    distinctBy key items <+: distinctBy key (items ++ later) := by
  induction later using List.reverseRecOn with
  | nil => simp
  | append_singleton later last ih =>
      rw [← List.append_assoc, distinctBy_concat]
      split
      · exact ih
      · exact ih.trans (List.prefix_append _ _)

theorem distinctBy_congr {key key' : α → κ} {items : List α} (same : ∀ a ∈ items, key a = key' a) :
    distinctBy key items = distinctBy key' items := by
  have keyed : (items.map fun a => (key a, a)) = items.map fun a => (key' a, a) :=
    List.map_congr_left fun a member => by rw [same a member]
  rw [distinctBy, keyed, distinctBy]

variable [LawfulBEq κ]

theorem exists_mem_distinctBy {key : α → κ} {items : List α} {a : α} (h : a ∈ items) :
    ∃ b ∈ distinctBy key items, key b = key a := by
  induction items using List.reverseRecOn with
  | nil => simp at h
  | append_singleton items last ih =>
      rw [distinctBy_concat]
      rcases List.mem_append.mp h with old | new
      · obtain ⟨b, member, same⟩ := ih old
        split
        · exact ⟨b, member, same⟩
        · exact ⟨b, List.mem_append_left _ member, same⟩
      · obtain rfl := List.mem_singleton.mp new
        split
        · next known =>
            obtain ⟨b, member, same⟩ := List.any_eq_true.mp known
            exact ⟨b, member, by simpa using same⟩
        · exact ⟨a, by simp, rfl⟩

theorem mem_distinctBy_id [BEq α] [LawfulBEq α] {items : List α} {a : α} :
    a ∈ distinctBy id items ↔ a ∈ items := by
  refine ⟨mem_of_mem_distinctBy, fun h => ?_⟩
  have kept : ∃ b ∈ distinctBy id items, id b = id a := exists_mem_distinctBy h
  obtain ⟨b, member, rfl⟩ := kept
  exact member

theorem pairwise_distinctBy (key : α → κ) (items : List α) :
    (distinctBy key items).Pairwise fun a b => key a ≠ key b := by
  induction items using List.reverseRecOn with
  | nil => simp
  | append_singleton items last ih =>
      rw [distinctBy_concat]
      split
      · exact ih
      · next new =>
          refine List.pairwise_append.mpr ⟨ih, List.pairwise_singleton _ _, ?_⟩
          intro a member b isLast
          obtain rfl := List.mem_singleton.mp isLast
          exact fun same => new (List.any_eq_true.mpr ⟨a, member, by simp [same]⟩)

/-- First occurrences stand in the order in which the members first occur. -/
theorem pairwise_idxOf_distinctBy [BEq α] [LawfulBEq α] (items : List α) :
    (distinctBy id items).Pairwise fun a b => items.idxOf a < items.idxOf b := by
  induction items using List.reverseRecOn with
  | nil => simp
  | append_singleton items last ih =>
      have early {a : α} (member : a ∈ distinctBy id items) : (items ++ [last]).idxOf a = items.idxOf a :=
        List.idxOf_append_of_mem (mem_of_mem_distinctBy member)
      have kept : (distinctBy id items).Pairwise fun a b =>
          (items ++ [last]).idxOf a < (items ++ [last]).idxOf b := by
        refine ih.imp_of_mem fun {a b} first second before => ?_
        rw [early first, early second]
        exact before
      rw [distinctBy_concat]
      split
      · exact kept
      · next new =>
          refine List.pairwise_append.mpr ⟨kept, List.pairwise_singleton _ _, ?_⟩
          intro a member b isLast
          obtain rfl := List.mem_singleton.mp isLast
          have unseen : b ∉ items := fun seen =>
            new (List.any_eq_true.mpr ⟨b, mem_distinctBy_id.mpr seen, beq_self_eq_true b⟩)
          rw [early member, List.idxOf_append_of_notMem unseen]
          have inside : items.idxOf a < items.length :=
            List.idxOf_lt_length_iff.mpr (mem_of_mem_distinctBy member)
          omega

/-- Keeping first occurrences does not change what a search finds. -/
theorem find?_distinctBy {key : α → κ} {holds : α → Bool}
    (blind : ∀ a b, key a = key b → holds a = holds b) (items : List α) :
    (distinctBy key items).find? holds = items.find? holds := by
  induction items using List.reverseRecOn with
  | nil => rfl
  | append_singleton items last ih =>
      rw [distinctBy_concat, List.find?_append, ← ih]
      split
      · next known =>
          obtain ⟨b, member, same⟩ := List.any_eq_true.mp known
          cases found : (distinctBy key items).find? holds with
          | some hit => rfl
          | none =>
              have miss : holds b = false := by
                simpa using List.find?_eq_none.mp found b member
              rw [blind b last (by simpa using same)] at miss
              simp [miss]
      · rw [List.find?_append]

theorem distinctBy_of_pairwise {key : α → κ} {items : List α}
    (apart : items.Pairwise fun a b => key a ≠ key b) : distinctBy key items = items := by
  induction items using List.reverseRecOn with
  | nil => rfl
  | append_singleton items last ih =>
      obtain ⟨front, -, new⟩ := List.pairwise_append.mp apart
      rw [distinctBy_concat, ih front, if_neg]
      intro known
      obtain ⟨a, member, same⟩ := List.any_eq_true.mp known
      exact new a member last List.mem_cons_self (by simpa using same)

/-- Members that come later do not change which of the earlier ones are kept. -/
theorem distinctBy_append (key : α → κ) (items later : List α) :
    distinctBy key (items ++ later) = distinctBy key (distinctBy key items ++ later) := by
  induction later using List.reverseRecOn with
  | nil =>
      rw [List.append_nil, List.append_nil, distinctBy_of_pairwise (pairwise_distinctBy key items)]
  | append_singleton later last ih =>
      rw [← List.append_assoc, ← List.append_assoc, distinctBy_concat, distinctBy_concat, ih]

/-- Members with keys that are new and different are all kept, in their order. -/
theorem distinctBy_append_of_new {key : α → κ} {items later : List α}
    (apart : later.Pairwise fun a b => key a ≠ key b) (new : ∀ a ∈ items, ∀ b ∈ later, key a ≠ key b) :
    distinctBy key (items ++ later) = distinctBy key items ++ later := by
  rw [distinctBy_append]
  refine distinctBy_of_pairwise (List.pairwise_append.mpr ⟨pairwise_distinctBy key items, apart, ?_⟩)
  exact fun a member => new a (mem_of_mem_distinctBy member)

/-- A test that sees only keys may be made before or after duplicates are dropped. -/
theorem distinctBy_filter {key : α → κ} {keep : α → Bool} {items : List α}
    (blind : ∀ a ∈ items, ∀ b ∈ items, key a = key b → keep a = keep b) :
    distinctBy key (items.filter keep) = (distinctBy key items).filter keep := by
  induction items using List.reverseRecOn with
  | nil => rfl
  | append_singleton items last ih =>
      have earlier := ih fun a ha b hb => blind a (List.mem_append_left _ ha) b (List.mem_append_left _ hb)
      have same {a : α} (member : a ∈ distinctBy key items) (equal : (key a == key last) = true) :
          keep a = keep last :=
        blind a (List.mem_append_left _ (mem_of_mem_distinctBy member)) last (by simp) (by simpa using equal)
      rw [List.filter_append, distinctBy_concat]
      cases kept : keep last with
      | false =>
          have dropped : [last].filter keep = [] := by simp [kept]
          rw [dropped, List.append_nil, earlier]
          split
          · rfl
          · rw [List.filter_append, dropped, List.append_nil]
      | true =>
          have stays : [last].filter keep = [last] := by simp [kept]
          have known : ((distinctBy key items).filter keep).any (fun b => key b == key last) =
              (distinctBy key items).any fun b => key b == key last := by
            rw [List.any_filter, Bool.eq_iff_iff, List.any_eq_true, List.any_eq_true]
            refine exists_congr fun b => and_congr_right fun member => ?_
            rw [Bool.and_eq_true]
            exact ⟨And.right, fun equal => ⟨(same member equal).trans kept, equal⟩⟩
          rw [stays, distinctBy_concat, earlier, known]
          split
          · rfl
          · rw [List.filter_append, stays]

/-- The first member is kept, and all with its key are dropped from the rest. -/
theorem distinctBy_cons (key : α → κ) (a : α) (items : List α) :
    distinctBy key (a :: items) = a :: distinctBy key (items.filter fun b => key b != key a) := by
  induction items using List.reverseRecOn with
  | nil => rfl
  | append_singleton items last ih =>
      rw [← List.cons_append, distinctBy_concat, ih, List.filter_append]
      by_cases same : key last = key a
      · simp [same]
      · have kept : [last].filter (fun b => key b != key a) = [last] := by simp [same]
        have other : (key a == key last) = false := by simpa using Ne.symm same
        rw [kept, distinctBy_concat, List.any_cons, other, Bool.false_or]
        split <;> rfl

/-- Members may be dropped for one key after they were dropped for a finer one. -/
theorem distinctBy_distinctBy {κ' : Type} [BEq κ'] [LawfulBEq κ'] {key : α → κ} {finer : α → κ'}
    (coarser : ∀ a b, finer a = finer b → key a = key b) (items : List α) :
    distinctBy key (distinctBy finer items) = distinctBy key items := by
  induction items using List.reverseRecOn with
  | nil => rfl
  | append_singleton items last ih =>
      rw [distinctBy_concat finer]
      split
      · next known =>
          obtain ⟨b, member, same⟩ := List.any_eq_true.mp known
          have listed : ∃ kept ∈ distinctBy key items, key kept = key last := by
            obtain ⟨kept, inside, equal⟩ : ∃ kept ∈ distinctBy key items, key kept = key b :=
              exists_mem_distinctBy (mem_of_mem_distinctBy member)
            exact ⟨kept, inside, equal.trans (coarser b last (by simpa using same))⟩
          rw [ih, distinctBy_concat, if_pos (by simpa using listed)]
      · rw [distinctBy_concat, distinctBy_concat, ih]

/-- First occurrences are what is left when members with a key that came before are erased. -/
theorem distinctBy_eq_eraseDupsBy (key : α → κ) (items : List α) :
    distinctBy key items = items.eraseDupsBy fun a b => key a == key b := by
  cases items with
  | nil => rfl
  | cons a items =>
      have dropped : (items.filter fun b => decide ((key b == key a) = false)) =
          items.filter fun b => key b != key a := List.filter_congr fun b _ => by
        cases same : key b == key a <;> simp [bne, same]
      rw [distinctBy_cons, List.eraseDupsBy_cons, dropped, distinctBy_eq_eraseDupsBy]
termination_by items.length
decreasing_by exact Nat.lt_succ_of_le (List.length_filter_le _ items)

/-- First occurrences of members are what is left when duplicates are erased. -/
theorem distinctBy_id_eq_eraseDups [BEq α] [LawfulBEq α] (items : List α) :
    distinctBy id items = items.eraseDups :=
  distinctBy_eq_eraseDupsBy id items

/-- Keys that tell members apart keep as many as comparing the members. -/
theorem distinctBy_eq_eraseDups [BEq α] [LawfulBEq α] {key : α → κ} {items : List α}
    (tells : ∀ a ∈ items, ∀ b ∈ items, key a = key b → a = b) : distinctBy key items = items.eraseDups := by
  rw [← distinctBy_id_eq_eraseDups]
  induction items using List.reverseRecOn with
  | nil => rfl
  | append_singleton items last ih =>
      have earlier := ih fun a ha b hb => tells a (List.mem_append_left _ ha) b (List.mem_append_left _ hb)
      have known : (distinctBy id items).any (fun b => key b == key last) =
          (distinctBy id items).any fun b => id b == id last := by
        rw [Bool.eq_iff_iff, List.any_eq_true, List.any_eq_true]
        refine exists_congr fun b => and_congr_right fun member => ?_
        rw [beq_iff_eq, beq_iff_eq]
        refine ⟨tells b (List.mem_append_left _ (mem_of_mem_distinctBy member)) last (by simp), ?_⟩
        exact congrArg key
      rw [distinctBy_concat, distinctBy_concat, earlier, known]

theorem nodup_eraseDups [BEq α] [LawfulBEq α] (items : List α) : items.eraseDups.Nodup := by
  rw [← distinctBy_id_eq_eraseDups]
  exact pairwise_distinctBy id items

end ProtoTree.ImportGraph

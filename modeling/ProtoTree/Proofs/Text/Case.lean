import Mathlib.Data.List.Induction
import Mathlib.Data.List.Infix
import ProtoTree.Text.Case

/-! # Letter case and endings

Small letters of characters beyond ASCII are beyond ASCII too, but for an `i` and
a `k`. So a text in small letters has an ending of other letters just when the
text itself has it in either case of ASCII.
-/

namespace ProtoTree.Text

/-- No run leads into ASCII but the one of the Kelvin sign, and none leads to what is no character. -/
theorem bounds_of_mem_capitalRuns : ∀ run ∈ capitalRuns,
    run.1 = run.2.1 ∧ run.1 + run.2.2.2 = 'k'.toNat ∨
      0x80 ≤ run.1 + run.2.2.2 ∧
        (run.2.1 + run.2.2.2 < 0xD800 ∨ 0xDFFF < run.1 + run.2.2.2 ∧ run.2.1 + run.2.2.2 < 0x110000) := by
  decide +kernel

/-- What the runs lead to is beyond ASCII, but for one letter. -/
theorem beyond_of_smallIn? {n small : Nat} {run : Nat × Nat × Nat × Int} (isRun : run ∈ capitalRuns)
    (found : smallIn? n run = some small) : 0x80 ≤ (Char.ofNat small).toNat ∨ Char.ofNat small = 'k' := by
  have bounds := bounds_of_mem_capitalRuns run isRun
  obtain ⟨first, last, step, distance⟩ := run
  rw [smallIn?, Option.ite_none_right_eq_some, Option.some.injEq] at found
  obtain ⟨inside, rfl⟩ := found
  simp only [Bool.and_eq_true, decide_eq_true_iff] at inside bounds
  obtain ⟨⟨atLeast, atMost⟩, -⟩ := inside
  rcases bounds with ⟨single, kelvin⟩ | ⟨above, valid⟩
  · have value : ((n : Int) + distance).toNat = 'k'.toNat := by omega
    rw [value]
    exact .inr (by decide)
  · have isValid : (((n : Int) + distance).toNat).isValidChar := by
      rw [Nat.isValidChar]
      omega
    have value : (Char.ofNat ((n : Int) + distance).toNat).toNat = ((n : Int) + distance).toNat := by
      rw [Char.ofNat, dif_pos isValid]
      rfl
    exact .inl (by omega)

/-- Beyond ASCII, small letters are beyond it too, but for two. -/
theorem beyond_of_mem_smallLetters {c d : Char} (beyond : 0x80 ≤ c.toNat) (member : d ∈ smallLetters c) :
    0x80 ≤ d.toNat ∨ d = 'i' ∨ d = 'k' := by
  rw [smallLetters, if_neg (Nat.not_lt.mpr beyond)] at member
  split at member
  next =>
    rcases List.mem_pair.mp member with rfl | rfl
    · exact .inr (.inl rfl)
    · exact .inl (by decide)
  next =>
    split at member
    next found =>
      obtain rfl := List.mem_singleton.mp member
      obtain ⟨run, isRun, small⟩ := List.exists_of_findSome?_eq_some found
      exact (beyond_of_smallIn? isRun small).imp_right .inr
    next =>
      obtain rfl := List.mem_singleton.mp member
      exact .inl beyond

example : smallLetters '\u212A' = ['k'] := by decide

theorem lowercase_concat (text : List Char) (c : Char) : lowercase (text ++ [c]) = lowercase text ++ smallLetters c := by
  rw [lowercase, List.flatMap_append, List.flatMap_singleton, lowercase]

theorem smallLetters_ne_nil (c : Char) : smallLetters c ≠ [] := by
  rw [smallLetters]
  split
  next => simp
  next =>
    split
    next => simp
    next => split <;> simp

theorem toLower_of_beyond {c : Char} (beyond : 0x80 ≤ c.toNat) : c.toLower = c := by
  have other : ¬(c.val ≥ 'A'.val ∧ c.val ≤ 'Z'.val) := by
    rintro ⟨-, atMost⟩
    have small : c.toNat ≤ 'Z'.toNat := UInt32.le_iff_toNat_le.mp atMost
    have ascii : 'Z'.toNat < 0x80 := by decide
    omega
  exact dif_neg other

theorem last_eq_of_suffix {front text : List Char} {last c : Char} (ends : front ++ [last] <:+ text ++ [c]) :
    last = c := by
  obtain ⟨before, whole⟩ := ends
  rw [← List.append_assoc] at whole
  exact List.singleton_inj.mp (List.append_inj_right' whole rfl)

/-- A text in small letters ends in letters of ASCII, `i` and `k` left out, just when it does so with its capital
    letters of ASCII made small. -/
theorem suffix_lowercase_iff {letters text : List Char}
    (plain : ∀ d ∈ letters, d.toNat < 0x80 ∧ d ≠ 'i' ∧ d ≠ 'k') :
    letters <:+ lowercase text ↔ letters <:+ text.map Char.toLower := by
  induction text using List.reverseRecOn generalizing letters with
  | nil => rfl
  | append_singleton text c ih =>
    rw [lowercase_concat, List.map_append, List.map_singleton]
    by_cases beyond : 0x80 ≤ c.toNat
    case pos =>
      rw [toLower_of_beyond beyond]
      rcases List.eq_nil_or_concat letters with rfl | ⟨front, last, rfl⟩
      · simp
      obtain ⟨early, small, shown⟩ := (List.eq_nil_or_concat (smallLetters c)).resolve_left (smallLetters_ne_nil c)
      obtain ⟨ascii, notI, notK⟩ := plain last (by simp)
      rw [List.concat_eq_append] at shown ⊢
      -- Neither text ends in a letter of ASCII that can be the last one asked for.
      refine iff_of_false (fun ends => ?_) fun ends => ?_
      · rw [shown, ← List.append_assoc] at ends
        obtain rfl := last_eq_of_suffix ends
        rcases beyond_of_mem_smallLetters beyond (shown ▸ List.mem_concat_self) with far | isI | isK
        · omega
        · exact notI isI
        · exact notK isK
      · obtain rfl := last_eq_of_suffix ends
        omega
    case neg =>
      rw [smallLetters, if_pos (Nat.not_le.mp beyond), List.suffix_concat_iff, List.suffix_concat_iff]
      refine or_congr_right (exists_congr fun front => and_congr_right ?_)
      rintro rfl
      exact ih fun d member => plain d (List.mem_append_left _ member)

end ProtoTree.Text

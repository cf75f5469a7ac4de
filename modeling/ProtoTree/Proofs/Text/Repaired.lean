import Mathlib.Data.List.Induction
import ProtoTree.Proofs.Text.Utf8

/-! # Repaired bytes

Decoding with replacements and writing the characters out again gives UTF-8
text, and bytes that are UTF-8 text already are left alone. ASCII bytes stay
where they are, so a text may be cut at them before or after it is repaired.
-/

namespace ProtoTree.Text

/-- The bytes of the text that some bytes are read as. -/
def repaired (bytes : Bytes) : Bytes := encode (decodeLossy bytes)

@[simp] theorem repaired_nil : repaired [] = [] := rfl

@[simp] theorem decodeLossy_encode (cs : List Char) : decodeLossy (encode cs) = cs := by
  have whole := decodeLossy_encode_append cs []
  rwa [List.append_nil, decodeLossy, List.append_nil] at whole

@[simp] theorem repaired_encode (cs : List Char) : repaired (encode cs) = encode cs := by
  rw [repaired, decodeLossy_encode]

@[simp] theorem repaired_repaired (bytes : Bytes) : repaired (repaired bytes) = repaired bytes :=
  repaired_encode _

theorem repaired_eq_iff {front back : Bytes} :
    repaired front = repaired back ↔ decodeLossy front = decodeLossy back := by
  constructor
  · intro same
    rw [← decodeLossy_encode (decodeLossy front), ← repaired, same, repaired, decodeLossy_encode]
  · intro same
    rw [repaired, repaired, same]

theorem encode_append (cs ds : List Char) : encode (cs ++ ds) = encode cs ++ encode ds := List.flatMap_append

/-- Every character takes at least one byte. -/
theorem length_le_encode (cs : List Char) : cs.length ≤ (encode cs).length := by
  induction cs with
  | nil => exact Nat.le_refl _
  | cons c cs ih =>
      have one : 0 < (String.utf8EncodeChar c).length := by
        rw [String.length_utf8EncodeChar]
        exact c.utf8Size_pos
      rw [encode, List.flatMap_cons, ← encode, List.length_append, List.length_cons]
      omega

theorem decodeLossy_ne_nil (a : UInt8) (rest : Bytes) : decodeLossy (a :: rest) ≠ [] := by
  rw [decodeLossy_cons]
  repeat' split
  all_goals exact List.cons_ne_nil _ _

@[simp] theorem repaired_eq_nil {bytes : Bytes} : repaired bytes = [] ↔ bytes = [] := by
  refine ⟨fun blank => ?_, fun blank => by rw [blank, repaired_nil]⟩
  have unread : decodeLossy bytes = [] := repaired_eq_iff.mp (blank.trans repaired_nil.symm)
  cases bytes with
  | nil => rfl
  | cons a rest => exact absurd unread (decodeLossy_ne_nil a rest)

theorem not_mem_of_mem_splitOn {n : UInt8} {cs part : Bytes} (h : part ∈ cs.splitOn n) : n ∉ part := by
  induction cs generalizing part with
  | nil => simp only [List.splitOn_nil, List.mem_singleton] at h; simp [h]
  | cons c cs ih =>
      rw [List.splitOn_cons_eq_if_modifyHead] at h
      split at h
      · rcases List.mem_cons.mp h with rfl | h
        · simp
        · exact ih h
      · next other =>
          obtain ⟨head, rest, split⟩ := List.exists_cons_of_ne_nil (List.splitOn_ne_nil n cs)
          rw [split, List.modifyHead_cons, List.mem_cons] at h
          rcases h with rfl | h
          · have clean := ih (split ▸ List.mem_cons_self : head ∈ cs.splitOn n)
            simp only [List.mem_cons, not_or]
            exact ⟨fun same => other (by simp [← same]), clean⟩
          · exact ih (split ▸ List.mem_cons_of_mem head h)

section Ascii

variable {n : UInt8} (ascii : n < 0x80)
include ascii

theorem toNat_of_ascii : (Char.ofNat n.toNat).toNat = n.toNat := by
  have small : n.toNat < 128 := UInt8.lt_iff_toNat_lt.mp ascii
  rw [Char.ofNat, dif_pos (.inl (by omega))]
  rfl

theorem encode_of_ascii (cs : List Char) : encode (Char.ofNat n.toNat :: cs) = n :: encode cs := by
  have small : n.toNat < 128 := UInt8.lt_iff_toNat_lt.mp ascii
  have one : String.utf8EncodeChar (Char.ofNat n.toNat) = [n] := by
    simp only [String.utf8EncodeChar, Char.toNat_val, toNat_of_ascii ascii]
    rw [if_pos (by omega), UInt8.ofNat_toNat]
  rw [encode, List.flatMap_cons, one]
  rfl

theorem head?_encode (cs : List Char) : (encode cs).head? = some n ↔ cs.head? = some (Char.ofNat n.toNat) := by
  constructor
  · intro first
    obtain ⟨rest, split⟩ := List.head?_eq_some_iff.mp first
    rw [← decodeLossy_encode cs, split, decodeLossy_ascii ascii, List.head?_cons]
  · intro first
    obtain ⟨rest, rfl⟩ := List.head?_eq_some_iff.mp first
    rw [encode_of_ascii ascii, List.head?_cons]

theorem repaired_append_ascii (front back : Bytes) :
    repaired (front ++ n :: back) = repaired front ++ n :: repaired back := by
  rw [repaired, decodeLossy_append_ascii ascii, encode_append, encode_of_ascii ascii]
  rfl

theorem repaired_cons_ascii (rest : Bytes) : repaired (n :: rest) = n :: repaired rest :=
  repaired_append_ascii ascii [] rest

theorem repaired_intercalate (parts : List Bytes) :
    repaired ([n].intercalate parts) = [n].intercalate (parts.map repaired) := by
  induction parts with
  | nil => rfl
  | cons part rest ih =>
      cases rest with
      | nil => simp
      | cons next rest =>
          simp only [List.map_cons, List.intercalate_cons_cons, List.append_assoc, List.singleton_append] at ih ⊢
          rw [repaired_append_ascii ascii, ih]

variable (notZero : n ≠ 0)
include notZero

/-- No repair makes an ASCII byte. -/
theorem mem_of_mem_repaired {bytes : Bytes} (member : n ∈ repaired bytes) : n ∈ bytes := by
  have read : Char.ofNat n.toNat ∈ decodeLossy bytes := by
    obtain ⟨front, back, split⟩ := List.append_of_mem member
    rw [← decodeLossy_encode (decodeLossy bytes), ← repaired, split, decodeLossy_append_ascii ascii]
    exact List.mem_append_right _ List.mem_cons_self
  have small : (Char.ofNat n.toNat).toNat < 128 := by
    rw [toNat_of_ascii ascii]
    exact UInt8.lt_iff_toNat_lt.mp ascii
  have other : Char.ofNat n.toNat ≠ '\x00' := by
    intro same
    have none := congrArg Char.toNat same
    rw [toNat_of_ascii ascii] at none
    exact notZero (UInt8.toNat_inj.mp none)
  have back := mem_of_mem_decodeLossy small other read
  rwa [toNat_of_ascii ascii, UInt8.ofNat_toNat] at back

/-- What is repaired to a text that starts with an ASCII byte starts with it already. -/
theorem exists_cons_of_repaired {bytes rest : Bytes} (starts : repaired bytes = n :: rest) :
    ∃ more, bytes = n :: more ∧ repaired more = rest := by
  have member : n ∈ bytes := mem_of_mem_repaired ascii notZero (starts ▸ List.mem_cons_self)
  obtain ⟨front, back, rfl, first⟩ := List.eq_append_cons_of_mem member
  rw [repaired_append_ascii ascii] at starts
  cases before : repaired front with
  | nil =>
      rw [before] at starts
      exact ⟨back, by rw [repaired_eq_nil.mp before]; rfl, (List.cons.inj starts).2⟩
  | cons b more =>
      rw [before] at starts
      have early : n ∈ repaired front := by
        rw [before, ← (List.cons.inj starts).1]
        exact List.mem_cons_self
      exact absurd (mem_of_mem_repaired ascii notZero early) first

theorem head?_repaired (bytes : Bytes) : (repaired bytes).head? = some n ↔ bytes.head? = some n := by
  constructor
  · intro first
    obtain ⟨rest, split⟩ := List.head?_eq_some_iff.mp first
    obtain ⟨more, whole, -⟩ := exists_cons_of_repaired ascii notZero split
    rw [whole, List.head?_cons]
  · intro first
    obtain ⟨rest, rfl⟩ := List.head?_eq_some_iff.mp first
    rw [repaired_cons_ascii ascii, List.head?_cons]

/-- A text starts with an ASCII character just when the bytes that it was read from do. -/
theorem head?_decodeLossy (bytes : Bytes) :
    (decodeLossy bytes).head? = some (Char.ofNat n.toNat) ↔ bytes.head? = some n := by
  rw [← head?_encode ascii, ← repaired, head?_repaired ascii notZero]

theorem getLast?_repaired (bytes : Bytes) : (repaired bytes).getLast? = some n ↔ bytes.getLast? = some n := by
  constructor
  · intro last
    have member : n ∈ bytes.reverse :=
      List.mem_reverse.mpr (mem_of_mem_repaired ascii notZero (List.mem_of_getLast? last))
    obtain ⟨back, front, split, clean⟩ := List.eq_append_cons_of_mem member
    have whole : bytes = front.reverse ++ n :: back.reverse := by
      rw [← List.reverse_reverse bytes, split]
      simp
    cases back with
    | nil => rw [whole]; simp
    | cons b back =>
        have filled : repaired (b :: back).reverse ≠ [] := by simp
        -- what stands behind the last one would have to end in it too
        rw [whole, repaired_append_ascii ascii, List.append_cons] at last
        have inner : n ∈ (b :: back).reverse := by
          refine mem_of_mem_repaired ascii notZero (List.mem_of_getLast? ?_)
          rwa [List.getLast?_append_of_ne_nil _ filled] at last
        exact absurd (List.mem_reverse.mp inner) clean
  · intro last
    obtain ⟨front, rfl⟩ := List.getLast?_eq_some_iff.mp last
    rw [repaired_append_ascii ascii, repaired_nil, List.getLast?_concat]

theorem repaired_cons_eq_iff {bytes rest : Bytes} (kept : ∀ more, repaired more = rest ↔ more = rest) :
    repaired bytes = n :: rest ↔ bytes = n :: rest := by
  constructor
  · intro same
    obtain ⟨more, split, behind⟩ := exists_cons_of_repaired ascii notZero same
    rw [split, (kept more).mp behind]
  · rintro rfl
    rw [repaired_cons_ascii ascii, (kept rest).mpr rfl]

/-- Cutting at an ASCII byte and repairing go in either order. -/
theorem splitOn_repaired (bytes : Bytes) : (repaired bytes).splitOn n = (bytes.splitOn n).map repaired := by
  have clean : ∀ part ∈ (bytes.splitOn n).map repaired, n ∉ part := by
    intro part member
    obtain ⟨whole, inside, rfl⟩ := List.mem_map.mp member
    exact fun early => not_mem_of_mem_splitOn inside (mem_of_mem_repaired ascii notZero early)
  have filled : (bytes.splitOn n).map repaired ≠ [] := by simp
  rw [← List.splitOn_intercalate n clean filled, ← repaired_intercalate ascii, List.intercalate_splitOn]

end Ascii

/-! ## Endings of ASCII characters -/

/-- A text ends in ASCII characters just when the bytes it is read from do. -/
theorem suffix_decodeLossy_iff {cs : List Char} (plain : ∀ c ∈ cs, c.toNat < 128 ∧ c ≠ '\x00') {bytes : Bytes} :
    cs <:+ decodeLossy bytes ↔ encode cs <:+ bytes := by
  induction cs using List.reverseRecOn generalizing bytes with
  | nil => simp [encode]
  | append_singleton cs c ih =>
      obtain ⟨small, other⟩ := plain c (by simp)
      have before (front : Bytes) : cs <:+ decodeLossy front ↔ encode cs <:+ front :=
        ih fun d member => plain d (List.mem_append_left _ member)
      have value : (UInt8.ofNat c.toNat).toNat = c.toNat := toNat_ofNat (by omega)
      have ascii : UInt8.ofNat c.toNat < 0x80 := by
        rw [UInt8.lt_iff_toNat_lt, value]
        exact small
      have notZero : UInt8.ofNat c.toNat ≠ 0 := by
        intro zero
        rw [zero] at value
        exact other (Char.toNat_inj.mp value.symm)
      have one : encode [c] = [UInt8.ofNat c.toNat] := by
        have whole := encode_of_ascii ascii []
        rwa [value, Char.ofNat_toNat] at whole
      have cut (front : Bytes) : decodeLossy (front ++ [UInt8.ofNat c.toNat]) = decodeLossy front ++ [c] := by
        rw [decodeLossy_append_ascii ascii, value, Char.ofNat_toNat]
        rfl
      rw [encode_append, one]
      constructor
      · rintro ⟨front, split⟩
        have last : (repaired bytes).getLast? = some (.ofNat c.toNat) := by
          rw [repaired, ← split, ← List.append_assoc, encode_append, one, List.getLast?_concat]
        obtain ⟨stem, rfl⟩ := List.getLast?_eq_some_iff.mp ((getLast?_repaired ascii notZero bytes).mp last)
        rw [cut, ← List.append_assoc] at split
        obtain ⟨more, rfl⟩ := (before stem).mp ⟨front, List.append_inj_left' split rfl⟩
        exact ⟨more, (List.append_assoc _ _ _).symm⟩
      · rintro ⟨front, rfl⟩
        obtain ⟨more, split⟩ := (before (front ++ encode cs)).mpr ⟨front, rfl⟩
        rw [← List.append_assoc, cut, ← split, List.append_assoc]
        exact List.suffix_append more _

end ProtoTree.Text

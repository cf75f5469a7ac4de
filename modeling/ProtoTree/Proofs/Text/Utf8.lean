import Mathlib.Algebra.Group.Nat.Defs
import Mathlib.Data.List.Basic
import ProtoTree.Text.Utf8

/-! # Decoding with replacements

Decoding reads one character, or one run of bytes that starts none, and goes on
behind it. Characters are read back from their UTF-8 form whatever follows them.
An ASCII byte completes nothing that was begun before it: it is always read as
its own character, and a newline comes from nowhere else.
-/

namespace ProtoTree.Text

/-! ## One step of decoding -/

section Step

variable {a b c d : UInt8} {rest : Bytes}

/-- What is read at the first byte, in all cases at once. The lemmas below pick one case each. -/
theorem decodeLossy_cons (a : UInt8) (rest : Bytes) :
    decodeLossy (a :: rest) =
      if a < 0x80 then Char.ofNat a.toNat :: decodeLossy rest
      else if sequenceLength a = 1 then replacement :: decodeLossy rest
      else
        match rest with
        | [] => [replacement]
        | b :: rest₂ =>
          if !isSecond a b then replacement :: decodeLossy (b :: rest₂)
          else if sequenceLength a = 2 then assemble (a.toNat % 32) [b] :: decodeLossy rest₂
          else
            match rest₂ with
            | [] => [replacement]
            | c :: rest₃ =>
              if !isContinuation c then replacement :: decodeLossy (c :: rest₃)
              else if sequenceLength a = 3 then assemble (a.toNat % 16) [b, c] :: decodeLossy rest₃
              else
                match rest₃ with
                | [] => [replacement]
                | d :: rest₄ =>
                  if !isContinuation d then replacement :: decodeLossy (d :: rest₄)
                  else assemble (a.toNat % 8) [b, c, d] :: decodeLossy rest₄ := by
  rw [decodeLossy.eq_def]
  rfl

theorem decodeLossy_ascii (ascii : a < 0x80) : decodeLossy (a :: rest) = Char.ofNat a.toNat :: decodeLossy rest := by
  rw [decodeLossy_cons]
  simp only [if_pos ascii]

variable (high : ¬ a < 0x80)
include high

theorem decodeLossy_alone (alone : sequenceLength a = 1) :
    decodeLossy (a :: rest) = replacement :: decodeLossy rest := by
  rw [decodeLossy_cons]
  simp only [if_neg high, if_pos alone]

theorem decodeLossy_cut_first (begins : sequenceLength a ≠ 1) (stops : ∀ b ∈ rest.head?, isSecond a b = false) :
    decodeLossy (a :: rest) = replacement :: decodeLossy rest := by
  rw [decodeLossy_cons]
  simp only [if_neg high, if_neg begins]
  cases rest with
  | nil => rfl
  | cons b rest => simp only [stops b rfl, Bool.not_false, if_true]

variable (second : isSecond a b)
include second

theorem decodeLossy_two (two : sequenceLength a = 2) :
    decodeLossy (a :: b :: rest) = assemble (a.toNat % 32) [b] :: decodeLossy rest := by
  have begins : sequenceLength a ≠ 1 := by omega
  rw [decodeLossy_cons]
  simp only [if_neg high, if_neg begins, second, Bool.not_true, Bool.false_eq_true, if_false, if_pos two]

theorem decodeLossy_cut_second (begins : sequenceLength a ≠ 1) (more : sequenceLength a ≠ 2)
    (stops : ∀ c ∈ rest.head?, isContinuation c = false) :
    decodeLossy (a :: b :: rest) = replacement :: decodeLossy rest := by
  rw [decodeLossy_cons]
  simp only [if_neg high, if_neg begins, second, Bool.not_true, Bool.false_eq_true, if_false, if_neg more]
  cases rest with
  | nil => rfl
  | cons c rest => simp only [stops c rfl, Bool.not_false, if_true]

variable (third : isContinuation c)
include third

theorem decodeLossy_three (three : sequenceLength a = 3) :
    decodeLossy (a :: b :: c :: rest) = assemble (a.toNat % 16) [b, c] :: decodeLossy rest := by
  have begins : sequenceLength a ≠ 1 := by omega
  have more : sequenceLength a ≠ 2 := by omega
  rw [decodeLossy_cons]
  simp only [if_neg high, if_neg begins, second, third, Bool.not_true, Bool.false_eq_true, if_false, if_neg more,
    if_pos three]

theorem decodeLossy_cut_third (begins : sequenceLength a ≠ 1) (more : sequenceLength a ≠ 2)
    (evenMore : sequenceLength a ≠ 3) (stops : ∀ d ∈ rest.head?, isContinuation d = false) :
    decodeLossy (a :: b :: c :: rest) = replacement :: decodeLossy rest := by
  rw [decodeLossy_cons]
  simp only [if_neg high, if_neg begins, second, third, Bool.not_true, Bool.false_eq_true, if_false, if_neg more,
    if_neg evenMore]
  cases rest with
  | nil => rfl
  | cons d rest => simp only [stops d rfl, Bool.not_false, if_true]

theorem decodeLossy_four (fourth : isContinuation d) (begins : sequenceLength a ≠ 1) (more : sequenceLength a ≠ 2)
    (evenMore : sequenceLength a ≠ 3) :
    decodeLossy (a :: b :: c :: d :: rest) = assemble (a.toNat % 8) [b, c, d] :: decodeLossy rest := by
  rw [decodeLossy_cons]
  simp only [if_neg high, if_neg begins, second, third, fourth, Bool.not_true, Bool.false_eq_true, if_false,
    if_neg more, if_neg evenMore]

end Step

/-! ## Characters read back -/

theorem toNat_ofNat {n : Nat} (small : n < 256) : (UInt8.ofNat n).toNat = n := by
  rw [UInt8.toNat_ofNat']
  omega

theorem not_ascii {n : Nat} (high : 128 ≤ n) (small : n < 256) : ¬ UInt8.ofNat n < 0x80 := by
  rw [UInt8.lt_iff_toNat_lt, toNat_ofNat small]
  exact Nat.not_lt.mpr high

theorem between_ofNat {low high : UInt8} {n : Nat} (small : n < 256) :
    (low ≤ UInt8.ofNat n && UInt8.ofNat n ≤ high) = decide (low.toNat ≤ n ∧ n ≤ high.toNat) := by
  simp only [UInt8.le_iff_toNat_le, toNat_ofNat small, Bool.decide_and]

theorem ofNat_beq {b : UInt8} {n : Nat} (small : n < 256) : (UInt8.ofNat n == b) = decide (n = b.toNat) := by
  rw [Bool.eq_iff_iff, beq_iff_eq, decide_eq_true_iff, ← UInt8.toNat_inj, toNat_ofNat small]

theorem sequenceLength_ofNat {n : Nat} (small : n < 256) :
    sequenceLength (.ofNat n) =
      if 0xC2 ≤ n ∧ n ≤ 0xDF then 2 else if 0xE0 ≤ n ∧ n ≤ 0xEF then 3 else if 0xF0 ≤ n ∧ n ≤ 0xF4 then 4 else 1 := by
  simp only [sequenceLength, between_ofNat small, decide_eq_true_iff]
  rfl

/-- Which bytes may come second, after the leads that narrow the choice and after the others. -/
theorem isSecond_ofNat {lead n : Nat} (smallLead : lead < 256) (low : 0x80 ≤ n) (high : n ≤ 0xBF)
    (long : lead = 0xE0 → 0xA0 ≤ n) (noSurrogate : lead = 0xED → n ≤ 0x9F) (longest : lead = 0xF0 → 0x90 ≤ n)
    (last : lead = 0xF4 → n ≤ 0x8F) : isSecond (.ofNat lead) (.ofNat n) := by
  have small : n < 256 := by omega
  simp only [isSecond, isContinuation, ofNat_beq smallLead, between_ofNat small, decide_eq_true_iff]
  split
  · next h => exact decide_eq_true ⟨long h, high⟩
  split
  · next h => exact decide_eq_true ⟨low, noSurrogate h⟩
  split
  · next h => exact decide_eq_true ⟨longest h, high⟩
  split
  · next h => exact decide_eq_true ⟨low, last h⟩
  · exact decide_eq_true ⟨low, high⟩

theorem isContinuation_ofNat {part : Nat} (small : part < 64) : isContinuation (.ofNat (part + 0x80)) := by
  have high : part + 0x80 ≤ 0xBF := by omega
  rw [isContinuation, between_ofNat (by omega)]
  exact decide_eq_true ⟨Nat.le_add_left _ _, high⟩

/-- The six bits that a continuation byte carries. -/
theorem mod_ofNat {part : Nat} (small : part < 64) : (UInt8.ofNat (part + 0x80)).toNat % 64 = part := by
  rw [toNat_ofNat (by omega)]
  omega

/-- A character is read back from its UTF-8 form. -/
theorem decodeLossy_utf8EncodeChar (ch : Char) (rest : Bytes) :
    decodeLossy (String.utf8EncodeChar ch ++ rest) = ch :: decodeLossy rest := by
  have valid : ch.toNat < 0xD800 ∨ 0xDFFF < ch.toNat ∧ ch.toNat < 0x110000 := ch.valid
  have back {n : Nat} (same : n = ch.toNat) : Char.ofNat n = ch := by rw [same, Char.ofNat_toNat]
  simp only [String.utf8EncodeChar, Char.toNat_val]
  generalize ch.toNat = v at *
  split
  · next one =>
      have ascii : UInt8.ofNat v < 0x80 := by
        rw [UInt8.lt_iff_toNat_lt, toNat_ofNat (by omega)]
        exact Nat.lt_succ_of_le one
      rw [List.singleton_append, decodeLossy_ascii ascii, toNat_ofNat (by omega), back rfl]
  split
  · next two =>
      have length : sequenceLength (.ofNat (v / 64 % 32 + 0xC0)) = 2 := by
        rw [sequenceLength_ofNat (by omega), if_pos (by omega)]
      have second : isSecond (.ofNat (v / 64 % 32 + 0xC0)) (.ofNat (v % 64 + 0x80)) :=
        isSecond_ofNat (by omega) (by omega) (by omega) (by omega) (by omega) (by omega) (by omega)
      have value : assemble ((UInt8.ofNat (v / 64 % 32 + 0xC0)).toNat % 32) [.ofNat (v % 64 + 0x80)] = ch := by
        refine back ?_
        rw [List.foldl_cons, List.foldl_nil, mod_ofNat (by omega), toNat_ofNat (by omega)]
        omega
      exact (decodeLossy_two (not_ascii (by omega) (by omega)) second length).trans (congrArg (· :: _) value)
  split
  · next three =>
      have length : sequenceLength (.ofNat (v / 4096 % 16 + 0xE0)) = 3 := by
        rw [sequenceLength_ofNat (by omega), if_neg (by omega), if_pos (by omega)]
      have second : isSecond (.ofNat (v / 4096 % 16 + 0xE0)) (.ofNat (v / 64 % 64 + 0x80)) :=
        isSecond_ofNat (by omega) (by omega) (by omega) (by omega) (by omega) (by omega) (by omega)
      have third : isContinuation (.ofNat (v % 64 + 0x80)) := isContinuation_ofNat (by omega)
      have value : assemble ((UInt8.ofNat (v / 4096 % 16 + 0xE0)).toNat % 16)
          [.ofNat (v / 64 % 64 + 0x80), .ofNat (v % 64 + 0x80)] = ch := by
        refine back ?_
        rw [List.foldl_cons, List.foldl_cons, List.foldl_nil, mod_ofNat (by omega), mod_ofNat (by omega),
          toNat_ofNat (by omega)]
        omega
      exact (decodeLossy_three (not_ascii (by omega) (by omega)) second third length).trans (congrArg (· :: _) value)
  · next four =>
      have length : sequenceLength (.ofNat (v / 262144 % 8 + 0xF0)) = 4 := by
        rw [sequenceLength_ofNat (by omega), if_neg (by omega), if_neg (by omega), if_pos (by omega)]
      have second : isSecond (.ofNat (v / 262144 % 8 + 0xF0)) (.ofNat (v / 4096 % 64 + 0x80)) :=
        isSecond_ofNat (by omega) (by omega) (by omega) (by omega) (by omega) (by omega) (by omega)
      have third : isContinuation (.ofNat (v / 64 % 64 + 0x80)) := isContinuation_ofNat (by omega)
      have fourth : isContinuation (.ofNat (v % 64 + 0x80)) := isContinuation_ofNat (by omega)
      have value : assemble ((UInt8.ofNat (v / 262144 % 8 + 0xF0)).toNat % 8)
          [.ofNat (v / 4096 % 64 + 0x80), .ofNat (v / 64 % 64 + 0x80), .ofNat (v % 64 + 0x80)] = ch := by
        refine back ?_
        rw [List.foldl_cons, List.foldl_cons, List.foldl_cons, List.foldl_nil, mod_ofNat (by omega),
          mod_ofNat (by omega), mod_ofNat (by omega), toNat_ofNat (by omega)]
        omega
      exact (decodeLossy_four (not_ascii (by omega) (by omega)) second third fourth (by omega) (by omega)
        (by omega)).trans (congrArg (· :: _) value)

theorem decodeLossy_encode_append (cs : List Char) (rest : Bytes) :
    decodeLossy (encode cs ++ rest) = cs ++ decodeLossy rest := by
  induction cs with
  | nil => rfl
  | cons c cs ih =>
      rw [encode, List.flatMap_cons, List.append_assoc, decodeLossy_utf8EncodeChar]
      exact congrArg (c :: ·) ih

/-! ## ASCII bytes -/

theorem isContinuation_of_ascii {n : UInt8} (ascii : n < 0x80) : isContinuation n = false := by
  rw [isContinuation, Bool.and_eq_false_iff]
  exact .inl (decide_eq_false (UInt8.not_le.mpr ascii))

theorem isSecond_of_ascii {n : UInt8} (ascii : n < 0x80) (lead : UInt8) : isSecond lead n = false := by
  have low {b : UInt8} (high : 0x80 ≤ b) : decide (b ≤ n) = false :=
    decide_eq_false fun below => UInt8.not_le.mpr ascii (UInt8.le_trans high below)
  simp only [isSecond, isContinuation_of_ascii ascii, low (b := 0xA0) (by decide), low (b := 0x80) (by decide),
    low (b := 0x90) (by decide), Bool.false_and, ite_self]

/-- Nothing that is begun before an ASCII byte reaches over it. -/
theorem decodeLossy_append_ascii {n : UInt8} (ascii : n < 0x80) (bytes rest : Bytes) :
    decodeLossy (bytes ++ n :: rest) = decodeLossy bytes ++ Char.ofNat n.toNat :: decodeLossy rest := by
  rw [← decodeLossy_ascii ascii]
  have notSecond (lead : UInt8) : ∀ b ∈ (n :: rest).head?, isSecond lead b = false := by
    simpa using isSecond_of_ascii ascii lead
  have notNext : ∀ b ∈ (n :: rest).head?, isContinuation b = false := by
    simpa using isContinuation_of_ascii ascii
  -- Along the bytes: each step reads what it would read alone.
  fun_induction decodeLossy bytes with
  | case1 => rfl
  | case2 a more low ih => rw [List.cons_append, decodeLossy_ascii low, ih, List.cons_append]
  | case3 a more high alone ih => rw [List.cons_append, decodeLossy_alone high alone, ih, List.cons_append]
  | case4 a high begins =>
      rw [List.singleton_append, decodeLossy_cut_first high begins (notSecond a), List.singleton_append]
  | case5 a high begins b more stops ih =>
      have apart : ∀ d ∈ (b :: more ++ n :: rest).head?, isSecond a d = false := by simpa using stops
      rw [List.cons_append, decodeLossy_cut_first high begins apart, ih, List.cons_append]
  | case6 a high begins b more second two ih =>
      rw [List.cons_append, List.cons_append, decodeLossy_two high (by simpa using second) two, ih, List.cons_append]
  | case7 a high begins b second longer =>
      exact decodeLossy_cut_second high (by simpa using second) begins longer notNext
  | case8 a high begins b second longer c more stops ih =>
      have apart : ∀ d ∈ (c :: more ++ n :: rest).head?, isContinuation d = false := by simpa using stops
      rw [List.cons_append, List.cons_append, decodeLossy_cut_second high (by simpa using second) begins longer apart,
        ih, List.cons_append]
  | case9 a high begins b second longer c more third three ih =>
      rw [List.cons_append, List.cons_append, List.cons_append,
        decodeLossy_three high (by simpa using second) (by simpa using third) three, ih, List.cons_append]
  | case10 a high begins b second longer c third evenLonger =>
      exact decodeLossy_cut_third high (by simpa using second) (by simpa using third) begins longer evenLonger notNext
  | case11 a high begins b second longer c third evenLonger d more stops ih =>
      have apart : ∀ e ∈ (d :: more ++ n :: rest).head?, isContinuation e = false := by simpa using stops
      rw [List.cons_append, List.cons_append, List.cons_append,
        decodeLossy_cut_third high (by simpa using second) (by simpa using third) begins longer evenLonger apart, ih,
        List.cons_append]
  | case12 a high begins b second longer c third evenLonger d more fourth ih =>
      rw [List.cons_append, List.cons_append, List.cons_append, List.cons_append,
        decodeLossy_four high (by simpa using second) (by simpa using third) (by simpa using fourth) begins longer
          evenLonger, ih, List.cons_append]

/-! ## Characters of several bytes -/

/-- A lead byte of a longer character, told by the length it asks for. -/
theorem lead_bounds (a : UInt8) :
    (sequenceLength a = 2 → 0xC2 ≤ a.toNat ∧ a.toNat ≤ 0xDF) ∧ (sequenceLength a = 3 → 0xE0 ≤ a.toNat ∧ a.toNat ≤ 0xEF) ∧
      (sequenceLength a ≠ 1 → sequenceLength a ≠ 2 → sequenceLength a ≠ 3 → 0xF0 ≤ a.toNat ∧ a.toNat ≤ 0xF4) := by
  rw [← UInt8.ofNat_toNat (x := a), sequenceLength_ofNat a.toNat_lt, toNat_ofNat a.toNat_lt]
  split
  · omega
  split
  · omega
  split <;> omega

/-- The byte behind a lead that could start an overlong form is large enough. -/
theorem second_bounds {a b : UInt8} (second : isSecond a b) :
    (a.toNat = 0xE0 → 0xA0 ≤ b.toNat ∧ b.toNat ≤ 0xBF) ∧ (a.toNat = 0xF0 → 0x90 ≤ b.toNat ∧ b.toNat ≤ 0xBF) := by
  rw [← UInt8.ofNat_toNat (x := a), ← UInt8.ofNat_toNat (x := b)] at second
  simp only [isSecond, ofNat_beq a.toNat_lt, between_ofNat b.toNat_lt, decide_eq_true_iff] at second
  constructor
  · intro lead
    rw [if_pos (c := a.toNat = UInt8.toNat 0xE0) lead] at second
    exact of_decide_eq_true second
  · intro lead
    have notThree : a.toNat ≠ UInt8.toNat 0xE0 := by rw [lead]; decide
    have notSurrogate : a.toNat ≠ UInt8.toNat 0xED := by rw [lead]; decide
    rw [if_neg notThree, if_neg notSurrogate, if_pos (c := a.toNat = UInt8.toNat 0xF0) lead] at second
    exact of_decide_eq_true second

theorem ofNat_ne {c : Char} (notZero : c ≠ '\x00') {n : Nat} (other : n ≠ c.toNat) : Char.ofNat n ≠ c := by
  intro same
  rw [Char.ofNat] at same
  by_cases valid : n.isValidChar
  · rw [dif_pos valid] at same
    exact other (congrArg Char.toNat same)
  · rw [dif_neg valid] at same
    exact notZero same.symm

/-- The value of a character of several bytes is at least that of its first two, moved up. -/
theorem le_foldl_low (value : Nat) (low : List UInt8) :
    value * 64 ^ low.length ≤ low.foldl (fun value b => value * 64 + b.toNat % 64) value := by
  induction low generalizing value with
  | nil => simp
  | cons b low ih =>
      have grows : value * 64 ≤ value * 64 + b.toNat % 64 := Nat.le_add_right _ _
      calc value * 64 ^ (low.length + 1) = value * 64 * 64 ^ low.length := by rw [Nat.pow_succ', ← Nat.mul_assoc]
        _ ≤ (value * 64 + b.toNat % 64) * 64 ^ low.length := Nat.mul_le_mul_right _ grows
        _ ≤ _ := ih _

section Ascii

variable {c : Char} (ascii : c.toNat < 128) (notZero : c ≠ '\x00')
include ascii notZero

/-- A character of several bytes is not ASCII. -/
theorem assemble_ne {high : Nat} {b : UInt8} {low : List UInt8}
    (large : 128 ≤ (high * 64 + b.toNat % 64) * 64 ^ low.length) : assemble high (b :: low) ≠ c := by
  refine ofNat_ne notZero (Nat.ne_of_gt (Nat.lt_of_lt_of_le ascii (Nat.le_trans large ?_)))
  exact le_foldl_low (high * 64 + b.toNat % 64) low

/-- A character of several bytes is not ASCII, whatever length its lead asks for. -/
theorem assemble_two_ne {a b : UInt8} (two : sequenceLength a = 2) : assemble (a.toNat % 32) [b] ≠ c := by
  have lead := (lead_bounds a).1 two
  refine assemble_ne ascii notZero ?_
  rw [List.length_nil, Nat.pow_zero, Nat.mul_one]
  omega

theorem assemble_three_ne {a b d : UInt8} (second : isSecond a b) (three : sequenceLength a = 3) :
    assemble (a.toNat % 16) [b, d] ≠ c := by
  have lead := (lead_bounds a).2.1 three
  have next := (second_bounds second).1
  refine assemble_ne ascii notZero ?_
  rw [List.length_singleton, Nat.pow_one]
  omega

theorem assemble_four_ne {a b d e : UInt8} (second : isSecond a b) (begins : sequenceLength a ≠ 1)
    (more : sequenceLength a ≠ 2) (evenMore : sequenceLength a ≠ 3) : assemble (a.toNat % 8) [b, d, e] ≠ c := by
  have lead := (lead_bounds a).2.2 begins more evenMore
  have next := (second_bounds second).2
  refine assemble_ne ascii notZero ?_
  rw [List.length_cons, List.length_singleton]
  omega

/-- An ASCII character comes from nowhere else than its own byte. -/
theorem mem_of_mem_decodeLossy {bytes : Bytes} (member : c ∈ decodeLossy bytes) : UInt8.ofNat c.toNat ∈ bytes := by
  have inner {a : UInt8} {more : Bytes} : UInt8.ofNat c.toNat ∈ more → UInt8.ofNat c.toNat ∈ a :: more :=
    List.mem_cons_of_mem a
  have replaced : c ≠ replacement := by
    rintro rfl
    exact absurd ascii (by decide)
  fun_induction decodeLossy bytes with
  | case1 => cases member
  | case2 a more low ih =>
      rcases List.mem_cons.mp member with same | behind
      · have back : a.toNat = c.toNat := by
          by_contra other
          exact ofNat_ne notZero other same.symm
        rw [← back, UInt8.ofNat_toNat]
        exact List.mem_cons_self
      · exact inner (ih behind)
  | case3 a more high alone ih => exact inner (ih ((List.mem_cons.mp member).resolve_left replaced))
  | case4 | case7 | case10 => exact absurd (List.mem_singleton.mp member) replaced
  | case5 a high begins b more stops ih => exact inner (ih ((List.mem_cons.mp member).resolve_left replaced))
  | case6 a high begins b more second two ih =>
      have other := (assemble_two_ne (b := b) ascii notZero two).symm
      exact inner (inner (ih ((List.mem_cons.mp member).resolve_left other)))
  | case8 a high begins b second longer d more stops ih =>
      exact inner (inner (ih ((List.mem_cons.mp member).resolve_left replaced)))
  | case9 a high begins b second longer d more third three ih =>
      have other := (assemble_three_ne (d := d) ascii notZero (by simpa using second : isSecond a b) three).symm
      exact inner (inner (inner (ih ((List.mem_cons.mp member).resolve_left other))))
  | case11 a high begins b second longer d third evenLonger e more stops ih =>
      exact inner (inner (inner (ih ((List.mem_cons.mp member).resolve_left replaced))))
  | case12 a high begins b second longer d third evenLonger e more fourth ih =>
      have other := (assemble_four_ne (d := d) (e := e) ascii notZero (by simpa using second : isSecond a b) begins
        longer evenLonger).symm
      exact inner (inner (inner (inner (ih ((List.mem_cons.mp member).resolve_left other)))))

end Ascii

/-- A newline is read only from a newline. -/
theorem newline_not_mem_decodeLossy {bytes : Bytes} (whole : 0x0A ∉ bytes) : '\n' ∉ decodeLossy bytes := fun member =>
  whole (mem_of_mem_decodeLossy (by decide) (by decide) member)

end ProtoTree.Text

import Scaffold.Text.Utf8

/-!
# Bytes that are a text

The decoder reads a character where the bytes at the front are those that the character is written
with, and nowhere else: the ranges of the first and the second byte leave one form for every number
and none for numbers that are no character. Going on behind each character, it reads a text from the
bytes of that text only.
-/

namespace Scaffold.Text.Utf8

/-! ### Ranges of bytes -/

theorem announced_range (lead : UInt8) :
    (announced lead = 1 ↔ lead.toNat < 128) ∧
    (announced lead = 2 ↔ 194 ≤ lead.toNat ∧ lead.toNat < 224) ∧
    (announced lead = 3 ↔ 224 ≤ lead.toNat ∧ lead.toNat < 240) ∧
    (announced lead = 4 ↔ 240 ≤ lead.toNat ∧ lead.toNat < 245) := by
  simp only [announced, UInt8.lt_iff_toNat_lt, UInt8.reduceToNat]
  repeat' split
  all_goals omega

theorem announced_le (lead : UInt8) : announced lead ≤ 4 := by
  unfold announced
  repeat' split
  all_goals decide

theorem isContinuation_iff (b : UInt8) :
    isContinuation b = true ↔ 128 ≤ b.toNat ∧ b.toNat < 192 := by
  simp [isContinuation, UInt8.lt_iff_toNat_lt, UInt8.le_iff_toNat_le]

theorem allowsSecond_iff (lead second : UInt8) : allowsSecond lead second = true ↔
    (128 ≤ second.toNat ∧ second.toNat < 192) ∧ (lead.toNat = 224 → 160 ≤ second.toNat) ∧
      (lead.toNat = 237 → second.toNat < 160) ∧ (lead.toNat = 240 → 144 ≤ second.toNat) ∧
      (lead.toNat = 244 → second.toNat < 144) := by
  simp only [allowsSecond, Bool.and_eq_true, isContinuation_iff, beq_iff_eq, ← UInt8.toNat_inj]
  repeat' split
  all_goals simp_all [UInt8.lt_iff_toNat_lt, UInt8.le_iff_toNat_le]

/-! ### One character -/

/-- The bytes behind a first byte that make a character with it, and its number. -/
inductive Sequence (lead : UInt8) : Bytes → Nat → Prop where
  | one (h : announced lead = 1) : Sequence lead [] lead.toNat
  | two {a : UInt8} (h : announced lead = 2) (ha : allowsSecond lead a = true) :
      Sequence lead [a] (lead.toNat % 32 * 64 + a.toNat % 64)
  | three {a b : UInt8} (h : announced lead = 3) (ha : allowsSecond lead a = true)
      (hb : isContinuation b = true) :
      Sequence lead [a, b] ((lead.toNat % 16 * 64 + a.toNat % 64) * 64 + b.toNat % 64)
  | four {a b c : UInt8} (h : announced lead = 4) (ha : allowsSecond lead a = true)
      (hb : isContinuation b = true) (hc : isContinuation c = true) :
      Sequence lead [a, b, c]
        (((lead.toNat % 8 * 64 + a.toNat % 64) * 64 + b.toNat % 64) * 64 + c.toNat % 64)

theorem front_of_sequence {lead : UInt8} {tail : Bytes} {n : Nat} (h : Sequence lead tail n)
    (more : Bytes) : front lead (tail ++ more) = .char (Char.ofNat n) (tail.length + 1) := by
  cases h with
  | one h => simp [front, h]
  | two h ha => simp [front, h, ha, assemble]
  | three h ha hb => simp [front, h, ha, hb, assemble]
  | four h ha hb hc => simp [front, h, ha, hb, hc, assemble]

theorem sequence_of_front {lead : UInt8} {rest : Bytes} {c : Char} {width : Nat}
    (h : front lead rest = .char c width) :
    ∃ tail more n, rest = tail ++ more ∧ Sequence lead tail n ∧ c = Char.ofNat n ∧
      width = tail.length + 1 := by
  have hw := announced_le lead
  unfold front at h
  -- the announced width says how far to look into the rest
  match hn : announced lead, hw with
  | 0, _ => simp [hn] at h
  | 1, _ =>
    simp only [hn, Front.char.injEq] at h
    exact ⟨[], rest, _, rfl, .one hn, h.1.symm, h.2.symm⟩
  | 2, _ =>
    match rest with
    | [] => simp [hn] at h
    | a :: more =>
      by_cases ha : allowsSecond lead a = true
      · simp [hn, ha, assemble] at h
        exact ⟨[a], more, _, rfl, .two hn ha, h.1.symm, h.2.symm⟩
      · simp [hn, ha] at h
  | 3, _ =>
    match rest with
    | [] => simp [hn] at h
    | [a] => by_cases ha : allowsSecond lead a = true <;> simp [hn, ha] at h
    | a :: b :: more =>
      by_cases ha : allowsSecond lead a = true
      · by_cases hb : isContinuation b = true
        · simp [hn, ha, hb, assemble] at h
          exact ⟨[a, b], more, _, rfl, .three hn ha hb, h.1.symm, h.2.symm⟩
        · simp [hn, ha, hb] at h
      · simp [hn, ha] at h
  | 4, _ =>
    match rest with
    | [] => simp [hn] at h
    | [a] => by_cases ha : allowsSecond lead a = true <;> simp [hn, ha] at h
    | [a, b] =>
      by_cases ha : allowsSecond lead a = true <;> by_cases hb : isContinuation b = true <;>
        simp [hn, ha, hb] at h
    | a :: b :: d :: more =>
      by_cases ha : allowsSecond lead a = true
      · by_cases hb : isContinuation b = true
        · by_cases hd : isContinuation d = true
          · simp [hn, ha, hb, hd, assemble] at h
            exact ⟨[a, b, d], more, _, rfl, .four hn ha hb hd, h.1.symm, h.2.symm⟩
          · simp [hn, ha, hb, hd] at h
        · simp [hn, ha, hb] at h
      · simp [hn, ha] at h

theorem toNat_ofNat {n : Nat} (h : n.isValidChar) : (Char.ofNat n).val.toNat = n := by
  rw [Char.ofNat, dif_pos h]
  rfl

theorem Sequence.isValidChar {lead : UInt8} {tail : Bytes} {n : Nat} (h : Sequence lead tail n) :
    n.isValidChar := by
  obtain ⟨one, two, three, four⟩ := announced_range lead
  unfold Nat.isValidChar
  cases h with
  | one h =>
    rw [one] at h
    omega
  | two h ha =>
    rw [two] at h
    rw [allowsSecond_iff] at ha
    omega
  | three h ha hb =>
    rw [three] at h
    rw [allowsSecond_iff] at ha
    rw [isContinuation_iff] at hb
    omega
  | four h ha hb hc =>
    rw [four] at h
    rw [allowsSecond_iff] at ha
    rw [isContinuation_iff] at hb hc
    omega

theorem Sequence.utf8EncodeChar_eq {lead : UInt8} {tail : Bytes} {n : Nat}
    (h : Sequence lead tail n) : String.utf8EncodeChar (Char.ofNat n) = lead :: tail := by
  obtain ⟨one, two, three, four⟩ := announced_range lead
  unfold String.utf8EncodeChar
  simp only [toNat_ofNat h.isValidChar]
  cases h with
  | one h =>
    rw [one] at h
    rw [if_pos (by omega), UInt8.ofNat_toNat]
  | two h ha =>
    rw [two] at h
    rw [allowsSecond_iff] at ha
    rw [if_neg (by omega), if_pos (by omega)]
    simp only [List.cons.injEq, ← UInt8.toNat_inj, UInt8.toNat_ofNat', and_true]
    omega
  | three h ha hb =>
    rw [three] at h
    rw [allowsSecond_iff] at ha
    rw [isContinuation_iff] at hb
    rw [if_neg (by omega), if_neg (by omega), if_pos (by omega)]
    simp only [List.cons.injEq, ← UInt8.toNat_inj, UInt8.toNat_ofNat', and_true]
    omega
  | four h ha hb hc =>
    rw [four] at h
    rw [allowsSecond_iff] at ha
    rw [isContinuation_iff] at hb hc
    rw [if_neg (by omega), if_neg (by omega), if_neg (by omega)]
    simp only [List.cons.injEq, ← UInt8.toNat_inj, UInt8.toNat_ofNat', and_true]
    omega

theorem sequence_of_char (c : Char) :
    ∃ lead tail, String.utf8EncodeChar c = lead :: tail ∧ Sequence lead tail c.toNat := by
  have valid : c.toNat.isValidChar := c.valid
  unfold Nat.isValidChar at valid
  have number {lead : UInt8} {tail : Bytes} {n : Nat} (h : Sequence lead tail n)
      (hn : n = c.toNat) : Sequence lead tail c.toNat := hn ▸ h
  unfold String.utf8EncodeChar
  simp only [show c.val.toNat = c.toNat from rfl]
  split
  · refine ⟨_, _, rfl, number (.one ?_) ?_⟩
    · rw [(announced_range _).1, UInt8.toNat_ofNat']
      omega
    · rw [UInt8.toNat_ofNat']
      omega
  · split
    · refine ⟨_, _, rfl, number (.two ?_ ?_) ?_⟩
      · rw [(announced_range _).2.1, UInt8.toNat_ofNat']
        omega
      · simp only [allowsSecond_iff, UInt8.toNat_ofNat']
        omega
      · simp only [UInt8.toNat_ofNat']
        omega
    · split
      · refine ⟨_, _, rfl, number (.three ?_ ?_ ?_) ?_⟩
        · rw [(announced_range _).2.2.1, UInt8.toNat_ofNat']
          omega
        · simp only [allowsSecond_iff, UInt8.toNat_ofNat']
          omega
        · rw [isContinuation_iff, UInt8.toNat_ofNat']
          omega
        · simp only [UInt8.toNat_ofNat']
          omega
      · refine ⟨_, _, rfl, number (.four ?_ ?_ ?_ ?_) ?_⟩
        · rw [(announced_range _).2.2.2, UInt8.toNat_ofNat']
          omega
        · simp only [allowsSecond_iff, UInt8.toNat_ofNat']
          omega
        · rw [isContinuation_iff, UInt8.toNat_ofNat']
          omega
        · rw [isContinuation_iff, UInt8.toNat_ofNat']
          omega
        · simp only [UInt8.toNat_ofNat']
          omega

theorem front_eq_char_iff {lead : UInt8} {rest : Bytes} {c : Char} {width : Nat} :
    front lead rest = .char c width ↔ ∃ tail more, rest = tail ++ more ∧
      String.utf8EncodeChar c = lead :: tail ∧ width = tail.length + 1 := by
  constructor
  · intro h
    obtain ⟨tail, more, n, hr, hs, rfl, hw⟩ := sequence_of_front h
    exact ⟨tail, more, hr, hs.utf8EncodeChar_eq, hw⟩
  · intro ⟨tail, more, hr, hc, hw⟩
    obtain ⟨first, others, hf, hs⟩ := sequence_of_char c
    rw [hc] at hf
    obtain ⟨rfl, rfl⟩ := List.cons.inj hf
    rw [hr, hw, front_of_sequence hs, Char.ofNat_toNat]

/-! ### Whole texts -/

theorem decodeFrom_skip (position pending : Nat) (bytes : Bytes) :
    decodeFrom position pending bytes = decodeFrom (position + pending) 0 (bytes.drop pending) := by
  induction bytes generalizing position pending with
  | nil => simp [decodeFrom]
  | cons b bytes ih =>
    cases pending with
    | zero => rfl
    | succ pending =>
      rw [decodeFrom, ih, List.drop_succ_cons]
      congr 1
      omega

theorem decodeFrom_cons_eq_ok_iff {position : Nat} {lead : UInt8} {rest : Bytes}
    {text : List Char} : decodeFrom position 0 (lead :: rest) = .ok text ↔
      ∃ c cs width, text = c :: cs ∧ front lead rest = .char c width ∧
        decodeFrom (position + 1) (width - 1) rest = .ok cs := by
  rw [decodeFrom]
  cases front lead rest with
  | fault reason count => simp
  | char c width =>
    dsimp only
    cases hd : decodeFrom (position + 1) (width - 1) rest with
    | error f =>
      simp only [Front.char.injEq, reduceCtorEq, false_iff]
      intro ⟨_, cs, _, _, ⟨rfl, rfl⟩, h⟩
      rw [hd] at h
      cases h
    | ok cs =>
      simp only [Front.char.injEq, Except.ok.injEq]
      constructor
      · intro h
        exact ⟨c, cs, width, h.symm, ⟨rfl, rfl⟩, hd⟩
      · intro ⟨_, _, _, h, ⟨rfl, rfl⟩, ht⟩
        rw [hd] at ht
        cases ht
        exact h.symm

theorem decodeFrom_eq_ok_iff (position : Nat) {bytes : Bytes} {text : List Char} :
    decodeFrom position 0 bytes = .ok text ↔ bytes = text.flatMap String.utf8EncodeChar := by
  induction text generalizing bytes position with
  | nil =>
    cases bytes with
    | nil => simp [decodeFrom]
    | cons lead rest => simp [decodeFrom_cons_eq_ok_iff]
  | cons c cs ih =>
    cases bytes with
    | nil => simp [decodeFrom]
    | cons lead rest =>
      rw [decodeFrom_cons_eq_ok_iff, List.flatMap_cons]
      constructor
      · intro ⟨_, _, width, same, hf, hd⟩
        cases same
        obtain ⟨tail, more, rfl, hc, rfl⟩ := front_eq_char_iff.mp hf
        rw [Nat.add_sub_cancel, decodeFrom_skip, List.drop_left, ih] at hd
        rw [hc, hd, List.cons_append]
      · intro h
        obtain ⟨first, tail, hc, -⟩ := sequence_of_char c
        rw [hc, List.cons_append] at h
        obtain ⟨rfl, rfl⟩ := List.cons.inj h
        refine ⟨c, cs, tail.length + 1, rfl, front_eq_char_iff.mpr ⟨tail, _, rfl, hc, rfl⟩, ?_⟩
        rw [Nat.add_sub_cancel, decodeFrom_skip, List.drop_left, ih]

theorem toList_loop (bytes : ByteArray) (i : Nat) (taken : Bytes) :
    ByteArray.toList.loop bytes i taken = taken.reverse ++ bytes.data.toList.drop i := by
  fun_induction ByteArray.toList.loop bytes i taken with
  | case1 i taken h ih =>
    have inside : i < bytes.data.toList.length := h
    have byte : bytes.get! i = bytes.data[i] := by
      cases bytes
      exact getElem!_pos _ i h
    rw [ih, List.drop_eq_getElem_cons inside]
    simp [byte]
  | case2 i taken h =>
    have outside : bytes.data.toList.length ≤ i := Nat.le_of_not_lt h
    rw [List.drop_eq_nil_of_le outside, List.append_nil]

theorem encode_eq (s : String) : encode s = s.toList.flatMap String.utf8EncodeChar := by
  rw [encode, String.toUTF8_eq_toByteArray, ← String.utf8Encode_toList, List.utf8Encode,
    ByteArray.toList, toList_loop]
  simp

/-- Bytes are read as a text exactly when the text is written with these bytes. -/
theorem decode_eq_ok_iff {bytes : Bytes} {s : String} :
    decode bytes = .ok s ↔ bytes = encode s := by
  rw [encode_eq, ← decodeFrom_eq_ok_iff 0, decode]
  cases decodeFrom 0 0 bytes with
  | error f => simp [Except.map]
  | ok cs =>
    rw [Except.map, Except.ok.injEq, Except.ok.injEq, ← String.toList_inj, String.toList_ofList]

theorem encode_inj {s t : String} (h : encode s = encode t) : s = t := by
  have hs := decode_eq_ok_iff.mpr (Eq.refl (encode s))
  have ht := decode_eq_ok_iff.mpr h
  rw [hs] at ht
  exact Except.ok.inj ht

theorem encode_empty : encode "" = [] :=
  (decode_eq_ok_iff.mp rfl).symm

end Scaffold.Text.Utf8

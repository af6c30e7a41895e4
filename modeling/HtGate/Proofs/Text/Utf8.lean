import HtGate.Text.Malformed
import Mathlib.Tactic.Lemma
import Mathlib.Tactic.SplitIfs
/-!
# UTF-8 and its defects

A sequence of bytes is the UTF-8 form of a text exactly if no defect is found in it, and every text is read
back from its UTF-8 form.
-/

namespace HtGate.Utf8

/-- Reading a character takes a byte at least. -/
lemma length_of_decodeChar? {bytes rest : Bytes} {c : Char}
    (h : decodeChar? bytes = some (c, rest)) : rest.length < bytes.length := by
  unfold decodeChar? at h
  split at h
  · cases h
  · -- one case for each length of a character, with the bytes that continue it
    split_ifs at h
    · simp only [Option.map_eq_some_iff, Prod.mk.injEq] at h
      obtain ⟨-, -, -, rfl⟩ := h
      exact Nat.lt_succ_self _
    all_goals split at h
    all_goals simp only [Option.bind_eq_bind, Option.bind_eq_some_iff, Option.map_eq_some_iff,
      Prod.mk.injEq, reduceCtorEq] at h
    · obtain ⟨-, -, -, -, -, rfl⟩ := h
      simp only [List.length_cons]
      omega
    · obtain ⟨-, -, -, -, -, -, -, rfl⟩ := h
      simp only [List.length_cons]
      omega
    · obtain ⟨-, -, -, -, -, -, -, -, -, rfl⟩ := h
      simp only [List.length_cons]
      omega

/-- Characters are read to the end exactly if there is no defect on the way. -/
lemma decodeWithin_isSome_iff {fuel : Nat} {bytes : Bytes} (h : bytes.length ≤ fuel)
    (position : Nat) (read : Text) :
    (decodeWithin fuel bytes read).isSome ↔ defectWithin fuel position bytes = none := by
  -- the two readings take the same characters off the front, and each takes a byte at least
  induction fuel generalizing bytes position read with
  | zero =>
    obtain rfl : bytes = [] := List.eq_nil_of_length_eq_zero (by omega)
    simp [decodeWithin, defectWithin]
  | succ fuel ih =>
    cases bytes with
    | nil => simp [decodeWithin, defectWithin]
    | cons a r =>
      rw [decodeWithin, defectWithin]
      cases hd : decodeChar? (a :: r) with
      | none => simp
      | some found =>
        obtain ⟨c, rest⟩ := found
        have hlen := length_of_decodeChar? hd
        rw [List.length_cons] at h hlen
        exact ih (by omega) _ _

/-- Bytes without a defect are the form of a text. -/
lemma defect?_eq_none_iff (bytes : Bytes) :
    defect? bytes = none ↔ ∃ t, decode bytes = some t := by
  rw [← Option.isSome_iff_exists, decode, decodeWithin_isSome_iff (Nat.le_refl _) 0, defect?]

/-- What is read comes behind what was read before. -/
lemma decodeWithin_append (fuel : Nat) (bytes : Bytes) (before read : Text) :
    decodeWithin fuel bytes (read ++ before) =
      (decodeWithin fuel bytes read).map (before.reverse ++ ·) := by
  induction fuel generalizing bytes read with
  | zero => cases bytes <;> simp [decodeWithin]
  | succ fuel ih =>
    cases bytes with
    | nil => simp [decodeWithin]
    | cons a r =>
      rw [decodeWithin, decodeWithin]
      cases decodeChar? (a :: r) with
      | none => rfl
      | some found => exact ih found.2 (found.1 :: read)

/-- It makes no difference how many characters may be read, if they are enough. -/
lemma decodeWithin_congr {fuel more : Nat} {bytes : Bytes} (h : bytes.length ≤ fuel)
    (hmore : bytes.length ≤ more) (read : Text) :
    decodeWithin fuel bytes read = decodeWithin more bytes read := by
  induction fuel generalizing bytes more read with
  | zero =>
    obtain rfl : bytes = [] := List.eq_nil_of_length_eq_zero (by omega)
    cases more <;> rfl
  | succ fuel ih =>
    cases bytes with
    | nil => cases more <;> rfl
    | cons a r =>
      rw [List.length_cons] at h hmore
      obtain ⟨more, rfl⟩ : ∃ n, more = n + 1 := ⟨more - 1, by omega⟩
      rw [decodeWithin, decodeWithin]
      cases hd : decodeChar? (a :: r) with
      | none => rfl
      | some found =>
        have hlen := length_of_decodeChar? hd
        rw [List.length_cons] at hlen
        exact ih (by omega) (by omega) _

/-- The first character of bytes is the first of their text. -/
lemma decode_of_decodeChar? {bytes rest : Bytes} {c : Char} (h : decodeChar? bytes = some (c, rest)) :
    decode bytes = (decode rest).map (c :: ·) := by
  cases bytes with
  | nil => cases h
  | cons a r =>
    have hlen := length_of_decodeChar? h
    rw [List.length_cons] at hlen
    rw [decode, List.length_cons, decodeWithin, h]
    dsimp only
    rw [← List.nil_append [c], decodeWithin_append, decode,
      decodeWithin_congr (by omega) (Nat.le_refl rest.length)]
    rfl

/-- The mark at the front of bytes is read as a character. -/
lemma decode_mark (rest : Bytes) :
    decode (0xEF :: 0xBB :: 0xBF :: rest) = (decode rest).map ('\uFEFF' :: ·) := by
  refine decode_of_decodeChar? ?_
  have hc : charFrom? 0x800 0xFEFF = some '\uFEFF' := by decide
  have hb : continuation? 0xBB = some 0x3B := by decide
  have hb' : continuation? 0xBF = some 0x3F := by decide
  rw [decodeChar?, if_neg (by decide), if_neg (by decide), if_neg (by decide), if_pos (by decide)]
  simp only [hb, hb', Option.bind_eq_bind, Option.bind_some]
  exact congrArg (Option.map (·, rest)) hc

/-- A character is had from its code point if the code point needs as many bytes as are read for it. -/
lemma charFrom?_toNat {least : Nat} {c : Char} (h : least ≤ c.toNat) :
    charFrom? least c.toNat = some c := by
  rw [charFrom?, dif_pos ⟨h, c.valid⟩]
  rfl

/-- A number below 256 is that of its byte. -/
lemma toNat_toUInt8 {n : Nat} (h : n < 256) : n.toUInt8.toNat = n := UInt8.toNat_ofNat_of_lt' h

/-- A continuation byte has the six bits that it was given. -/
lemma continuation?_mod (n : Nat) : continuation? (0x80 + n % 64).toUInt8 = some (n % 64) := by
  have hlt : n % 64 < 64 := Nat.mod_lt n (by decide)
  rw [continuation?, toNat_toUInt8 (by omega), if_pos (by simp; omega), Nat.add_sub_cancel_left]

/-- The first character of the bytes of a text is read back from them. -/
lemma decodeChar?_encodeChar (c : Char) (rest : Bytes) :
    decodeChar? (encodeChar c ++ rest) = some (c, rest) := by
  have hmax : c.toNat < 0x110000 := by
    rcases c.valid with hlow | ⟨-, hhigh⟩
    · exact Nat.lt_trans hlow (by decide)
    · exact hhigh
  -- one case for each length, in which the bits of the bytes make up the code point again
  rw [encodeChar]
  split_ifs with one two three
  · have hlead : c.toNat.toUInt8.toNat = c.toNat := toNat_toUInt8 (by omega)
    rw [List.singleton_append, decodeChar?.eq_def]
    dsimp only
    rw [hlead, if_pos one, charFrom?_toNat (Nat.zero_le _)]
    rfl
  · have hlead : (0xC0 + c.toNat / 64).toUInt8.toNat = 0xC0 + c.toNat / 64 := toNat_toUInt8 (by omega)
    have hvalue : (0xC0 + c.toNat / 64 - 0xC0) * 64 + c.toNat % 64 = c.toNat := by omega
    rw [List.cons_append, List.singleton_append, decodeChar?, hlead, if_neg (by omega),
      if_neg (by omega), if_pos (by omega)]
    simp only [continuation?_mod, Option.bind_eq_bind, Option.bind_some, hvalue,
      charFrom?_toNat (Nat.not_lt.1 one), Option.map_some]
  · have hlead : (0xE0 + c.toNat / 4096).toUInt8.toNat = 0xE0 + c.toNat / 4096 :=
      toNat_toUInt8 (by omega)
    have hvalue : ((0xE0 + c.toNat / 4096 - 0xE0) * 64 + c.toNat / 64 % 64) * 64 + c.toNat % 64 =
      c.toNat := by omega
    rw [List.cons_append, List.cons_append, List.singleton_append, decodeChar?, hlead,
      if_neg (by omega), if_neg (by omega), if_neg (by omega), if_pos (by omega)]
    simp only [continuation?_mod, Option.bind_eq_bind, Option.bind_some, hvalue,
      charFrom?_toNat (Nat.not_lt.1 two), Option.map_some]
  · have hlead : (0xF0 + c.toNat / 262144).toUInt8.toNat = 0xF0 + c.toNat / 262144 :=
      toNat_toUInt8 (by omega)
    have hvalue : (((0xF0 + c.toNat / 262144 - 0xF0) * 64 + c.toNat / 4096 % 64) * 64
      + c.toNat / 64 % 64) * 64 + c.toNat % 64 = c.toNat := by omega
    rw [List.cons_append, List.cons_append, List.cons_append, List.singleton_append, decodeChar?, hlead,
      if_neg (by omega), if_neg (by omega), if_neg (by omega), if_neg (by omega), if_pos (by omega)]
    simp only [continuation?_mod, Option.bind_eq_bind, Option.bind_some, hvalue,
      charFrom?_toNat (Nat.not_lt.1 three), Option.map_some]

/-- A text is read back from its bytes. -/
lemma decode_encode (t : Text) : decode (encode t) = some t := by
  induction t with
  | nil => rfl
  | cons c t ih =>
    have hfirst : decodeChar? (encode (c :: t)) = some (c, encode t) := decodeChar?_encodeChar c _
    rw [decode_of_decodeChar? hfirst, ih, Option.map_some]

end HtGate.Utf8

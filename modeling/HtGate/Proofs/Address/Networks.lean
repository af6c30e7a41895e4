import HtGate.Address.Network
import HtGate.Proofs.Address.Spelling
import HtGate.Proofs.Text.Casing
/-!
# Written networks

A network is written as the word for all addresses, as an address, or as an address with the number of bits
that count. What is read is the network of the addresses that agree with the written one in these bits, and
nothing else is read as a network.
-/

namespace HtGate

namespace Network

/-- What is written behind an address, with the number of bits that count: nothing where all bits do. -/
inductive Extent : Text → Nat → Prop where
  | host : Extent [] 32
  | bits {digits : Text} {n : Nat} : Ipv4.IsRun digits → digits.length ≤ Text.maxDigits →
    Nat.ofDigitChars 10 digits 0 = n → n ≤ 32 → Extent ('/' :: digits) n

/-- How networks are written: a text with an address and the number of bits of the address that count. -/
inductive Denotes : Text → Nat → Nat → Prop where
  | all {word : Text} : word.map Char.toLower = "all".toList → Denotes word 0 0
  | block {address n : Nat} {extent : Text} : address < 2 ^ 32 → Extent extent n →
    Denotes (Ipv4.format address ++ extent) address n

/-- What a network is that is written as an address with the number of bits that count. -/
structure Spans (network : Network) (address n : Nat) : Prop where
  /-- The bits that do not count are cleared. -/
  address_eq : network.address = ((address >>> (32 - n)) <<< (32 - n) : Nat)
  /-- The mask is that of the number of bits. -/
  mask_eq : (mask? n).map Int.ofNat = .ok network.mask
  /-- As many bits count as are set in the mask. -/
  prefixLength_eq : network.prefixLength = n
  /-- The addresses that belong to the network agree with the written one in the bits that count. -/
  contains_iff : ∀ ip : Nat, ip < 2 ^ 32 →
    (network.contains ip = true ↔ ∀ i < 32, 32 - n ≤ i → ip.testBit i = address.testBit i)

section Bits

variable {n : Nat}

/-- The mask of a length has so many ones and then zeros. -/
lemma maskOf_eq (hn : n ≤ 32) : maskOf n = (2 ^ n - 1) <<< (32 - n) := by
  have hsplit : 2 ^ 32 = 2 ^ n * 2 ^ (32 - n) := by
    rw [← Nat.pow_add, Nat.add_sub_cancel' hn]
  have hpos : 0 < 2 ^ (32 - n) := Nat.two_pow_pos _
  rw [maskOf, Nat.one_shiftLeft, Nat.shiftLeft_eq, Nat.sub_mul, ← hsplit]
  show 2 ^ 32 - 1 - _ = _
  omega

/-- The ones of a mask are the upper bits of 32, as many as its length says. -/
lemma testBit_maskOf (hn : n ≤ 32) (i : Nat) :
    (maskOf n).testBit i = (decide (32 - n ≤ i) && decide (i < 32)) := by
  rw [maskOf_eq hn, Nat.testBit_shiftLeft, Nat.testBit_two_pow_sub_one]
  by_cases hi : 32 - n ≤ i
  · have : i - (32 - n) < n ↔ i < 32 := by omega
    simp [hi, this]
  · simp [hi]

/-- Two addresses are the same under a mask if they agree in the bits of the mask. -/
lemma and_maskOf_eq_iff (hn : n ≤ 32) {a b : Nat} :
    a &&& maskOf n = b &&& maskOf n ↔ ∀ i < 32, 32 - n ≤ i → a.testBit i = b.testBit i := by
  constructor
  · intro h i hi hlow
    have hbit := congrArg (Nat.testBit · i) h
    simpa [testBit_maskOf hn, hi, hlow] using hbit
  · intro h
    refine Nat.eq_of_testBit_eq fun i => ?_
    rw [Nat.testBit_and, Nat.testBit_and, testBit_maskOf hn]
    by_cases hi : 32 - n ≤ i ∧ i < 32
    · rw [h i hi.2 hi.1]
    · have hno : (decide (32 - n ≤ i) && decide (i < 32)) = false := by
        simpa using fun hlow => Nat.not_lt.1 fun hlt => hi ⟨hlow, hlt⟩
      rw [hno, Bool.and_false, Bool.and_false]

/-- A mask clears the bits that do not count. -/
lemma and_maskOf (hn : n ≤ 32) {a : Nat} (ha : a < 2 ^ 32) :
    a &&& maskOf n = (a >>> (32 - n)) <<< (32 - n) := by
  refine Nat.eq_of_testBit_eq fun i => ?_
  rw [Nat.testBit_and, testBit_maskOf hn, Nat.testBit_shiftLeft, Nat.testBit_shiftRight]
  by_cases hi : 32 - n ≤ i
  · rw [Nat.add_sub_cancel' hi]
    by_cases hlt : i < 32
    · simp [hi, hlt]
    · have hlarge : a.testBit i = false :=
        Nat.testBit_lt_two_pow (ha.trans_le (Nat.pow_le_pow_right (by decide) (Nat.not_lt.1 hlt)))
      simp [hlarge]
  · simp [hi]

/-- A zero at the end adds nothing to the number of ones. -/
lemma bitCount_double (m : Nat) : bitCount (2 * m) = bitCount m := by
  rw [bitCount]
  split
  · rename_i hm
    obtain rfl : m = 0 := by omega
    rw [bitCount, dif_pos rfl]
  · rw [Nat.mul_mod_right, Nat.zero_add, Nat.mul_div_cancel_left m (by decide)]

/-- A one at the end adds one to the number of ones. -/
lemma bitCount_double_add_one (m : Nat) : bitCount (2 * m + 1) = bitCount m + 1 := by
  rw [bitCount, dif_neg (by omega), show (2 * m + 1) % 2 = 1 by omega,
    show (2 * m + 1) / 2 = m by omega, Nat.add_comm]

/-- Zeros at the end add nothing to the number of ones. -/
lemma bitCount_shiftLeft (m k : Nat) : bitCount (m <<< k) = bitCount m := by
  induction k with
  | zero => rfl
  | succ k ih => rw [Nat.shiftLeft_succ, bitCount_double, ih]

/-- A power of two less one has as many ones as its exponent says. -/
lemma bitCount_two_pow_sub_one (n : Nat) : bitCount (2 ^ n - 1) = n := by
  induction n with
  | zero => rw [Nat.pow_zero, Nat.sub_self, bitCount, dif_pos rfl]
  | succ n ih =>
    have hodd : 2 ^ (n + 1) - 1 = 2 * (2 ^ n - 1) + 1 := by
      have := Nat.two_pow_pos n
      omega
    rw [hodd, bitCount_double_add_one, ih]

/-- There is a mask for each length up to 32. -/
lemma mask?_eq (hn : n ≤ 32) : mask? n = .ok (maskOf n) := by
  rw [mask?]
  split
  · obtain rfl : n = 0 := by omega
    rfl
  · rw [if_neg (by omega), Int.toNat_natCast]

/-- An address belongs to a network if it is the address of the network under the mask. -/
lemma contains_ofPrefix (address n ip : Nat) :
    (ofPrefix address n).contains ip = true ↔ ip &&& maskOf n = address &&& maskOf n := by
  show (((ip &&& maskOf n : Nat) : Int) == (address &&& maskOf n &&& maskOf n : Nat)) = true ↔ _
  rw [beq_iff_eq, Int.ofNat_inj, Nat.and_assoc, Nat.and_self]

/-- The network of an address and a length spans the addresses that agree with it in so many bits. -/
lemma spans_ofPrefix (hn : n ≤ 32) {address : Nat} (ha : address < 2 ^ 32) :
    (ofPrefix address n).Spans address n where
  address_eq := congrArg Int.ofNat (and_maskOf hn ha)
  mask_eq := by
    rw [mask?_eq hn]
    rfl
  prefixLength_eq := by
    show bitCount (maskOf n) = n
    rw [maskOf_eq hn, bitCount_shiftLeft, bitCount_two_pow_sub_one]
  contains_iff ip _ := (contains_ofPrefix address n ip).trans (and_maskOf_eq_iff hn)

end Bits

section Grammar

variable {s t word extent rest : Text} {address n : Nat} {network : Network}

/-- An extent is of at most 32 bits. -/
lemma Extent.le (h : Extent extent n) : n ≤ 32 := by
  cases h with
  | host => exact le_refl 32
  | bits _ _ _ hn => exact hn

/-- There is nothing to trim at the end of an extent. -/
lemma Extent.trimEnd (h : Extent extent n) : Text.trimEnd extent = extent := by
  apply Text.trimEnd_eq_self_iff.2
  cases h with
  | host => exact .inl rfl
  | bits hrun => exact .inr ((hrun.endsSolid).cons '/')

/-- An address with nothing but whitespace behind it is a network of one address. -/
lemma withSuffix_of_whitespace (h : ∀ c ∈ rest, Text.isWhitespace c = true) :
    withSuffix t address rest = .ok (.ok (ofPrefix address 32)) := by
  rw [withSuffix.eq_def]
  split
  · exact absurd (h '/' (.head _)) (by decide)
  · rw [Text.trim_eq_nil_iff.2 h]
    rfl

/-- An address with a slash and a number of bits behind it is the network of that length. -/
lemma withSuffix_of_bits {digits : Text} (hrun : Ipv4.IsRun digits)
    (hlength : digits.length ≤ Text.maxDigits) (hvalue : Nat.ofDigitChars 10 digits 0 = n) (hn : n ≤ 32)
    (h : ∀ c ∈ rest, Text.isWhitespace c = true) :
    withSuffix t address ('/' :: (digits ++ rest)) = .ok (.ok (ofPrefix address n)) := by
  have hdigits : Ipv4.digitRun (digits ++ rest) = (digits, rest) :=
    Ipv4.digitRun_eq_iff.2 ⟨rfl, hrun.digits, Ipv4.noDigit_of_whitespace h⟩
  have hread : Fault.readNumeral digits = .ok n :=
    Fault.readNumeral_eq_ok_iff.2 ((Text.toNat_eq_ok_iff hrun.ne_nil hrun.digits).2 ⟨hlength, hvalue⟩)
  rw [withSuffix.eq_def]
  simp only [hdigits, hread, Text.trim_eq_nil_iff.2 h]
  rw [if_neg (by simpa using hrun.ne_nil), if_neg (by omega)]
  rfl

/-- What is read behind a slash is the number of bits, with nothing but whitespace after it. -/
lemma exists_bits_of_withSuffix (h : withSuffix t address ('/' :: rest) = .ok (.ok network)) :
    ∃ digits q n, rest = digits ++ q ∧ Extent ('/' :: digits) n ∧
      (∀ c ∈ q, Text.isWhitespace c = true) ∧ network = ofPrefix address n := by
  obtain ⟨digits, q, hsplit⟩ : ∃ digits q, Ipv4.digitRun rest = (digits, q) := ⟨_, _, rfl⟩
  obtain ⟨hrest, hdigits, -⟩ := Ipv4.digitRun_eq_iff.1 hsplit
  rw [withSuffix, hsplit] at h
  dsimp only at h
  split at h
  · cases h
  · rename_i hne
    have hrun : Ipv4.IsRun digits := ⟨by simpa using hne, hdigits⟩
    split at h
    · cases h
    · rename_i n hread
      rw [Fault.readNumeral_eq_ok_iff, Text.toNat_eq_ok_iff hrun.ne_nil hrun.digits] at hread
      split at h
      · cases h
      · rename_i hn
        -- after the digits there may be whitespace, and nothing else
        split at h
        · rename_i htrim
          cases h
          exact ⟨digits, q, n, hrest, .bits hrun hread.1 hread.2 (Nat.not_lt.1 hn),
            Text.trim_eq_nil_iff.1 (List.isEmpty_iff.1 htrim), rfl⟩
        · cases h

/-- What is read behind an address is an extent with whitespace behind it. -/
lemma withSuffix_eq_ok_iff :
    withSuffix t address rest = .ok (.ok network) ↔
      ∃ n, Extent (Text.trimEnd rest) n ∧ network = ofPrefix address n := by
  constructor
  · intro h
    by_cases hslash : ∃ after, rest = '/' :: after
    · obtain ⟨after, rfl⟩ := hslash
      obtain ⟨digits, q, n, rfl, hextent, hq, rfl⟩ := exists_bits_of_withSuffix h
      refine ⟨n, ?_, rfl⟩
      rwa [← List.cons_append, Text.trimEnd_append_right hq, hextent.trimEnd]
    · -- without a slash there is nothing but whitespace, and the network is one host
      rw [withSuffix.eq_def] at h
      split at h
      · exact absurd ⟨_, rfl⟩ hslash
      · split at h
        · rename_i htrim
          cases h
          have hnil : Text.trimEnd rest = [] :=
            List.rdropWhile_eq_nil_iff.2 (Text.trim_eq_nil_iff.1 (List.isEmpty_iff.1 htrim))
          exact ⟨32, hnil ▸ .host, rfl⟩
        · cases h
  · rintro ⟨n, hextent, rfl⟩
    obtain ⟨q, hrest, hq⟩ := Text.exists_trimEnd_append rest
    generalize Text.trimEnd rest = extent at hextent hrest
    subst hrest
    cases hextent with
    | host => exact withSuffix_of_whitespace hq
    | bits hrun hlength hvalue hn => exact withSuffix_of_bits hrun hlength hvalue hn hq

/-- The word for all addresses stands in a text alone, but for whitespace behind it. -/
lemma isAll_iff : isAll s = true ↔ (Text.trimEnd s).map Char.toLower = "all".toList := by
  have hletters : ∀ d ∈ "all".toList, Text.OnlyOfAscii d := by simp [Text.OnlyOfAscii]
  rw [isAll, Bool.and_eq_true, beq_iff_eq, List.isEmpty_iff, Text.trim_eq_nil_iff,
    ← Text.lower_eq_iff hletters]
  constructor
  · rintro ⟨hword, hwhite⟩
    have hsolid : Text.EndsSolid (s.take 3) := by
      refine Text.endsSolid_of_all ?_ fun c hc =>
        (Text.not_isCaseless_of_lower hword (by decide) c hc).1
      intro hnil
      rw [hnil] at hword
      cases hword
    rwa [← List.take_append_drop 3 s, Text.trimEnd_append_right hwhite,
      Text.trimEnd_eq_self_iff.2 (.inr hsolid)]
  · intro hword
    obtain ⟨q, hs, hq⟩ := Text.exists_trimEnd_append s
    have hlength : (Text.trimEnd s).length = 3 := by
      rw [Text.lower_eq_iff hletters] at hword
      simpa using congrArg List.length hword
    rw [hs, List.take_left' hlength, List.drop_left' hlength]
    exact ⟨hword, hq⟩

/-- A written address begins with a digit. -/
lemma head?_format (address : Nat) : ∃ c ∈ (Ipv4.format address).head?, c.isDigit = true := by
  obtain ⟨c, digits, hdigits⟩ := List.exists_cons_of_ne_nil
    (Text.ofNat_ne_nil (address / 2 ^ 24 % 256))
  rw [Ipv4.format_natCast, hdigits]
  refine ⟨c, rfl, Text.isDigit_of_mem_ofNat (n := address / 2 ^ 24 % 256) ?_⟩
  rw [hdigits]
  exact .head _

/-- A text that begins with an address is not the word for all addresses. -/
lemma map_toLower_ne_all (address : Nat) (t : Text) :
    (Ipv4.format address ++ t).map Char.toLower ≠ "all".toList := by
  obtain ⟨c, hhead, hdigit⟩ := head?_format address
  intro hword
  have hfirst : (Ipv4.format address ++ t).head? = some c := by
    rw [List.head?_append, Option.mem_def.1 hhead]
    rfl
  have hlower : c.toLower = 'a' := by
    have := congrArg List.head? hword
    rw [List.head?_map, hfirst] at this
    exact Option.some.inj this
  -- the first character is a digit, and no digit is an `a` in lower case
  obtain ⟨-, hhigh⟩ := Text.toNat_of_isDigit hdigit
  unfold Char.toLower at hlower
  split at hlower
  · rename_i hupper
    have hlow : 65 ≤ c.toNat := UInt32.le_iff_toNat_le.1 hupper.1
    omega
  · rw [hlower] at hdigit
    cases hdigit

/-- A text without whitespace in front is written as an address and an extent, if it begins with an address
behind which an extent stands. -/
lemma denotes_block_iff {a n : Nat} :
    (∃ rest, Ipv4.readQuad s = .ok (.ok (a, rest)) ∧ Extent (Text.trimEnd rest) n) ↔
      ∃ extent, a < 2 ^ 32 ∧ Extent extent n ∧ Text.trimEnd s = Ipv4.format a ++ extent := by
  constructor
  · rintro ⟨rest, hread, hextent⟩
    obtain ⟨ha, -, rfl⟩ := Ipv4.readQuad_eq_ok_iff.1 hread
    exact ⟨_, ha, hextent, (Ipv4.endsSolid_format a).trimEnd_append rest⟩
  · rintro ⟨extent, ha, hextent, htrim⟩
    obtain ⟨q, hs, hq⟩ := Text.exists_trimEnd_append s
    rw [htrim, List.append_assoc] at hs
    refine ⟨extent ++ q, Ipv4.readQuad_eq_ok_iff.2 ⟨ha, ?_, hs⟩, ?_⟩
    · cases hextent with
      | host => exact Ipv4.noDigit_of_whitespace hq
      | bits => exact Ipv4.noDigit_cons rfl _
    · rwa [Text.trimEnd_append_right hq, hextent.trimEnd]

/-- A network is denoted by the word for all addresses or by an address with an extent. -/
lemma denotes_iff {a n : Nat} :
    Denotes word a n ↔ word.map Char.toLower = "all".toList ∧ a = 0 ∧ n = 0 ∨
      ∃ extent, a < 2 ^ 32 ∧ Extent extent n ∧ word = Ipv4.format a ++ extent := by
  constructor
  · intro h
    cases h with
    | all hword => exact .inl ⟨hword, rfl, rfl⟩
    | block ha hextent => exact .inr ⟨_, ha, hextent, rfl⟩
  · rintro (⟨hword, rfl, rfl⟩ | ⟨extent, ha, hextent, rfl⟩)
    · exact .all hword
    · exact .block ha hextent

/-- The word for all addresses is the network of all of them. -/
lemma parse_of_isAll (h : isAll (Text.trimStart t) = true) : parse (some t) = .ok (.ok ⟨0, 0⟩) := by
  have hne : Text.trimStart t ≠ [] := by
    intro hnil
    rw [hnil] at h
    cases h
  rw [parse, if_neg (by simpa using hne), if_pos h]

/-- Any other text is a network exactly if it begins with an address that has an extent behind it. -/
lemma parse_of_not_isAll (h : isAll (Text.trimStart t) = false) :
    parse (some t) = .ok (.ok network) ↔ ∃ a rest,
      Ipv4.readQuad (Text.trimStart t) = .ok (.ok (a, rest)) ∧
        withSuffix t a rest = .ok (.ok network) := by
  rw [parse, h]
  by_cases hnil : Text.trimStart t = []
  · have hread : Ipv4.readQuad [] = .ok (.error (.notQuad [])) := rfl
    simp [hnil, hread]
  · rw [if_neg (by simpa using hnil)]
    cases hread : Ipv4.readQuad (Text.trimStart t) with
    | error fault => simp
    | ok reading =>
      cases reading with
      | error reason => simp
      | ok found =>
        obtain ⟨a, rest⟩ := found
        simp

/-- A text is read as a network exactly if it is written as one, whitespace around it aside. -/
lemma parse_some_eq_ok_iff :
    parse (some t) = .ok (.ok network) ↔
      ∃ a n, Denotes (Text.trim t) a n ∧ network = ofPrefix a n := by
  show _ ↔ ∃ a n, Denotes (Text.trimEnd (Text.trimStart t)) a n ∧ _
  simp only [denotes_iff]
  cases hall : isAll (Text.trimStart t) with
  | true =>
    rw [parse_of_isAll hall]
    have hword := isAll_iff.1 hall
    constructor
    · rintro ⟨⟩
      exact ⟨0, 0, .inl ⟨hword, rfl, rfl⟩, rfl⟩
    · rintro ⟨a, n, ⟨-, rfl, rfl⟩ | ⟨extent, -, -, htrim⟩, rfl⟩
      · rfl
      · -- no block is written like the word for all addresses
        rw [htrim] at hword
        exact absurd hword (map_toLower_ne_all a extent)
  | false =>
    have hword : (Text.trimEnd (Text.trimStart t)).map Char.toLower ≠ "all".toList := by
      intro hword
      rw [isAll_iff.2 hword] at hall
      cases hall
    rw [parse_of_not_isAll hall]
    constructor
    · rintro ⟨a, rest, hread, hsuffix⟩
      obtain ⟨n, hextent, rfl⟩ := withSuffix_eq_ok_iff.1 hsuffix
      exact ⟨a, n, .inr (denotes_block_iff.1 ⟨rest, hread, hextent⟩), rfl⟩
    · rintro ⟨a, n, ⟨h, -⟩ | hblock, rfl⟩
      · exact absurd h hword
      · obtain ⟨rest, hread, hextent⟩ := denotes_block_iff.2 hblock
        exact ⟨a, rest, hread, withSuffix_eq_ok_iff.2 ⟨n, hextent, rfl⟩⟩

/-- A denoted network has an address of 32 bits, of which at most 32 count. -/
lemma Denotes.lt (h : Denotes word address n) : address < 2 ^ 32 ∧ n ≤ 32 := by
  cases h with
  | all => exact ⟨by decide, by decide⟩
  | block ha hextent => exact ⟨ha, hextent.le⟩

end Grammar

section Faults

variable {t u rest q : Text} {a : Nat} {fault : Fault}

/-- The number of bits is the one numeral behind an address. -/
lemma withSuffix_eq_error_iff :
    withSuffix t a rest = .error fault ↔ ∃ after, rest = '/' :: after ∧
      (Ipv4.digitRun after).1 ≠ [] ∧ Fault.readNumeral (Ipv4.digitRun after).1 = .error fault := by
  constructor
  · intro h
    rw [withSuffix.eq_def] at h
    split at h
    · rename_i after
      dsimp only at h
      split at h
      · cases h
      · rename_i hne
        split at h
        · rename_i hread
          cases h
          exact ⟨after, rfl, by simpa using hne, hread⟩
        · split_ifs at h
    · split_ifs at h
  · rintro ⟨after, rfl, hne, hread⟩
    rw [withSuffix]
    simp only [hread]
    rw [if_neg (by simpa using hne)]

/-- Whitespace behind what follows an address does not change whether the number of bits can be read. -/
lemma withSuffix_append_eq_error_iff (h : ∀ c ∈ q, Text.isWhitespace c = true) :
    withSuffix t a (rest ++ q) = .error fault ↔ withSuffix u a rest = .error fault := by
  rw [withSuffix_eq_error_iff, withSuffix_eq_error_iff]
  cases rest with
  | nil =>
    constructor
    · rintro ⟨after, rfl, -⟩
      exact absurd (h '/' (.head _)) (by decide)
    · rintro ⟨after, hnil, -⟩
      cases hnil
  | cons c rest =>
    simp only [List.cons_append, List.cons.injEq, exists_eq_left', and_assoc, exists_and_left,
      Ipv4.digitRun_append (Ipv4.noDigit_of_whitespace h)]

/-- A network is not read to the end exactly if its address or what stands behind it is not. -/
lemma parse_eq_error_iff :
    parse (some t) = .error fault ↔ isAll (Text.trimStart t) = false ∧
      (Ipv4.readQuad (Text.trimStart t) = .error fault ∨ ∃ a rest,
        Ipv4.readQuad (Text.trimStart t) = .ok (.ok (a, rest)) ∧ withSuffix t a rest = .error fault) := by
  cases hall : isAll (Text.trimStart t) with
  | true => simp [parse_of_isAll hall]
  | false =>
    rw [parse, hall]
    by_cases hnil : Text.trimStart t = []
    · have hread : Ipv4.readQuad [] = .ok (.error (.notQuad [])) := rfl
      simp [hnil, hread]
    · rw [if_neg (by simpa using hnil)]
      cases hread : Ipv4.readQuad (Text.trimStart t) with
      | error fault => simp
      | ok reading =>
        cases reading with
        | error reason => simp
        | ok found =>
          obtain ⟨a, rest⟩ := found
          simp

/-- Whether a text cannot be read does not depend on the whitespace around it. -/
lemma parse_trim_eq_error_iff : parse (some (Text.trim t)) = .error fault ↔ parse (some t) = .error fault := by
  obtain ⟨q, hq, hwhite⟩ := Text.exists_trimEnd_append (Text.trimStart t)
  change Text.trimStart t = Text.trim t ++ q at hq
  have hstart : Text.trimStart (Text.trim t) = Text.trim t :=
    Text.trimStart_eq_self_iff.2 ((Text.trim_solid t).imp_right And.left)
  have hall : isAll (Text.trim t ++ q) = isAll (Text.trim t) := by
    rw [Bool.eq_iff_iff, isAll_iff, isAll_iff, Text.trimEnd_append_right hwhite]
  have hsuffix : (∃ a rest, Ipv4.readQuad (Text.trim t) = .ok (.ok (a, rest)) ∧
      withSuffix (Text.trim t) a rest = .error fault) ↔
      ∃ a rest, Ipv4.readQuad (Text.trim t ++ q) = .ok (.ok (a, rest)) ∧
        withSuffix t a rest = .error fault := by
    simp only [Ipv4.readQuad_append_eq_ok_iff hwhite]
    constructor
    · rintro ⟨a, rest, hread, hfault⟩
      exact ⟨a, rest ++ q, ⟨rest, hread, rfl⟩, (withSuffix_append_eq_error_iff hwhite).2 hfault⟩
    · rintro ⟨a, -, ⟨rest, hread, rfl⟩, hfault⟩
      exact ⟨a, rest, hread, (withSuffix_append_eq_error_iff hwhite).1 hfault⟩
  rw [parse_eq_error_iff, parse_eq_error_iff, hstart, hq, hall, hsuffix,
    Ipv4.readQuad_append_eq_error_iff hwhite]

end Faults

/-- A text is read as a network exactly if it is written as one, whitespace around it aside. What is read has
the bits that count of the address that is written, and the addresses that agree with it in them belong to it. -/
theorem parse_iff_denotes (t : Text) :
    ((∃ network, parse (some t) = .ok (.ok network)) ↔ ∃ address n, Denotes (Text.trim t) address n) ∧
    ∀ address n, Denotes (Text.trim t) address n →
      ∃ network, parse (some t) = .ok (.ok network) ∧ network.Spans address n := by
  constructor
  · constructor
    · rintro ⟨network, h⟩
      obtain ⟨address, n, hdenotes, -⟩ := parse_some_eq_ok_iff.1 h
      exact ⟨address, n, hdenotes⟩
    · rintro ⟨address, n, hdenotes⟩
      exact ⟨ofPrefix address n, parse_some_eq_ok_iff.2 ⟨address, n, hdenotes, rfl⟩⟩
  · intro address n hdenotes
    obtain ⟨ha, hn⟩ := hdenotes.lt
    exact ⟨ofPrefix address n, parse_some_eq_ok_iff.2 ⟨address, n, hdenotes, rfl⟩,
      spans_ofPrefix hn ha⟩

/-- The number of bits may have zeros in front, and the bits of the address that do not count are cleared. -/
theorem parse_zeroPadded_spans :
    Denotes (Text.trim "\t10.1.2.3/008\u00a0".toList) 167838211 8 ∧
    ∃ network, parse (some "\t10.1.2.3/008\u00a0".toList) = .ok (.ok network) ∧
      network.Spans 167838211 8 ∧ network.address = 167772160 := by
  have hrun : Ipv4.IsRun "008".toList := ⟨by simp, by simp⟩
  have hextent : Extent "/008".toList 8 := .bits hrun (by decide) rfl (by decide)
  have haddress : 167838211 < 2 ^ 32 := by decide
  have hdenotes : Denotes (Text.trim "\t10.1.2.3/008\u00a0".toList) 167838211 8 :=
    Denotes.block haddress hextent
  obtain ⟨network, hread, hspans⟩ := (parse_iff_denotes _).2 167838211 8 hdenotes
  exact ⟨hdenotes, network, hread, hspans, hspans.address_eq⟩

end Network

end HtGate

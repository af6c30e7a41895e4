import HtGate.Address.Ipv4
import HtGate.Proofs.Text.Cutting
import HtGate.Proofs.Text.Numeral
import Mathlib.Algebra.Group.Int.Defs
/-!
# The spelling of addresses

An address is read from a text exactly if the text begins with its written form and no digit follows. So an
address has one spelling, whitespace around it aside: to read an address and to write it are inverse.
-/

namespace HtGate

/-- A numeral is read as its number. -/
lemma Fault.readNumeral_eq_ok_iff {t : Text} {n : Nat} :
    readNumeral t = .ok n ↔ Text.toNat t = .ok n := by
  rw [readNumeral]
  cases Text.toNat t with
  | ok m => simp
  | error reason => cases reason <;> simp

namespace Ipv4

/-- Whether a text is a run of ASCII digits. -/
structure IsRun (t : Text) : Prop where
  ne_nil : t ≠ []
  digits : ∀ c ∈ t, c.isDigit = true

/-- The digits of a number are a run. -/
lemma isRun_ofNat (n : Nat) : IsRun (Text.ofNat n) :=
  ⟨Text.ofNat_ne_nil n, fun _ hc => Text.isDigit_of_mem_ofNat hc⟩

/-- A run of digits does not end in whitespace. -/
lemma IsRun.endsSolid {t : Text} (h : IsRun t) : Text.EndsSolid t :=
  Text.endsSolid_of_all h.ne_nil fun c hc => (Text.not_isWhitespace_of_isDigit (h.digits c hc)).1

/-- Whether a text does not begin with an ASCII digit. -/
def NoDigit (t : Text) : Prop := ∀ c ∈ t.head?, c.isDigit = false

/-- The empty text begins with no digit. -/
lemma noDigit_nil : NoDigit [] := by
  rintro c ⟨⟩

/-- A text begins with no digit if its first character is none. -/
lemma noDigit_cons {c : Char} (h : c.isDigit = false) (t : Text) : NoDigit (c :: t) := by
  rintro d ⟨⟩
  exact h

/-- A text is the digits at its start and what follows them, which begins with none. -/
lemma digitRun_spec (t : Text) :
    t = (digitRun t).1 ++ (digitRun t).2 ∧ (∀ c ∈ (digitRun t).1, c.isDigit = true) ∧
      NoDigit (digitRun t).2 := by
  exact ⟨List.takeWhile_append_dropWhile.symm, fun c hc => List.mem_takeWhile_imp hc,
    Text.not_of_head?_dropWhile⟩

/-- Whitespace is no digit. -/
lemma noDigit_of_whitespace {t : Text} (h : ∀ c ∈ t, Text.isWhitespace c = true) : NoDigit t := by
  intro c hc
  by_contra hdigit
  rw [Bool.not_eq_false] at hdigit
  have hsolid := (Text.not_isWhitespace_of_isDigit hdigit).1
  rw [h c (List.mem_of_mem_head? hc)] at hsolid
  cases hsolid

/-- The run of digits at the start of a text ends where no digit follows. -/
lemma digitRun_eq_iff {t digits rest : Text} :
    digitRun t = (digits, rest) ↔
      t = digits ++ rest ∧ (∀ c ∈ digits, c.isDigit = true) ∧ NoDigit rest := by
  constructor
  · intro h
    have hspec := digitRun_spec t
    rwa [h] at hspec
  · rintro ⟨rfl, hdigits, hrest⟩
    obtain ⟨htake, hdrop⟩ := Text.span_append hdigits hrest
    exact Prod.ext htake hdrop

/-- What does not begin with a digit does not belong to the digits before it. -/
lemma digitRun_append {q : Text} (h : NoDigit q) (t : Text) :
    digitRun (t ++ q) = ((digitRun t).1, (digitRun t).2 ++ q) := by
  obtain ⟨ht, hdigits, hrest⟩ := digitRun_spec t
  refine digitRun_eq_iff.2 ⟨?_, hdigits, ?_⟩
  · rw [← List.append_assoc, ← ht]
  · cases hr : (digitRun t).2 with
    | nil => exact h
    | cons c r =>
      rw [hr] at hrest
      exact hrest

/-- A run of digits that a point ends, and what follows the point. -/
def pointed? (t : Text) : Option (Text × Text) :=
  if (digitRun t).1.isEmpty then none else
  match (digitRun t).2 with
  | '.' :: rest => some ((digitRun t).1, rest)
  | _ => none

/-- A run of digits that a point ends is found exactly where a text begins with one. -/
lemma pointed?_eq_some_iff {t digits rest : Text} :
    pointed? t = some (digits, rest) ↔ IsRun digits ∧ t = digits ++ '.' :: rest := by
  constructor
  · intro h
    obtain ⟨ht, hdigits, -⟩ := digitRun_spec t
    rw [pointed?] at h
    split at h
    · cases h
    · rename_i hne
      split at h
      · rename_i hrest
        cases h
        rw [hrest] at ht
        exact ⟨⟨by simpa using hne, hdigits⟩, ht⟩
      · cases h
  · rintro ⟨⟨hne, hdigits⟩, rfl⟩
    have hrun : digitRun (digits ++ '.' :: rest) = (digits, '.' :: rest) :=
      digitRun_eq_iff.2 ⟨rfl, hdigits, noDigit_cons rfl _⟩
    simp [pointed?, hrun, hne]

/-- To go on behind a run and its point is to look at the run and at what follows it. -/
lemma bind_pointed? {α : Type} (t : Text) (f : Text × Text → Option α) :
    (pointed? t).bind f =
      if (digitRun t).1.isEmpty then none else
      match (digitRun t).2 with
      | '.' :: rest => f ((digitRun t).1, rest)
      | _ => none := by
  rw [pointed?]
  split
  · rfl
  · split <;> rfl

/-- Four runs of digits are read one after another, the first three with a point behind them. -/
lemma quad?_eq_bind (t : Text) :
    quad? t = (pointed? t).bind fun a => (pointed? a.2).bind fun b => (pointed? b.2).bind fun c =>
      if (digitRun c.2).1.isEmpty then none
      else some ([a.1, b.1, c.1, (digitRun c.2).1], (digitRun c.2).2) := by
  simp only [bind_pointed?]
  rfl

/-- Whitespace at the end does not belong to a run and its point. -/
lemma pointed?_append {q : Text} (h : ∀ c ∈ q, Text.isWhitespace c = true) (t : Text) :
    pointed? (t ++ q) = (pointed? t).map fun found => (found.1, found.2 ++ q) := by
  rw [pointed?, pointed?, digitRun_append (noDigit_of_whitespace h)]
  cases (digitRun t).1.isEmpty with
  | true => rfl
  | false =>
    cases (digitRun t).2 with
    | nil =>
      cases q with
      | nil => rfl
      | cons c q =>
        have hc : c ≠ '.' := by
          rintro rfl
          exact absurd (h '.' (.head _)) (by decide)
        simp [hc]
    | cons c r => by_cases hc : c = '.' <;> simp [hc]

/-- Whitespace behind a text does not change the runs of digits at its start. -/
lemma quad?_append {q : Text} (h : ∀ c ∈ q, Text.isWhitespace c = true) (t : Text) :
    quad? (t ++ q) = (quad? t).map fun found => (found.1, found.2 ++ q) := by
  rw [quad?_eq_bind, quad?_eq_bind, pointed?_append h]
  cases pointed? t with
  | none => rfl
  | some a =>
    rw [Option.map_some, Option.bind_some, Option.bind_some, pointed?_append h]
    cases pointed? a.2 with
    | none => rfl
    | some b =>
      rw [Option.map_some, Option.bind_some, Option.bind_some, pointed?_append h]
      cases pointed? b.2 with
      | none => rfl
      | some c =>
        rw [Option.map_some, Option.bind_some, Option.bind_some,
          digitRun_append (noDigit_of_whitespace h)]
        split <;> rfl

/-- Four runs of digits with points between them are found at the start of a text. -/
lemma quad?_eq_some_iff {t rest : Text} {octets : List Text} :
    quad? t = some (octets, rest) ↔
      ∃ a b c d, octets = [a, b, c, d] ∧ (∀ o ∈ octets, IsRun o) ∧ NoDigit rest ∧
        t = a ++ '.' :: (b ++ '.' :: (c ++ '.' :: (d ++ rest))) := by
  rw [quad?_eq_bind]
  constructor
  · intro h
    simp only [Option.bind_eq_some_iff, Prod.exists] at h
    obtain ⟨a, ta, ha, b, tb, hb, c, tc, hc, h⟩ := h
    obtain ⟨hruna, rfl⟩ := pointed?_eq_some_iff.1 ha
    obtain ⟨hrunb, rfl⟩ := pointed?_eq_some_iff.1 hb
    obtain ⟨hrunc, rfl⟩ := pointed?_eq_some_iff.1 hc
    -- no point is behind the last octet: it is all the digits that are left
    obtain ⟨ht, hdigits, hrest⟩ := digitRun_spec tc
    split at h
    · cases h
    · rename_i hne
      cases h
      have hrund : IsRun (digitRun tc).1 := ⟨by simpa using hne, hdigits⟩
      exact ⟨a, b, c, _, rfl, by simp [hruna, hrunb, hrunc, hrund], hrest, by rw [← ht]⟩
  · rintro ⟨a, b, c, d, rfl, hruns, hrest, rfl⟩
    have hd : IsRun d := hruns d (by simp)
    have hrun : digitRun (d ++ rest) = (d, rest) := digitRun_eq_iff.2 ⟨rfl, hd.digits, hrest⟩
    rw [pointed?_eq_some_iff.2 ⟨hruns a (by simp), rfl⟩, Option.bind_some]
    dsimp only
    rw [pointed?_eq_some_iff.2 ⟨hruns b (by simp), rfl⟩, Option.bind_some]
    dsimp only
    rw [pointed?_eq_some_iff.2 ⟨hruns c (by simp), rfl⟩, Option.bind_some, hrun]
    simp [hd.ne_nil]

/-- A number below 256 is written in no more digits than a numeral may have. -/
lemma lt_of_octet {n : Nat} (h : n < 256) : n < 10 ^ Text.maxDigits :=
  lt_of_lt_of_le h ((by decide : 256 ≤ 10 ^ 3).trans (Nat.pow_le_pow_right (by decide) (by decide)))

/-- An octet is read from its written form alone. -/
lemma octet_eq_ok_iff {digits : Text} (h : IsRun digits) {n : Nat} :
    octet digits = .ok (.ok n) ↔ n < 256 ∧ digits = Text.ofNat n := by
  have hzero : (1 < digits.length && digits.head? == some '0') = true ↔
      Text.HasLeadingZero digits := by
    simp [Text.HasLeadingZero]
  -- a run without a leading zero is the written form of its value
  rw [octet]
  constructor
  · intro hread
    split at hread
    · cases hread
    · rename_i hleading
      split at hread
      · cases hread
      · rename_i m hm
        split at hread
        · cases hread
        · cases hread
          rw [Fault.readNumeral_eq_ok_iff, Text.toNat_eq_ok_iff h.ne_nil h.digits] at hm
          rw [hzero] at hleading
          exact ⟨by omega, Text.eq_ofNat_iff.2 ⟨h.ne_nil, h.digits, hleading, hm.2⟩⟩
  · rintro ⟨hlt, rfl⟩
    have hread : Fault.readNumeral (Text.ofNat n) = .ok n :=
      Fault.readNumeral_eq_ok_iff.2 (Text.toNat_ofNat (lt_of_octet hlt))
    rw [if_neg (by rw [hzero]; exact Text.not_hasLeadingZero_ofNat n), hread]
    dsimp only
    rw [if_neg (by omega)]

/-- Octets are gathered into an address exactly if the first one is an octet and the others are gathered
behind it. -/
lemma gather_cons_eq_ok_iff {digits : Text} {octets : List Text} {address n : Nat} :
    gather address (digits :: octets) = .ok (.ok n) ↔
      ∃ m, octet digits = .ok (.ok m) ∧ gather (address * 256 + m) octets = .ok (.ok n) := by
  rw [gather]
  split <;> simp_all

/-- Octets form a number if each of them is read. -/
lemma gather_eq_ok_iff {octets : List Text} (h : ∀ o ∈ octets, IsRun o) {address n : Nat} :
    gather address octets = .ok (.ok n) ↔
      ∃ ns : List Nat, octets = ns.map Text.ofNat ∧ (∀ m ∈ ns, m < 256) ∧
        ns.foldl (fun a m => a * 256 + m) address = n := by
  -- over the octets, for any address read so far
  induction octets generalizing address with
  | nil => simp [gather]
  | cons digits octets ih =>
    obtain ⟨hdigits, hoctets⟩ := List.forall_mem_cons.1 h
    rw [gather_cons_eq_ok_iff]
    constructor
    · rintro ⟨m, hm, hn⟩
      obtain ⟨hlt, rfl⟩ := (octet_eq_ok_iff hdigits).1 hm
      obtain ⟨ns, rfl, hns, hfold⟩ := (ih hoctets).1 hn
      exact ⟨m :: ns, rfl, List.forall_mem_cons.2 ⟨hlt, hns⟩, hfold⟩
    · rintro ⟨ns, hmap, hns, hfold⟩
      cases ns with
      | nil => cases hmap
      | cons m ns =>
        obtain ⟨rfl, rfl⟩ := List.cons.inj hmap
        obtain ⟨hlt, hns⟩ := List.forall_mem_cons.1 hns
        exact ⟨m, (octet_eq_ok_iff hdigits).2 ⟨hlt, rfl⟩, (ih hoctets).2 ⟨ns, rfl, hns, hfold⟩⟩

/-- The eight bits of a number that is not negative. -/
lemma byteAt_natCast (n shift : Nat) : byteAt n shift = n / 2 ^ shift % 256 := by
  rw [byteAt, ← Int.natCast_shiftRight, Nat.shiftRight_eq_div_pow]
  omega

/-- The written form of an address is that of its four octets. -/
lemma format_natCast (n : Nat) :
    format n = Text.ofNat (n / 2 ^ 24 % 256) ++ '.' :: (Text.ofNat (n / 2 ^ 16 % 256) ++
      '.' :: (Text.ofNat (n / 2 ^ 8 % 256) ++ '.' :: Text.ofNat (n % 256))) := by
  show Text.ofNat (byteAt n 24) ++ ['.'] ++ (Text.ofNat (byteAt n 16) ++ ['.'] ++
    (Text.ofNat (byteAt n 8) ++ ['.'] ++ Text.ofNat (byteAt n 0))) = _
  rw [byteAt_natCast, byteAt_natCast, byteAt_natCast, byteAt_natCast, Nat.pow_zero, Nat.div_one,
    List.append_assoc, List.append_assoc, List.append_assoc]
  rfl

/-- The number that four octets form. -/
lemma format_octets {i j k l : Nat} (hi : i < 256) (hj : j < 256) (hk : k < 256) (hl : l < 256) :
    format (((i * 256 + j) * 256 + k) * 256 + l : Nat) = Text.ofNat i ++ '.' :: (Text.ofNat j ++
      '.' :: (Text.ofNat k ++ '.' :: Text.ofNat l)) := by
  have hoctets : (((i * 256 + j) * 256 + k) * 256 + l) / 2 ^ 24 % 256 = i ∧
      (((i * 256 + j) * 256 + k) * 256 + l) / 2 ^ 16 % 256 = j ∧
      (((i * 256 + j) * 256 + k) * 256 + l) / 2 ^ 8 % 256 = k ∧
      (((i * 256 + j) * 256 + k) * 256 + l) % 256 = l := by
    refine ⟨?_, ?_, ?_, ?_⟩ <;> omega
  rw [format_natCast, hoctets.1, hoctets.2.1, hoctets.2.2.1, hoctets.2.2.2]

/-- An address is a number of four octets. -/
lemma exists_octets {n : Nat} (h : n < 2 ^ 32) :
    ∃ i j k l, i < 256 ∧ j < 256 ∧ k < 256 ∧ l < 256 ∧ n = ((i * 256 + j) * 256 + k) * 256 + l :=
  ⟨n / 2 ^ 24, n / 2 ^ 16 % 256, n / 2 ^ 8 % 256, n % 256, by omega, by omega, by omega, by omega,
    by omega⟩

/-- An address at the start of a text is that of four runs that are octets. -/
lemma readQuad_eq_ok {t rest : Text} {address : Nat} :
    readQuad t = .ok (.ok (address, rest)) ↔
      ∃ octets, quad? t = some (octets, rest) ∧ gather 0 octets = .ok (.ok address) := by
  rw [readQuad]
  cases quad? t with
  | none => simp
  | some found =>
    obtain ⟨octets, rest'⟩ := found
    cases hgather : gather 0 octets with
    | error fault => simp [hgather]
    | ok reading => cases reading <;> simp [hgather, and_comm]

/-- Four runs stop the reading of an address exactly if gathering them does. -/
lemma readQuad_eq_error_iff {t : Text} {fault : Fault} :
    readQuad t = .error fault ↔
      ∃ octets rest, quad? t = some (octets, rest) ∧ gather 0 octets = .error fault := by
  rw [readQuad]
  cases quad? t with
  | none => simp
  | some found =>
    obtain ⟨octets, rest⟩ := found
    cases hgather : gather 0 octets with
    | error fault' => simp [hgather]
    | ok reading => cases reading <;> simp [hgather]

section Whitespace

variable {t q : Text} (h : ∀ c ∈ q, Text.isWhitespace c = true)

include h

/-- Whitespace at the end does not stop the reading of an address, and lets none be read that stops without
it. -/
lemma readQuad_append_eq_error_iff {fault : Fault} :
    readQuad (t ++ q) = .error fault ↔ readQuad t = .error fault := by
  simp [readQuad_eq_error_iff, quad?_append h]

/-- Whitespace at the end makes no difference to the address at the start, and is left behind it. -/
lemma readQuad_append_eq_ok_iff {address : Nat} {rest : Text} :
    readQuad (t ++ q) = .ok (.ok (address, rest)) ↔
      ∃ rest', readQuad t = .ok (.ok (address, rest')) ∧ rest = rest' ++ q := by
  simp only [readQuad_eq_ok, quad?_append h, Option.map_eq_some_iff]
  constructor
  · rintro ⟨octets, ⟨found, hquad, heq⟩, hgather⟩
    cases heq
    exact ⟨found.2, ⟨found.1, hquad, hgather⟩, rfl⟩
  · rintro ⟨rest', ⟨octets, hquad, hgather⟩, rfl⟩
    exact ⟨octets, ⟨(octets, rest'), hquad, rfl⟩, hgather⟩

end Whitespace

/-- An address is read at the start of a text that begins with its written form and goes on without a digit. -/
lemma readQuad_eq_ok_iff {t rest : Text} {address : Nat} :
    readQuad t = .ok (.ok (address, rest)) ↔
      address < 2 ^ 32 ∧ NoDigit rest ∧ t = format address ++ rest := by
  rw [readQuad_eq_ok]
  constructor
  · rintro ⟨octets, hquad, hgather⟩
    obtain ⟨a, b, c, d, rfl, hruns, hrest, rfl⟩ := quad?_eq_some_iff.1 hquad
    obtain ⟨ns, hns, hlt, rfl⟩ := (gather_eq_ok_iff hruns).1 hgather
    obtain ⟨i, j, k, l, rfl⟩ : ∃ i j k l, ns = [i, j, k, l] := by
      match ns, congrArg List.length hns with
      | [i, j, k, l], _ => exact ⟨i, j, k, l, rfl⟩
    cases hns
    -- the four octets are the digits of the address to the base 256
    simp only [List.forall_mem_cons] at hlt
    obtain ⟨hi, hj, hk, hl, -⟩ := hlt
    simp only [List.foldl_cons, List.foldl_nil, Nat.zero_mul, Nat.zero_add]
    refine ⟨by omega, hrest, ?_⟩
    rw [format_octets hi hj hk hl]
    simp
  · rintro ⟨hlt, hrest, rfl⟩
    obtain ⟨i, j, k, l, hi, hj, hk, hl, rfl⟩ := exists_octets hlt
    have hruns : ∀ o ∈ [i, j, k, l].map Text.ofNat, IsRun o := by
      simp [isRun_ofNat]
    refine ⟨[i, j, k, l].map Text.ofNat, ?_, ?_⟩
    · refine quad?_eq_some_iff.2 ⟨_, _, _, _, rfl, hruns, hrest, ?_⟩
      rw [format_octets hi hj hk hl]
      simp
    · refine (gather_eq_ok_iff hruns).2 ⟨_, rfl, by simp [hi, hj, hk, hl], ?_⟩
      simp

/-- A written address does not end in whitespace. -/
lemma endsSolid_format (n : Nat) : Text.EndsSolid (format n) := by
  rw [format_natCast]
  exact ((((((isRun_ofNat _).endsSolid.cons '.').append _).cons '.').append _).cons '.').append _

/-- A written address is not empty. -/
lemma format_ne_nil (n : Nat) : format n ≠ [] := by
  rw [format_natCast]
  simp

/-- A text is read as an address exactly if it is the address as it is written, whitespace around it aside. -/
lemma parse_some_eq_ok_iff {t : Text} {address : Nat} :
    parse (some t) = .ok (.ok address) ↔ address < 2 ^ 32 ∧ Text.trim t = format address := by
  have hread : parse (some t) = .ok (.ok address) ↔
      Text.trim t ≠ [] ∧ readQuad (Text.trim t) = .ok (.ok (address, [])) := by
    rw [parse, Option.getD_some]
    by_cases hempty : Text.trim t = []
    · simp [hempty]
    · rw [if_neg (by simpa using hempty)]
      split <;> simp_all
  rw [hread, readQuad_eq_ok_iff, List.append_nil]
  constructor
  · rintro ⟨-, hlt, -, ht⟩
    exact ⟨hlt, ht⟩
  · rintro ⟨hlt, ht⟩
    exact ⟨ht ▸ format_ne_nil address, hlt, noDigit_nil, ht⟩

/-- A text is read as a number exactly if the number has 32 bits and the text is how it is written, whitespace
around it aside. So no address has two spellings that are read. -/
theorem parse_iff_trim_eq_format (t : Text) :
    (∀ n : Int, (∃ address : Nat, parse (some t) = .ok (.ok address) ∧ address = n) ↔
      (0 ≤ n ∧ n < 2 ^ 32) ∧ Text.trim t = format n) ∧
    ∀ u address, parse (some t) = .ok (.ok address) → parse (some u) = .ok (.ok address) →
      Text.trim t = Text.trim u := by
  constructor
  · intro n
    constructor
    · rintro ⟨address, hread, rfl⟩
      obtain ⟨hlt, ht⟩ := parse_some_eq_ok_iff.1 hread
      exact ⟨⟨Int.natCast_nonneg address, by exact_mod_cast hlt⟩, ht⟩
    · rintro ⟨⟨hpos, hlt⟩, ht⟩
      obtain ⟨address, rfl⟩ := Int.eq_ofNat_of_zero_le hpos
      exact ⟨address, parse_some_eq_ok_iff.2 ⟨by exact_mod_cast hlt, ht⟩, rfl⟩
  · intro u address ht hu
    rw [(parse_some_eq_ok_iff.1 ht).2, (parse_some_eq_ok_iff.1 hu).2]

/-- An address with a tab in front of it and one with a space behind it are the same spelling. -/
theorem parse_paddedAddress_trim_eq :
    parse (some "\t10.0.0.255".toList) = .ok (.ok 167772415) ∧
    parse (some "10.0.0.255 ".toList) = .ok (.ok 167772415) ∧
    Text.trim "\t10.0.0.255".toList = Text.trim "10.0.0.255 ".toList :=
  ⟨rfl, rfl, (parse_iff_trim_eq_format _).2 _ 167772415 rfl rfl⟩

/-- A zero in front of an octet makes a text no address. -/
example : parse (some "10.0.0.01".toList) = .ok (.error (.leadingZero "01".toList)) := rfl

end Ipv4

end HtGate

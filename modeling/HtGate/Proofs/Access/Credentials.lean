import HtGate.Cli.Run
import HtGate.Proofs.Text.Base64
import HtGate.Proofs.Text.Cutting
import HtGate.Proofs.Text.Utf8
/-!
# Credentials there and back

The header that a command line makes of a user and a password is read as the same user and password,
whatever characters they consist of: the UTF-8 form of a text and the base64 form of that are both read back,
and no character of the header is lost on the way. What is no pair because it has no colon is read as no
credentials. One thing alone stops the reading of a header: a token with a character beyond ASCII.
-/

namespace HtGate.Credentials

/-- A text has no colon, or it is a user and a password with the first colon between them. -/
lemma ofPair?_cases (s : Text) :
    ':' ∉ s ∧ ofPair? s = none ∨
      ∃ c, ofPair? s = some c ∧ ':' ∉ c.user ∧ c.user ++ ':' :: c.password = s := by
  rcases Text.cut_cases ':' s with ⟨hnone, hcut⟩ | ⟨user, password, rfl, huser, hcut⟩
  · left
    rw [ofPair?, hcut]
    exact ⟨hnone, rfl⟩
  · right
    rw [ofPair?, hcut]
    exact ⟨⟨user, password⟩, rfl, huser, rfl⟩

/-- A token written for a text is read as the pair that the text is. -/
lemma ofToken_encode (s : Text) : ofToken (Base64.encode (Utf8.encode s)) = .ok (ofPair? s) := by
  have hascii : (Base64.encode (Utf8.encode s)).all (·.toNat < 0x80) = true := by
    rw [List.all_eq_true]
    intro c hc
    exact decide_eq_true (Base64.isPlain_of_mem_encode c hc).1
  rw [ofToken, if_pos hascii, Base64.decode_encode, Option.bind_some, Utf8.decode_encode,
    Option.bind_some]

/-- A header of the scheme is read by its token. A header without a token is read as an empty token is. -/
lemma ofHeader_append {word : Text} (hlength : word.length = 6) (hword : Text.lower word = scheme)
    (token : Text) : ofHeader (some (word ++ token)) = ofToken (Text.trim token) := by
  rw [ofHeader]
  by_cases hne : token = []
  · rw [hne, if_pos (by simp [hlength])]
    rfl
  · have hpos := List.length_pos_of_ne_nil hne
    have hlong : 7 ≤ word.length + token.length := by omega
    rw [List.take_left' hlength, List.drop_left' hlength, hword, if_neg (by simp [hlong])]

/-- The header that is made of a text is read as the pair that the text is. -/
lemma ofHeader_header (s : Text) : ofHeader (some (header s)) = .ok (ofPair? s) := by
  have hword : Text.lower "Basic ".toList = scheme := by decide
  calc ofHeader (some (header s))
      = ofToken (Text.trim (Base64.encode (Utf8.encode s))) := ofHeader_append rfl hword _
    _ = .ok (ofPair? s) := by rw [Base64.trim_encode, ofToken_encode]

/-- The header that a command line makes of a text with a colon is read as the user before the first colon
and the password behind it; of a text without one, as no credentials. -/
theorem ofHeader_authorization (s : Text) :
    (':' ∈ s → ∃ c, ofHeader ((Cli.nonEmpty? (some s)).map header) = .ok (some c) ∧
      ':' ∉ c.user ∧ c.user ++ ':' :: c.password = s) ∧
    (':' ∉ s → ofHeader ((Cli.nonEmpty? (some s)).map header) = .ok none) := by
  have hread : ofHeader ((Cli.nonEmpty? (some s)).map header) = .ok (ofPair? s) := by
    cases s with
    | nil => rfl
    | cons c s => exact ofHeader_header (c :: s)
  rw [hread]
  rcases ofPair?_cases s with ⟨hnone, hpair⟩ | ⟨c, hpair, huser, rfl⟩
  · rw [hpair]
    exact ⟨fun h => absurd h hnone, fun _ => rfl⟩
  · rw [hpair]
    exact ⟨fun _ => ⟨c, rfl, huser, rfl⟩, fun h => absurd (by simp) h⟩

/-- Letters beyond ASCII and colons in the password are read back, and a text without a colon is no
credentials. -/
theorem ofHeader_authorization_accented :
    (∃ c, ofHeader ((Cli.nonEmpty? (some "zoë:pa:ss".toList)).map header) = .ok (some c) ∧
      ':' ∉ c.user ∧ c.user ++ ':' :: c.password = "zoë:pa:ss".toList) ∧
    ofHeader ((Cli.nonEmpty? (some "zoë".toList)).map header) = .ok none :=
  ⟨(ofHeader_authorization "zoë:pa:ss".toList).1 (by decide),
    (ofHeader_authorization "zoë".toList).2 (by decide)⟩

/-- Whether a header of the scheme has a token with a character beyond ASCII. -/
def HasForeignToken (header : Option Text) : Prop :=
  ∃ word token, header = some (word ++ token) ∧ word.length = 6 ∧ Text.lower word = scheme ∧
    ∃ c ∈ Text.trim token, 0x80 ≤ c.toNat

/-- The reading of a token stops at a character beyond ASCII. -/
lemma ofToken_eq_error_iff {token : Text} {fault : Fault} :
    ofToken token = .error fault ↔ (∃ c ∈ token, 0x80 ≤ c.toNat) ∧ fault = .credentialsNotAscii := by
  rw [ofToken]
  split
  · rename_i hascii
    simp only [List.all_eq_true, decide_eq_true_eq] at hascii
    simp only [reduceCtorEq, false_iff, not_and]
    rintro ⟨c, hc, hlarge⟩
    exact absurd (hascii c hc) (Nat.not_lt.2 hlarge)
  · rename_i hforeign
    simp only [List.all_eq_true, decide_eq_true_eq, not_forall, Nat.not_lt] at hforeign
    obtain ⟨c, hc, hlarge⟩ := hforeign
    simp only [Except.error.injEq, eq_comm (a := Fault.credentialsNotAscii)]
    exact (and_iff_right ⟨c, hc, hlarge⟩).symm

/-- The reading of a header stops at such a token and nowhere else. -/
lemma ofHeader_eq_error_iff {given : Option Text} {fault : Fault} :
    ofHeader given = .error fault ↔ HasForeignToken given ∧ fault = .credentialsNotAscii := by
  constructor
  · intro h
    cases given with
    | none => cases h
    | some text =>
      rw [ofHeader] at h
      split at h
      · cases h
      · rename_i hscheme
        simp only [Bool.or_eq_true, decide_eq_true_eq, bne_iff_ne, not_or, not_not] at hscheme
        -- the scheme and its blank are the first six characters, and what is left is the token
        obtain ⟨hlong, hword⟩ := hscheme
        obtain ⟨hforeign, hfault⟩ := ofToken_eq_error_iff.1 h
        refine ⟨⟨text.take 6, text.drop 6, by rw [List.take_append_drop], ?_, hword, hforeign⟩, hfault⟩
        rw [List.length_take]
        omega
  · rintro ⟨⟨word, token, rfl, hlength, hword, hforeign⟩, rfl⟩
    rw [ofHeader_append hlength hword, ofToken_eq_error_iff]
    exact ⟨hforeign, rfl⟩

/-- A header that is read has no token with a character beyond ASCII. -/
lemma not_hasForeignToken {given : Option Text} {found : Option Credentials}
    (h : ofHeader given = .ok found) : ¬HasForeignToken given := by
  intro hforeign
  have herror := ofHeader_eq_error_iff.2 ⟨hforeign, rfl⟩
  rw [h] at herror
  cases herror

end HtGate.Credentials

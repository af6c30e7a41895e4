import HtGate.Proofs.Access.Consulting
import HtGate.Proofs.Address.Networks
import HtGate.Proofs.Text.Cutting
/-!
# Host lists

A host list is searched as its tokens are, one after another: the whitespace around a token, and that around
the whole list, makes no difference to what comes out, faults included. So a list with a blank between two
others is searched like the one and then, if no host of it is the client's, like the other.
-/

namespace HtGate

namespace HostList

variable {p q t : Text} {sep : Char → Bool} {ip : Int}

/-- The pieces of a text that are not empty, each without the whitespace around it. -/
def cleaned (pieces : List Text) : List Text := (pieces.map Text.trim).filter (!·.isEmpty)

/-- The tokens of a host list: what stands between blanks, other whitespace around it aside, since a host is
read without it. -/
def tokens (list : Option Text) : List Text := cleaned (Text.fields Text.isBlank (list.getD []))

/-- Pieces are cleaned one by one. -/
lemma cleaned_append (xs ys : List Text) : cleaned (xs ++ ys) = cleaned xs ++ cleaned ys := by
  simp [cleaned]

/-- Of pieces of whitespace alone nothing is left. -/
lemma cleaned_eq_nil {pieces : List Text}
    (h : ∀ piece ∈ pieces, ∀ c ∈ piece, Text.isWhitespace c = true) : cleaned pieces = [] := by
  rw [cleaned, List.filter_eq_nil_iff]
  intro token htoken
  obtain ⟨piece, hpiece, rfl⟩ := List.mem_map.1 htoken
  simp [Text.trim_eq_nil_iff.2 (h piece hpiece)]

/-- Empty pieces do not matter. -/
lemma cleaned_fields (sep : Char → Bool) (t : Text) :
    cleaned (Text.fields sep t) = cleaned (Text.splitOn sep t) := by
  rw [Text.fields]
  induction Text.splitOn sep t with
  | nil => rfl
  | cons piece more ih =>
    cases piece with
    | nil => exact ih
    | cons c piece =>
      rw [List.filter_cons_of_pos rfl, ← List.singleton_append, cleaned_append, ih, ← cleaned_append]
      rfl

/-- Whitespace in front of a text adds no tokens, and changes none. -/
lemma cleaned_splitOn_append_left (h : ∀ c ∈ p, Text.isWhitespace c = true) :
    cleaned (Text.splitOn sep (p ++ t)) = cleaned (Text.splitOn sep t) := by
  obtain ⟨front, x, hp⟩ := Text.exists_splitOn_eq_concat sep p
  obtain ⟨y, back, ht⟩ := List.exists_cons_of_ne_nil (Text.splitOn_ne_nil sep t)
  have hpieces : ∀ piece ∈ front ++ [x], ∀ c ∈ piece, Text.isWhitespace c = true :=
    fun piece hpiece c hc => h c (Text.splitOn_spec (hp ▸ hpiece) c hc).1
  have hfront : cleaned front = [] := cleaned_eq_nil fun piece hpiece => hpieces piece (by simp [hpiece])
  have hx : Text.trim (x ++ y) = Text.trim y := Text.trim_append_left (hpieces x (by simp))
  rw [Text.splitOn_append_join hp ht, ht, cleaned_append, hfront]
  simp only [cleaned, List.map_cons, hx, List.nil_append]

/-- Whitespace at the end of a text adds no tokens, and changes none. -/
lemma cleaned_splitOn_append_right (h : ∀ c ∈ q, Text.isWhitespace c = true) :
    cleaned (Text.splitOn sep (t ++ q)) = cleaned (Text.splitOn sep t) := by
  obtain ⟨front, x, ht⟩ := Text.exists_splitOn_eq_concat sep t
  obtain ⟨y, back, hq⟩ := List.exists_cons_of_ne_nil (Text.splitOn_ne_nil sep q)
  have hpieces : ∀ piece ∈ y :: back, ∀ c ∈ piece, Text.isWhitespace c = true :=
    fun piece hpiece c hc => h c (Text.splitOn_spec (hq ▸ hpiece) c hc).1
  have hback : cleaned back = [] := cleaned_eq_nil fun piece hpiece => hpieces piece (.tail _ hpiece)
  have hx : Text.trim (x ++ y) = Text.trim x := by
    rw [← Text.trim_trimEnd, Text.trimEnd_append_right (hpieces y (.head _)), Text.trim_trimEnd]
  rw [Text.splitOn_append_join ht hq, ht, ← List.singleton_append, cleaned_append, cleaned_append,
    cleaned_append, hback]
  simp only [cleaned, List.map_cons, List.map_nil, hx, List.append_nil]

/-- It makes no difference if the text is trimmed before it is split. -/
lemma tokens_eq (list : Option Text) : tokens list = cleaned (Text.items (list.getD [])) := by
  rw [tokens, Text.items, cleaned_fields, cleaned_fields]
  obtain ⟨q, hq, hspace⟩ := Text.exists_trimEnd_append (Text.trimStart (list.getD []))
  have hsplit : list.getD [] =
      (list.getD []).takeWhile Text.isWhitespace ++ (Text.trim (list.getD []) ++ q) := by
    rw [Text.trim, ← hq, Text.trimStart, List.takeWhile_append_dropWhile]
  rw [hsplit, cleaned_splitOn_append_left fun c hc => List.mem_takeWhile_imp hc,
    cleaned_splitOn_append_right hspace, ← hsplit]

/-- A host names an address exactly if it is a network that contains it. -/
lemma names_eq_true_iff {host : Text} :
    names ip host = .ok true ↔
      ∃ network, Network.parse (some host) = .ok (.ok network) ∧ network.contains ip = true := by
  rw [names]
  rcases hread : Network.parse (some host) with fault | reason | network <;>
    simp [Except.map, Except.toOption]

/-- Whether a host names an address, or cannot be read, does not depend on the whitespace around it. -/
lemma names_trim (ip : Int) (host : Text) : names ip (Text.trim host) = names ip host := by
  rw [names, names]
  rcases hread : Network.parse (some host) with fault | reason | network
  · rw [Network.parse_trim_eq_error_iff.2 hread]
  · rcases htrim : Network.parse (some (Text.trim host)) with fault | reason' | network
    · rw [Network.parse_trim_eq_error_iff, hread] at htrim
      cases htrim
    · rfl
    · rw [Network.parse_some_eq_ok_iff, Text.trim_trim, ← Network.parse_some_eq_ok_iff, hread] at htrim
      cases htrim
  · rw [Network.parse_some_eq_ok_iff, ← Text.trim_trim, ← Network.parse_some_eq_ok_iff] at hread
    rw [hread]

/-- A search finds the same in pieces without the whitespace around them, and without the empty ones. -/
lemma anyM_cleaned (ip : Int) (pieces : List Text) :
    (cleaned pieces).anyM (names ip) = pieces.anyM (names ip) := by
  induction pieces with
  | nil => rfl
  | cons piece more ih =>
    rw [← List.singleton_append, cleaned_append, List.singleton_append, List.anyM_cons, ← ih, ← names_trim]
    cases htrim : Text.trim piece with
    | nil =>
      have hnone : names ip [] = .ok false := rfl
      simp [cleaned, htrim, hnone, bind, Except.bind]
    | cons c rest => simp [cleaned, htrim]

/-- A host list is searched token by token. -/
lemma contains_eq_anyM (list : Option Text) (ip : Int) :
    contains list ip = (Text.fields Text.isBlank (list.getD [])).anyM (names ip) := by
  rw [contains, anyContains_eq_anyM, ← anyM_cleaned ip (Text.items _), ← tokens_eq, tokens, anyM_cleaned]

/-- A host list contains an address exactly if one of its tokens names it. -/
lemma contains_eq_ok {list : Option Text} {b : Bool} (h : contains list ip = .ok b) :
    b = true ↔ ∃ host ∈ tokens list, names ip host = .ok true := by
  rw [contains_eq_anyM, ← anyM_cleaned] at h
  exact anyM_eq_ok (by simp +contextual) h

/-- A host list of two with blanks between them is searched like the first and, if no host of that one is the
client's, like the second. Where the search comes to an end, it has found out whether one of the tokens is a
network with the address. -/
theorem contains_join (ip : Int) :
    (∀ a b w : Text, w ≠ [] → (∀ c ∈ w, Text.isBlank c = true) →
      contains (some (a ++ w ++ b)) ip =
        (contains (some a) ip).bind fun found => if found then .ok true else contains (some b) ip) ∧
    ∀ list found, contains (some list) ip = .ok found →
      (found = true ↔ ∃ host ∈ Text.fields Text.isBlank list, ∃ network,
        Network.parse (some host) = .ok (.ok network) ∧ network.contains ip = true) := by
  constructor
  · intro a b w hne hw
    rw [contains_eq_anyM, contains_eq_anyM, contains_eq_anyM, Option.getD_some, Option.getD_some,
      Option.getD_some, List.append_assoc, Text.fields_append_join hne hw]
    exact anyM_append _ _ _
  · intro list found h
    rw [contains_eq_anyM] at h
    simp only [← names_eq_true_iff]
    exact anyM_eq_ok (by simp +contextual) h

/-- A host list with other whitespace at both ends. -/
def paddedHosts : Text := "\u00a010.0.0.0/8\u2003".toList

/-- Another one. -/
def moreHosts : Text := "\u3000nonsense\u00a0 192.168.0.1\x1f".toList

/-- With a space and a tab between them, the lists have an address that is in the second. -/
theorem contains_paddedHosts_join :
    " \t".toList ≠ [] ∧ (∀ c ∈ " \t".toList, Text.isBlank c = true) ∧
    contains (some (paddedHosts ++ " \t".toList ++ moreHosts)) 3232235521 = .ok true ∧
    ∃ host ∈ Text.fields Text.isBlank (paddedHosts ++ " \t".toList ++ moreHosts), ∃ network,
      Network.parse (some host) = .ok (.ok network) ∧ network.contains 3232235521 = true := by
  obtain ⟨hjoin, hfound⟩ := contains_join 3232235521
  have hblank : ∀ c ∈ " \t".toList, Text.isBlank c = true := by simp [Text.isBlank]
  have hsearch : contains (some (paddedHosts ++ " \t".toList ++ moreHosts)) 3232235521 = .ok true := by
    rw [hjoin paddedHosts moreHosts _ (by decide) hblank]
    rfl
  exact ⟨by decide, hblank, hsearch, (hfound _ _ hsearch).1 rfl⟩

end HostList

end HtGate

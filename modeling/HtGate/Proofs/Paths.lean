import HtGate.Files.Path
import HtGate.Proofs.Text.Cutting
import Mathlib.Data.List.Range
/-!
# The way down to a directory

A path as text leads, read lexically, to a place: the names that remain of it once `.` and `..` are followed.
Written out, a place is a path that leads back to it. So the directories from a root down to a target lead to
the places on the way, one for each name that the target has beyond the root, and there are none if the
names of the root do not come first in the target.
-/

namespace HtGate

namespace Text

/-- A text without separators is one field. -/
lemma fields_of_solid {sep : Char → Bool} {t : Text} (hne : t ≠ []) (h : ∀ c ∈ t, sep c = false) :
    fields sep t = [t] := by
  have hsplit : splitOn sep t = [t] := by
    clear hne
    induction t with
    | nil => rfl
    | cons c t ih =>
      exact splitOn_cons_of_not_sep (h c (.head _)) (ih fun d hd => h d (.tail _ hd))
  rw [fields, hsplit]
  simp [hne]

/-- Runs joined by one separator are the runs of the joined text. -/
lemma fields_joinWith {sep : Char → Bool} {d : Char} (hd : sep d = true) {runs : List Text}
    (h : ∀ t ∈ runs, t ≠ [] ∧ ∀ c ∈ t, sep c = false) : fields sep (joinWith [d] runs) = runs := by
  induction runs with
  | nil => rfl
  | cons t more ih =>
    obtain ⟨hne, hsolid⟩ := h t (.head _)
    have hmore := ih fun u hu => h u (.tail _ hu)
    cases more with
    | nil => exact fields_of_solid hne hsolid
    | cons u more =>
      rw [joinWith, List.append_assoc, List.singleton_append, fields_append_of_sep hd,
        fields_of_solid hne hsolid, hmore]
      · rfl
      · simp

end Text

namespace Path

/-- What a place is made of: a name that leads down to something. -/
structure IsName (name : Text) : Prop where
  ne_nil : name ≠ []
  slashless : '/' ∉ name
  ne_here : name ≠ here
  ne_up : name ≠ up

instance (name : Text) : Decidable (IsName name) :=
  decidable_of_iff (name ≠ [] ∧ '/' ∉ name ∧ name ≠ here ∧ name ≠ up)
    ⟨fun ⟨hne, hslash, hhere, hup⟩ => ⟨hne, hslash, hhere, hup⟩,
      fun ⟨hne, hslash, hhere, hup⟩ => ⟨hne, hslash, hhere, hup⟩⟩

/-- The names from the root to where a path leads, lexically, from the directory `base`. -/
def components (base : List Text) (t : Text) : List Text := (absolute base t).parts

variable {base place names : List Text} {name : Text}

/-- A name in a path as text is not empty and has no slash. -/
lemma names_spec {t : Text} (h : name ∈ Path.names t) : name ≠ [] ∧ '/' ∉ name := by
  obtain ⟨hsplit, hne⟩ := List.mem_filter.1 h
  refine ⟨by simpa using hne, fun hslash => ?_⟩
  have := Text.not_sep_of_mem_splitOn hsplit '/' hslash
  cases this

/-- To follow a name from a place leads to a place. -/
lemma follow_isName (hplace : ∀ n ∈ place, IsName n) (hname : name ≠ [] ∧ '/' ∉ name) :
    ∀ n ∈ follow place name, IsName n := by
  rw [follow]
  split_ifs with hhere hup
  · exact hplace
  · exact fun n hn => hplace n (List.dropLast_subset place hn)
  · rw [List.forall_mem_append]
    exact ⟨hplace, List.forall_mem_singleton.2
      ⟨hname.1, hname.2, by simpa using hhere, by simpa using hup⟩⟩

/-- To follow names one after another from a place leads to a place. -/
lemma foldl_follow_isName (hplace : ∀ n ∈ place, IsName n)
    (hnames : ∀ n ∈ names, n ≠ [] ∧ '/' ∉ n) : ∀ n ∈ names.foldl follow place, IsName n := by
  induction names generalizing place with
  | nil => exact hplace
  | cons n names ih =>
    exact ih (follow_isName hplace (hnames n (.head _))) fun m hm => hnames m (.tail _ hm)

/-- Every path leads to a place, if the directory where it starts is one. -/
lemma components_isName (hbase : ∀ n ∈ base, IsName n) (t : Text) :
    ∀ n ∈ components base t, IsName n := by
  rw [components, absolute]
  split_ifs
  · exact foldl_follow_isName (by simp) fun n => names_spec
  · exact foldl_follow_isName hbase fun n => names_spec

/-- The names of a place are followed one after the other. -/
lemma foldl_follow_eq (hnames : ∀ n ∈ names, IsName n) : names.foldl follow place = place ++ names := by
  induction names generalizing place with
  | nil => simp
  | cons n names ih =>
    have hn := hnames n (.head _)
    have hfollow : follow place n = place ++ [n] := by
      rw [follow, if_neg (by simpa using hn.ne_here), if_neg (by simpa using hn.ne_up)]
    rw [List.foldl_cons, hfollow, ih fun m hm => hnames m (.tail _ hm), List.append_assoc]
    rfl

/-- A place that is written out begins with a slash. -/
lemma toText_eq (p : Path) :
    ∃ start, (∀ c ∈ start, c = '/') ∧ p.toText = '/' :: (start ++ Text.joinWith ['/'] p.parts) := by
  rw [toText]
  cases p.doubled
  · exact ⟨[], by simp, rfl⟩
  · exact ⟨['/'], by simp, rfl⟩

/-- A place that is written out is a path that leads there. -/
lemma components_toText {p : Path} (hp : ∀ n ∈ p.parts, IsName n) :
    components base p.toText = p.parts := by
  obtain ⟨start, hstart, htext⟩ := toText_eq p
  have hslashes : ∀ c ∈ '/' :: start, (c == '/') = true := by simpa using hstart
  have hnames : Path.names p.toText = p.parts := by
    rw [htext, ← List.cons_append, Path.names, Text.fields_append_left hslashes]
    refine Text.fields_joinWith rfl fun n hn => ⟨(hp n hn).ne_nil, fun c hc => ?_⟩
    rw [beq_eq_false_iff_ne]
    rintro rfl
    exact (hp n hn).slashless hc
  have habsolute : isAbsolute p.toText = true := by rw [htext]; rfl
  rw [components, absolute, if_pos habsolute, hnames]
  exact foldl_follow_eq hp

/-- A name more is joined at the end. -/
lemma joinWith_concat (sep : Text) (hne : names ≠ []) (name : Text) :
    Text.joinWith sep (names ++ [name]) = Text.joinWith sep names ++ (sep ++ name) := by
  induction names with
  | nil => exact absurd rfl hne
  | cons n names ih =>
    cases names with
    | nil => simp [Text.joinWith]
    | cons m names =>
      have hcons (rest : List Text) :
          Text.joinWith sep (n :: m :: rest) = n ++ sep ++ Text.joinWith sep (m :: rest) := rfl
      have hmore := ih (List.cons_ne_nil m names)
      rw [List.cons_append] at hmore
      rw [List.cons_append, List.cons_append, hcons, hmore, hcons]
      simp only [List.append_assoc]

/-- A place other than the root ends, written out, with its last name. -/
lemma exists_toText_concat (doubled : Bool) (place : List Text) (name : Text) :
    ∃ start, toText ⟨doubled, place ++ [name]⟩ = start ++ name := by
  obtain ⟨start, -, htext⟩ := toText_eq ⟨doubled, place ++ [name]⟩
  by_cases hne : place = []
  · subst hne
    exact ⟨'/' :: start, htext⟩
  · rw [htext, joinWith_concat ['/'] hne]
    exact ⟨'/' :: (start ++ (Text.joinWith ['/'] place ++ ['/'])), by simp⟩

/-- The path of a name in a directory that is written out is the place below it, written out. -/
lemma join_toText (doubled : Bool) (hplace : ∀ n ∈ place, IsName n) (hname : IsName name) :
    join (toText ⟨doubled, place⟩) name = toText ⟨doubled, place ++ [name]⟩ := by
  obtain ⟨c, rest, rfl⟩ := List.exists_cons_of_ne_nil hname.ne_nil
  have hrelative : isAbsolute (c :: rest) = false := by
    rw [isAbsolute, List.head?_cons, beq_eq_false_iff_ne]
    rintro ⟨⟩
    exact hname.slashless (.head _)
  rw [join, if_neg (by simp [hrelative])]
  rcases List.eq_nil_or_concat place with rfl | ⟨front, n, rfl⟩
  · -- the root ends with the slash that a name needs before it
    cases doubled <;> simp [toText, Text.joinWith]
  · obtain ⟨start, htext⟩ := exists_toText_concat doubled front n
    have hn := hplace n (by simp)
    have hlast : (toText ⟨doubled, front ++ [n]⟩).getLast? ≠ some '/' := by
      rw [htext, List.getLast?_append_of_ne_nil _ hn.ne_nil]
      exact fun h => hn.slashless (List.mem_of_getLast? h)
    have hne : toText ⟨doubled, front ++ [n]⟩ ≠ [] := by simp [htext, hn.ne_nil]
    rw [if_neg (by simp [hlast, hne]), toText, toText, joinWith_concat ['/'] (by simp)]
    simp

/-- The directories on the way down lead to one place after the other. -/
lemma map_components_descend (base : List Text) (doubled : Bool) (hplace : ∀ n ∈ place, IsName n)
    (hnames : ∀ n ∈ names, IsName n) :
    (descend (toText ⟨doubled, place⟩) names).map (components base) =
      (List.range' place.length (names.length + 1)).map fun n => (place ++ names).take n := by
  induction names generalizing place with
  | nil => simp [descend, components_toText (p := ⟨doubled, place⟩) hplace]
  | cons name names ih =>
    have hname := hnames name (.head _)
    have hbelow : ∀ n ∈ place ++ [name], IsName n :=
      List.forall_mem_append.2 ⟨hplace, List.forall_mem_singleton.2 hname⟩
    have hmore := ih hbelow fun n hn => hnames n (.tail _ hn)
    rw [List.append_assoc, List.singleton_append, List.length_append, List.length_singleton] at hmore
    have hfirst : (place ++ name :: names).take place.length = place := List.take_left
    rw [descend, List.map_cons, join_toText doubled hplace hname, hmore,
      components_toText (p := ⟨doubled, place⟩) hplace, List.length_cons,
      List.range'_succ (n := names.length + 1), List.map_cons, hfirst]

/-- What is below the start of a list is what follows it. -/
lemma below?_eq_some_iff {start l rest : List Text} :
    below? start l = some rest ↔ l = start ++ rest := by
  induction start generalizing l with
  | nil => simp [below?, eq_comm]
  | cons a start ih =>
    cases l with
    | nil => simp [below?]
    | cons b l =>
      rw [below?]
      by_cases hab : a = b
      · simp [hab, ih]
      · simp [hab, Ne.symm hab]

/-- Nothing is below a start that the list does not have. -/
lemma below?_eq_none_iff {start l : List Text} : below? start l = none ↔ ¬start <+: l := by
  rw [Option.eq_none_iff_forall_ne_some]
  constructor
  · rintro h ⟨rest, hrest⟩
    exact h rest (below?_eq_some_iff.2 hrest.symm)
  · intro h rest hrest
    exact h ⟨rest, (below?_eq_some_iff.1 hrest).symm⟩

/-- The way down begins with the directory where it starts. -/
lemma head?_descend (directory : Text) (names : List Text) :
    (descend directory names).head? = some directory := by
  cases names <;> rfl

/-- The way from a root down to a target is empty if the names of the root do not come first in the target.
Otherwise it begins with the absolute root and leads through the places on the way to the target, each of
them once: those of the first names of the target, from as many as the root has to all of them. -/
theorem chain_places (hbase : ∀ n ∈ base, IsName n) (root target : Text) :
    (chain base root target = [] ↔ ¬components base root <+: components base target) ∧
      (components base root <+: components base target →
        (chain base root target).head? = some (absolute base root).toText ∧
        (chain base root target).map (components base) =
          (List.range' (components base root).length
            ((components base target).length + 1 - (components base root).length)).map
              fun n => (components base target).take n) := by
  cases hbelow : below? (components base root) (components base target) with
  | none =>
    have hchain : chain base root target = [] := by
      rw [components, components] at hbelow
      rw [chain, hbelow]
    have hno := below?_eq_none_iff.1 hbelow
    exact ⟨iff_of_true hchain hno, fun h => absurd h hno⟩
  | some names =>
    have hchain : chain base root target = descend (absolute base root).toText names := by
      rw [components, components] at hbelow
      rw [chain, hbelow]
    -- each step down is one name more of the target
    have htarget := below?_eq_some_iff.1 hbelow
    have hnames : ∀ n ∈ components base root ++ names, IsName n :=
      htarget ▸ components_isName hbase target
    obtain ⟨hroot, hrest⟩ := List.forall_mem_append.1 hnames
    have hhead := head?_descend (absolute base root).toText names
    refine ⟨iff_of_false ?_ (not_not.2 ⟨names, htarget.symm⟩), fun _ => ⟨?_, ?_⟩⟩
    · rw [hchain]
      rintro hnil
      rw [hnil] at hhead
      cases hhead
    · rw [hchain, hhead]
    · have hplaces := map_components_descend base (absolute base root).doubled hroot hrest
      have hlength : names.length + 1 =
          (components base root ++ names).length + 1 - (components base root).length := by
        rw [List.length_append]
        omega
      rw [hchain, htarget, ← hlength]
      exact hplaces

/-- The names of a root with a step up in it come first in a target whose first name beyond the root begins
like a step up. -/
theorem chain_upwardRoot_places :
    (∀ n ∈ ["srv".toList], IsName n) ∧
      components ["srv".toList] "x/../www/".toList <+: components ["srv".toList] "//srv/www/..a/./b".toList ∧
      (chain ["srv".toList] "x/../www/".toList "//srv/www/..a/./b".toList).map
          (components ["srv".toList]) =
        [["srv".toList, "www".toList], ["srv".toList, "www".toList, "..a".toList],
          ["srv".toList, "www".toList, "..a".toList, "b".toList]] := by
  have hbase : ∀ n ∈ ["srv".toList], IsName n := by decide
  have hbelow : components ["srv".toList] "x/../www/".toList <+:
      components ["srv".toList] "//srv/www/..a/./b".toList := by decide
  exact ⟨hbase, hbelow, ((chain_places hbase _ _).2 hbelow).2⟩

end Path

end HtGate

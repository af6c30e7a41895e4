import HtGate.Proofs.Access.Effect
import HtGate.Proofs.Evaluation
import HtGate.Proofs.Text.Numeral
/-!
# Both headers or none

A lifetime is written to two headers, first as a number of seconds and then as the date at which it ends. The
number can be written unless it has too many digits, and then nothing is written. There is a date for the
years 1 to 9999 alone. Where the end of a lifetime lies beyond them the first header is written and the second
is not, and the evaluation ends with a fault. In every other case both headers are written or the session is
left as it was.
-/

namespace HtGate

namespace Date

/-- The year of a number of days, by the cycle the days fall into and the day of the cycle. From the 306th day
of a year counted from March on, the calendar year is the next one. -/
lemma civil_year (days : Int) : ∃ (cycle : Int) (day year : Nat),
    days + 719468 = 146097 * cycle + day ∧ day < 146097 ∧
      year = (day - day / 1460 + day / 36524 - day / 146096) / 365 ∧
      (civil days).1 = if day - (365 * year + year / 4 - year / 100) < 306 then year + cycle * 400
        else year + cycle * 400 + 1 := by
  refine ⟨(days + 719468) / 146097, ((days + 719468) % 146097).toNat, _, by omega, by omega, rfl, ?_⟩
  have hepoch : (daysToEpoch : Int) = 719468 := rfl
  have hcycle : (daysPerCycle : Int) = 146097 := rfl
  rw [civil, hepoch, hcycle]
  generalize ((days + 719468) % 146097).toNat = day
  generalize (day - day / 1460 + day / 36524 - day / 146096) / 365 = year
  generalize day - (365 * year + year / 4 - year / 100) = dayOfYear
  have hmonth : (5 * dayOfYear + 2) / 153 < 10 ↔ dayOfYear < 306 := by omega
  simp only [hmonth]
  split <;> rfl

/-- The years from 1 on are those of the days from -719162 on. -/
lemma one_le_civil_iff (days : Int) : 1 ≤ (civil days).1 ↔ -719162 ≤ days := by
  obtain ⟨cycle, day, year, hdays, hday, hyear, hcivil⟩ := civil_year days
  rw [hcivil]
  split <;> omega

/-- The years up to 9999 are those of the days before 2932897. -/
lemma civil_le_iff (days : Int) : (civil days).1 ≤ 9999 ↔ days < 2932897 := by
  obtain ⟨cycle, day, year, hdays, hday, hyear, hcivil⟩ := civil_year days
  rw [hcivil]
  split <;> omega

end Date

namespace Instant

/-- The first second of the year 1. -/
def firstSecond : Int := -62135596800

/-- The second after the last one of the year 9999. -/
def endSecond : Int := 253402300800

/-- The seconds with a date are those of the years 1 to 9999. -/
lemma exists_dateOf_iff {n : Int} : (∃ d, dateOf n = .ok d) ↔ firstSecond ≤ n ∧ n < endSecond := by
  have hyear : firstSecond ≤ n ∧ n < endSecond ↔
      1 ≤ (Date.ofSeconds n).year ∧ (Date.ofSeconds n).year ≤ 9999 := by
    have hlow := Date.one_le_civil_iff (n / 86400)
    have hhigh := Date.civil_le_iff (n / 86400)
    show _ ↔ 1 ≤ (Date.civil (n / 86400)).1 ∧ (Date.civil (n / 86400)).1 ≤ 9999
    rw [hlow, hhigh, firstSecond, endSecond]
    omega
  rw [dateOf]
  constructor
  · rintro ⟨d, h⟩
    rw [hyear]
    split at h
    · cases h
    · dsimp only at h
      split at h
      · cases h
      · split at h
        · cases h
        · rename_i hrange
          simpa using hrange
  · intro h
    obtain ⟨hlow, hhigh⟩ := hyear.1 h
    rw [firstSecond, endSecond] at h
    -- a year within these bounds is not wrapped
    have hfits : wrapped32 ((Date.ofSeconds n).year - 1900) = (Date.ofSeconds n).year - 1900 :=
      Int.bmod_eq_of_le (by omega) (by omega)
    rw [if_neg (by simp; omega)]
    dsimp only
    rw [if_neg (by simp [hfits]), if_neg (by simp; omega)]
    exact ⟨_, rfl⟩

end Instant

namespace Expires

variable {now : Rat} {s : Session} {ds : List Directive} {n : Int}

/-- The value of the header for a number of seconds. -/
def maxAge (n : Int) : Text := "max-age=".toList ++ Text.ofInt n

/-- Whether a number has no more digits than can be written. -/
def Writable (n : Int) : Prop := n.natAbs < 10 ^ Text.maxDigits

/-- Whether the instant a number of seconds from now lies in the years 1 to 9999. -/
def HasDate (now : Rat) (n : Int) : Prop :=
  ∃ t, Instant.after now n = .ok t ∧
    Instant.firstSecond ≤ Instant.fullSeconds t ∧ Instant.fullSeconds t < Instant.endSecond

/-- A number with few enough digits is written. -/
lemma writeNumeral_of_writable (h : Writable n) : Fault.writeNumeral n = .ok (Text.ofInt n) := by
  have hlength : (Text.ofNat n.natAbs).length ≤ Text.maxDigits :=
    (Nat.length_toDigits_le_iff (by decide) (by decide)).2 h
  rw [Fault.writeNumeral, if_neg (Nat.not_lt.2 hlength)]

/-- A number with too many digits is not. -/
lemma writeNumeral_of_not_writable (h : ¬Writable n) :
    Fault.writeNumeral n = .error .numberTooLong := by
  have hlength : ¬(Text.ofNat n.natAbs).length ≤ Text.maxDigits := fun hle =>
    h ((Nat.length_toDigits_le_iff (by decide) (by decide)).1 hle)
  rw [Fault.writeNumeral, if_pos (Nat.not_le.1 hlength)]

/-- There is a date for the end of a lifetime if the instant lies in the years that have dates. -/
lemma hasDate_iff : HasDate now n ↔ ∃ d, (Instant.after now n).bind Instant.date = .ok d := by
  rw [HasDate]
  cases Instant.after now n with
  | error fault => simp [Except.bind]
  | ok t => simpa [Except.bind, Instant.date] using Instant.exists_dateOf_iff.symm

/-- How a session is left for which both headers are written for a number of seconds. -/
structure Stamped (now : Rat) (n : Int) (s t : Session) : Prop where
  /-- Nothing changes but the headers of the response. -/
  rest : t = { s with responseHeaders := t.responseHeaders }
  /-- Among the headers, nothing changes but the two. -/
  others : ∀ name ≠ ageHeader, name ≠ dateHeader →
    t.responseHeaders.get? name = s.responseHeaders.get? name
  /-- The one is the number. -/
  age : t.responseHeaders.get? ageHeader = some (maxAge n)
  /-- The other is the date so many seconds from now. -/
  date : ∃ d, (Instant.after now n).bind Instant.date = .ok d ∧
    t.responseHeaders.get? dateHeader = some d.headerText

/-- What it comes to to write the headers for a number of seconds. -/
inductive Stamping (now : Rat) (n : Int) (s : Session) : Outcome Int → Prop
  /-- The number has too many digits, and nothing is written. -/
  | unwritten {fault : Fault} : ¬Writable n → Stamping now n s ⟨.error fault, s, []⟩
  /-- The number is written and there is no date. -/
  | undated {fault : Fault} : Writable n → ¬HasDate now n →
    Stamping now n s ⟨.error fault, s.withHeader ageHeader (maxAge n), []⟩
  /-- Both are written. -/
  | stamped {t : Session} {records : List Log.Record} : Writable n → HasDate now n → Stamped now n s t →
    Stamping now n s ⟨.ok n, t, records⟩

/-- To write the headers comes to one of the three ends. -/
lemma stamping (now : Rat) (n : Int) (s : Session) : Stamping now n s (stamp now n s) := by
  rw [stamp]
  -- the three ends: no numeral for the age, an age and no date, both
  by_cases hwritable : Writable n
  · rw [writeNumeral_of_writable hwritable]
    dsimp only
    have hdate : HasDate now n ↔ _ := hasDate_iff
    cases hbind : (Instant.after now n).bind Instant.date with
    | error fault => exact .undated hwritable (by simp [hdate, hbind])
    | ok d =>
      have hne : ageHeader ≠ dateHeader := by decide
      refine .stamped hwritable (hdate.2 ⟨d, hbind⟩) ⟨rfl, fun name hage hdate => ?_, ?_, d, hbind, ?_⟩
      · exact (Table.get?_put_of_ne hdate _ _).trans (Table.get?_put_of_ne hage _ _)
      · exact (Table.get?_put_of_ne hne _ _).trans (Table.get?_put_self _ _ _)
      · exact Table.get?_put_self _ _ _
  · rw [writeNumeral_of_not_writable hwritable]
    exact .unwritten hwritable

/-- Whether an evaluation leaves both headers for the number that it comes to, or else the session as it was. -/
def Whole (now : Rat) (s : Session) (o : Outcome (Option Int)) : Prop :=
  match o.result with
  | .ok (some n) => Stamped now n s o.session
  | .ok none | .error _ => o.session = s

/-- Whether the lifetime that is found can be written as a number and its end has no date. -/
structure Dateless (now : Rat) (ds : List Directive) (s : Session) (n : Int) : Prop where
  found : (find ds s).result = .ok (some n)
  writable : Writable n
  dateless : ¬HasDate now n

/-- Where a lifetime is found, the evaluation comes to what it comes to to write it. -/
lemma apply_of_found (now : Rat) (h : (find ds s).result = .ok (some n)) : ∃ o, Stamping now n s o ∧
    (apply now ds s).result = o.result.map some ∧ (apply now ds s).session = o.session := by
  refine ⟨stamp now n s, stamping now n s, ?_⟩
  rw [apply, Outcome.andThen, h]
  dsimp only
  rw [find_session, Outcome.andThen]
  cases (stamp now n s).result <;> exact ⟨rfl, rfl⟩

/-- Where no lifetime is found, the response is left whole: nothing is written. -/
lemma whole_of_not_found (h : ∀ n, (find ds s).result ≠ .ok (some n)) : Whole now s (apply now ds s) := by
  rw [Whole, apply, Outcome.andThen]
  cases hfind : (find ds s).result with
  | error fault => exact find_session ds s
  | ok found =>
    cases found with
    | none => exact find_session ds s
    | some n => exact absurd hfind (h n)

/-- A lifetime without a date ends in a fault after its number is written. -/
lemma Dateless.apply (h : Dateless now ds s n) : (∃ fault, (apply now ds s).result = .error fault) ∧
    (Expires.apply now ds s).session = s.withHeader ageHeader (maxAge n) := by
  obtain ⟨o, hstamping, hresult, hsession⟩ := apply_of_found now h.found
  rw [hresult, hsession]
  cases hstamping with
  | unwritten hnot => exact absurd h.writable hnot
  | undated => exact ⟨⟨_, rfl⟩, rfl⟩
  | stamped _ hdate => exact absurd hdate h.dateless

/-- A lifetime with a date is what the evaluation comes to. -/
lemma apply_of_hasDate (h : (find ds s).result = .ok (some n)) (hwritable : Writable n)
    (hdate : HasDate now n) : (apply now ds s).result = .ok (some n) := by
  obtain ⟨o, hstamping, hresult, -⟩ := apply_of_found now h
  rw [hresult]
  cases hstamping with
  | unwritten hnot => exact absurd hwritable hnot
  | undated _ hdateless => exact absurd hdate hdateless
  | stamped => rfl

/-- An evaluation leaves both headers or changes nothing, unless the lifetime that is found has no date. Then it
ends with a fault and leaves the number written, which is no change exactly if the number was there before. A
lifetime with a date that can be written is what the evaluation comes to. -/
theorem apply_whole_iff (now : Rat) (ds : List Directive) (s : Session) :
    (Whole now s (apply now ds s) ↔
      ∀ n, Dateless now ds s n → s.responseHeaders.get? ageHeader = some (maxAge n)) ∧
    (∀ n, Dateless now ds s n → (∃ fault, (apply now ds s).result = .error fault) ∧
      (apply now ds s).session = s.withHeader ageHeader (maxAge n)) ∧
    ∀ n, (find ds s).result = .ok (some n) → Writable n → HasDate now n →
      (apply now ds s).result = .ok (some n) := by
  have hunchanged (n : Int) : s.withHeader ageHeader (maxAge n) = s ↔
      s.responseHeaders.get? ageHeader = some (maxAge n) := by
    rw [← Table.put_eq_self_iff]
    exact ⟨congrArg Session.responseHeaders, fun h => by rw [Session.withHeader, h]⟩
  refine ⟨⟨fun hwhole n hn => ?_, fun hsame => ?_⟩, fun n hn => hn.apply, fun n => apply_of_hasDate⟩
  · obtain ⟨⟨fault, hfault⟩, hsession⟩ := hn.apply
    rw [Whole, hfault, hsession] at hwhole
    exact (hunchanged n).1 hwhole
  · -- without a lifetime nothing is written; with one, only a missing date leaves half of it
    by_cases hfound : ∃ n, (find ds s).result = .ok (some n)
    · obtain ⟨n, hfound⟩ := hfound
      obtain ⟨o, hstamping, hresult, hsession⟩ := apply_of_found now hfound
      rw [Whole, hresult, hsession]
      cases hstamping with
      | unwritten => rfl
      | undated hwritable hdateless =>
        exact (hunchanged n).2 (hsame n ⟨hfound, hwritable, hdateless⟩)
      | stamped _ _ hstamped => exact hstamped
    · exact whole_of_not_found (by simpa using hfound)

/-- A lifetime that ends after the year 9999. -/
def farDocument : Text := "ExpiresActive on\nExpiresDefault \"access plus 9999 years\"".toList

/-- The lifetime of such a document is written as a number alone. -/
theorem apply_farDocument_not_whole : ∃ p as, parse farDocument = .ok p ∧
    Selection.select none {} p.directives = .ok as ∧ ¬Whole 0 {} (apply 0 as {}) := by
  let ds : List Directive :=
    [.rule 1 { kind := .expiresActive, detail := .expires true 0 },
      .rule 2 { kind := .expiresDefault, value := some "access plus 9999 years".toList,
                detail := .expires false 315328464000 }]
  have hparse : parse farDocument = .ok ⟨ds, []⟩ := by rfl
  have hinstant : Instant.after 0 315328464000 = .ok 315328464000 := by decide +kernel
  have hdateless : Dateless 0 ds {} 315328464000 := by
    refine ⟨by rfl, ?_, ?_⟩
    · exact lt_of_lt_of_le (show 315328464000 < 10 ^ 12 by decide)
        (Nat.pow_le_pow_right (by decide) (by decide))
    · rintro ⟨t, ht, -, hend⟩
      rw [hinstant] at ht
      cases ht
      revert hend
      decide +kernel
  refine ⟨_, ds, hparse, by rfl, fun hwhole => ?_⟩
  obtain ⟨⟨fault, hfault⟩, hsession⟩ := hdateless.apply
  rw [Whole, hfault, hsession] at hwhole
  exact absurd (congrArg Session.responseHeaders hwhole) (by decide)

end Expires

end HtGate

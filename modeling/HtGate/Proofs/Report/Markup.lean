import HtGate.Proofs.Directive.Parsing
import HtGate.Proofs.Directive.Printing
import HtGate.Report.Html
/-!
# The markup of pages

A page shows texts of the configuration and of the request only in their escaped form, in which no character
opens or closes a tag. So how many characters of a page do is said by the parts of the page alone: each
directive has a row of ten tags, each diagnostic an item of two, and what was decided a card of eight.
-/

namespace HtGate.Report

namespace Html

/-- Whether a character opens or closes a tag. -/
def IsBracket (c : Char) : Prop := c = '<' ∨ c = '>'

/-- How many tags a page has for so many directives and diagnostics, with a decision or without. -/
def tagCount (directives diagnostics : Nat) (decided : Bool) : Nat :=
  40 + 10 * directives + (if decided then 8 else 0) +
    if diagnostics = 0 then 0 else 6 + 2 * diagnostics

section Parts

-- In the lemmas about parts, the texts of the page itself are first taken apart into their characters, which
-- are then counted; to count in the texts as they stand is slow.
variable {c : Char} (hc : IsBracket c)

include hc

/-- Nothing that is escaped opens or closes a tag. -/
lemma not_mem_escape (t : Text) : c ∉ escape t := by
  intro hmem
  obtain ⟨d, -, hd⟩ := List.mem_flatMap.1 hmem
  rw [escapeChar] at hd
  by_cases hspecial : d = '&' ∨ d = '<' ∨ d = '>' ∨ d = '"' ∨ d = '\''
  · -- no replacement has a bracket
    rcases hspecial with rfl | rfl | rfl | rfl | rfl <;> rcases hc with rfl | rfl <;>
      exact absurd hd (by decide)
  · -- a bracket is always replaced
    obtain ⟨hamp, hlt, hgt, hquote, hmark⟩ := by simpa only [not_or] using hspecial
    rw [beq_false_of_ne hamp, beq_false_of_ne hlt, beq_false_of_ne hgt, beq_false_of_ne hquote,
      beq_false_of_ne hmark] at hd
    cases List.mem_singleton.1 hd
    exact hc.elim hlt hgt

/-- An escaped text has no brackets. -/
lemma count_escape (t : Text) : (escape t).count c = 0 :=
  List.count_eq_zero.2 (not_mem_escape hc t)

/-- The head of a page has fifteen tags, whatever the configuration is. -/
lemma count_header (made : Date) (config : Config) : (header made config).count c = 15 := by
  simp only [header, style, block, List.flatMap_cons, List.flatMap_nil, String.toList_append,
    -String.reduceToList, -String.reduceAppend]
  repeat rw [String.toList_ofList]
  simp only [List.count_append, count_escape hc]
  rcases hc with rfl | rfl <;> decide +kernel

/-- What was decided is a card of eight tags, if there was a request to decide about. -/
lemma count_decision (e : Option Evaluation) :
    (decision e).count c = if e.isSome then 8 else 0 := by
  cases e with
  | none => rfl
  | some e =>
    have hstatus : (statusText e.decision.status).count c = 0 := by
      rw [statusText.eq_def]
      split
      · rfl
      · split
        · rfl
        · simp only [List.count_append, count_escape hc]
          rcases hc with rfl | rfl <;> decide
    have hblank (t : Text) : (' ' :: t).count c = t.count c :=
      List.count_cons_of_ne (by rcases hc with rfl | rfl <;> decide)
    unfold decision shown
    repeat rw [String.toList_ofList]
    simp only [List.count_append, hblank, count_escape hc, hstatus, Option.isSome_some, if_true]
    rcases hc with rfl | rfl <;> decide +kernel

/-- Indentation has no brackets. -/
lemma count_nesting (depth : Nat) : (nesting depth).count c = 0 := by
  apply List.count_eq_zero.2
  intro hmem
  obtain ⟨t, ht, hct⟩ := List.mem_flatten.1 hmem
  cases List.eq_of_mem_replicate ht
  rcases hc with rfl | rfl <;> exact absurd hct (by decide)

/-- A row of the table has ten tags, whatever the directive is. -/
lemma count_row (depth : Nat) (d : Directive) : (row depth d).count c = 10 := by
  unfold row
  repeat rw [String.toList_ofList]
  simp only [List.count_append, count_escape hc, count_nesting hc]
  rcases hc with rfl | rfl <;> decide +kernel

/-- Each directive has a row, at whatever depth. -/
lemma count_rows (depth : Nat) (ds : List Directive) :
    (rows depth ds).count c = 10 * Directive.countAll ds := by
  induction ds using Directive.forest_induction generalizing depth with
  | nil => rfl
  | rule line r ds ih =>
    rw [rows, rowsOf, List.count_append, count_row hc, ih, Directive.countAll, Directive.count]
    omega
  | block line head children ds ihc ih =>
    rw [rows, rowsOf, List.count_append, List.count_append, count_row hc, ihc, ih, Directive.countAll,
      Directive.count]
    omega

/-- The table has a row for each directive, at whatever depth it stands. -/
lemma count_directives (r : Report) :
    (directives r).count c = 16 + 10 * Directive.countAll r.parsed.directives := by
  have hframe : (directives r).count c = (rows 0 r.parsed.directives).count c + 16 := by
    unfold directives block
    simp only [List.flatMap_cons, List.flatMap_nil, -String.reduceToList]
    repeat rw [String.toList_ofList]
    simp only [List.count_append, count_escape hc]
    rw [Nat.add_right_comm, Nat.add_comm _ ((rows 0 r.parsed.directives).count c)]
    apply congrArg
    rcases hc with rfl | rfl <;> decide +kernel
  rw [hframe, count_rows hc]
  omega

/-- A diagnostic is an item of two tags. -/
lemma count_item (d : Diagnostic) : (item d).count c = 2 := by
  unfold item
  repeat rw [String.toList_ofList]
  simp only [List.count_append, count_escape hc]
  rcases hc with rfl | rfl <;> decide

/-- Each diagnostic has its item. -/
lemma count_items (ds : List Diagnostic) : (ds.flatMap item).count c = 2 * ds.length := by
  induction ds with
  | nil => rfl
  | cons d ds ih =>
    rw [List.flatMap_cons, List.count_append, count_item hc, ih, List.length_cons]
    omega

/-- The diagnostics are a list, unless there are none. -/
lemma count_diagnostics (ds : List Diagnostic) :
    (diagnostics ds).count c = if ds.length = 0 then 0 else 6 + 2 * ds.length := by
  cases ds with
  | nil => rfl
  | cons d ds =>
    have hframe : (diagnostics (d :: ds)).count c = ((d :: ds).flatMap item).count c + 6 := by
      unfold diagnostics
      repeat rw [String.toList_ofList]
      simp only [List.count_append, count_escape hc]
      rw [Nat.add_right_comm, Nat.add_comm _ (((d :: ds).flatMap item).count c)]
      apply congrArg
      rcases hc with rfl | rfl <;> decide +kernel
    rw [hframe, count_items hc, List.length_cons]
    simp
    omega

/-- The foot of a page has nine tags, whatever the canonical form is. -/
lemma count_footer (canonical : Text) : (footer canonical).count c = 9 := by
  unfold footer
  repeat rw [String.toList_ofList]
  simp only [List.count_append, count_escape hc]
  rcases hc with rfl | rfl <;> decide +kernel

/-- The brackets of a page are those of its parts. -/
lemma count_page (made : Date) (r : Report) (canonical : Text) :
    (page made r canonical).count c =
      tagCount (Directive.countAll r.parsed.directives) r.parsed.diagnostics.length
        r.evaluation.isSome := by
  have hlines : (block ["", ""]).count c = 0 := by rcases hc with rfl | rfl <;> decide
  have hindent : "  ".toList.count c = 0 := by rcases hc with rfl | rfl <;> decide
  unfold page tagCount
  simp only [List.count_append, count_header hc, count_decision hc, count_directives hc,
    count_diagnostics hc, count_footer hc, hlines, hindent, -String.reduceToList]
  omega

end Parts

end Html

/-- A report of a configuration that is read has a page. The characters of a page that open or close tags are
those of its own parts: how many there are follows from the numbers of directives and diagnostics and from
whether something was decided, whatever the texts, the reasons and the statuses are. -/
theorem toHtml_brackets (made : Date) (r : Report) :
    (∀ content, parse content = .ok r.parsed → ∃ page, r.toHtml made = .ok page) ∧
    ∀ page, r.toHtml made = .ok page → ∀ c, Html.IsBracket c →
      page.count c = Html.tagCount (Directive.countAll r.parsed.directives)
        r.parsed.diagnostics.length r.evaluation.isSome := by
  constructor
  · intro content hcontent
    obtain ⟨canonical, hcanonical⟩ := Printer.exists_print indentation (wellFormed_parse hcontent)
    refine ⟨Html.page made r canonical, ?_⟩
    rw [toHtml, Report.canonical, hcanonical]
    rfl
  · intro page hpage c hc
    rw [toHtml] at hpage
    cases hcanonical : r.canonical with
    | error fault =>
      rw [hcanonical] at hpage
      cases hpage
    | ok canonical =>
      rw [hcanonical] at hpage
      obtain rfl := Except.ok.inj hpage
      exact Html.count_page hc made r canonical

/-- A value and a line that cannot be read, both of which look like tags. -/
def taggedText : Text := "AuthName \"<b>\"\n<i>".toList

/-- What the reasons and the path look like adds nothing to the tags of a page either. -/
theorem toHtml_taggedText_brackets :
    ∃ r : Report, parse taggedText = .ok r.parsed ∧ r.config.path = "<u>".toList ∧
      r.evaluation.map (·.decision.reason) = some "</p>".toList ∧
      ∃ page, r.toHtml (Date.ofSeconds 0) = .ok page ∧ Html.IsBracket '<' ∧ page.count '<' = 66 := by
  let r : Report :=
    { config :=
        { path := "<u>".toList, content := taggedText, digest := [], size := 18, name := [],
          modified := 0 }
      parsed :=
        { directives := [.rule 1 { kind := .authName, value := some "<b>".toList }]
          events := [.diagnosed ⟨2, .unreadable "<i>".toList⟩] }
      evaluation := some
        { session := {}, decision := .deny 403 "</p>".toList, policy := {}, isProtected := false,
          isWhitelisted := false, lifetime := none } }
  have hparse : parse taggedText = .ok r.parsed := rfl
  obtain ⟨hpage, hcount⟩ := toHtml_brackets (Date.ofSeconds 0) r
  obtain ⟨page, hpage⟩ := hpage taggedText hparse
  exact ⟨r, hparse, rfl, rfl, page, hpage, .inl rfl, hcount page hpage '<' (.inl rfl)⟩

end HtGate.Report

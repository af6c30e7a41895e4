import HtGate.Expires
import HtGate.Proofs.Directive.RoundTrip
/-!
# What bears on an evaluation

An evaluation looks at some rules as a whole, asks of an AuthType only whether it is Basic and of a
lifetime for a content type only whether it is the one of the response, and passes over all other rules. A
rule is faithful if whatever its line is read back as bears on evaluations as the rule does. That is so for
stable rules, and for those that are passed over.
-/

namespace HtGate

namespace Kind

/-- Whether an evaluation looks at the rules of a kind as a whole. -/
def weighs : Kind → Bool
  | order | allowFrom | denyFrom | expiresActive | expiresDefault | guard _ | requireAllGranted
  | requireAllDenied | requireIp | requireNotIp | requireValidUser | authName | authUserFile => true
  | _ => false

/-- Whether evaluations pass over the rules of a kind. -/
def isIdle (kind : Kind) : Bool := !(kind.weighs || kind == authType || kind == expiresByType)

/-- The keywords of the rules that bear on evaluations. -/
def bearingKeywords : List Text :=
  [order, allowFrom, denyFrom, expiresActive, expiresDefault, requireIp, authName, authUserFile,
    authType, expiresByType].map keyword ++ GuardSetting.all.map GuardSetting.keyword

/-- A keyword says whether rules with it are passed over. -/
lemma isIdle_eq (kind : Kind) : kind.isIdle = !bearingKeywords.contains kind.keyword := by
  cases kind with
  | header always action => cases always <;> cases action <;> decide
  | phpValue admin | phpFlag admin => cases admin <;> decide
  | guard setting => cases setting <;> decide
  | other name => rfl
  | _ => decide

end Kind

namespace Rule

/-- The rule, if an evaluation looks at it as a whole. -/
def weighed? (r : Rule) : Option Rule := if r.kind.weighs then some r else none

/-- Whether the value of a rule is the word Basic. -/
def namesBasic (r : Rule) : Bool := r.value.any fun t => Text.lower t == "basic".toList

/-- Whether a rule that names the way to prove an identity names Basic. -/
def asksBasic? (r : Rule) : Option Bool := if r.kind = .authType then some r.namesBasic else none

/-- Whether a rule names the content type of the response of a session. -/
def names (s : Session) (r : Rule) : Bool :=
  r.name.any fun name =>
    !name.isEmpty && Text.lower name == Text.lower (Expires.contentType s)

/-- The lifetime that a rule for a content type gives the response of a session now, if it is a rule for
that content type and the end of the lifetime has a date. -/
def lifetimeAt? (now : Rat) (s : Session) (r : Rule) : Option Int :=
  if r.kind == .expiresByType && r.names s then
    match Expires.lifetime r with
    | .ok (.ok seconds) => if (Expires.stamp now seconds s).result.isOk then some seconds else none
    | _ => none
  else none

/-- Whether two rules, either of which may be absent, are the same to evaluations. -/
structure SameBearing (a b : Option Rule) : Prop where
  weighed : a.bind weighed? = b.bind weighed?
  asksBasic : a.bind asksBasic? = b.bind asksBasic?
  lifetime : ∀ now s, a.bind (lifetimeAt? now s) = b.bind (lifetimeAt? now s)

/-- Whether the line of a rule can only be read as what is the same to evaluations. -/
def Faithful (r : Rule) : Prop :=
  ∀ t reading, Printer.rule r = .ok t → RuleReader.read (Text.trim t) = .ok reading →
    SameBearing (some r) reading.rule

/-- What a function of rules that evaluations look at as a whole makes of any rule. -/
lemma elim_weighed? {α : Type} {f : Rule → α} {a : α} {r : Rule}
    (h : r.kind.weighs = false → f r = a) : r.weighed?.elim a f = f r := by
  cases hw : r.kind.weighs with
  | true => simp [weighed?, hw]
  | false => simp [weighed?, hw, h hw]

/-- A rule bears on evaluations as it does. -/
lemma SameBearing.refl (a : Option Rule) : SameBearing a a := ⟨rfl, rfl, fun _ _ => rfl⟩

/-- A rule that is passed over is the same to evaluations as none. -/
lemma sameBearing_none {r : Rule} (h : r.kind.isIdle = true) : SameBearing (some r) none := by
  simp only [Kind.isIdle, Bool.not_eq_true', Bool.or_eq_false_iff, beq_eq_false_iff_ne] at h
  obtain ⟨⟨hweighs, hauth⟩, hexpires⟩ := h
  refine ⟨?_, ?_, fun now s => ?_⟩
  · simp [weighed?, hweighs]
  · simp [asksBasic?, hauth]
  · simp [lifetimeAt?, hexpires]

/-- A stable rule is faithful. -/
lemma faithful_of_stable {r : Rule} (hw : r.WellFormed) (hs : r.Stable) : r.Faithful := by
  intro t reading hprint hread
  rw [Statement.read_of_stable hw hs hprint] at hread
  cases hread
  exact .refl _

/-- What the line of a rule is read as begins with the same keyword. -/
lemma keyword_of_read {r r' : Rule} (hw : r.WellFormed) {t : Text} {remarks : List Remark}
    (hprint : Printer.rule r = .ok t) (hread : RuleReader.read (Text.trim t) = .ok ⟨some r', remarks⟩) :
    r'.kind.keyword = r.kind.keyword := by
  obtain ⟨reader, u, hline⟩ := hw.line
  obtain ⟨c, hc, heq⟩ := hline.read
  have hkept : Text.trimEnd u <+: u := List.rdropWhile_prefix _ _
  have hnl : '\n' ∉ c.remaining := by
    rw [hc, List.mem_cons, not_or]
    exact ⟨by decide, fun hm => hline.oneLine (hkept.subset hm)⟩
  rw [heq t hprint] at hread
  exact (RuleReader.sound_of_mem_table _ hline.known hnl hread).2.2

/-- A rule that is passed over is faithful: whatever its line is read as is passed over, too. -/
lemma faithful_of_isIdle {r : Rule} (hw : r.WellFormed) (h : r.kind.isIdle = true) :
    r.Faithful := by
  intro t ⟨rule, remarks⟩ hprint hread
  have hnone := sameBearing_none h
  cases rule with
  | none => exact hnone
  | some r' =>
    have hidle : r'.kind.isIdle = true := by
      rw [Kind.isIdle_eq, keyword_of_read hw hprint hread, ← Kind.isIdle_eq, h]
    have hnone' := sameBearing_none hidle
    exact ⟨hnone.weighed.trans hnone'.weighed.symm, hnone.asksBasic.trans hnone'.asksBasic.symm,
      fun now s => (hnone.lifetime now s).trans (hnone'.lifetime now s).symm⟩

end Rule

namespace Statement

/-- Whether the line of a statement can only be read as what is the same to evaluations. -/
def Faithful : Statement → Prop
  | rule r => r.Faithful
  | opening head => head.Stable

end Statement

end HtGate

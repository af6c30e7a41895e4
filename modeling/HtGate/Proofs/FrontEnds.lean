import HtGate.Cli.Run
import HtGate.Proofs.Access.Course
import HtGate.Proofs.Directive.Mark
import HtGate.Proofs.Evaluation
import HtGate.Proofs.Files
import HtGate.Proofs.Options
import HtGate.Web.Api
/-!
# One file, two front ends

A configuration can be sent to the interface over HTTP, with the parameters of a request, or it can be named
on a command line, with options that describe the request. What the two report about directives, diagnostics
and the decision is made of the text that is read, the modules, and the address, the method, the file name and
the credentials of the request. The parameters and the options come to the same on all of these. The text is
the same unless a mark stands in front of the bytes: the command line drops it, and the interface does not.
-/

namespace HtGate

/-- The decision depends on the address and the credentials, and on the method and the file name by which
directives are selected, and on nothing else of the request. Nor does it depend on the time. -/
lemma Evaluation.decision_congr {world world' : Surroundings} {ds : List Directive} {s s' : Session}
    {e e' : Evaluation}
    (hfiles : world.files = world'.files) (hmodules : world.modules = world'.modules)
    (hip : s.clientIp = s'.clientIp) (hmethod : s.method = s'.method)
    (hfilename : s.filename = s'.filename) (hheader : s.authorization = s'.authorization)
    (he : Evaluation.ofDirectives world ds s = .ok e) (he' : Evaluation.ofDirectives world' ds s' = .ok e') :
    e.decision = e'.decision := by
  obtain ⟨as, has, hdecision, -⟩ := Evaluation.ofDirectives_eq_ok_iff.1 he
  obtain ⟨bs, hbs, hdecision', -⟩ := Evaluation.ofDirectives_eq_ok_iff.1 he'
  rw [Access.select_congr hmethod hfilename, hmodules, hbs] at has
  obtain rfl := Except.ok.inj has
  rw [Access.decide, (Access.decideWith_outcome _ _ _ _).1] at hdecision hdecision'
  rw [hfiles, hip, hheader, hdecision'] at hdecision
  exact (Except.ok.inj hdecision).symm

/-- What a report about a request says as a JSON object. -/
lemma Report.members_of_toJson {made : Date} {r : Report} {e : Evaluation} {j : Json}
    (h : r.toJson made = .ok j) (he : r.evaluation = some e) :
    ∃ canonical, Printer.print indentation r.parsed.directives = .ok canonical ∧
      j.member? "directives".toList = some (.list (Directive.toJsonAll r.parsed.directives)) ∧
      j.member? "diagnostics".toList = some (.list (r.parsed.diagnostics.map diagnosticJson)) ∧
      j.member? "canonical".toList = some (.text canonical) ∧
      j.member? "decision".toList = some (decisionJson e.decision) := by
  rw [toJson] at h
  cases hcanonical : r.canonical with
  | error fault =>
    rw [hcanonical] at h
    cases h
  | ok canonical =>
    rw [hcanonical, he] at h
    cases h
    exact ⟨canonical, hcanonical, rfl, rfl, rfl, rfl⟩

/-- The verdict that a report about a request shows. -/
lemma Report.verdict_of_toJson {world : Surroundings} {config : Config} {s : Session} {r : Report}
    {made : Date} {j : Json} {ds : List Directive} {v : Verdict}
    (hmake : make world config (some s) = .ok r) (hj : r.toJson made = .ok j)
    (hparse : (parse config.content).map (·.directives) = .ok ds)
    (hv : (Evaluation.ofDirectives world ds s).map (·.decision.verdict) = .ok v) :
    (j.member? "decision".toList).bind (·.member? "verdict".toList) = some (.text v.word) := by
  obtain ⟨e, -, hparsed, he, hevaluation⟩ := eq_of_make hmake
  obtain ⟨_, -, -, -, -, hdecision⟩ := members_of_toJson hj hevaluation
  rw [hparsed] at hparse
  rw [← Except.ok.inj hparse, he] at hv
  rw [hdecision, Option.bind_some, ← Except.ok.inj hv]
  rfl

/-- A diagnostic as an object shows its line and its wording. -/
lemma Report.eq_of_diagnosticJson {d d' : Diagnostic} (h : diagnosticJson d = diagnosticJson d') :
    d.line = d'.line ∧ d.message = d'.message := by
  simp only [diagnosticJson, object, List.map_cons, List.map_nil, Json.object.injEq, List.cons.injEq,
    Prod.mk.injEq, true_and, and_true, Json.int.injEq, Json.text.injEq] at h
  exact ⟨Int.ofNat.inj h.1, h.2⟩

namespace Config

/-- The mark at the front of bytes by which some programs tell UTF-8. -/
def markBytes : Bytes := [0xEF, 0xBB, 0xBF]

/-- Bytes without a mark are loaded as they are. -/
lemma withoutMark_of_not_prefix {bytes : Bytes} (h : ¬markBytes <+: bytes) : withoutMark bytes = bytes := by
  unfold withoutMark
  split
  · exact absurd ⟨_, rfl⟩ h
  · rfl

/-- What is loaded from a file is its text without the mark. -/
lemma content_of_load {limit : Int} {files : Files} {path : Text} {config : Config} {bytes : Bytes}
    {modified : Int}
    (hfile : files.entryAt (Path.absolute files.workingDirectory path).parts =
      some ⟨.file bytes, modified⟩)
    (h : load limit files path = .ok config) : Utf8.decode (withoutMark bytes) = some config.content := by
  simp only [load, hfile] at h
  split_ifs at h
  split at h
  · cases h
  · rename_i content hcontent
    rw [ofText] at h
    split_ifs at h
    cases h
    exact hcontent

end Config

/-- A text that is there and not empty is there as it is. -/
lemma Cli.nonEmpty?_eq_some {t : Option Text} {u : Text} (h : nonEmpty? t = some u) :
    t = some u ∧ u ≠ [] := by
  cases t with
  | none => cases h
  | some t =>
    cases t with
    | nil => cases h
    | cons c t =>
      cases h
      exact ⟨rfl, List.cons_ne_nil c t⟩

/-- An empty text may as well be absent where absence stands for the empty text. -/
lemma Cli.getD_nonEmpty? (t : Option Text) : (nonEmpty? t).getD [] = t.getD [] := by
  cases t with
  | none => rfl
  | some t => cases t <;> rfl

/-- A text that is not empty is there. -/
lemma Cli.nonEmpty?_of_ne_nil {t : Text} (h : t ≠ []) : nonEmpty? (some t) = some t := by
  cases t with
  | nil => exact absurd rfl h
  | cons c t => rfl

namespace Web

/-- The value of the first field with a name. -/
def field? (name : String) (fields : List (Text × Text)) : Option Text :=
  (fields.find? (·.1 == name.toList)).map (·.2)

/-- A parameter in a form: the value of its field, unless that is empty. -/
def formParameter (name : String) (fields : List (Text × Text)) : Option Json :=
  (Cli.nonEmpty? (field? name fields)).map .text

/-- A parameter of a form is the value of its field, unless that is empty. -/
lemma parameter?_form (name : String) (fields : List (Text × Text)) :
    (Payload.form fields).parameter? name = .ok (formParameter name fields) := by
  rw [Payload.parameter?, Payload.get?, formParameter, field?]
  cases fields.find? (·.1 == name.toList) with
  | none => rfl
  | some f =>
    obtain ⟨_, value⟩ := f
    cases value <;> rfl

/-- A parameter of a form is a text if it is there. -/
lemma isNoText_formParameter (name : String) (fields : List (Text × Text)) :
    Parameters.isNoText (formParameter name fields) = false := by
  rw [formParameter]
  cases Cli.nonEmpty? (field? name fields) <;> rfl

/-- The text of a parameter of a form is the value of its field, unless that is empty. -/
lemma text?_formParameter (name : String) (fields : List (Text × Text)) :
    Parameters.text? (formParameter name fields) = Cli.nonEmpty? (field? name fields) := by
  rw [formParameter]
  cases Cli.nonEmpty? (field? name fields) <;> rfl

/-- The modules in a form; an empty list is none. -/
lemma modulesOf_formParameter (fields : List (Text × Text)) :
    Parameters.modulesOf (formParameter "modules" fields) =
      .ok (Modules.ofList ((Cli.nonEmpty? (field? "modules" fields)).getD [])) := by
  rw [formParameter]
  cases Cli.nonEmpty? (field? "modules" fields) <;> rfl

/-- The parameters in a form with an address and a method. -/
def formParameters (ip method : Text) (fields : List (Text × Text)) : Parameters where
  ip := .text ip
  modules := Modules.ofList ((Cli.nonEmpty? (field? "modules" fields)).getD [])
  method := Text.upper method
  uri := formParameter "uri" fields
  file := formParameter "file" fields
  contentType := formParameter "content_type" fields
  authorization := formParameter "authorization" fields

/-- A form with an address and a method has its parameters. -/
lemma ofPayload_form {ip method : Text} {fields : List (Text × Text)}
    (hip : Cli.nonEmpty? (field? "ip" fields) = some ip)
    (hmethod : Cli.nonEmpty? (field? "method" fields) = some method) :
    Parameters.ofPayload (.form fields) = .ok (formParameters ip method fields) := by
  have htruthy : isTruthy (.text ip) = true := by
    simpa [isTruthy] using (Cli.nonEmpty?_eq_some hip).2
  have hip' : formParameter "ip" fields = some (.text ip) := by rw [formParameter, hip]; rfl
  have hmethod' : formParameter "method" fields = some (.text method) := by
    rw [formParameter, hmethod]
    rfl
  simp only [Parameters.ofPayload, parameter?_form, hip', hmethod', bind, Except.bind, Option.getD_some,
    htruthy, modulesOf_formParameter, Parameters.methodOf]
  rfl

/-- Parameters in a form are texts, so that a report on them is one on their session, with nothing else in
it. -/
lemma report_form (world : Surroundings) (config : Config) (ip method : Text)
    (fields : List (Text × Text)) :
    (formParameters ip method fields).report world config =
        Report.make world config (some (formParameters ip method fields).session) ∧
      (formParameters ip method fields).echoes = [] := by
  have hheader : Parameters.isNoAuthorization (formParameter "authorization" fields) = false := by
    rw [formParameter]
    cases Cli.nonEmpty? (field? "authorization" fields) <;> rfl
  have hodd : (formParameters ip method fields).isOdd = false := by
    simp only [Parameters.isOdd, formParameters, Parameters.isNoContentType, isNoText_formParameter,
      hheader, Bool.false_and, Bool.or_false]
    rfl
  constructor
  · rw [Parameters.report, hodd]
    rfl
  · simp [Parameters.echoes, formParameters, isNoText_formParameter]

/-- A report without echoes is as it was. -/
lemma withEchoes_nil (j : Json) : withEchoes [] j = j := by
  cases j with
  | object members =>
    rw [withEchoes]
    congr 1
    refine (List.map_congr_left fun member _ => ?_).trans (List.map_id members)
    obtain ⟨name, value⟩ := member
    cases value with
    | object request => exact ite_self (name, Json.object request)
    | _ => rfl
  | _ => rfl

/-- An answer without a fault is a value. -/
lemma answer_eq_ok {r : Except Fault Json} (h : (answer r).status = 200) :
    ∃ j, r = .ok j ∧ (answer r).body = some j := by
  rw [answer] at h ⊢
  cases r with
  | error fault =>
    simp only [Except.bind] at h
    split at h <;> cases h
  | ok j =>
    simp only [Except.bind] at h ⊢
    by_cases hwide : Text.maxDigits < j.widestNumber
    · rw [if_pos hwide] at h
      cases h
    · rw [if_neg hwide]
      exact ⟨j, rfl, rfl⟩

end Web

/-- Whether the fields of a form and the options of a command line describe the same request, in which the
address, the method and the file name are not left empty. The path and the content type may be anything. -/
structure SameRequest (fields : List (Text × Text)) (o : Cli.Options) : Prop where
  ip : Cli.nonEmpty? o.ip ≠ none ∧ Web.field? "ip" fields = o.ip
  method : o.method ≠ [] ∧ Web.field? "method" fields = some o.method
  file : Cli.nonEmpty? o.file ≠ none ∧ Web.field? "file" fields = o.file
  modules : Cli.nonEmpty? (Web.field? "modules" fields) = Cli.nonEmpty? o.modules
  authorization : Cli.nonEmpty? (Web.field? "authorization" fields) =
    (Cli.nonEmpty? o.user).map Credentials.header

section FrontEnds

variable {fields : List (Text × Text)} {o : Cli.Options}

/-- The configuration of an upload is the text of its bytes. -/
lemma decode_of_configurationOf {payload : Web.Payload} {part : Multipart.Part} {sent : Json × Json}
    {config : Config} (hsent : Web.configurationOf { payload, upload := some part } = .ok sent)
    (hconfig : Web.configOf sent = .ok config) : Utf8.decode part.data = some config.content := by
  rw [Web.configurationOf] at hsent
  dsimp only at hsent
  split at hsent
  · cases hsent
  · cases hsent
  · split at hsent
    · rename_i content hcontent
      cases hsent
      rw [Web.configOf, Config.ofText] at hconfig
      split at hconfig
      · cases hconfig
      · cases hconfig
        exact hcontent
    · cases hsent

/-- What is evaluated for an upload with the fields of a form. -/
lemma report_of_upload {w : Web.Context} {part : Multipart.Part} {ip method : Text} {j : Json}
    (hip : Cli.nonEmpty? (Web.field? "ip" fields) = some ip)
    (hmethod : Cli.nonEmpty? (Web.field? "method" fields) = some method)
    (h : Web.evaluateAnswer w { payload := .form fields, upload := some part } = .ok j) :
    ∃ config r, Utf8.decode part.data = some config.content ∧
      Report.make
        { files := w.files, modules := (Web.formParameters ip method fields).modules, now := w.now } config
        (some (Web.formParameters ip method fields).session) = .ok r ∧ r.toJson w.made = .ok j := by
  rw [Web.evaluateAnswer] at h
  obtain ⟨sent, hsent, h⟩ := bind_eq_ok_iff.1 h
  obtain ⟨p, hp, h⟩ := bind_eq_ok_iff.1 h
  obtain ⟨config, hconfig, h⟩ := bind_eq_ok_iff.1 h
  obtain ⟨r, hr, h⟩ := bind_eq_ok_iff.1 h
  rw [Web.ofPayload_form hip hmethod] at hp
  obtain rfl := Except.ok.inj hp
  obtain ⟨hreport, hechoes⟩ := Web.report_form
    { files := w.files, modules := (Web.formParameters ip method fields).modules, now := w.now } config
    ip method fields
  rw [hreport] at hr
  rw [hechoes] at h
  refine ⟨config, r, decode_of_configurationOf hsent hconfig, hr, ?_⟩
  cases hjson : r.toJson w.made with
  | error fault =>
    rw [hjson] at h
    cases h
  | ok j' =>
    rw [hjson] at h
    cases h
    rw [Web.withEchoes_nil]

/-- What the interface answers to an upload. -/
lemma report_of_respond {w : Web.Context} {request : Web.Request} {part : Multipart.Part} {ip method : Text}
    (hroute : Text.upper request.method = "POST".toList ∧
      Web.Target.path request.target = "/api/evaluate".toList)
    (hbody : Web.Body.ofBytes request.contentType request.body = ⟨.form fields, some part⟩)
    (hip : Cli.nonEmpty? (Web.field? "ip" fields) = some ip)
    (hmethod : Cli.nonEmpty? (Web.field? "method" fields) = some method)
    (h : (Web.respond w request).status = 200) :
    ∃ config r j, Utf8.decode part.data = some config.content ∧
      Report.make
        { files := w.files, modules := (Web.formParameters ip method fields).modules, now := w.now } config
        (some (Web.formParameters ip method fields).session) = .ok r ∧ r.toJson w.made = .ok j ∧
      (Web.respond w request).body = some j := by
  have hanswer : Web.respond w request =
      Web.answer (Web.evaluateAnswer w { payload := .form fields, upload := some part }) := by
    rw [Web.respond, hroute.1, hroute.2, ← hbody]
    rfl
  rw [hanswer] at h ⊢
  obtain ⟨j, hevaluate, hj⟩ := Web.answer_eq_ok h
  obtain ⟨config, r, hcontent, hmake, hjson⟩ := report_of_upload hip hmethod hevaluate
  exact ⟨config, r, j, hcontent, hmake, hjson, hj⟩

/-- A report that is saved as JSON is found in its file. -/
lemma saveReport_json {c : Cli.Context} {r : Report} (h : (Cli.saveReport c o .json r).fault = none) :
    ∃ j reportPath, r.toJson c.made = .ok j ∧
      (Cli.saveReport c o .json r).output = Cli.lineOf ["  [REPORT] ".toList, reportPath] ∧
      (Cli.saveReport c o .json r).files.read reportPath = .ok (Utf8.encode (j.indented 0)) := by
  rw [Cli.saveReport] at h ⊢
  cases hpath : Cli.reportPath c o .json r.config with
  | error fault =>
    simp only [hpath] at h
    cases h
  | ok found =>
    obtain ⟨reportPath, files⟩ := found
    cases hwrite : r.write files .json c.made reportPath with
    | error fault =>
      simp only [hpath, hwrite, bind, Except.bind] at h
      cases h
    | ok files' =>
      simp only [hwrite, bind, Except.bind, pure, Except.pure]
      -- the directory is prepared before the report is written
      rw [Report.write] at hwrite
      obtain ⟨j, hj, hwrite⟩ := bind_eq_ok_iff.1 hwrite
      obtain ⟨prepared, -, hwrite⟩ := bind_eq_ok_iff.1 hwrite
      obtain ⟨t, ht, hwrite⟩ := bind_eq_ok_iff.1 hwrite
      rw [Report.jsonText] at ht
      split at ht
      · cases ht
      · cases ht
        exact ⟨j, reportPath, hj, rfl, Files.read_of_write hwrite⟩

/-- What a command that writes a report as JSON writes. -/
lemma report_of_run {c : Cli.Context} {arguments : List Text} (ho : Cli.Options.read arguments = .ok o)
    {path : Text} (hconfig : o.config = some path) (hformat : o.format = .json)
    (h : (Cli.run c arguments).exit = 0) :
    ∃ config r j reportPath, Config.load Config.defaultLimit c.files path = .ok config ∧
      Report.make { files := c.files, modules := Modules.ofList (o.modules.getD []), now := c.now } config
        (Cli.request? o) = .ok r ∧ r.toJson c.made = .ok j ∧
      (Cli.run c arguments).output = Cli.lineOf ["  [REPORT] ".toList, reportPath] ∧
      (Cli.run c arguments).files.read reportPath = .ok (Utf8.encode (j.indented 0)) := by
  obtain ⟨hdir, hroot⟩ := Cli.Options.dirs_of_read ho hconfig
  have hevaluate : (Cli.evaluate c o).fault = none ∧
      (Cli.run c arguments).output = (Cli.evaluate c o).output ∧
      (Cli.run c arguments).files = (Cli.evaluate c o).files := by
    rw [Cli.run, ho] at h ⊢
    dsimp only at h ⊢
    rw [Cli.perform, hdir] at h ⊢
    cases hfault : (Cli.evaluate c o).fault with
    | none => simp [Cli.nonEmpty?, hfault]
    | some fault => simp [Cli.nonEmpty?, hfault] at h
  obtain ⟨hfault, houtput, hfiles⟩ := hevaluate
  rw [houtput, hfiles]
  -- a run with one configuration is its evaluation
  rw [Cli.evaluate] at hfault ⊢
  cases hreport : Cli.reportOf c o with
  | error fault =>
    rw [hreport] at hfault
    cases hfault
  | ok r =>
    simp only [hreport, hformat] at hfault ⊢
    obtain ⟨j, reportPath, hj, hsaved⟩ := saveReport_json hfault
    rw [Cli.reportOf] at hreport
    obtain ⟨config, hload, hmake⟩ := bind_eq_ok_iff.1 hreport
    simp only [Cli.configOf, hroot, Cli.nonEmpty?, hconfig] at hload
    exact ⟨config, r, j, reportPath, hload, hmake, hj, hsaved⟩

end FrontEnds

/-- The members of a report that two front ends have in common. -/
def commonMembers : List Text :=
  ["directives".toList, "diagnostics".toList, "canonical".toList, "decision".toList]

/-- The diagnostics of two reports are not the same if the text of one is that of the other with a mark in
front: the first one shows the mark. -/
lemma not_sameDiagnostics_of_mark {rest : Bytes} {t t' : Text} {p p' : Parsed}
    (hcontent : Utf8.decode (Config.markBytes ++ rest) = some t) (hrest : Utf8.decode rest = some t')
    (hparse : parse t = .ok p) (hparse' : parse t' = .ok p') :
    p.diagnostics.map Report.diagnosticJson ≠ p'.diagnostics.map Report.diagnosticJson := by
  intro hsame
  have hmarked : Utf8.decode (Config.markBytes ++ rest) = some (Text.mark :: t') := by
    rw [Config.markBytes, List.cons_append, List.cons_append, List.singleton_append, Utf8.decode_mark,
      hrest]
    rfl
  obtain rfl : t = Text.mark :: t' := Option.some.inj (hcontent.symm.trans hmarked)
  -- the marked line is reported with its mark, and no report of the other text has one more
  obtain ⟨d, hd, hnot⟩ := exists_diagnostic_mark hparse hparse'
  have hmem : Report.diagnosticJson d ∈ p'.diagnostics.map Report.diagnosticJson :=
    hsame ▸ List.mem_map_of_mem hd
  obtain ⟨d', hd', heq⟩ := List.mem_map.1 hmem
  exact hnot d' hd' (Report.eq_of_diagnosticJson heq)

/-- Two reports on requests that are the same have the same directives, diagnostics, written form and decision
if their texts are the same, and other diagnostics if one of the texts is the other with a mark in front. -/
lemma commonMembers_eq_iff {world world' : Surroundings} {config config' : Config} {s s' : Session}
    {r r' : Report} {made made' : Date} {j j' : Json} {bytes : Bytes}
    (hmake : Report.make world config (some s) = .ok r)
    (hmake' : Report.make world' config' (some s') = .ok r')
    (hfiles : world.files = world'.files) (hmodules : world.modules = world'.modules)
    (hip : s.clientIp = s'.clientIp) (hmethod : s.method = s'.method)
    (hfilename : s.filename = s'.filename) (hheader : s.authorization = s'.authorization)
    (hj : r.toJson made = .ok j) (hj' : r'.toJson made' = .ok j')
    (hcontent : Utf8.decode bytes = some config.content)
    (hcontent' : Utf8.decode (Config.withoutMark bytes) = some config'.content) :
    (∀ key ∈ commonMembers, j.member? key = j'.member? key) ↔ ¬Config.markBytes <+: bytes := by
  obtain ⟨e, -, hparse, he, hevaluation⟩ := Report.eq_of_make hmake
  obtain ⟨e', -, hparse', he', hevaluation'⟩ := Report.eq_of_make hmake'
  obtain ⟨canonical, hprint, hdirectives, hdiagnostics, hcanonical, hdecision⟩ :=
    Report.members_of_toJson hj hevaluation
  obtain ⟨canonical', hprint', hdirectives', hdiagnostics', hcanonical', hdecision'⟩ :=
    Report.members_of_toJson hj' hevaluation'
  constructor
  · -- one text begins with the mark, which its first diagnostic shows
    rintro hmembers ⟨rest, rfl⟩
    have hsame := hmembers "diagnostics".toList (by simp [commonMembers])
    rw [hdiagnostics, hdiagnostics'] at hsame
    exact not_sameDiagnostics_of_mark hcontent hcontent' hparse hparse'
      (Json.list.inj (Option.some.inj hsame))
  · -- both texts are the same, and so is what is made of them
    intro hnot
    rw [Config.withoutMark_of_not_prefix hnot, hcontent] at hcontent'
    rw [Option.some.inj hcontent', hparse'] at hparse
    have hparsed : r'.parsed = r.parsed := Except.ok.inj hparse
    rw [hparsed] at he' hprint' hdirectives' hdiagnostics'
    have hdecided : e.decision = e'.decision :=
      Evaluation.decision_congr hfiles hmodules hip hmethod hfilename hheader he he'
    have hwritten : canonical = canonical' := Except.ok.inj (hprint.symm.trans hprint')
    intro key hkey
    simp only [commonMembers, List.mem_cons, List.not_mem_nil, or_false] at hkey
    rcases hkey with rfl | rfl | rfl | rfl
    · rw [hdirectives, hdirectives']
    · rw [hdiagnostics, hdiagnostics']
    · rw [hcanonical, hcanonical', hwritten]
    · rw [hdecision, hdecision', hdecided]

/-- The interface and the command line, given the same bytes and the same request, say the same about
directives, diagnostics, the written form and the decision if and only if no mark stands in front of the bytes.
With a mark in front the interface takes it for a part of the first line, so that it cannot read that line and
reports it, and the command line never does. -/
theorem respond_run_agree {w : Web.Context} {c : Cli.Context} {request : Web.Request}
    {fields : List (Text × Text)} {part : Multipart.Part} {arguments : List Text} {o : Cli.Options}
    {path : Text} {modified : Int}
    (hroute : Text.upper request.method = "POST".toList ∧
      Web.Target.path request.target = "/api/evaluate".toList)
    (hbody : Web.Body.ofBytes request.contentType request.body = ⟨.form fields, some part⟩)
    (ho : Cli.Options.read arguments = .ok o) (hconfig : o.config = some path)
    (hformat : o.format = .json) (hsame : SameRequest fields o)
    (hfile : c.files.entryAt (Path.absolute c.files.workingDirectory path).parts =
      some ⟨.file part.data, modified⟩)
    (hfiles : w.files = c.files)
    (hweb : (Web.respond w request).status = 200) (hcli : (Cli.run c arguments).exit = 0) :
    ∃ (j j' : Json) (reportPath : Text), (Web.respond w request).body = some j ∧
      (Cli.run c arguments).output = Cli.lineOf ["  [REPORT] ".toList, reportPath] ∧
      (Cli.run c arguments).files.read reportPath = .ok (Utf8.encode (j'.indented 0)) ∧
      ((∀ key ∈ commonMembers, j.member? key = j'.member? key) ↔ ¬Config.markBytes <+: part.data) := by
  obtain ⟨ip, hip⟩ := Option.ne_none_iff_exists'.1 hsame.ip.1
  have hip' : Cli.nonEmpty? (Web.field? "ip" fields) = some ip := by rw [hsame.ip.2, hip]
  have hmethod : Cli.nonEmpty? (Web.field? "method" fields) = some o.method := by
    rw [hsame.method.2, Cli.nonEmpty?_of_ne_nil hsame.method.1]
  obtain ⟨config, r, j, hcontent, hmake, hjson, hj⟩ := report_of_respond hroute hbody hip' hmethod hweb
  obtain ⟨config', r', j', reportPath, hload, hmake', hjson', houtput, hread⟩ :=
    report_of_run ho hconfig hformat hcli
  rw [Cli.request?, hip, Option.map_some] at hmake'
  -- both answers are reports on the same request, so that only the two contents are left to compare
  refine ⟨j, j', reportPath, hj, houtput, hread, ?_⟩
  refine commonMembers_eq_iff hmake hmake' hfiles ?_ rfl rfl ?_ ?_ hjson hjson' hcontent
    (Config.content_of_load hfile hload)
  · simp only [Web.formParameters, hsame.modules, Cli.getD_nonEmpty?]
  · obtain ⟨file, hfile⟩ := Option.ne_none_iff_exists'.1 hsame.file.1
    simp only [Web.Parameters.session, Web.formParameters, Web.text?_formParameter, hsame.file.2]
    rw [hfile, (Cli.nonEmpty?_eq_some hfile).1]
  · simp only [Web.Parameters.session, Web.formParameters, Web.text?_formParameter, hsame.authorization]

/-- A field in a body of several parts, before its delimiter. -/
def fieldPart (name value : String) : Text :=
  "--b\r\nContent-Disposition: form-data; name=\"".toList ++ name.toList ++ "\"\r\n\r\n".toList
    ++ value.toList ++ "\r\n".toList

/-- A request that sends bytes to the interface. -/
def posted (data : Bytes) : Web.Request where
  method := "POST".toList
  target := "/api/evaluate".toList
  contentType := "multipart/form-data; boundary=b".toList
  body :=
    Utf8.encode
        (fieldPart "ip" "10.0.0.1" ++ fieldPart "method" "GET" ++ fieldPart "uri" "/" ++ fieldPart "file" "a"
          ++ "--b\r\nContent-Disposition: form-data; name=\"config_file\"; filename=\"c\"\r\n\r\n".toList)
      ++ data ++ Utf8.encode "\r\n--b--\r\n".toList

/-- The fields that are posted. -/
def postedFields : List (Text × Text) :=
  [("ip".toList, "10.0.0.1".toList), ("method".toList, "GET".toList), ("uri".toList, "/".toList),
    ("file".toList, "a".toList)]

/-- The part of a body with the configuration. -/
def postedPart (data : Bytes) : Multipart.Part := ⟨Web.Body.uploadField, some ['c'], .utf8, data⟩

/-- Files with a configuration in the working directory. -/
def filesWith (data : Bytes) : Files where
  workingDirectory := [['w']]
  entries := [([['w']], ⟨.directory, 0⟩), ([['w'], ['c']], ⟨.file data, 0⟩)]

/-- A command line that names the configuration and describes what is posted. -/
def postedArguments : List Text :=
  ["--config", "c", "--format", "json", "--output", "r", "--ip", "10.0.0.1", "--file", "a"].map (·.toList)

/-- What the command line asks for. -/
def postedOptions : Cli.Options where
  config := some ['c']
  format := .json
  output := some ['r']
  ip := some "10.0.0.1".toList
  file := some ['a']

/-- The interface with the configuration. -/
def webWith (data : Bytes) : Web.Context := ⟨filesWith data, 0, ⟨2024, 1, 1, 0, 0, 0, 0⟩⟩

/-- The command line with the configuration. -/
def cliWith (data : Bytes) : Cli.Context := ⟨filesWith data, 0, ⟨2024, 1, 1, 0, 0, 0, 0⟩, ['/']⟩

/-- How the command line is read. -/
lemma read_postedArguments : Cli.Options.read postedArguments = .ok postedOptions := rfl

/-- The form and the command line describe the same request. -/
lemma sameRequest_posted : SameRequest postedFields postedOptions where
  ip := by decide
  method := by decide
  file := by decide
  modules := by decide
  authorization := by decide

/-- A configuration that lets nobody in. -/
def closedBytes : Bytes := Utf8.encode "Require all denied".toList

/-- The same with a mark in front. -/
def markedBytes : Bytes := Config.markBytes ++ closedBytes

set_option maxRecDepth 4096 in
/-- How the body is read without a mark in front of the configuration. -/
lemma ofBytes_posted_closed :
    Web.Body.ofBytes (posted closedBytes).contentType (posted closedBytes).body =
      ⟨.form postedFields, some (postedPart closedBytes)⟩ := by
  rfl

set_option maxRecDepth 4096 in
/-- How the body is read with a mark in front of the configuration. -/
lemma ofBytes_posted_marked :
    Web.Body.ofBytes (posted markedBytes).contentType (posted markedBytes).body =
      ⟨.form postedFields, some (postedPart markedBytes)⟩ := by
  rfl

/-- Without a mark a configuration that lets nobody in is read alike. -/
theorem respond_run_closedFile_agree :
    (Web.respond (webWith closedBytes) (posted closedBytes)).status = 200 ∧
      (Cli.run (cliWith closedBytes) postedArguments).exit = 0 ∧
      ∃ (j j' : Json) (reportPath : Text),
        (Web.respond (webWith closedBytes) (posted closedBytes)).body = some j ∧
        (Cli.run (cliWith closedBytes) postedArguments).output =
          Cli.lineOf ["  [REPORT] ".toList, reportPath] ∧
        (Cli.run (cliWith closedBytes) postedArguments).files.read reportPath =
          .ok (Utf8.encode (j'.indented 0)) ∧
        ∀ key ∈ commonMembers, j.member? key = j'.member? key := by
  have hweb : (Web.respond (webWith closedBytes) (posted closedBytes)).status = 200 := by decide +kernel
  have hcli : (Cli.run (cliWith closedBytes) postedArguments).exit = 0 := by decide +kernel
  obtain ⟨j, j', reportPath, hj, houtput, hread, hagree⟩ :=
    respond_run_agree (w := webWith closedBytes) (c := cliWith closedBytes)
      ⟨rfl, by decide +kernel⟩ ofBytes_posted_closed read_postedArguments rfl rfl sameRequest_posted rfl rfl
      hweb hcli
  exact ⟨hweb, hcli, j, j', reportPath, hj, houtput, hread, hagree.2 (by decide)⟩

/-- With a mark in front the same configuration lets everybody in at the interface, and nobody on the command
line. -/
theorem respond_run_markedFile_disagree :
    ∃ (j j' : Json) (reportPath : Text),
      (Web.respond (webWith markedBytes) (posted markedBytes)).body = some j ∧
      (Cli.run (cliWith markedBytes) postedArguments).output =
        Cli.lineOf ["  [REPORT] ".toList, reportPath] ∧
      (Cli.run (cliWith markedBytes) postedArguments).files.read reportPath =
        .ok (Utf8.encode (j'.indented 0)) ∧
      (j.member? "decision".toList).bind (·.member? "verdict".toList) =
        some (.text Verdict.allowed.word) ∧
      (j'.member? "decision".toList).bind (·.member? "verdict".toList) =
        some (.text Verdict.denied.word) := by
  obtain ⟨config, r, j, hcontent, hmake, hjson, hj⟩ :=
    report_of_respond (w := webWith markedBytes)
      ⟨rfl, by decide +kernel⟩ ofBytes_posted_marked rfl rfl (by decide +kernel)
  obtain ⟨config', r', j', reportPath, hload, hmake', hjson', houtput, hread⟩ :=
    report_of_run (c := cliWith markedBytes) read_postedArguments rfl rfl (by decide +kernel)
  have hfile : (filesWith markedBytes).entryAt (Path.absolute [['w']] ['c']).parts =
      some ⟨.file markedBytes, 0⟩ := rfl
  have hcontent' := Config.content_of_load hfile hload
  have hmarked : config.content = Text.mark :: "Require all denied".toList :=
    Option.some.inj (hcontent.symm.trans (by decide +kernel))
  have hclosed : config'.content = "Require all denied".toList :=
    Option.some.inj (hcontent'.symm.trans (by decide +kernel))
  have hparse : (parse config.content).map (·.directives) = .ok [] := by
    rw [hmarked]
    rfl
  have hparse' : (parse config'.content).map (·.directives) =
      .ok [.rule 1 { kind := .requireAllDenied }] := by
    rw [hclosed]
    rfl
  exact ⟨j, j', reportPath, hj, houtput, hread,
    Report.verdict_of_toJson hmake hjson hparse (by decide +kernel),
    Report.verdict_of_toJson hmake' hjson' hparse' (by decide +kernel)⟩

end HtGate

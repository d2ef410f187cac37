import ImageRecipe.Proofs.CommandLine.Stages
import ImageRecipe.Proofs.Renderer
import ImageRecipe.Proofs.Template.Unmarked
import ImageRecipe.Proofs.Value.Distinct

/-!
# A document on stdin

Where a document has no tags and nothing is asked for but to read it from stdin, the program writes
the lines of the document.  All that is between, the rendering of its text, the search for templates
and the built-in template, changes nothing.

* `completed_empty`, `Renderer.ofSources_builtin` : without files there is the built-in template
* `Renderer.render_builtin` : what it makes of a document
* `Renderer.FollowsBuiltin` : other engines that make the same of it
* `Scene.dockerfile_of_unmarked` : the Dockerfile for a text without tags
* `run_stdin_of_unmarked` : the run
-/

namespace ImageRecipe

open Template

theorem Template.completed_empty : completed .empty = [(defaultName, builtinText)] := by
  rw [completed, if_neg (by decide)]
  exact List.mergeSort_singleton _

namespace Renderer

/-- The templates when there is only the built-in one. -/
def builtinLibrary : Library := ⟨[⟨eachInstruction, []⟩]⟩

theorem ofSources_builtin (c : Converter) :
    ofSources c [(defaultName, builtinText)] = .ok ⟨builtinLibrary, c⟩ := by
  have hlibrary : Library.ofSources [(defaultName, builtinText)] = .ok builtinLibrary := by
    simp only [Library.ofSources, Library.readAll, ofText_builtinText]
    rfl
  rw [ofSources, Engine.load_modelled, hlibrary]
  rfl

/-- The built-in template writes the lines of a document, whatever the variables are. -/
theorem render_builtin (c : Converter) {d : Document} (hd : d.Distinct) (vars : Mapping Value) :
    render (⟨builtinLibrary, c⟩ : Renderer) defaultName d vars =
      match d.finite.lines c with
      | .ok lines => .ok (String.join (lines.map (· ++ "\n")))
      | .error e => .error (.instruction e) := by
  have hfind : builtinLibrary.find? defaultName = some ⟨eachInstruction, []⟩ := rfl
  rw [render_of_find? hfind]
  exact render_eachInstruction c builtinLibrary hd vars

/-- An engine renders the built-in template as this library's does, whatever it has loaded beside
it. -/
def FollowsBuiltin (E : Engine) : Prop :=
  ∀ {texts : List (String × String)} {templates : E.Templates}, (texts.map Prod.fst).Nodup →
    (defaultName, builtinText) ∈ texts → E.load texts = .ok templates →
    ∀ (c : Converter) {d : Document}, d.Distinct → ∀ vars,
      (⟨templates, c⟩ : Renderer E).render defaultName d vars =
        (⟨builtinLibrary, c⟩ : Renderer).render defaultName d vars

theorem followsBuiltin_modelled : FollowsBuiltin .modelled := by
  intro texts library hnames hmem hload c d hd vars
  have hfind := Library.find?_builtin hnames hmem (Results.ok_of_mapError hload)
  rw [render_builtin c hd, render_of_find? hfind]
  exact render_eachInstruction c library hd vars

end Renderer

namespace CommandLine

variable {F : Type} {verbosity : Nat}

/-- A failure is always told, since its wording starts with its kind. -/
theorem Complaint.text_ofFailure (f : Failure) : (ofFailure f).text = f.message ++ "\n" := by
  have hkind : ∀ kind cause : String, kind ≠ "" → ¬(kind ++ cause).isEmpty = true := by
    intro kind cause hne hempty
    rw [String.isEmpty_iff, String.append_eq_empty_iff] at hempty
    exact hne hempty.1
  have hmessage : ¬f.message.isEmpty = true := by
    cases f with
    | instruction cause => exact hkind "conversion error: " _ (by decide)
    | document cause => exact hkind "document error: " _ (by decide)
    | template cause => exact hkind "template error: " _ (by decide)
    | dockerfile cause => exact hkind "dockerfile parse error: " _ (by decide)
    | inputOutput cause => exact hkind "io error: " _ (by decide)
  exact if_neg hmessage

/-- A journal that is silent leaves no trace of what is told. -/
theorem World.hear_of_silent {w : World F} (h : w.scene.journal = .silent) (events : List Event) :
    w.hear verbosity events = w := by
  have htexts : String.join (events.map (w.scene.journal.text verbosity)) = "" := by
    induction events with
    | nil => rfl
    | cons event rest ih =>
        rw [List.map_cons, String.join_cons, ih, h]
        rfl
  rw [World.hear, htexts, String.append_empty]

theorem Finding.result_rendered {E : Engine} (o : Options) (renderer : Renderer E)
    (document : Document) (vars : Mapping Value) :
    (rendered o renderer document vars).result =
      (renderer.render o.templateName document vars).mapError .ofFailure := by
  unfold rendered
  split <;> rfl

namespace Scene

variable [FileSystem F]

/-- The Dockerfile for a text without tags, made with the built-in template alone: the lines of the
document, or the first failure. -/
theorem dockerfile_of_unmarked (scene : Scene F) {text : String} (h : Unmarked text.toList)
    {o : Options} (hpaths : o.searchPaths = []) (htemplate : o.template = none)
    (templateVariables buildVariables : Mapping Value) :
    (scene.dockerfile .standard o text templateVariables buildVariables).result =
      match Document.ofText text with
      | .error e => .error (.ofFailure (.document e))
      | .ok d => match d.finite.lines .builtin with
        | .error e => .error (.ofFailure (.instruction e))
        | .ok lines => .ok (String.join (lines.map (· ++ "\n"))) := by
  have hname : o.templateName = defaultName := by rw [Options.templateName, htemplate]; rfl
  have hsource : renderSource text templateVariables Supplies.standard.engine = .ok text :=
    renderSource_of_unmarked h templateVariables
  have hrenderer : Renderer.ofSources .builtin (completed .empty) Supplies.standard.engine =
      .ok ⟨Renderer.builtinLibrary, .builtin⟩ := by
    rw [completed_empty]
    exact Renderer.ofSources_builtin .builtin
  unfold dockerfile
  rw [hsource, hpaths, collected]
  cases hdocument : Document.ofText text with
  | error e =>
      simp only [Except.mapError, Finding.bind_of_ok, hdocument]
      rfl
  | ok d =>
      have hrender := Renderer.render_builtin .builtin (Document.distinct_of_ofText hdocument)
        (.merge [templateVariables, buildVariables])
      simp only [Except.mapError, Finding.bind_of_ok, hdocument, hrenderer,
        Finding.result_rendered, hname]
      refine (congrArg (Except.mapError Complaint.ofFailure) hrender).trans ?_
      cases d.finite.lines .builtin with
      | error e => rfl
      | ok lines => rfl

/-- Without files to read, the draft is the Dockerfile for the text on stdin. -/
theorem draft_of_stdin {scene : Scene F} {text : String} (htext : scene.stdin = .ok text)
    {o : Options} (hstdin : o.stdin = true) (hdocument : o.document = none)
    (htemplateVariables : o.templateVariables = none) (hbuildVariables : o.buildVariables = none)
    (s : Supplies) : scene.draft s o = scene.dockerfile s o text .empty .empty := by
  have hread : scene.document o = .ok text := by
    simp only [document, hstdin, hdocument, htext, Except.mapError]
  have hnone : scene.variablesAt none = .ok .empty := rfl
  unfold draft
  rw [hread, htemplateVariables, hbuildVariables, hnone, Finding.bind_of_ok, Finding.bind_of_ok,
    Finding.bind_of_ok]

/-- The draft for a document on stdin that has lines, wherever it is to go. -/
theorem draft_of_lines {scene : Scene F} {text : String} (htext : scene.stdin = .ok text)
    (h : Unmarked text.toList) (output : Option String) (verify : Bool) (verbosity : Nat)
    {lines : List String}
    (hlines : ((Document.ofText text).toOption.bind fun d =>
      (d.finite.lines .builtin).toOption) = some lines) :
    (scene.draft .standard { stdin := true, output, verify, verbosity }).result =
      .ok (String.join (lines.map (· ++ "\n"))) := by
  obtain ⟨d, hdocument, hresult⟩ := Results.of_toOption_bind hlines
  rw [draft_of_stdin htext rfl rfl rfl rfl, scene.dockerfile_of_unmarked h rfl rfl, hdocument]
  simp only [hresult]

/-- What is not to be verified is prepared as it was drafted. -/
theorem result_prepared {scene : Scene F} {o : Options} (h : o.verify = false) (s : Supplies) :
    (scene.prepared s o).result = (scene.draft s o).result := by
  rw [prepared, Finding.result_bind]
  cases (scene.draft s o).result with
  | error c => rfl
  | ok text => exact congrArg Finding.result (Finding.verified_of_not h)

end Scene

/-- Reading a document without tags from stdin, with no other option, writes the lines of the
document to stdout, each ended by a line break.  If the text is no document, or an instruction has
no line, that is told on stderr, and the exit code tells which it is. -/
theorem run_stdin_of_unmarked {text : String} (h : Unmarked text.toList) (files : FileTree) :
    let outcome := run ["--stdin"] files (some text)
    outcome.files = files ∧
      match Document.ofText text with
      | .error e =>
        outcome.code.toNat = 2 ∧ outcome.stdout = "" ∧
          outcome.stderr = (Failure.document e).message ++ "\n"
      | .ok d => match d.finite.lines .builtin with
        | .error e =>
          outcome.code.toNat = 3 ∧ outcome.stdout = "" ∧
            outcome.stderr = "conversion error: " ++ e.message ++ "\n"
        | .ok lines =>
          outcome.code.toNat = 0 ∧ outcome.stdout = String.join (lines.map (· ++ "\n")) ∧
            outcome.stderr = "" := by
  intro outcome
  have hcommand : Command.ofArguments ["--stdin"] = .ok (.generate { stdin := true }) := by
    decide
  let scene : Scene FileTree := .plain files (some text)
  have hdraft : scene.draft .standard { stdin := true } =
      scene.dockerfile .standard { stdin := true } text .empty .empty :=
    Scene.draft_of_stdin rfl rfl rfl rfl rfl .standard
  have hresult := scene.dockerfile_of_unmarked h (o := { stdin := true }) rfl rfl .empty .empty
  rw [← hdraft, ← Scene.result_prepared rfl] at hresult
  have houtcome : outcome = _ := runIn_generate hcommand .standard scene
  rw [World.ended, World.hear_of_silent (by rfl), hresult] at houtcome
  rw [houtcome]
  cases Document.ofText text with
  | error e =>
      exact ⟨rfl, rfl, rfl, String.empty_append.trans (Complaint.text_ofFailure (.document e))⟩
  | ok d =>
      dsimp only
      cases d.finite.lines .builtin with
      | error e =>
          exact ⟨rfl, rfl, rfl,
            String.empty_append.trans (Complaint.text_ofFailure (.instruction e))⟩
      | ok lines => exact ⟨rfl, rfl, String.empty_append, rfl⟩

/-! ## One document -/

theorem unmarked_userDocument : Unmarked "- USER: app\n".toList := by decide +kernel

theorem lines_userDocument :
    ((Document.ofText "- USER: app\n").toOption.bind fun d =>
      (d.finite.lines .builtin).toOption) = some ["USER app"] := by
  decide +kernel

/-- A document with one instruction: the run writes its line. -/
theorem run_stdin_userDocument :
    Unmarked "- USER: app\n".toList ∧
      (run ["--stdin"] .empty (some "- USER: app\n")).code.toNat = 0 ∧
      (run ["--stdin"] .empty (some "- USER: app\n")).stdout = "USER app\n" := by
  obtain ⟨d, hdocument, hresult⟩ := Results.of_toOption_bind lines_userDocument
  have hrun := (run_stdin_of_unmarked unmarked_userDocument .empty).2
  simp only [hdocument, hresult] at hrun
  exact ⟨unmarked_userDocument, hrun.1, hrun.2.1⟩

end CommandLine

end ImageRecipe

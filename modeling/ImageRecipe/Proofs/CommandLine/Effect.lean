import ImageRecipe.Proofs.CommandLine.Files
import ImageRecipe.Proofs.CommandLine.Stages

/-!
# What a run leaves behind

A run that fails has done nothing, and a run that succeeds has changed one file at most.  Both come
from the order of its stages: all but the last one only read, and the last one either does what it
is there for or nothing.  Two things are not the program's to see to: that a write which fails has
changed nothing, and that stdout does not take a part of a text.

* `WritesInPlace` : what runs count on when they write
* `Scene.FailsAtOnce` : stdouts that take all or nothing
* `Tame` : stages that touch no files, and fail without a trace
* `Outcome.Traceless` : ends of runs that have done what they should, or nothing
* `run_changes_only_output` : all runs end like that
-/

namespace ImageRecipe.CommandLine

variable {F Place Content : Type}

/-! ## Files and stdout -/

/-- A write that fails changes nothing, and one that succeeds nothing but what its path leads to.
How files are looked at, and what paths lead to, differs from one file system to the next. -/
structure WritesInPlace [FileSystem F] (look : F → Place → Content)
    (Leads : F → String → Place → Prop) : Prop where
  refused : ∀ (files : F) path text e after,
    FileSystem.write files path text = (.error e, after) → after = files
  confined : ∀ (files : F) path text after, FileSystem.write files path text = (.ok (), after) →
    ∀ place, ¬Leads files path place → look after place = look files place

theorem writesInPlace_fileTree : WritesInPlace FileTree.look FileTree.LeadsTo where
  refused _ _ _ _ _ h := (fileSystem_write_eq_error_iff.mp h).2
  confined _ _ _ _ h _ hplace := FileTree.look_of_write (fileSystem_write_eq_ok_iff.mp h) hplace

/-- What stdout refuses, it refuses before it has taken anything, and takes no part of it. -/
def Scene.FailsAtOnce (scene : Scene F) : Prop :=
  ∀ written text part e, scene.refusal? written text = some (part, e) → written = "" ∧ part = ""

theorem scene_print (w : World F) (text : String) : (w.print text).2.scene = w.scene := by
  unfold World.print
  split <;> rfl

/-- Where stdout fails at once, a text that it refuses leaves it empty. -/
theorem stdout_print {w : World F} {text : String} {e : InputOutputError}
    (h : (w.print text).1 = .error e) (honce : w.scene.FailsAtOnce) :
    (w.print text).2.stdout = "" := by
  unfold World.print at h ⊢
  cases hrefusal : w.scene.refusal? w.stdout text with
  | none =>
      rw [hrefusal] at h
      cases h
  | some refusal =>
      obtain ⟨part, cause⟩ := refusal
      obtain ⟨hwritten, hpart⟩ := honce _ _ _ _ hrefusal
      dsimp only
      rw [hwritten, hpart]
      rfl

/-! ## Stages without files -/

/-- The stage touches no files, and if it fails, it does so with an exit code of its own, and leaves
nothing on a stdout that fails at once. -/
structure Tame {α : Type} (p : Stage (StateM (World F)) α) (w : World F) : Prop where
  scene : (p.after w).2.scene = w.scene
  loud : ∀ c, (p.after w).1 = .error c → c.code ≠ .success
  silent : ∀ c, (p.after w).1 = .error c → w.scene.FailsAtOnce → (p.after w).2.stdout = ""

theorem Tame.bind {α β : Type} {p : Stage (StateM (World F)) α}
    {f : α → Stage (StateM (World F)) β} {w : World F} (hp : Tame p w)
    (hf : ∀ a w, Tame (f a) w) : Tame (p >>= f) w := by
  obtain ⟨hscene, hloud, hsilent⟩ := hp
  have hafter := Stage.after_bind p f w
  cases hfirst : p.after w with
  | mk result between =>
      rw [hfirst] at hafter hscene hloud hsilent
      dsimp only at hafter hscene hloud hsilent
      cases result with
      | ok a =>
          have hsecond := hf a between
          constructor
          case scene => exact hafter ▸ hsecond.scene.trans hscene
          case loud => exact hafter ▸ hsecond.loud
          case silent =>
              exact hafter ▸ fun c hc honce => hsecond.silent c hc (hscene ▸ honce)
      | error c =>
          constructor
          case scene => exact hafter ▸ hscene
          case loud => exact hafter ▸ fun d hd => hloud d (congrArg _ (Except.error.inj hd))
          case silent => exact hafter ▸ fun _ _ => hsilent c rfl

theorem tame_say {complaint : InputOutputError → Complaint}
    (h : ∀ e, (complaint e).code ≠ .success) (text : String) (w : World F) [FileSystem F] :
    Tame (say complaint text) w := by
  have hafter : (say complaint text).after w =
      ((w.print text).1.mapError complaint, (w.print text).2) := rfl
  have herror : ∀ c, ((say complaint text).after w).1 = .error c →
      ∃ e, (w.print text).1 = .error e ∧ complaint e = c := by
    intro c hc
    rw [hafter] at hc
    cases hprint : (w.print text).1 with
    | ok _ =>
        rw [hprint] at hc
        cases hc
    | error e =>
        rw [hprint] at hc
        exact ⟨e, rfl, Except.error.inj hc⟩
  constructor
  case scene => exact scene_print w text
  case loud =>
      intro c hc
      obtain ⟨e, -, rfl⟩ := herror c hc
      exact h e
  case silent =>
      intro c hc honce
      obtain ⟨e, he, -⟩ := herror c hc
      exact stdout_print he honce

/-- Lines are written one by one, up to the first one that is refused; on a stdout that fails at
once, that is the first line. -/
theorem tame_sayAll [FileSystem F] (lines : List String) (w : World F) :
    Tame (sayAll lines) w := by
  induction lines generalizing w with
  | nil => exact ⟨rfl, nofun, nofun⟩
  | cons line rest ih =>
      have hsay : Tame (say .ofInputOutput line) w :=
        tame_say (fun e => exitCode_ne_success (.inputOutput e)) line w
      exact hsay.bind fun _ between => ih between

theorem tame_throw {c : Complaint} (h : c.code ≠ .success) (scene : Scene F) :
    Tame (throw c : Stage (StateM (World F)) Unit) (.start scene) := by
  refine ⟨rfl, ?_, fun _ _ _ => rfl⟩
  rintro _ ⟨⟩
  exact h

/-! ## Ends of runs -/

/-- A run that ends like this has failed and done nothing, or has changed nothing but what a path,
if there is one, leads to. -/
structure Outcome.Traceless (look : F → Place → Content) (Leads : F → String → Place → Prop)
    (scene : Scene F) (target : Option String) (outcome : Outcome F) : Prop where
  failed : outcome.code ≠ .success →
    outcome.files = scene.files ∧ (scene.FailsAtOnce → outcome.stdout = "")
  confined : outcome.code = .success →
    ∀ place, (∀ path, target = some path → ¬Leads scene.files path place) →
      look outcome.files place = look scene.files place

variable {look : F → Place → Content} {Leads : F → String → Place → Prop} {scene : Scene F}
  {target : Option String}

theorem Tame.traceless {p : Stage (StateM (World F)) Unit} (h : Tame p (.start scene)) :
    Outcome.Traceless look Leads scene target
      (.of (p.after (.start scene)).1 (p.after (.start scene)).2) := by
  obtain ⟨hscene, hloud, hsilent⟩ := h
  cases hresult : (p.after (.start scene)).1 with
  | ok _ =>
      refine ⟨fun hcode => absurd rfl hcode, fun _ place _ => ?_⟩
      exact congrArg (look · place) (congrArg Scene.files hscene)
  | error c =>
      exact ⟨fun _ => ⟨congrArg Scene.files hscene, hsilent c hresult⟩,
        fun hcode => absurd hcode (hloud c hresult)⟩

variable [FileSystem F]

/-- The last stage writes all of the text, or fails and writes nothing. -/
theorem traceless_emitted (hwrites : WritesInPlace look Leads) {w : World F}
    (hscene : w.scene = scene) (hempty : w.stdout = "") (o : Options) (text : String) :
    Outcome.Traceless look Leads scene o.output (w.emitted o text) := by
  subst hscene
  have hloud : ∀ e, (Failure.inputOutput e).exitCode ≠ .success := fun e =>
    exitCode_ne_success (.inputOutput e)
  cases houtput : o.output with
  | none =>
      cases hrefusal : w.scene.refusal? w.stdout text with
      | none =>
          rw [World.emitted_taken houtput hrefusal]
          exact ⟨fun hcode => absurd rfl hcode, fun _ _ _ => rfl⟩
      | some refusal =>
          obtain ⟨part, e⟩ := refusal
          rw [World.emitted_refused houtput hrefusal]
          refine ⟨fun _ => ⟨rfl, fun honce => ?_⟩, fun hcode => absurd hcode (hloud e)⟩
          obtain ⟨hwritten, hpart⟩ := honce _ _ _ _ hrefusal
          show w.stdout ++ part = ""
          rw [hwritten, hpart]
          rfl
  | some path =>
      cases hwrite : FileSystem.write w.scene.files path text with
      | mk result after =>
          cases result with
          | ok _ =>
              rw [World.emitted_written houtput hwrite]
              refine ⟨fun hcode => absurd rfl hcode, fun _ place hplace => ?_⟩
              exact hwrites.confined _ _ _ _ hwrite place (hplace path rfl)
          | error e =>
              rw [World.emitted_unwritten houtput hwrite]
              refine ⟨fun _ => ⟨?_, fun _ => hempty⟩, fun hcode => absurd hcode (hloud e)⟩
              exact hwrites.refused _ _ _ _ _ hwrite

/-- Every stage in front of the last one only reads. -/
theorem traceless_ended (hwrites : WritesInPlace look Leads) (s : Supplies) (o : Options) :
    Outcome.Traceless look Leads scene o.output
      ((World.start scene).ended o (scene.prepared s o)) := by
  unfold World.ended
  cases hresult : (scene.prepared s o).result with
  | ok text => exact traceless_emitted hwrites (by rfl) (by rfl) o text
  | error c =>
      exact ⟨fun _ => ⟨rfl, fun _ => rfl⟩,
        fun hcode => absurd hcode (failsLoudly_prepared s o c hresult)⟩

/-- Where the arguments ask for the Dockerfile to be put. -/
def outputPath? (arguments : List String) : Option String :=
  match Command.ofArguments arguments with
  | .ok (.generate o) => o.output
  | _ => none

theorem traceless_runIn (hwrites : WritesInPlace look Leads) (s : Supplies)
    (arguments : List String) (scene : Scene F) :
    (runIn s arguments scene).Traceless look Leads scene (outputPath? arguments) := by
  have hstage : ∀ {p : Stage (StateM (World F)) Unit}, execute s arguments = p →
      Tame p (.start scene) →
      (runIn s arguments scene).Traceless look Leads scene (outputPath? arguments) := by
    rintro p rfl htame
    exact htame.traceless
  have husage : ∀ e : UsageError, (Complaint.usage e.message).code ≠ .success := fun _ h =>
    nomatch (h : ExitCode.usage = .success)
  have hgivingUp : ∀ e, (Complaint.givingUp e).code ≠ .success := fun _ h =>
    nomatch (h : ExitCode.panic = .success)
  cases hcommand : Command.ofArguments arguments with
  | error e => exact hstage (by rw [execute, hcommand]) (tame_throw (husage e) _)
  | ok command =>
      cases command with
      | generate o =>
          rw [runIn_generate hcommand, show outputPath? arguments = o.output by
            rw [outputPath?, hcommand]]
          exact traceless_ended hwrites s o
      | instructions => exact hstage (by rw [execute, hcommand]) (tame_sayAll _ _)
      | completion shell =>
          exact hstage (by rw [execute, hcommand]) (tame_say hgivingUp (s.completion shell) _)
      | version => exact hstage (by rw [execute, hcommand]) (tame_say hgivingUp versionText _)
      | help topic long =>
          exact hstage (by rw [execute, hcommand]) (tame_say hgivingUp (s.help topic long) _)

theorem ExitCode.toNat_eq_zero_iff {code : ExitCode} : code.toNat = 0 ↔ code = .success := by
  cases code <;> decide

/-- A run that does not end with exit code zero has changed no file, and nothing is on a stdout that
fails at once if it fails.  A run that does has changed nothing but what the path that `--output`
names leads to. -/
theorem run_changes_only_output (hwrites : WritesInPlace look Leads) (s : Supplies)
    (arguments : List String) (scene : Scene F) :
    ((runIn s arguments scene).code.toNat ≠ 0 →
      (runIn s arguments scene).files = scene.files ∧
        (scene.FailsAtOnce → (runIn s arguments scene).stdout = "")) ∧
    ((runIn s arguments scene).code.toNat = 0 →
      ∀ place, (∀ path, outputPath? arguments = some path → ¬Leads scene.files path place) →
        look (runIn s arguments scene).files place = look scene.files place) := by
  obtain ⟨hfailed, hconfined⟩ := traceless_runIn hwrites s arguments scene
  simp only [ne_eq, ExitCode.toNat_eq_zero_iff]
  exact ⟨hfailed, hconfined⟩

/-- A run whose document is a number fails once it has read and rendered it, and leaves the file
that it was to replace; a list for a pipe that nobody reads leaves nothing on it; and one that
prints the version leaves all files. -/
theorem run_changes_only_output_old :
    let files := FileTree.empty.putFile ["out"] (some "old")
    let broken : Scene FileTree :=
      { Scene.plain files none with
        refusal? := fun written _ =>
          if written = "" then some ("", .other "Broken pipe") else none }
    ((run ["--stdin", "-o", "out"] files (some "1")).files = files ∧
      (run ["--stdin", "-o", "out"] files (some "1")).stdout = "") ∧
    ((runIn .standard ["instructions"] broken).files = files ∧
      (runIn .standard ["instructions"] broken).stdout = "") ∧
    ∀ place, (run ["--version"] files none).files.look place = files.look place := by
  intro files broken
  have hdocument : (run ["--stdin", "-o", "out"] files (some "1")).code.toNat ≠ 0 := by
    decide +kernel
  have hlist : (runIn .standard ["instructions"] broken).code.toNat ≠ 0 := by decide +kernel
  have hversion : (run ["--version"] files none).code.toNat = 0 := by decide
  have hpath : outputPath? ["--version"] = none := by decide
  obtain ⟨hsame, hsilent⟩ := (run_changes_only_output writesInPlace_fileTree .standard
    ["--stdin", "-o", "out"] (.plain files (some "1"))).1 hdocument
  obtain ⟨hlistSame, hlistSilent⟩ := (run_changes_only_output writesInPlace_fileTree .standard
    ["instructions"] broken).1 hlist
  refine ⟨⟨hsame, hsilent nofun⟩, ⟨hlistSame, hlistSilent ?_⟩, fun place => ?_⟩
  · intro written text part e hrefusal
    by_cases hwritten : written = ""
    · rw [show broken.refusal? written text = some ("", .other "Broken pipe") from
        if_pos hwritten] at hrefusal
      cases hrefusal
      exact ⟨hwritten, rfl⟩
    · rw [show broken.refusal? written text = none from if_neg hwritten] at hrefusal
      cases hrefusal
  · refine (run_changes_only_output writesInPlace_fileTree .standard ["--version"]
      (.plain files none)).2 hversion place ?_
    rw [hpath]
    nofun

end ImageRecipe.CommandLine

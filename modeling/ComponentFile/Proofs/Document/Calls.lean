import ComponentFile.Proofs.Document.Recompilation

/-!
# Calls of the preprocessors

Compiling a document calls the script compiler and then the style compiler, each of them at most
once.  A call that fails ends everything: nothing is called any more, there is no output, and one
record tells what failed.

## Main definitions

* `Call`, `Run.calls`, `Run.errors` : the calls that a run makes, and the problems that it logs.
* `Toolchain.answer` : what the compiler of a language answers to a call.
* `Run.Reports` : a run fails just when one of its calls does, and logs just that failure.
* `BlockStep` : a block with the call by which it is compiled.
* `Toolchain.scriptBlock`, `Toolchain.styleBlock` : script and style of a document.

## Main results

* `Run.Reports.andThen` : runs one after another report what fails.
* `Toolchain.exists_compile_eq` : a document is compiled in two steps.
* `Toolchain.calls_compile` : the calls that are made for a document.
* `Toolchain.result_compile_of_text` : what the document becomes.
* `Toolchain.compile_all_or_nothing` : calls, result, log and output of one document.
-/

namespace ComponentFile

open Text Markup

/-- A call of a preprocessor. -/
structure Call where
  language : Preprocessor
  block : Text
  options : Options

/-- The call that an event is, if it is one. -/
def Event.call? : Event → Option Call
  | .call language block options => some ⟨language, block, options⟩
  | .log _ => none

variable {α β : Type} {tools : Toolchain} {settings : Settings} {d : Document}
  {path relative : Path} {t : Text} {c : Call}

namespace Run

variable {first run : Run α} {next : α → Run β}

/-- The calls that a run makes, in their order. -/
def calls (run : Run α) : List Call :=
  run.events.filterMap Event.call?

/-- The records of the run that tell a problem. -/
def errors (run : Run α) : List Log.Record :=
  run.log.filter fun record => record.level == .error

@[simp] theorem calls_done (result : Except DocumentError α) : (done result).calls = [] := rfl

@[simp] theorem errors_done (result : Except DocumentError α) : (done result).errors = [] := rfl

@[simp] theorem calls_after_log (record : Log.Record) (run : Run α) :
    (run.after (.log record)).calls = run.calls := rfl

/-- After a result the next run goes on. -/
theorem andThen_of_ok {a : α} (h : first.result = .ok a) (next : α → Run β) :
    (first.andThen next).calls = first.calls ++ (next a).calls ∧
      (first.andThen next).errors = first.errors ++ (next a).errors ∧
      (first.andThen next).result = (next a).result := by
  simp [andThen, h, calls, errors, log]

/-- After an error nothing more happens. -/
theorem andThen_of_error {e : DocumentError} (h : first.result = .error e)
    (next : α → Run β) :
    (first.andThen next).calls = first.calls ∧ (first.andThen next).errors = first.errors ∧
      (first.andThen next).result = .error e := by
  simp [andThen, h, calls, errors, log]

@[simp] theorem andThen_done (a : α) (next : α → Run β) : (done (.ok a)).andThen next = next a := by
  simp [done, andThen]

@[simp] theorem andThen_after (event : Event) :
    (first.after event).andThen next = (first.andThen next).after event := by
  cases h : first.result <;> simp [andThen, after, h]

theorem andThen_assoc {γ : Type} {last : β → Run γ} :
    (first.andThen next).andThen last = first.andThen fun a => (next a).andThen last := by
  cases h : first.result with
  | error e => simp [andThen, h]
  | ok a => cases h' : (next a).result <;> simp [andThen, h, h']

/-- What is done with a result makes no calls. -/
theorem calls_andThen_done {f : α → Except DocumentError β} :
    (first.andThen fun a => done (f a)).calls = first.calls := by
  cases h : first.result <;> simp [andThen, h, calls, done]

end Run

/-! ### One call -/

namespace Toolchain

/-- The compiler of a language. -/
def compiler (tools : Toolchain) : Preprocessor → Compiler
  | .coffee => tools.script
  | .sass => tools.style

/-- What the compiler of a language answers to a call. -/
def answer (tools : Toolchain) (c : Call) : Except CompilerFailure Text :=
  (tools.compiler c.language c.block c.options).result

/-- The run that makes one call for the file with a path. -/
def runCall (tools : Toolchain) (path : Path) (c : Call) : Run Text :=
  callCompiler c.language (tools.compiler c.language) path c.block c.options

@[simp] theorem calls_runCall : (tools.runCall path c).calls = [c] := by
  have hlog (records : List Log.Record) : (records.map Event.log).filterMap Event.call? = [] :=
    List.filterMap_eq_nil_iff.mpr fun event hevent ↦ by
      obtain ⟨record, -, rfl⟩ := List.mem_map.mp hevent
      rfl
  rw [runCall, callCompiler]
  split <;> simp [Run.calls, Event.call?, hlog]

@[simp] theorem result_runCall : (tools.runCall path c).result =
    (tools.answer c).mapError (.notCompiled c.language path) := by
  rw [runCall, callCompiler, answer]
  split <;> next h => rw [h]; rfl

/-- A call logs a problem when it fails. -/
theorem errors_runCall : (tools.runCall path c).errors =
    match tools.answer c with
    | .ok _ => []
    | .error failure => [failureRecord c.language path failure] := by
  -- The programs that a compiler runs are logged, but not as problems.
  have hreply (reply : Reply) : ∀ record ∈ reply.log, ¬record.level = .error := by
    intro record hrecord
    obtain ⟨commandLine, -, rfl⟩ := List.mem_map.mp hrecord
    simp [runningRecord]
  rw [runCall, callCompiler, answer]
  split <;> next h => simpa [Run.errors, Run.log, failureRecord, h] using hreply _

end Toolchain

/-! ### Runs that report what fails -/

/-- A run succeeds without a problem when all its calls do, and if one of them fails, the run fails
with it and logs this one problem. -/
structure Run.Reports (tools : Toolchain) (path : Path) (run : Run α) : Prop where
  ok : (∀ c ∈ run.calls, ∃ t, tools.answer c = .ok t) →
    (∃ a, run.result = .ok a) ∧ run.errors = []
  error : ∀ c ∈ run.calls, ∀ failure, tools.answer c = .error failure →
    run.result = .error (.notCompiled c.language path failure) ∧
      run.errors = [failureRecord c.language path failure]

namespace Run.Reports

variable {first run : Run α} {next : α → Run β}

theorem done (a : α) : (Run.done (.ok a)).Reports tools path :=
  ⟨by simp, by simp⟩

/-- In a run with a result no call fails. -/
theorem answer_of_ok (h : run.Reports tools path) {a : α} (ha : run.result = .ok a) :
    ∀ c ∈ run.calls, ∃ t, tools.answer c = .ok t := by
  intro c hc
  cases hanswer : tools.answer c with
  | ok t => exact ⟨t, rfl⟩
  | error failure =>
    have herror := (h.error c hc failure hanswer).1
    simp [ha] at herror

/-- Runs one after another report what fails. -/
theorem andThen (h : first.Reports tools path) (hnext : ∀ a, (next a).Reports tools path) :
    (first.andThen next).Reports tools path := by
  cases hfirst : first.result with
  | error e =>
    -- Nothing happens after an error, so all is as in the first run.
    obtain ⟨hcalls, herrors, hresult⟩ := Run.andThen_of_error hfirst next
    constructor
    · intro hanswers
      obtain ⟨⟨a, ha⟩, -⟩ := h.ok (hcalls ▸ hanswers)
      simp [hfirst] at ha
    · intro c hc failure hfailure
      obtain ⟨he, herror⟩ := h.error c (hcalls ▸ hc) failure hfailure
      obtain rfl := Except.error.inj (hfirst.symm.trans he)
      exact ⟨hresult, herrors.trans herror⟩
  | ok a =>
    obtain ⟨hcalls, herrors, hresult⟩ := Run.andThen_of_ok hfirst next
    -- The first run has a result, so only a call of the second one can fail.
    have hanswers := h.answer_of_ok hfirst
    rw [(h.ok hanswers).2, List.nil_append] at herrors
    constructor
    · intro hall
      rw [hcalls] at hall
      rw [hresult, herrors]
      exact (hnext a).ok fun c hc ↦ hall c (List.mem_append_right _ hc)
    · intro c hc failure hfailure
      rw [hresult, herrors]
      rcases List.mem_append.mp (hcalls ▸ hc) with hc | hc
      · obtain ⟨t, ht⟩ := hanswers c hc
        simp [hfailure] at ht
      · exact (hnext a).error c hc failure hfailure

theorem runCall (c : Call) : (tools.runCall path c).Reports tools path := by
  constructor
  · intro hanswers
    obtain ⟨t, ht⟩ := hanswers c (by simp)
    simp [Toolchain.errors_runCall, ht, Except.mapError]
  · intro c' hc' failure hfailure
    obtain rfl : c' = c := by simpa using hc'
    simp [Toolchain.errors_runCall, hfailure, Except.mapError]

end Run.Reports

/-! ### The blocks of a document -/

/-- A block on its way into the component, with the call by which it is compiled and whether that
is done. -/
structure BlockStep where
  isCompiled : Bool
  call : Call
  block : Text

namespace BlockStep

variable {step : BlockStep}

/-- The calls that are made for a block. -/
def calls (step : BlockStep) : List Call :=
  if step.isCompiled then [step.call] else []

theorem mem_calls_iff : c ∈ step.calls ↔ step.isCompiled = true ∧ c = step.call := by
  simp [calls, List.mem_ite_nil_right]

/-- What becomes of a block: it stays as it is, or it is what the compiler answers. -/
def outcome (tools : Toolchain) (step : BlockStep) : Except CompilerFailure Text :=
  if step.isCompiled then tools.answer step.call else .ok step.block

/-- The run in which a block stays as it is, or the compiler is called. -/
def run (tools : Toolchain) (path : Path) (step : BlockStep) : Run Text :=
  if step.isCompiled then tools.runCall path step.call else .done (.ok step.block)

@[simp] theorem calls_run : (step.run tools path).calls = step.calls := by
  rw [run, calls]
  split <;> simp

@[simp] theorem result_run : (step.run tools path).result =
    (step.outcome tools).mapError (.notCompiled step.call.language path) := by
  rw [run, outcome]
  split <;> simp [Except.mapError]

end BlockStep

namespace Toolchain

/-- The script of a document with a text, which is compiled if it is coffee and the settings ask for
that. -/
def scriptBlock (tools : Toolchain) (d : Document) (t : Text) : BlockStep where
  isCompiled :=
    tools.settings.coffee.compile && (Languages.detect t tools.settings.detection).coffee
  call := ⟨.coffee, tools.settings.blockOf t "script",
    scriptOptions d.path d.relative tools.settings.coffee.options⟩
  block := tools.settings.blockOf t "script"

/-- The style of a document with a text, which is compiled if it is sass and the settings ask for
that.  Replacements are made in it before it is moved to the left margin. -/
def styleBlock (tools : Toolchain) (d : Document) (t : Text) : BlockStep where
  isCompiled :=
    tools.settings.sass.compile &&
      (Languages.detect t tools.settings.detection).style == some .sass
  call := ⟨.sass,
    Text.dedent (tools.settings.sass.applyReplacements (tools.settings.blockOf t "style")),
    styleOptions tools.directory d.path tools.settings.sass.options⟩
  block := tools.settings.blockOf t "style"

/-- The component of a document with a text, when script and style have gone through their steps.  A
style that was compiled declares no language. -/
def componentWith (tools : Toolchain) (d : Document) (t script style : Text) : Component :=
  let languages := Languages.detect t tools.settings.detection
  { template := tools.settings.blockOf t "template"
    script := script
    style := style
    templateLang := languages.template
    styleLang := if (tools.styleBlock d t).isCompiled then none else languages.style
    isScoped := languages.isScoped }

theorem process_scriptStep : tools.process d.path d.relative
    (scriptStep (Languages.detect t tools.settings.detection) tools.settings)
    (tools.settings.blockOf t "script") = (tools.scriptBlock d t).run tools d.path := by
  change tools.process _ _ (if (tools.scriptBlock d t).isCompiled then some .coffee else none) _ = _
  rw [BlockStep.run]
  split <;> rfl

theorem process_styleStep : tools.process d.path d.relative
    (styleStep (Languages.detect t tools.settings.detection) tools.settings)
    (tools.settings.blockOf t "style") = (tools.styleBlock d t).run tools d.path := by
  change tools.process _ _ (if (tools.styleBlock d t).isCompiled then some .sass else none) _ = _
  rw [BlockStep.run]
  split <;> rfl

theorem isSome_styleStep (d : Document) :
    (styleStep (Languages.detect t tools.settings.detection) tools.settings).isSome =
      (tools.styleBlock d t).isCompiled := by
  change (if (tools.styleBlock d t).isCompiled then some Preprocessor.sass else none).isSome = _
  cases (tools.styleBlock d t).isCompiled <;> rfl

/-- A document is compiled in two steps, the script before the style, after a record that is no
problem. -/
theorem exists_compile_eq (tools : Toolchain) (ht : d.contents = .text t) :
    ∃ record : Log.Record, record.level = .debug ∧ tools.compile d =
      .after (.log record) (((tools.scriptBlock d t).run tools d.path).andThen fun script =>
        ((tools.styleBlock d t).run tools d.path).andThen fun style =>
          .done (.ok (tools.componentWith d t script style).render)) := by
  refine ⟨stepsRecord d.path
    (scriptStep (Languages.detect t tools.settings.detection) tools.settings)
    (styleStep (Languages.detect t tools.settings.detection) tools.settings), rfl, ?_⟩
  simp only [compile, ht, component, process_scriptStep, process_styleStep, isSome_styleStep d,
    Run.andThen_after, Run.andThen_assoc, Run.andThen_done, componentWith]

/-- The style compiler is called after the script compiler, unless that one fails. -/
theorem calls_compile (ht : d.contents = .text t) : (tools.compile d).calls =
    (tools.scriptBlock d t).calls ++
      if ((tools.scriptBlock d t).outcome tools).isOk then (tools.styleBlock d t).calls
      else [] := by
  obtain ⟨record, -, hcompile⟩ := tools.exists_compile_eq ht
  rw [hcompile, Run.calls_after_log]
  have hresult : ((tools.scriptBlock d t).run tools d.path).result = _ := BlockStep.result_run
  cases hscript : (tools.scriptBlock d t).outcome tools with
  | ok script =>
    rw [hscript] at hresult
    rw [(Run.andThen_of_ok hresult _).1, Run.calls_andThen_done]
    simp [Except.isOk, Except.toBool]
  | error failure =>
    rw [hscript] at hresult
    rw [(Run.andThen_of_error hresult _).1]
    simp [Except.isOk, Except.toBool]

/-- What a document becomes. -/
theorem result_compile_of_text (ht : d.contents = .text t) {o : Text} :
    (tools.compile d).result = .ok o ↔
      ∃ script style, (tools.scriptBlock d t).outcome tools = .ok script ∧
        (tools.styleBlock d t).outcome tools = .ok style ∧
        (tools.componentWith d t script style).render = o := by
  obtain ⟨record, -, hcompile⟩ := tools.exists_compile_eq ht
  have hmap (x : Except CompilerFailure Text) (language : Preprocessor) (u : Text) :
      x.mapError (DocumentError.notCompiled language d.path) = .ok u ↔ x = .ok u := by
    cases x <;> simp [Except.mapError]
  simp [hcompile, Run.result_andThen_eq_ok_iff, hmap]

end Toolchain

end ComponentFile

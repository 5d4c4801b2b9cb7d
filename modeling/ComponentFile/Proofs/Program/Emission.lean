import ComponentFile.Files.Machine
import ComponentFile.Program
import ComponentFile.Proofs.Document.Recompilation
import ComponentFile.Proofs.Files.Discovery
import Mathlib.Data.List.Induction

/-!
# What a run does with its inputs

All inputs are compiled from the files as they were before the run.  Then the documents are printed
or written one after another.  A failure of one input is counted and keeps none of the others back:
each document that was compiled is printed, or its writing is attempted in the tree that the
attempts before it have left.

## Main definitions

* `WriteEnds` : the ways in which an attempt to write a file can end.
* `Machine.compiled?` : the document that an input becomes.
* `Machine.treeAfter` : the tree after the attempts to write the documents of some inputs.
* `Machine.succeeds` : whether an input is compiled and written, behind the inputs before it.

## Main results

* `writeEnds_writeDocument` : an attempt to write a document ends in one of these ways.
* `Machine.output_emitAll`, `Machine.tree_emitAll`, `Machine.failures_emitAll` : what is printed,
  what is written, and how many inputs fail.
* `Machine.isRooted_run` : a run leaves the file tree rooted.
* `Machine.exists_runWith_eq`, `Machine.code_runWith_eq_zero_iff` : how a run ends.
* `Machine.run_isolates_failures` : exit code, failures, output and files of a run.
-/

namespace ComponentFile

variable {m : Machine} {settings : Settings} {a : Arguments} {arguments : List Text}
  {input : Input} {inputs : List Input} {d : Document} {directory : Path}

theorem RunError.message_failed (count total : Nat) :
    (failed count total).message = (toString count).toList ++ " of ".toList ++
      (toString total).toList ++ " file(s) failed".toList := rfl

/-- The tree in which the directory has been made that the file at a path belongs in. -/
def IsRoom (cwd : Place) (tree : FileTree) (target : Path) (room : FileTree) : Prop :=
  match target.parent? with
  | none => room = tree
  | some outer => tree.makeDirectories cwd outer = ⟨room, none⟩

/-- How an attempt can end to write bytes to the file at a path: the directory that the file belongs
in cannot be made, the file is refused, or it is written.  Directories that were made stay. -/
inductive WriteEnds (cwd : Place) (tree : FileTree) (target : Path) (bytes : Bytes) :
    Attempt InputError → Prop
  | noRoom {outer room fault} (hparent : target.parent? = some outer)
      (hroom : tree.makeDirectories cwd outer = ⟨room, some fault⟩) :
      WriteEnds cwd tree target bytes ⟨room, some (.noDirectory outer fault)⟩
  | refused {room fault} (hroom : IsRoom cwd tree target room)
      (hwrite : room.write cwd target bytes = .error fault) :
      WriteEnds cwd tree target bytes ⟨room, some (.notWritten target fault)⟩
  | written {room after} (hroom : IsRoom cwd tree target room)
      (hwrite : room.write cwd target bytes = .ok after) :
      WriteEnds cwd tree target bytes ⟨after, none⟩

/-- The file below an output directory that belongs to an input. -/
def Input.target (directory : Path) (input : Input) : Path :=
  directory.join (input.path.relativeTo input.base)

namespace Machine

/-- The document in normal form that an input becomes, from the files as they were before the
run; none if it cannot be read or transformed. -/
def compiled? (m : Machine) (settings : Settings) (input : Input) : Option Document :=
  (m.tree.readDocument m.place input).toOption.bind fun d =>
    ((Toolchain.ofSettings settings m.programs m.directory).transform d).result.toOption

/-- The documents that inputs become, in their order and without those that fail. -/
def documents (m : Machine) (settings : Settings) (inputs : List Input) : List Document :=
  inputs.filterMap (m.compiled? settings)

/-- The tree after the documents of some inputs have been tried to be written one after another,
whatever came of each attempt. -/
def treeAfter (m : Machine) (settings : Settings) (directory : Path) (inputs : List Input) :
    FileTree :=
  (m.documents settings inputs).foldl
    (fun tree d => (writeDocument m.place directory tree d).tree) m.tree

/-- Whether an input is read, transformed and, if there is an output directory, written after the
inputs before it. -/
def succeeds (m : Machine) (settings : Settings) (outDirectory : Option Path)
    (earlier : List Input) (input : Input) : Bool :=
  (m.compiled? settings input).any fun d =>
    outDirectory.all fun directory =>
      (writeDocument m.place directory (m.treeAfter settings directory earlier) d).problem?.isNone

/-- The number of inputs that fail, each behind those before it. -/
def failures (m : Machine) (settings : Settings) (outDirectory : Option Path)
    (inputs : List Input) : Nat :=
  inputs.zipIdx.countP fun x => !m.succeeds settings outDirectory (inputs.take x.2) x.1

end Machine

/-! ### One document -/

/-- A document with contents is transformed into a text that is known by the same path. -/
theorem Toolchain.exists_eq_of_result_transform {tools : Toolchain} {d' : Document}
    (h : (tools.transform d).result = .ok d') (hcontents : d.contents ≠ .absent) :
    ∃ t, d' = { d with contents := .text t } := by
  rw [transform] at h
  split at h
  · next habsent => exact absurd habsent hcontents
  · obtain ⟨t, -, ht⟩ := Run.result_andThen_eq_ok_iff.mp h
    exact ⟨t, (Except.ok.inj ht).symm⟩

/-- What an input becomes is a text that belongs to the target of the input. -/
theorem Machine.exists_text_of_compiled? (h : m.compiled? settings input = some d)
    (directory : Path) :
    d.target directory = input.target directory ∧ ∃ t, d.contents = .text t := by
  rw [compiled?, Option.bind_eq_some_iff] at h
  obtain ⟨source, hsource, hd⟩ := h
  rw [FileTree.readDocument] at hsource
  split at hsource
  · next bytes _ =>
    cases hsource
    cases hresult : ((Toolchain.ofSettings settings m.programs m.directory).transform
        ⟨input.path, input.base, .ofBytes bytes⟩).result with
    | error e => simp [hresult, Except.toOption] at hd
    | ok d' =>
      have hne : Contents.ofBytes bytes ≠ .absent := by
        rw [Contents.ofBytes]
        split <;> simp
      obtain ⟨t, rfl⟩ := Toolchain.exists_eq_of_result_transform hresult hne
      obtain rfl := Option.some.inj (hresult ▸ hd)
      exact ⟨rfl, t, rfl⟩
  · cases hsource

/-- The directory of a file is made, or that is the problem. -/
theorem isRoom_makeRoom_or (cwd : Place) (tree : FileTree) (target : Path) :
    (∃ room, makeRoom cwd tree target = ⟨room, none⟩ ∧ IsRoom cwd tree target room) ∨
      ∃ outer room fault, makeRoom cwd tree target = ⟨room, some (.noDirectory outer fault)⟩ ∧
        target.parent? = some outer ∧ tree.makeDirectories cwd outer = ⟨room, some fault⟩ := by
  rw [makeRoom]
  simp only [IsRoom]
  cases target.parent? with
  | none => exact .inl ⟨tree, rfl, rfl⟩
  | some outer =>
    dsimp only
    cases hmade : tree.makeDirectories cwd outer with
    | mk room problem =>
      cases problem with
      | none => exact .inl ⟨room, rfl, rfl⟩
      | some fault => exact .inr ⟨outer, room, fault, rfl, rfl, hmade⟩

/-- An attempt to write a document is one to write its text to its target. -/
theorem writeEnds_writeDocument {t : Text} (ht : d.contents = .text t) (cwd : Place)
    (directory : Path) (tree : FileTree) :
    WriteEnds cwd tree (d.target directory) (Text.encode t)
      (writeDocument cwd directory tree d) := by
  simp only [writeDocument, ht]
  obtain ⟨room, hmade, hroom⟩ | ⟨outer, room, fault, hmade, hparent, hroom⟩ :=
    isRoom_makeRoom_or cwd tree (d.target directory)
  · rw [hmade, Attempt.andThen]
    dsimp only
    cases hwrite : room.write cwd (d.target directory) (Text.encode t) with
    | error fault => exact .refused hroom hwrite
    | ok after => exact .written hroom hwrite
  · rw [hmade]
    exact .noRoom hparent hroom

/-! ### One result -/

namespace Progress

open Machine (Compiled)

variable (p : Progress) (cwd : Place) (c : Compiled)

/-- Without an output directory the text of a document is printed. -/
theorem output_emit_none :
    (p.emit cwd none c).output = p.output ++ c.result.toOption.elim [] Document.text := by
  rw [emit]
  cases c.result with
  | error e => simp [fail, Except.toOption]
  | ok d => rfl

theorem tree_emit_none : (p.emit cwd none c).tree = p.tree := by
  rw [emit]
  cases c.result <;> rfl

/-- With an output directory nothing is printed. -/
theorem output_emit_some (directory : Path) :
    (p.emit cwd (some directory) c).output = p.output := by
  rw [emit]
  cases c.result with
  | error e => rfl
  | ok d => cases h : (writeDocument cwd directory p.tree d).problem? <;> simp [h, fail]

/-- With an output directory a document is tried to be written, and what that leaves stays. -/
theorem tree_emit_some (directory : Path) :
    (p.emit cwd (some directory) c).tree = c.result.toOption.elim p.tree fun d =>
      (writeDocument cwd directory p.tree d).tree := by
  rw [emit]
  cases c.result with
  | error e => rfl
  | ok d =>
    cases h : (writeDocument cwd directory p.tree d).problem? <;>
      simp [h, fail, Except.toOption]

/-- A result is counted as a failure unless it is a document, which is written if there is an
output directory. -/
theorem failures_emit (outDirectory : Option Path) :
    (p.emit cwd outDirectory c).failures = p.failures +
      (!c.result.toOption.any fun d => outDirectory.all fun directory =>
        (writeDocument cwd directory p.tree d).problem?.isNone).toNat := by
  rw [emit]
  cases c.result with
  | error e => rfl
  | ok d =>
    cases outDirectory with
    | none => rfl
    | some directory =>
      cases h : (writeDocument cwd directory p.tree d).problem? <;>
        simp [h, fail, Except.toOption]

end Progress

namespace Machine

/-! ### One more input -/

theorem toOption_result_compileInput :
    (m.compileInput settings input).result.toOption = m.compiled? settings input := by
  rw [compileInput, compiled?]
  cases m.tree.readDocument m.place input with
  | error fault => rfl
  | ok d =>
    simp only [Except.toOption, Option.bind_some]
    cases ((Toolchain.ofSettings settings m.programs m.directory).transform d).result <;> rfl

theorem documents_concat :
    m.documents settings (inputs ++ [input]) =
      m.documents settings inputs ++ (m.compiled? settings input).toList := by
  rw [documents, List.filterMap_append, documents]
  cases h : m.compiled? settings input <;> simp [h]

theorem treeAfter_concat :
    m.treeAfter settings directory (inputs ++ [input]) =
      (m.compiled? settings input).elim (m.treeAfter settings directory inputs) fun d =>
        (writeDocument m.place directory (m.treeAfter settings directory inputs) d).tree := by
  rw [treeAfter, documents_concat, List.foldl_append, ← treeAfter]
  cases m.compiled? settings input <;> rfl

theorem failures_concat (outDirectory : Option Path) :
    m.failures settings outDirectory (inputs ++ [input]) =
      m.failures settings outDirectory inputs +
        (!m.succeeds settings outDirectory inputs input).toNat := by
  have hearlier : (inputs.zipIdx.countP fun x =>
      !m.succeeds settings outDirectory ((inputs ++ [input]).take x.2) x.1) =
        m.failures settings outDirectory inputs := by
    refine List.countP_congr fun x hx ↦ ?_
    have hlt : x.2 < inputs.length := by simpa using List.snd_lt_of_mem_zipIdx hx
    rw [List.take_append_of_le_length (Nat.le_of_lt hlt)]
  rw [failures, List.zipIdx_append, List.countP_append, hearlier]
  cases h : m.succeeds settings outDirectory inputs input <;> simp [h]

/-- No input fails if each one succeeds behind those before it. -/
theorem failures_eq_zero_iff {outDirectory : Option Path} :
    m.failures settings outDirectory inputs = 0 ↔ ∀ i (hi : i < inputs.length),
      m.succeeds settings outDirectory (inputs.take i) inputs[i] = true := by
  simp only [failures, List.countP_eq_zero, Bool.not_eq_true', Bool.not_eq_false]
  constructor
  · intro h i hi
    exact h (inputs[i], i) (List.mk_mem_zipIdx_iff_getElem?.mpr (List.getElem?_eq_getElem hi))
  · rintro h ⟨input, i⟩ hmem
    obtain ⟨hi, rfl⟩ := List.getElem?_eq_some_iff.mp (List.mk_mem_zipIdx_iff_getElem?.mp hmem)
    exact h i hi

/-! ### All inputs -/

/-- Emitting the results of one input more. -/
theorem emitAll_concat (outDirectory : Option Path) (tree : FileTree) :
    emitAll m.place outDirectory tree ((inputs ++ [input]).map (m.compileInput settings)) =
      (emitAll m.place outDirectory tree (inputs.map (m.compileInput settings))).emit m.place
        outDirectory (m.compileInput settings input) := by
  rw [emitAll, List.map_append, List.foldl_append, ← emitAll]
  rfl

/-- What is printed are the texts of all documents, in their order. -/
theorem output_emitAll (tree : FileTree) (inputs : List Input) :
    (emitAll m.place none tree (inputs.map (m.compileInput settings))).output =
      (m.documents settings inputs).flatMap Document.text := by
  induction inputs using List.reverseRecOn with
  | nil => rfl
  | append_singleton inputs input ih =>
    rw [emitAll_concat, Progress.output_emit_none, ih, toOption_result_compileInput,
      documents_concat, List.flatMap_append]
    cases m.compiled? settings input <;> simp

/-- All documents have texts, and one after another these are what is printed. -/
theorem exists_texts_documents (m : Machine) (settings : Settings) (inputs : List Input) :
    ∃ texts : List Text,
      (m.documents settings inputs).map Document.contents = texts.map Contents.text ∧
      (m.documents settings inputs).flatMap Document.text = texts.flatten := by
  refine ⟨(m.documents settings inputs).map Document.text, ?_, List.flatMap_def⟩
  rw [List.map_map]
  refine List.map_congr_left fun d hd ↦ ?_
  obtain ⟨input, -, hinput⟩ := List.mem_filterMap.mp hd
  obtain ⟨-, t, ht⟩ := exists_text_of_compiled? hinput input.base
  rw [Function.comp_apply, Document.text, ht]

/-- With an output directory nothing is printed. -/
theorem output_emitAll_some (directory : Path) (tree : FileTree) (inputs : List Input) :
    (emitAll m.place (some directory) tree (inputs.map (m.compileInput settings))).output = [] := by
  induction inputs using List.reverseRecOn with
  | nil => rfl
  | append_singleton inputs input ih =>
    rw [emitAll_concat, Progress.output_emit_some, ih]

/-- The tree is what the attempts to write the documents leave. -/
theorem tree_emitAll (directory : Path) (inputs : List Input) :
    (emitAll m.place (some directory) m.tree (inputs.map (m.compileInput settings))).tree =
      m.treeAfter settings directory inputs := by
  induction inputs using List.reverseRecOn with
  | nil => rfl
  | append_singleton inputs input ih =>
    rw [emitAll_concat, Progress.tree_emit_some, ih, toOption_result_compileInput,
      treeAfter_concat]

/-- Without an output directory the tree stays as it is. -/
theorem tree_emitAll_none (tree : FileTree) (inputs : List Input) :
    (emitAll m.place none tree (inputs.map (m.compileInput settings))).tree = tree := by
  induction inputs using List.reverseRecOn with
  | nil => rfl
  | append_singleton inputs input ih =>
    rw [emitAll_concat, Progress.tree_emit_none, ih]

/-- The failures that are counted are those of the inputs behind the ones before them. -/
theorem failures_emitAll (outDirectory : Option Path) (inputs : List Input) :
    (emitAll m.place outDirectory m.tree (inputs.map (m.compileInput settings))).failures =
      m.failures settings outDirectory inputs := by
  induction inputs using List.reverseRecOn with
  | nil => rfl
  | append_singleton inputs input ih =>
    rw [emitAll_concat, Progress.failures_emit, ih, toOption_result_compileInput,
      failures_concat, succeeds]
    cases outDirectory with
    | none => rfl
    | some directory =>
      simp only [tree_emitAll, Option.all_some]

end Machine

/-! ### Rooted trees -/

section Rooted

variable {tree : FileTree} {cwd : Place}

/-- An attempt to write a document leaves a tree rooted, whatever comes of it. -/
theorem FileTree.IsRooted.writeDocument (hrooted : tree.IsRooted) (cwd : Place) (directory : Path)
    (d : Document) : (writeDocument cwd directory tree d).tree.IsRooted := by
  have hroom (target : Path) : (makeRoom cwd tree target).tree.IsRooted := by
    rw [makeRoom]
    split
    · exact hrooted
    · exact hrooted.makeDirectories cwd _
  rw [ComponentFile.writeDocument]
  split
  · rw [Attempt.andThen]
    split
    · cases hwrite : (makeRoom cwd tree (d.target directory)).tree.write cwd (d.target directory) _
      with
      | error fault => exact hroom _
      | ok after => exact (hroom _).write hwrite
    · exact hroom _
  · exact hrooted

theorem isRooted_emitAll (hrooted : tree.IsRooted) (cwd : Place) (outDirectory : Option Path)
    (results : List Machine.Compiled) :
    (emitAll cwd outDirectory tree results).tree.IsRooted := by
  rw [emitAll]
  induction results using List.reverseRecOn with
  | nil => exact hrooted
  | append_singleton results result ih =>
    rw [List.foldl_append, List.foldl_cons, List.foldl_nil]
    cases outDirectory with
    | none =>
      rw [Progress.tree_emit_none]
      exact ih
    | some directory =>
      rw [Progress.tree_emit_some]
      cases result.result.toOption with
      | none => exact ih
      | some d => exact ih.writeDocument cwd directory d

end Rooted

namespace Machine

/-! ### Runs -/

/-- A run leaves the tree rooted. -/
theorem isRooted_run (hrooted : m.tree.IsRooted) (arguments : List Text) :
    (m.run arguments).tree.IsRooted := by
  rw [run]
  split
  · next a _ =>
    rw [runWith]
    split
    · exact hrooted
    · split
      · exact hrooted
      · exact hrooted
      · exact isRooted_emitAll hrooted m.place a.outDirectory _
  all_goals exact hrooted

theorem run_of_read (h : CommandLine.read arguments = .run a) :
    m.run arguments = m.runWith a := by
  rw [run, h]

/-- A run whose settings cannot be used tells what is wrong with them and leaves the files alone. -/
theorem runWith_of_loadSettings_eq_error {e : RunError} (h : m.loadSettings a = .error e) :
    m.runWith a = ⟨1, [], [], some e.message, e.cause?, m.tree⟩ := by
  rw [runWith, h]
  rfl

/-- A run that gets to its inputs does with them what is done with all of them. -/
theorem exists_runWith_eq (hsettings : m.loadSettings a = .ok settings)
    (hinputs : m.tree.findFiles m.place a.inputs = .ok inputs) (hne : inputs ≠ []) :
    ∃ log, m.runWith a =
      ⟨if m.failures settings a.outDirectory inputs = 0 then 0 else 1,
        (emitAll m.place a.outDirectory m.tree (inputs.map (m.compileInput settings))).output, log,
        if m.failures settings a.outDirectory inputs = 0 then none
        else some (RunError.failed (m.failures settings a.outDirectory inputs)
          inputs.length).message, none,
        (emitAll m.place a.outDirectory m.tree (inputs.map (m.compileInput settings))).tree⟩ := by
  rw [runWith, hsettings]
  dsimp only
  rw [hinputs]
  obtain _ | ⟨input, rest⟩ := inputs
  · exact absurd rfl hne
  · simp only [failures_emitAll]
    exact ⟨_, rfl⟩

/-- A run ends with success when it gets to its inputs and none of them fails. -/
theorem code_runWith_eq_zero_iff :
    (m.runWith a).code = 0 ↔ ∃ settings inputs, m.loadSettings a = .ok settings ∧
      m.tree.findFiles m.place a.inputs = .ok inputs ∧ inputs ≠ [] ∧
      m.failures settings a.outDirectory inputs = 0 := by
  constructor
  · intro hcode
    have hcode' := hcode
    rw [runWith] at hcode
    split at hcode
    · cases hcode
    · next settings hsettings =>
      split at hcode
      · cases hcode
      · cases hcode
      · next inputs hne hinputs =>
        have hne' : inputs ≠ [] := fun hnil ↦ hne hnil
        obtain ⟨log, hrun⟩ := exists_runWith_eq hsettings hinputs hne'
        refine ⟨settings, inputs, hsettings, hinputs, hne', ?_⟩
        simpa [hrun] using hcode'
  · rintro ⟨settings, inputs, hsettings, hinputs, hne, hfailures⟩
    obtain ⟨log, hrun⟩ := exists_runWith_eq hsettings hinputs hne
    rw [hrun, if_pos hfailures]

/-- A run that does not end with success ends with the exit code 1. -/
theorem code_runWith_of_ne_zero (h : (m.runWith a).code ≠ 0) : (m.runWith a).code = 1 := by
  cases hsettings : m.loadSettings a with
  | error e => rw [runWith_of_loadSettings_eq_error hsettings]
  | ok settings =>
    cases hinputs : m.tree.findFiles m.place a.inputs with
    | error fault => simp [runWith, hsettings, hinputs, stop]
    | ok inputs =>
      by_cases hne : inputs = []
      · simp [runWith, hsettings, hinputs, hne, stop]
      · obtain ⟨log, hrun⟩ := exists_runWith_eq hsettings hinputs hne
        rw [hrun] at h ⊢
        exact if_neg fun hzero ↦ h (if_pos hzero)

/-- With an output directory a run leaves the tree that the attempts to write leave. -/
theorem tree_runWith (hsettings : m.loadSettings a = .ok settings)
    (hinputs : m.tree.findFiles m.place a.inputs = .ok inputs) (hne : inputs ≠ [])
    (hout : a.outDirectory = some directory) :
    (m.runWith a).tree = m.treeAfter settings directory inputs := by
  obtain ⟨log, hrun⟩ := exists_runWith_eq hsettings hinputs hne
  rw [hrun, hout]
  exact tree_emitAll directory inputs

/-- Failures are isolated and counted.  A run succeeds just when its settings are read, its inputs
are found, and each of them is read, transformed and written; otherwise its exit code is 1.  When
inputs fail, the last line tells their number.  Without an output directory the texts that all
documents hold are printed, in the order of their inputs.  With one, just these documents are tried
to be written in that order, each with its text to its own target and in the tree that the attempts
before it have left. -/
theorem run_isolates_failures (m : Machine) (arguments : List Text) (a : Arguments)
    (h : CommandLine.read arguments = .run a) :
    ((m.run arguments).code = 0 ↔ ∃ settings inputs, m.loadSettings a = .ok settings ∧
      m.tree.findFiles m.place a.inputs = .ok inputs ∧ inputs ≠ [] ∧
      ∀ i (hi : i < inputs.length),
        m.succeeds settings a.outDirectory (inputs.take i) inputs[i] = true) ∧
    ((m.run arguments).code ≠ 0 → (m.run arguments).code = 1) ∧
    ∀ settings inputs, m.loadSettings a = .ok settings →
      m.tree.findFiles m.place a.inputs = .ok inputs → inputs ≠ [] →
      ((m.run arguments).error =
        if m.failures settings a.outDirectory inputs = 0 then none
        else some ((toString (m.failures settings a.outDirectory inputs)).toList ++
          " of ".toList ++ (toString inputs.length).toList ++ " file(s) failed".toList)) ∧
      (a.outDirectory = none → (m.run arguments).tree = m.tree ∧
        ∃ texts : List Text,
          (m.documents settings inputs).map Document.contents = texts.map Contents.text ∧
          (m.run arguments).output = texts.flatten) ∧
      ∀ directory, a.outDirectory = some directory →
        (m.run arguments).output = [] ∧
        (m.run arguments).tree = m.treeAfter settings directory inputs ∧
        ∀ input d, m.compiled? settings input = some d →
          d.target directory = input.target directory ∧ ∃ t, d.contents = .text t ∧
            ∀ tree, WriteEnds m.place tree (input.target directory) (Text.encode t)
              (writeDocument m.place directory tree d) := by
  rw [run_of_read h]
  refine ⟨?_, code_runWith_of_ne_zero, fun settings inputs hsettings hinputs hne ↦ ?_⟩
  · simp only [code_runWith_eq_zero_iff, failures_eq_zero_iff]
  · obtain ⟨log, hrun⟩ := exists_runWith_eq hsettings hinputs hne
    refine ⟨?_, fun hout ↦ ?_, fun directory hout ↦ ⟨?_, ?_, fun input d hd ↦ ?_⟩⟩
    · rw [hrun, RunError.message_failed]
    · obtain ⟨texts, hcontents, htexts⟩ := m.exists_texts_documents settings inputs
      rw [hrun, hout]
      exact ⟨tree_emitAll_none m.tree inputs, texts, hcontents,
        (output_emitAll m.tree inputs).trans htexts⟩
    · rw [hrun, hout]
      exact output_emitAll_some directory m.tree inputs
    · exact tree_runWith hsettings hinputs hne hout
    · obtain ⟨htarget, t, ht⟩ := exists_text_of_compiled? hd directory
      exact ⟨htarget, t, ht, htarget ▸ writeEnds_writeDocument ht m.place directory⟩

/-- Without a settings file the settings are the default ones and those of the command line. -/
theorem loadSettings_of_isFile_eq_false (hconfig : a.config = none)
    (hfile : m.tree.isFile m.place defaultConfig = false) :
    m.loadSettings a = .ok (a.adjust .default) := by
  rw [loadSettings, hconfig]
  simp only [hfile, Bool.false_eq_true, if_false]
  rfl

/-- A machine with four components: one is no text, one cannot be read, and one belongs into a
directory where a file is. -/
def blockedMachine : Machine where
  tree := ⟨.ofList [(Place.ofString "in", .directory),
    (Place.ofString "in/B.vue", .file (Text.encode "<script>f()</script>".toList) false),
    (Place.ofString "in/C.vue", .file [0xff] false),
    (Place.ofString "in/D.vue", .file (Text.encode "<script>g()</script>".toList) false),
    (Place.ofString "in/a", .directory),
    (Place.ofString "in/a/A.vue", .file (Text.encode "<script/>".toList) false),
    (Place.ofString "out", .directory), (Place.ofString "out/a", .file [] false)],
    [Place.ofString "in/D.vue"], []⟩
  programs _ := none
  place := []

/-- The command line of a run that writes. -/
def writingCommand : List Text :=
  ["in".toList, "-o".toList, "out".toList]

/-- The command line of a run that prints. -/
def printingCommand : List Text :=
  ["in".toList]

/-- What they say, with an output directory and without one. -/
def blockedArguments (outDirectory : Option Path) : Arguments :=
  ⟨[⟨"in".toList⟩], outDirectory, none, outDirectory.toList.map fun _ => .outDirectory⟩

/-- The inputs of these runs. -/
def blockedInputs : List Input :=
  ["in/B.vue", "in/C.vue", "in/D.vue", "in/a/A.vue"].map fun path =>
    ⟨⟨path.toList⟩, ⟨"in".toList⟩⟩

/-- The texts of the two components that are compiled. -/
def blockedTexts : List Text :=
  ["<template>\n\n</template>\n\n<script>\nf()\n</script>\n\n<style>\n\n</style>\n",
    "<template>\n\n</template>\n\n<script>\n\n</script>\n\n<style>\n\n</style>\n"].map String.toList

theorem loadSettings_blockedMachine (outDirectory : Option Path) :
    blockedMachine.loadSettings (blockedArguments outDirectory) =
      .ok ((blockedArguments outDirectory).adjust .default) :=
  loadSettings_of_isFile_eq_false rfl (by decide +kernel)

theorem findFiles_blockedMachine :
    blockedMachine.tree.findFiles [] [⟨"in".toList⟩] = .ok blockedInputs :=
  FileTree.findFiles_of_pairwise (by decide +kernel) (by decide +kernel) (by decide +kernel)

theorem blockedMachine_run_isolates_failures :
    (CommandLine.read writingCommand = .run (blockedArguments (some ⟨"out".toList⟩)) ∧
      CommandLine.read printingCommand = .run (blockedArguments none)) ∧
    ((blockedMachine.run writingCommand).error = some "3 of 4 file(s) failed".toList ∧
      (blockedMachine.run writingCommand).code = 1 ∧
      (blockedMachine.run writingCommand).output = [] ∧
      (blockedMachine.run writingCommand).tree.entry? (Place.ofString "out/B.vue") =
        some (.file (Text.encode (blockedTexts.headD [])) false)) ∧
    ((blockedMachine.run printingCommand).error = some "2 of 4 file(s) failed".toList ∧
      (blockedMachine.run printingCommand).code = 1 ∧
      (blockedMachine.run printingCommand).output = blockedTexts.flatten ∧
      (blockedMachine.run printingCommand).tree = blockedMachine.tree) := by
  have hwrites : CommandLine.read writingCommand =
    .run (blockedArguments (some ⟨"out".toList⟩)) := by decide +kernel
  have hprints : CommandLine.read printingCommand = .run (blockedArguments none) := by
    decide +kernel
  -- the second input fails in either run
  have hcode {arguments : List Text} {outDirectory : Option Path}
      (hread : CommandLine.read arguments = .run (blockedArguments outDirectory))
      (hfails : blockedMachine.succeeds ((blockedArguments outDirectory).adjust .default)
        outDirectory (blockedInputs.take 1) blockedInputs[1] = false) :
      (blockedMachine.run arguments).code = 1 := by
    obtain ⟨hzero, hone, -⟩ := run_isolates_failures blockedMachine _ _ hread
    refine hone fun hcode ↦ ?_
    obtain ⟨settings, inputs, hsettings, hinputs, -, hsucceeds⟩ := hzero.mp hcode
    obtain rfl := Except.ok.inj ((loadSettings_blockedMachine _).symm.trans hsettings)
    obtain rfl := Except.ok.inj (findFiles_blockedMachine.symm.trans hinputs)
    exact Bool.false_ne_true (hfails.symm.trans (hsucceeds 1 (by decide)))
  have hknown : (blockedMachine.documents ((blockedArguments none).adjust .default)
      blockedInputs).map Document.contents = blockedTexts.map Contents.text := by decide +kernel
  obtain ⟨-, -, hrun⟩ := run_isolates_failures blockedMachine _ _ hwrites
  obtain ⟨herror, -, hout⟩ :=
    hrun _ _ (loadSettings_blockedMachine _) findFiles_blockedMachine (by decide)
  obtain ⟨houtput, htree, -⟩ := hout _ rfl
  obtain ⟨-, -, hrun'⟩ := run_isolates_failures blockedMachine _ _ hprints
  obtain ⟨herror', hout', -⟩ :=
    hrun' _ _ (loadSettings_blockedMachine _) findFiles_blockedMachine (by decide)
  obtain ⟨htree', texts, hcontents, houtput'⟩ := hout' rfl
  obtain rfl : texts = blockedTexts :=
    List.map_injective_iff.mpr (fun _ _ ↦ Contents.text.inj) (hcontents.symm.trans hknown)
  refine ⟨⟨hwrites, hprints⟩, ⟨herror.trans (by decide +kernel), hcode hwrites (by decide +kernel),
    houtput, ?_⟩, herror'.trans (by decide +kernel), hcode hprints (by decide +kernel), houtput',
    htree'⟩
  rw [htree]
  decide +kernel

end Machine

end ComponentFile

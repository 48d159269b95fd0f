import Marginalia.CommandLine.Standard
import Marginalia.Proofs.LinkedWalks
import Marginalia.Proofs.PathCharacters
import Marginalia.Proofs.RunEffect
import Marginalia.Proofs.RunFailures

/-!
# What the operator is told of a failure

The command line reports the generator's own failures, and lets the others pass.
So a failure surfaces as it should if the call that failed turned it into one of
these. Reading a source does, and so do writing the stylesheet and the pages and
taking the highlighter's answer apart. The call does not that makes the output
directory before anything is written, nor do the ones that leave the generator for
other code: loading the environment, rendering a comment, and whatever a codec
refuses besides bytes that are no text.

What else could pass does not come up, since a path without NUL characters is
refused by the system or not at all.
-/

namespace Marginalia

open Marginalia.Disk (hasNull hasNull_eq_false)

/-! ## Refusals of the system -/

namespace Disk

variable {disk after : Disk} {path : Text} {fault : Fault}

theorem eq_refused_of_readFile (hnull : hasNull path = false)
    (h : disk.readFile path = .error fault) : ∃ cause, fault = .refused cause path := by
  rw [readFile, if_neg (by simp [hnull])] at h
  split at h
  · cases h
  all_goals
    cases h
    exact ⟨_, rfl⟩

/-- What comes of making one directory, unless it is there already. -/
theorem ensureDir_cases (disk : Disk) (path : Text) :
    (∃ place, disk.ensureDir path = (.ok (), disk.put place .directory)) ∨
      disk.ensureDir path = (.ok (), disk) ∨
      hasNull path = true ∧ disk.ensureDir path = (.error .nullByte, disk) ∨
      ∃ cause, disk.ensureDir path = (.error (.refused cause path), disk) := by
  rw [ensureDir, makeDir]
  cases hnull : hasNull path with
  | true => exact Or.inr (Or.inr (Or.inl ⟨rfl, rfl⟩))
  | false =>
      cases disk.directoryPlace path with
      | ok place => exact Or.inl ⟨place, rfl⟩
      | error cause =>
          cases hdirectory : disk.isDirectory path with
          | true => exact Or.inr (Or.inl (by simp [hdirectory]))
          | false => exact Or.inr (Or.inr (Or.inr ⟨cause, by simp [hdirectory]⟩))

theorem eq_refused_of_ensureDir (hnull : hasNull path = false)
    (h : disk.ensureDir path = (.error fault, after)) : ∃ cause, fault = .refused cause path := by
  rcases disk.ensureDir_cases path with ⟨place, heq⟩ | heq | ⟨hhas, _⟩ | ⟨cause, heq⟩
  · cases heq.symm.trans h
  · cases heq.symm.trans h
  · cases hnull.symm.trans hhas
  · cases heq.symm.trans h
    exact ⟨cause, rfl⟩

theorem eq_refused_of_makeDirs (hnull : hasNull path = false)
    (h : disk.makeDirs path = (.error fault, after)) :
    ∃ cause refused, fault = .refused cause refused := by
  have hensure : ∀ {disk : Disk} {path : Text}, hasNull path = false →
      disk.ensureDir path = (.error fault, after) →
        ∃ cause refused, fault = .refused cause refused :=
    fun hnull h => (eq_refused_of_ensureDir hnull h).imp fun _ heq => ⟨_, heq⟩
  fun_induction makeDirs disk path with
  | case1 path hsplit hexists => exact hensure hnull h
  | case2 path hsplit hmissing refusedPath above heq hdot ih
  | case4 path hsplit hmissing above heq hdot ih => cases h
  | case3 path hsplit hmissing refusedPath above heq hname ih
  | case5 path hsplit hmissing above heq hname ih => exact hensure hnull h
  | case6 path hsplit hmissing htaken hmade ih =>
      refine ih (hasNull_eq_false.2 fun hmem => ?_) h
      exact hasNull_eq_false.1 hnull (Path.splitLast_fst_subset path hmem)
  | case7 path hsplit => exact hensure hnull h

theorem eq_refused_of_openFile (hnull : hasNull path = false)
    (h : disk.openFile path = (.error fault, after)) : ∃ cause, fault = .refused cause path := by
  rw [openFile, if_neg (by simp [hnull])] at h
  split at h
  · cases h
  · cases h
    exact ⟨_, rfl⟩

/-- Why a text was not written: the file could not be opened, or the system stopped the
writing, or the text has no bytes. -/
theorem fault_of_writeText {text : Text}
    (h : disk.writeText path text = (.error fault, after)) :
    (∃ opened, disk.openFile path = (.error fault, opened)) ∨ (∃ cause, fault = .stopped cause) ∨
      ∃ reason, disk.encodeText text = .error reason ∧ fault = .unencodable reason := by
  rw [writeText] at h
  split at h
  · rw [writeFile] at h
    split at h
    · rw [fillFile] at h
      split at h
      · cases h
      · cases h
        exact Or.inr (Or.inl ⟨_, rfl⟩)
    · next hopen =>
        cases h
        exact Or.inl ⟨_, hopen⟩
  · next reason hreason =>
      split at h
      · cases h
        exact Or.inr (Or.inr ⟨reason, hreason, rfl⟩)
      · next hopen =>
          cases h
          exact Or.inl ⟨_, hopen⟩

/-- A failed write is one that the operator is told of, or the text has no bytes. -/
theorem FailsToWrite.surfaces {text : Text} (hnull : hasNull path = false)
    (h : disk.FailsToWrite path text fault after) :
    (∃ reason, Generator.writeFailure path fault = .outputWrite path reason) ∨
      ∃ above reason, disk.makeDirs (Path.directoryOf path) = (.ok (), above) ∧
        above.encodeText text = .error reason ∧
        Generator.writeFailure path fault = .unencodable reason := by
  rcases h with hmade | ⟨above, hmade, hwritten⟩
  · obtain ⟨cause, refused, rfl⟩ := eq_refused_of_makeDirs (Path.hasNull_directoryOf hnull) hmade
    exact Or.inl ⟨_, rfl⟩
  · rcases fault_of_writeText hwritten with ⟨_, hopen⟩ | ⟨_, rfl⟩ | ⟨reason, htext, rfl⟩
    · obtain ⟨_, rfl⟩ := eq_refused_of_openFile hnull hopen
      exact Or.inl ⟨_, rfl⟩
    · exact Or.inl ⟨_, rfl⟩
    · exact Or.inr ⟨above, reason, hmade, htext, rfl⟩

end Disk

/-! ## The highlighter -/

/-- A program that always starts and always comes to an end. -/
def Runner.Answers (runner : Runner) : Prop :=
  ∀ disk command stdin, ∃ reply after, runner disk command stdin = (.ok reply, after)

namespace Highlighter

variable {highlighter : Highlighter} {disk : Disk} {language : Language} {failure : Failure}

/-- The encoding refuses the text for the program, or something that the program answers. -/
inductive CodecFails (highlighter : Highlighter) (disk : Disk) (language : Language)
    (text : Text) : CodecFault → Prop
  | send {codec : Codec} {fault : CodecFault} :
      highlighter.codecs highlighter.encoding = some codec →
      codec.encode text = .error fault →
      CodecFails highlighter disk language text fault
  | answer {codec : Codec} {stdin answer : Bytes} {reply : Reply} {after : Disk}
      {fault : CodecFault} :
      highlighter.codecs highlighter.encoding = some codec →
      codec.encode text = .ok stdin →
      highlighter.runner disk (highlighter.commandFor language) stdin = (.ok reply, after) →
      answer = reply.stdout ∨ answer = reply.stderr →
      codec.decodeLossy answer = .error fault →
      CodecFails highlighter disk language text fault

theorem failure_of_readReply {codec : Codec} {call : Call} {after : Disk} {reply : Reply}
    (h : (readReply codec language call after reply).result = .error failure) :
    (∃ fault stderr, failure = .highlighter fault stderr) ∨
      ∃ answer fault, (answer = reply.stdout ∨ answer = reply.stderr) ∧
        codec.decodeLossy answer = .error fault ∧ failure = .ofCodec fault := by
  rw [readReply] at h
  split at h
  · next fault hfault =>
      cases h
      exact Or.inr ⟨_, fault, Or.inr rfl, hfault, rfl⟩
  · next warning _ =>
      dsimp only at h
      split at h
      · cases h
        exact Or.inl ⟨_, _, rfl⟩
      · cases houtput : codec.decodeLossy reply.stdout with
        | error fault =>
            rw [houtput] at h
            cases h
            exact Or.inr ⟨_, fault, Or.inl rfl, houtput, rfl⟩
        | ok output =>
            rw [houtput] at h
            by_cases hwraps : ∃ body, Wrapper.Wraps output body
            · obtain ⟨body, hbody⟩ := hwraps
              cases (bodyOf_eq_ok_iff.2 hbody).symm.trans h
            · cases (bodyOf_of_not_wraps _ (not_exists.1 hwraps)).symm.trans h
              exact Or.inl ⟨_, _, rfl⟩

/-- A program that answers can only answer wrongly, or not in the encoding. -/
theorem failure_of_run {text : Text}
    (hknown : ∃ codec, highlighter.codecs highlighter.encoding = some codec)
    (hanswers : highlighter.runner.Answers)
    (h : (highlighter.run disk language text).result = .error failure) :
    (∃ fault stderr, failure = .highlighter fault stderr) ∨
      ∃ fault, highlighter.CodecFails disk language text fault ∧ failure = .ofCodec fault := by
  have hruns := highlighter.runsTo_run disk language text
  generalize highlighter.run disk language text = traced at h hruns
  cases hruns with
  | unknown hnone =>
      obtain ⟨codec, hcodec⟩ := hknown
      cases hcodec.symm.trans hnone
  | unencodable hcodec hfault =>
      cases h
      exact Or.inr ⟨_, .send hcodec hfault, rfl⟩
  | @unanswered _ stdin _ _ _ _ hnone =>
      obtain ⟨reply, last, hreply⟩ := hanswers disk (highlighter.commandFor language) stdin
      cases hreply.symm.trans hnone
  | answered hcodec hstdin hreply =>
      refine (failure_of_readReply h).imp_right ?_
      rintro ⟨answer, fault, hanswer, hfault, rfl⟩
      exact ⟨fault, .answer hcodec hstdin hreply hanswer hfault, rfl⟩

theorem failure_of_highlightCode {fragments : List Text}
    (hknown : ∃ codec, highlighter.codecs highlighter.encoding = some codec)
    (hanswers : highlighter.runner.Answers)
    (h : (highlighter.highlightCode disk language fragments).result = .error failure) :
    (∃ fault stderr, failure = .highlighter fault stderr) ∨
      (∃ actual : Nat, failure = .dividerMismatch language.name fragments.length actual) ∨
      ∃ fault, highlighter.CodecFails disk language
          (List.intercalate language.dividerText fragments) fault ∧
        failure = .ofCodec fault := by
  rcases bind_eq_error.1 h with hrun | ⟨body, _, hblocks⟩
  · exact (failure_of_run hknown hanswers hrun).imp_right Or.inr
  · rw [blocksOf] at hblocks
    split at hblocks
    · cases hblocks
      exact Or.inr (Or.inl ⟨_, rfl⟩)
    · cases hblocks

end Highlighter

/-! ## Runs -/

namespace Generator

variable {generator : Generator} {before after : RunState} {failure : Failure} {disk : Disk}
  {inputs : List Text}

/-- A run whose encoding is known, whose highlighter answers and is spoken to in it, and
whose paths have no NUL characters. -/
structure Runnable (generator : Generator) (disk : Disk) (inputs : List Text) : Prop where
  encoding_known : ∃ codec, generator.highlighter.codecs generator.settings.encoding = some codec
  encoding_shared : generator.highlighter.encoding = generator.settings.encoding
  answers : generator.highlighter.runner.Answers
  wellNamed : disk.WellNamed
  inputs_null_free : ∀ input ∈ inputs, hasNull input = false
  output_null_free : hasNull generator.settings.outputDir = false

/-- A run has come to a source of a language, in this state. -/
def ComesToSource (generator : Generator) (disk : Disk) (inputs : List Text) (source : Text)
    (language : Language) (now : RunState) : Prop :=
  ∃ sources first rest, sources = first ++ source :: rest ∧
    generator.registry.forPath source = some language ∧
    generator.ComesTo { disk, context := { pending := inputs } } sources first now

/-- A run writes a text to a path, from this disk: its stylesheet once the output directory is
made, or the page of a source that has been highlighted. -/
inductive WritesAt (generator : Generator) (disk : Disk) (inputs : List Text) :
    Disk → Text → Text → Prop
  | stylesheet {made : Disk} :
      disk.makeDirs generator.settings.outputDir = (.ok (), made) →
      WritesAt generator disk inputs made generator.settings.layout.stylesheetPath
        (Stylesheet.text generator.colourRules)
  | page {now : RunState} {source text : Text} {language : Language}
      {traced : Traced (List Section)} {sections : List Section} :
      generator.ComesToSource disk inputs source language now →
      generator.readSource now.disk source = .ok text →
      generator.highlighter.highlight now.disk language (Section.ofSource language text) = traced →
      traced.result = .ok sections →
      WritesAt generator disk inputs traced.disk (generator.settings.layout.pagePath source)
        (Page.ofSource generator.settings.layout (Disk.pathOf traced.disk.cwd) source sections
          now.context.sources).render

/-- The failures of a run that its operator is told of, each with the call that failed. -/
inductive Surfaces (generator : Generator) (disk : Disk) (inputs : List Text) : Failure → Prop
  | read {now : RunState} {source : Text} {language : Language} {fault : ReadFault} :
      generator.ComesToSource disk inputs source language now →
      generator.readSource now.disk source = .error (.sourceRead source fault) →
      Surfaces generator disk inputs (.sourceRead source fault)
  | highlight {now : RunState} {source text : Text} {language : Language}
      {fault : HighlighterFault} {stderr : Option Text} :
      generator.ComesToSource disk inputs source language now →
      generator.readSource now.disk source = .ok text →
      (generator.highlighter.highlightCode now.disk language
        ((Section.ofSource language text).map (·.code))).result =
          .error (.highlighter fault stderr) →
      Surfaces generator disk inputs (.highlighter fault stderr)
  | mismatch {now : RunState} {source text : Text} {language : Language}
      {expected actual : Nat} :
      generator.ComesToSource disk inputs source language now →
      generator.readSource now.disk source = .ok text →
      (generator.highlighter.highlightCode now.disk language
        ((Section.ofSource language text).map (·.code))).result =
          .error (.dividerMismatch language.name expected actual) →
      Surfaces generator disk inputs (.dividerMismatch language.name expected actual)
  | write {now last : Disk} {path text : Text} {fault : Disk.Fault} {reason : WriteFault} :
      generator.WritesAt disk inputs now path text →
      now.FailsToWrite path text fault last →
      writeFailure path fault = .outputWrite path reason →
      Surfaces generator disk inputs (.outputWrite path reason)

/-- The failures of a run, once its output directory is there, that its operator is not told
of, each with the call that failed. All come of other code or of names that are no text. -/
inductive Escapes (generator : Generator) (disk : Disk) (inputs : List Text) : Failure → Prop
  | read {now : RunState} {source : Text} {language : Language} {content : Bytes} {codec : Codec}
      {fault : CodecFault} :
      generator.ComesToSource disk inputs source language now →
      now.disk.readFile source = .ok content →
      generator.highlighter.codecs generator.settings.encoding = some codec →
      codec.read content = .error fault → (∀ reason, fault ≠ .undecodable reason) →
      Escapes generator disk inputs (.ofCodec fault)
  | highlight {now : RunState} {source text : Text} {language : Language} {fault : CodecFault} :
      generator.ComesToSource disk inputs source language now →
      generator.readSource now.disk source = .ok text →
      generator.highlighter.CodecFails now.disk language (List.intercalate language.dividerText
        ((Section.ofSource language text).map (·.code))) fault →
      Escapes generator disk inputs (.ofCodec fault)
  | render {now : RunState} {source text : Text} {language : Language} {s : Section}
      {fault : ForeignFault} :
      generator.ComesToSource disk inputs source language now →
      generator.readSource now.disk source = .ok text → s ∈ Section.ofSource language text →
      generator.highlighter.render s.docs = .error (.foreign fault) →
      Escapes generator disk inputs (.foreign fault)
  | write {now above : Disk} {path text : Text} {reason : Unencodable} :
      generator.WritesAt disk inputs now path text →
      now.makeDirs (Path.directoryOf path) = (.ok (), above) →
      above.encodeText text = .error reason →
      Escapes generator disk inputs (.unencodable reason)

theorem Surfaces.isOwn (h : generator.Surfaces disk inputs failure) : failure.isOwn = true := by
  cases h <;> rfl

theorem isOwn_ofCodec (fault : CodecFault) : (Failure.ofCodec fault).isOwn = false := by
  cases fault <;> rfl

theorem Escapes.isOwn (h : generator.Escapes disk inputs failure) : failure.isOwn = false := by
  cases h with
  | read | highlight => exact isOwn_ofCodec _
  | render | write => rfl

theorem Runnable.null_free (h : generator.Runnable disk inputs) :
    ∀ source ∈ (Context.collect generator.registry disk { pending := inputs }).1.sources,
      hasNull source = false := by
  intro source hmem
  have hfound := Context.of_mem_sources (P := fun path => hasNull path = false)
    (fun path place name _ hname hpath => Path.hasNull_join hpath
      (hasNull_eq_false.2 (h.wellNamed.of_mem_children hname).2)) h.inputs_null_free source hmem
  rcases hfound with hnil | ⟨hnull, _⟩
  · cases hnil
  · exact hnull

theorem classify_readSource (hgood : generator.Runnable disk inputs) {source : Text}
    {language : Language} (hnow : generator.ComesToSource disk inputs source language before)
    (hnull : hasNull source = false)
    (h : generator.readSource before.disk source = .error failure) :
    generator.Surfaces disk inputs failure ∨ generator.Escapes disk inputs failure := by
  obtain ⟨codec, hcodec⟩ := hgood.encoding_known
  cases hread : before.disk.readFile source with
  | error fault =>
      obtain ⟨cause, rfl⟩ := Disk.eq_refused_of_readFile hnull hread
      have hrefused : generator.readSource before.disk source =
          .error (.sourceRead source (.refused cause source)) := by
        rw [readSource, hread]
      obtain rfl := Except.error.inj (h.symm.trans hrefused)
      exact Or.inl (.read hnow hrefused)
  | ok content =>
      have hfails := h
      rw [readSource, hread] at hfails
      simp only [hcodec] at hfails
      split at hfails
      · cases hfails
        exact Or.inl (.read hnow h)
      · next fault hother hdecoded =>
          cases hfails
          exact Or.inr (.read hnow hread hcodec hdecoded hother)
      · cases hfails

theorem classify_highlight (hgood : generator.Runnable disk inputs)
    (hrender : ∀ docs failure, generator.highlighter.render docs = .error failure →
      ∃ fault, failure = .foreign fault)
    {source text : Text} {language : Language}
    (hnow : generator.ComesToSource disk inputs source language before)
    (hread : generator.readSource before.disk source = .ok text)
    (h : (generator.highlighter.highlight before.disk language
      (Section.ofSource language text)).result = .error failure) :
    generator.Surfaces disk inputs failure ∨ generator.Escapes disk inputs failure := by
  have hknown : ∃ codec,
      generator.highlighter.codecs generator.highlighter.encoding = some codec := by
    rw [hgood.encoding_shared]
    exact hgood.encoding_known
  rcases bind_eq_error.1 h with hcode | ⟨blocks, _, hfill⟩
  · rcases Highlighter.failure_of_highlightCode hknown hgood.answers hcode with
      ⟨fault, stderr, rfl⟩ | ⟨actual, rfl⟩ | ⟨fault, hfault, rfl⟩
    · exact Or.inl (.highlight hnow hread hcode)
    · exact Or.inl (.mismatch hnow hread hcode)
    · exact Or.inr (.highlight hnow hread hfault)
  · obtain ⟨s, hmem, hdocs⟩ := Highlighter.exists_render_error_of_fill hfill
    obtain ⟨fault, rfl⟩ := hrender _ _ hdocs
    exact Or.inr (.render hnow hread hmem hdocs)

theorem classify_write {now last : Disk} {path text : Text} {fault : Disk.Fault}
    (hwrites : generator.WritesAt disk inputs now path text) (hnull : hasNull path = false)
    (h : now.FailsToWrite path text fault last) :
    generator.Surfaces disk inputs (writeFailure path fault) ∨
      generator.Escapes disk inputs (writeFailure path fault) := by
  rcases h.surfaces hnull with ⟨reason, hreason⟩ | ⟨above, reason, hmade, htext, hreason⟩
  · rw [hreason]
    exact Or.inl (.write hwrites h hreason)
  · rw [hreason]
    exact Or.inr (.write hwrites hmade htext)

/-- At a source, a run fails with a failure that surfaces or with one that escapes. -/
theorem DocumentFails.classify (hgood : generator.Runnable disk inputs)
    (hrender : ∀ docs failure, generator.highlighter.render docs = .error failure →
      ∃ fault, failure = .foreign fault)
    {source : Text} {language : Language}
    (hnow : generator.ComesToSource disk inputs source language before)
    (hnull : hasNull source = false)
    (h : generator.DocumentFails before source language failure after) :
    generator.Surfaces disk inputs failure ∨ generator.Escapes disk inputs failure := by
  cases h with
  | read hread => exact classify_readSource hgood hnow hnull hread
  | highlight hread htraced hresult =>
      rw [← htraced] at hresult
      exact classify_highlight hgood hrender hnow hread hresult
  | write hread htraced hresult hrefused =>
      exact classify_write (.page hnow hread htraced hresult)
        (Layout.hasNull_pagePath hgood.output_null_free hnull) hrefused

end Generator

/-! ## The command line -/

namespace CommandLine

variable {world : World} {request : Request}

section

variable {environment : List (Text × Text)} {failure : Failure} {after : RunState}
  (hinputs : request.inputs ≠ []) (hlanguages : request.languages = false)
  (hselfTest : request.selfTest = false)
  (hload : world.library.loadEnvironment world.environment world.disk = .ok environment)

include hinputs hlanguages hselfTest hload

end

/-! ## One source -/

end CommandLine
end Marginalia

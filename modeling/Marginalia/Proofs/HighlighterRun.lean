import Marginalia.Highlighter.Lines
import Marginalia.Proofs.Utf8RoundTrip
import Marginalia.Proofs.WrappedOutput
import Mathlib.Data.List.Forall2

/-!
# One run of the highlighter

What is known of a run without knowing the program, and what is known when the
program is the line highlighter. In the first case a run comes to one of four ends,
and all that is said of runs is said of these: a run that gives a result has made
exactly one call, with the encoded text, and the result is the body that the answer
wraps. In the second case it always gives one: UTF-8 loses nothing on the way in or
out, and the tags that the line highlighter puts around its answer are the ones that
are taken off.
-/

namespace Marginalia

theorem bind_eq_ok {ε α β : Type} {first : Except ε α} {next : α → Except ε β} {value : β} :
    first.bind next = .ok value ↔ ∃ found, first = .ok found ∧ next found = .ok value := by
  cases first with
  | error fault => simp [Except.bind]
  | ok found => simp [Except.bind]

theorem bind_eq_error {ε α β : Type} {first : Except ε α} {next : α → Except ε β} {fault : ε} :
    first.bind next = .error fault ↔
      first = .error fault ∨ ∃ found, first = .ok found ∧ next found = .error fault := by
  cases first with
  | error other => simp [Except.bind]
  | ok found => simp [Except.bind]

theorem exists_of_forall₂_of_mem {α β : Type} {R : α → β → Prop} {xs : List α} {ys : List β}
    (h : List.Forall₂ R xs ys) {x : α} (hmem : x ∈ xs) : ∃ y ∈ ys, R x y := by
  induction h with
  | nil => cases hmem
  | @cons first other xs ys hfirst _ ih =>
      rcases List.mem_cons.1 hmem with rfl | hmem
      · exact ⟨other, List.mem_cons_self .., hfirst⟩
      · obtain ⟨y, hy, hrest⟩ := ih hmem
        exact ⟨y, List.mem_cons_of_mem _ hy, hrest⟩

/-- A program changes nothing on a disk. -/
def Runner.KeepsDisk (runner : Runner) : Prop :=
  ∀ disk command stdin, (runner disk command stdin).2 = disk

theorem Runner.keepsDisk_ofReplies (reply : List Text → Bytes → Except RunnerFault Reply) :
    (Runner.ofReplies reply).KeepsDisk := fun _ _ _ => rfl

namespace Highlighter

variable {highlighter : Highlighter} {language : Language}

/-! ## A reply -/

section Reply

variable {codec : Codec} {call : Call} {disk : Disk} {reply : Reply} {warning output : Text}

theorem readReply_of_decoded (hwarning : codec.decodeLossy reply.stderr = .ok warning)
    (houtput : codec.decodeLossy reply.stdout = .ok output) :
    readReply codec language call disk reply =
      if reply.status ≠ 0 then
        { result := .error (.highlighter (.exited reply.status language.name)
            (some (Text.trim warning)))
          disk
          calls := [call] }
      else
        { result := bodyOf language (Text.trim warning) output
          disk
          calls := [call]
          notices :=
            if Text.trim warning = [] then [] else [.highlighterWarning (Text.trim warning)] } := by
  rw [readReply, hwarning]
  simp only [houtput]

/-- A reply that gives a body was decoded. -/
theorem readReply_eq_ok {body : Text}
    (h : (readReply codec language call disk reply).result = .ok body) :
    ∃ warning output, codec.decodeLossy reply.stderr = .ok warning ∧ reply.status = 0 ∧
      codec.decodeLossy reply.stdout = .ok output ∧
      bodyOf language (Text.trim warning) output = .ok body := by
  rw [readReply] at h
  split at h
  · cases h
  · next warning hwarning =>
      dsimp only at h
      split at h
      · cases h
      · next hstatus =>
          cases houtput : codec.decodeLossy reply.stdout with
          | error fault =>
              rw [houtput] at h
              cases h
          | ok output =>
              rw [houtput] at h
              exact ⟨warning, output, hwarning, not_not.1 hstatus, rfl, h⟩

theorem calls_readReply : (readReply codec language call disk reply).calls = [call] := by
  rw [readReply]
  split
  · rfl
  · dsimp only
    split <;> rfl

theorem disk_readReply : (readReply codec language call disk reply).disk = disk := by
  rw [readReply]
  split
  · rfl
  · dsimp only
    split <;> rfl

/-- A reply is read alike on every disk. -/
theorem readReply_eq (other : Disk) : readReply codec language call disk reply =
    { readReply codec language call other reply with disk } := by
  rw [readReply, readReply]
  split
  · rfl
  · dsimp only
    split <;> rfl

end Reply

/-! ## One run -/

/-- What a run comes to: it does not start the program, or has no reply from it, or reads one. -/
inductive RunsTo (highlighter : Highlighter) (disk : Disk) (language : Language) (text : Text) :
    Traced Text → Prop
  | unknown : highlighter.codecs highlighter.encoding = none →
      RunsTo highlighter disk language text (.fail disk (.unknownEncoding highlighter.encoding))
  | unencodable {codec : Codec} {fault : CodecFault} :
      highlighter.codecs highlighter.encoding = some codec →
      codec.encode text = .error fault →
      RunsTo highlighter disk language text (.fail disk (.ofCodec fault))
  | unanswered {codec : Codec} {stdin : Bytes} {fault : RunnerFault} {after : Disk} :
      highlighter.codecs highlighter.encoding = some codec →
      codec.encode text = .ok stdin →
      highlighter.runner disk (highlighter.commandFor language) stdin = (.error fault, after) →
      RunsTo highlighter disk language text
        { result := .error (runnerFailure (highlighter.commandFor language) fault)
          disk := after
          calls := [⟨highlighter.commandFor language, stdin⟩] }
  | answered {codec : Codec} {stdin : Bytes} {reply : Reply} {after : Disk} :
      highlighter.codecs highlighter.encoding = some codec →
      codec.encode text = .ok stdin →
      highlighter.runner disk (highlighter.commandFor language) stdin = (.ok reply, after) →
      RunsTo highlighter disk language text
        (readReply codec language ⟨highlighter.commandFor language, stdin⟩ after reply)

theorem runsTo_run (highlighter : Highlighter) (disk : Disk) (language : Language) (text : Text) :
    highlighter.RunsTo disk language text (highlighter.run disk language text) := by
  rw [run]
  split
  · next hcodec => exact .unknown hcodec
  · next codec hcodec =>
      split
      · next fault hfault => exact .unencodable hcodec hfault
      · next stdin hstdin =>
          rcases hreply : highlighter.runner disk (highlighter.commandFor language) stdin with
            ⟨outcome, after⟩
          cases outcome with
          | error fault => simpa only [hreply] using RunsTo.unanswered hcodec hstdin hreply
          | ok reply => simpa only [hreply] using RunsTo.answered hcodec hstdin hreply

theorem run_eq_readReply {disk after : Disk} {text : Text} {codec : Codec} {stdin : Bytes}
    {reply : Reply} (hcodec : highlighter.codecs highlighter.encoding = some codec)
    (hstdin : codec.encode text = .ok stdin)
    (hreply : highlighter.runner disk (highlighter.commandFor language) stdin =
      (.ok reply, after)) :
    highlighter.run disk language text =
      readReply codec language ⟨highlighter.commandFor language, stdin⟩ after reply := by
  rw [run, hcodec]
  simp only [hstdin, hreply]

/-- A text that can be encoded is sent in one call, whatever becomes of it. -/
theorem calls_of_run {disk : Disk} {text : Text} {codec : Codec} {stdin : Bytes}
    (hcodec : highlighter.codecs highlighter.encoding = some codec)
    (hstdin : codec.encode text = .ok stdin) :
    (highlighter.run disk language text).calls = [⟨highlighter.commandFor language, stdin⟩] := by
  rw [run, hcodec]
  simp only [hstdin]
  split
  · rfl
  · exact calls_readReply

/-! ## The body of an answer -/

/-- Output without a body is either blank or not one block. -/
def bodyFault (language : Language) (output : Text) : HighlighterFault :=
  if Text.isBlank output then .silent language.name else .unexpected language.name output

theorem not_isBlank_of_wraps {output body : Text} (h : Wrapper.Wraps output body) :
    Text.isBlank output = false := by
  obtain ⟨before, span, after, _, _, _, rfl⟩ := Wrapper.wraps_iff.1 h
  have hopening : Text.isBlank Wrapper.opening = false := by decide
  simp only [Text.isBlank, List.all_append] at hopening ⊢
  simp [hopening]

theorem bodyOf_eq_ok_iff {language : Language} {stderr output body : Text} :
    bodyOf language stderr output = .ok body ↔ Wrapper.Wraps output body := by
  rw [← Wrapper.body?_eq_some_iff, bodyOf]
  split
  · next hblank =>
      constructor
      · intro h
        cases h
      · intro h
        rw [not_isBlank_of_wraps (Wrapper.body?_eq_some_iff.1 h)] at hblank
        cases hblank
  · cases Wrapper.body? output <;> simp

theorem bodyOf_of_not_wraps {language : Language} {output : Text} (stderr : Text)
    (h : ∀ body, ¬ Wrapper.Wraps output body) :
    bodyOf language stderr output =
      .error (.highlighter (bodyFault language output) (some stderr)) := by
  have hnone : Wrapper.body? output = none :=
    Option.eq_none_iff_forall_ne_some.2 fun body hbody =>
      h body (Wrapper.body?_eq_some_iff.1 hbody)
  rw [bodyOf, bodyFault, hnone]
  split <;> rfl

/-- A run gives the body that the output of a successful reply wraps, and otherwise fails
with what the program wrote to its error stream. This is so in every encoding whose codec can
replace what is no text to it. -/
theorem run_recovers_body {highlighter : Highlighter} {disk after : Disk} {language : Language}
    {text : Text} {codec : Codec} {stdin : Bytes} {reply : Reply}
    (hcodec : highlighter.codecs highlighter.encoding = some codec) (hreplaces : codec.Replaces)
    (hstdin : codec.encode text = .ok stdin)
    (hreply : highlighter.runner disk (highlighter.commandFor language) stdin =
      (.ok reply, after)) :
    ∃ output warning, codec.decodeLossy reply.stdout = .ok output ∧
      codec.decodeLossy reply.stderr = .ok warning ∧
      let stderr := Text.trim warning
      let result := (highlighter.run disk language text).result
      (∀ body, result = .ok body ↔ reply.status = 0 ∧ Wrapper.Wraps output body) ∧
      (∀ body other, Wrapper.Wraps output body → Wrapper.Wraps output other → body = other) ∧
      (reply.status = 0 → (∀ body, ¬ Wrapper.Wraps output body) →
        result = .error (.highlighter (bodyFault language output) (some stderr))) ∧
      (reply.status ≠ 0 →
        result = .error (.highlighter (.exited reply.status language.name) (some stderr))) := by
  obtain ⟨output, houtput⟩ := hreplaces reply.stdout
  obtain ⟨warning, hwarning⟩ := hreplaces reply.stderr
  refine ⟨output, warning, houtput, hwarning, ?_⟩
  intro stderr result
  have hresult : result = if reply.status ≠ 0 then
      .error (.highlighter (.exited reply.status language.name) (some stderr))
      else bodyOf language stderr output := by
    show (highlighter.run disk language text).result = _
    rw [run_eq_readReply hcodec hstdin hreply, readReply_of_decoded hwarning houtput]
    split <;> rfl
  refine ⟨fun body => ?_, fun body other => Wrapper.Wraps.unique, fun hzero hnone => ?_,
    fun hstatus => ?_⟩
  · rw [hresult]
    split
    · next hstatus =>
        constructor
        · intro h
          cases h
        · rintro ⟨hzero, _⟩
          exact absurd hzero hstatus
    · next hstatus => rw [bodyOf_eq_ok_iff, and_iff_right (not_not.1 hstatus)]
  · rw [hresult, if_neg (not_not.2 hzero), bodyOf_of_not_wraps stderr hnone]
  · rw [hresult, if_pos hstatus]

/-- A body may hold the tags that are around it. -/
theorem run_recovers_body_nested :
    let body := "<i>1</i></pre></div>\n\n<span></span>2".toList
    let output := " \n<div class=\"highlight\"><pre><span></span>".toList ++ body ++
      "</pre></div>\n".toList
    let highlighter : Highlighter :=
      { command := ["pygmentize".toList], encoding := "utf-8".toList, render := .ok
        runner := .ofReplies fun _ _ => .ok { stdout := Utf8.encode output } }
    let language : Language := ⟨".py".toList, "python".toList, "#".toList, standardClasses⟩
    (highlighter.run {} language "1\n2".toList).result = .ok body := by
  intro body output highlighter language
  have hcodec : highlighter.codecs highlighter.encoding = some Encoding.utf8.codec :=
    Encoding.codec?_utf8
  have hstdin : Encoding.utf8.codec.encode "1\n2".toList = .ok (Utf8.encode "1\n2".toList) := rfl
  have hreply : highlighter.runner {} (highlighter.commandFor language)
      (Utf8.encode "1\n2".toList) = (.ok { stdout := Utf8.encode output }, {}) := rfl
  obtain ⟨decoded, _, hdecoded, _, hrun, _⟩ :=
    run_recovers_body hcodec (Encoding.replaces_codec .utf8) hstdin hreply
  obtain rfl : output = decoded :=
    (Encoding.decodeLossy_encode_utf8 output).symm.trans (Except.ok.inj hdecoded)
  refine (hrun body).2 ⟨rfl, " \n".toList, Wrapper.emptySpan, "\n".toList, ?_⟩
  exact ⟨by decide, by decide, Or.inl rfl, by decide⟩

/-- The program was sent a text and succeeded, with a body between the tags of its answer. -/
def GivesBody (highlighter : Highlighter) (disk : Disk) (language : Language) (text body : Text) :
    Prop :=
  ∃ codec stdin reply after warning output,
    highlighter.codecs highlighter.encoding = some codec ∧
    codec.encode text = .ok stdin ∧
    highlighter.runner disk (highlighter.commandFor language) stdin = (.ok reply, after) ∧
    codec.decodeLossy reply.stderr = .ok warning ∧ reply.status = 0 ∧
    codec.decodeLossy reply.stdout = .ok output ∧ Wrapper.Wraps output body

theorem givesBody_of_run_eq_ok {disk : Disk} {text body : Text}
    (h : (highlighter.run disk language text).result = .ok body) :
    highlighter.GivesBody disk language text body := by
  have hruns := highlighter.runsTo_run disk language text
  generalize highlighter.run disk language text = traced at h hruns
  cases hruns with
  | unknown _ => cases h
  | unencodable _ _ => cases h
  | unanswered _ _ _ => cases h
  | answered hcodec hstdin hreply =>
      obtain ⟨warning, output, hwarning, hstatus, houtput, hbody⟩ := readReply_eq_ok h
      exact ⟨_, _, _, _, warning, output, hcodec, hstdin, hreply, hwarning, hstatus, houtput,
        bodyOf_eq_ok_iff.1 hbody⟩

theorem run_eq_ok_of_givesBody {disk : Disk} {text body : Text}
    (h : highlighter.GivesBody disk language text body) :
    (highlighter.run disk language text).result = .ok body := by
  obtain ⟨codec, stdin, reply, after, warning, output, hcodec, hstdin, hreply, hwarning, hstatus,
    houtput, hbody⟩ := h
  rw [run_eq_readReply hcodec hstdin hreply, readReply_of_decoded hwarning houtput,
    if_neg (not_not.2 hstatus)]
  exact bodyOf_eq_ok_iff.2 hbody

/-- A run that gives a result has made one call, with the text as it is encoded. -/
theorem calls_of_run_eq_ok {disk : Disk} {text body : Text}
    (h : (highlighter.run disk language text).result = .ok body) :
    ∃ codec stdin, highlighter.codecs highlighter.encoding = some codec ∧
      codec.encode text = .ok stdin ∧
      (highlighter.run disk language text).calls = [⟨highlighter.commandFor language, stdin⟩] := by
  obtain ⟨codec, stdin, _, _, _, _, hcodec, hstdin, _⟩ := givesBody_of_run_eq_ok h
  exact ⟨codec, stdin, hcodec, hstdin, calls_of_run hcodec hstdin⟩

/-- A run leaves the disk as the program leaves it, or never starts the program. -/
theorem disk_run_cases (highlighter : Highlighter) (disk : Disk) (language : Language)
    (text : Text) :
    (highlighter.run disk language text).disk = disk ∨ ∃ stdin,
      (highlighter.run disk language text).disk =
        (highlighter.runner disk (highlighter.commandFor language) stdin).2 := by
  have hruns := highlighter.runsTo_run disk language text
  generalize highlighter.run disk language text = traced at hruns
  cases hruns with
  | unknown _ => exact Or.inl rfl
  | unencodable _ _ => exact Or.inl rfl
  | @unanswered _ stdin _ _ _ _ hreply => exact Or.inr ⟨stdin, by rw [hreply]⟩
  | @answered _ stdin _ _ _ _ hreply =>
      exact Or.inr ⟨stdin, by rw [hreply, disk_readReply]⟩

/-! ## Sections -/

/-- Highlighting gives what the fragments' blocks are filled in to. -/
theorem highlight_eq (highlighter : Highlighter) (disk : Disk) (language : Language)
    (sections : List Section) :
    highlighter.highlight disk language sections =
      (highlighter.highlightCode disk language (sections.map (·.code))).andThen
        (highlighter.fill sections) := rfl

/-- Code that has no bytes in the encoding is not sent. -/
theorem highlight_of_encode_eq_error {disk : Disk} {sections : List Section} {codec : Codec}
    {fault : CodecFault} (hcodec : highlighter.codecs highlighter.encoding = some codec)
    (hfault : codec.encode (List.intercalate language.dividerText (sections.map (·.code))) =
      .error fault) :
    highlighter.highlight disk language sections = .fail disk (.ofCodec fault) := by
  rw [highlight_eq, highlightCode, run, hcodec]
  simp only [hfault]
  rfl

/-- What every call of the program preserves is preserved by highlighting. -/
theorem disk_highlight_of {P : Disk → Prop}
    (h : ∀ disk command stdin, P disk → P (highlighter.runner disk command stdin).2) {disk : Disk}
    (hdisk : P disk) (sections : List Section) :
    P (highlighter.highlight disk language sections).disk := by
  have hrun : (highlighter.highlight disk language sections).disk =
      (highlighter.run disk language
        (List.intercalate language.dividerText (sections.map (·.code)))).disk := rfl
  rw [hrun]
  rcases highlighter.disk_run_cases disk language _ with heq | ⟨stdin, heq⟩
  · rw [heq]
    exact hdisk
  · rw [heq]
    exact h disk _ stdin hdisk

theorem disk_of_highlight (h : highlighter.runner.KeepsDisk) (disk : Disk)
    (sections : List Section) : (highlighter.highlight disk language sections).disk = disk :=
  disk_highlight_of (fun now _ _ hnow => (h now _ _).trans hnow) rfl sections

/-- Sections are highlighted by one run, a split of its body and a block for each. -/
theorem highlight_eq_ok {disk : Disk} {sections filled : List Section} :
    (highlighter.highlight disk language sections).result = .ok filled ↔
      ∃ body blocks, (highlighter.run disk language
          (List.intercalate language.dividerText (sections.map (·.code)))).result = .ok body ∧
        blocksOf language sections.length body = .ok blocks ∧
        highlighter.fill sections blocks = .ok filled := by
  simp only [highlight_eq, highlightCode, Traced.andThen, bind_eq_ok, List.length_map]
  constructor
  · rintro ⟨blocks, ⟨body, hrun, hblocks⟩, hfill⟩
    exact ⟨body, blocks, hrun, hblocks, hfill⟩
  · rintro ⟨body, blocks, hrun, hblocks, hfill⟩
    exact ⟨blocks, ⟨body, hrun, hblocks⟩, hfill⟩

theorem calls_of_highlight_eq_ok {disk : Disk} {sections filled : List Section}
    (h : (highlighter.highlight disk language sections).result = .ok filled) :
    ∃ codec stdin, highlighter.codecs highlighter.encoding = some codec ∧
      codec.encode (List.intercalate language.dividerText (sections.map (·.code))) =
        .ok stdin ∧
      (highlighter.highlight disk language sections).calls =
        [⟨highlighter.commandFor language, stdin⟩] := by
  obtain ⟨_, _, hrun, _⟩ := highlight_eq_ok.1 h
  exact calls_of_run_eq_ok hrun

/-- A body gives blocks if it is cut into as many pieces as were expected. -/
theorem blocksOf_eq_ok {expected : Nat} {body : Text} {blocks : List Text} :
    blocksOf language expected body = .ok blocks ↔
      (language.splitAtDividers body).length = expected ∧
        blocks = (language.splitAtDividers body).map Wrapper.wrap := by
  rw [blocksOf]
  split
  · next hlength => exact iff_of_false (by simp) fun h => hlength h.1
  · next hlength => simp [not_not.1 hlength, eq_comm]

/-- A body that is split into one piece is a mismatch, unless one was expected. -/
theorem blocksOf_of_length_one {expected : Nat} {body : Text}
    (h : (language.splitAtDividers body).length = 1) (hexpected : expected ≠ 1) :
    blocksOf language expected body = .error (.dividerMismatch language.name expected 1) := by
  rw [blocksOf, h, if_pos hexpected.symm]
  rfl

theorem length_of_blocksOf_eq_ok {expected : Nat} {body : Text} {blocks : List Text}
    (h : blocksOf language expected body = .ok blocks) : blocks.length = expected := by
  obtain ⟨hlength, rfl⟩ := blocksOf_eq_ok.1 h
  rw [List.length_map, hlength]

theorem verifyDivider_eq_ok {disk : Disk} :
    (highlighter.verifyDivider disk language).result = .ok () ↔
      ∃ blocks, (highlighter.highlightCode disk language probe).result = .ok blocks := by
  rw [verifyDivider, Traced.andThen, bind_eq_ok]
  simp only [and_true]

theorem verifyDivider_eq_error {disk : Disk} {failure : Failure} :
    (highlighter.verifyDivider disk language).result = .error failure ↔
      (highlighter.highlightCode disk language probe).result = .error failure := by
  rw [verifyDivider, Traced.andThen, bind_eq_error]
  exact or_iff_left fun ⟨_, _, hnone⟩ => by cases hnone

theorem fill_cons (highlighter : Highlighter) (s : Section) (sections : List Section)
    (block : Text) (blocks : List Text) :
    highlighter.fill (s :: sections) (block :: blocks) =
      (highlighter.render s.docs).bind fun docsHtml =>
        (highlighter.fill sections blocks).bind fun filled =>
          .ok ({ s with codeHtml := some block, docsHtml := some docsHtml } :: filled) := by
  rw [fill, fillInPlace]
  cases highlighter.render s.docs with
  | error failure => rfl
  | ok docsHtml =>
      simp only [fill, Except.bind]
      cases (highlighter.fillInPlace sections blocks).1 <;> rfl

/-- A program that does not see the disk says the same on every disk, and leaves it alone. -/
theorem highlight_of_replies {reply : List Text → Bytes → Except RunnerFault Reply}
    (h : highlighter.runner = .ofReplies reply) (disk other : Disk) (sections : List Section) :
    highlighter.highlight disk language sections =
      { highlighter.highlight other language sections with disk } := by
  have hrun (text : Text) : highlighter.run disk language text =
      { highlighter.run other language text with disk } := by
    rw [run, run, h]
    split
    · rfl
    · split
      · rfl
      · next codec _ stdin _ =>
          simp only [Runner.ofReplies]
          cases reply (highlighter.commandFor language) stdin with
          | error fault => rfl
          | ok answer => exact readReply_eq other
  rw [highlight_eq, highlight_eq, highlightCode, hrun]
  rfl

end Highlighter

/-! ## The line highlighter -/

namespace LineReply

theorem wraps_output (reply : LineReply) (text : Text) :
    Wrapper.Wraps (reply.output text) (reply.renderLines text) :=
  ⟨[], Wrapper.emptySpan, ['\n'], rfl, rfl, Or.inl rfl, rfl⟩

/-- Without an answer of its own, the line highlighter answers every text. -/
theorem answer_encode {reply : LineReply} (h : reply.stdout = none) (text : Text) :
    reply.answer .utf8 (Utf8.encode text) =
      .ok { status := reply.status, stdout := Utf8.encode (reply.output text),
            stderr := reply.stderr } := by
  rw [answer, h, outputBytes, Encoding.decode_encode_utf8]
  rfl

end LineReply

namespace Highlighter

variable {highlighter : Highlighter} {language : Language}

/-- The program behind a highlighter is the line highlighter, spoken to in UTF-8
and with a reply for the language that it makes from its input. -/
structure UsesLines (highlighter : Highlighter) (language : Language) (reply : LineReply) :
    Prop where
  codec_eq : highlighter.codecs highlighter.encoding = some Encoding.utf8.codec
  runner_eq : ∃ lines : LineHighlighter, highlighter.runner = lines.runner .utf8 ∧
    lines.replyFor (highlighter.commandFor language) = reply
  status_eq : reply.status = 0
  stdout_eq : reply.stdout = none

theorem UsesLines.run_eq {reply : LineReply} (h : highlighter.UsesLines language reply)
    (disk : Disk) (text : Text) :
    ∃ notices, highlighter.run disk language text =
      { result := .ok (reply.renderLines text)
        disk
        calls := [⟨highlighter.commandFor language, Utf8.encode text⟩]
        notices } := by
  obtain ⟨lines, hrunner, hreply⟩ := h.runner_eq
  have hanswer : highlighter.runner disk (highlighter.commandFor language) (Utf8.encode text) =
      (.ok { status := reply.status, stdout := Utf8.encode (reply.output text),
             stderr := reply.stderr }, disk) := by
    rw [hrunner, LineHighlighter.runner, Runner.ofReplies, hreply,
      LineReply.answer_encode h.stdout_eq]
  have houtput : Encoding.utf8.codec.decodeLossy (Utf8.encode (reply.output text)) =
      .ok (reply.output text) := congrArg Except.ok (Encoding.decodeLossy_encode_utf8 _)
  rw [run_eq_readReply h.codec_eq rfl hanswer, readReply_of_decoded rfl houtput,
    if_neg (not_not.2 h.status_eq), bodyOf_eq_ok_iff.2 (reply.wraps_output text)]
  exact ⟨_, rfl⟩

end Highlighter
end Marginalia

import Marginalia.Proofs.PageCharacters
import Marginalia.Proofs.ReadableText
import Marginalia.Proofs.RunReport
import Marginalia.Proofs.Utf8RoundTrip

/-!
# Sources on their way through the highlighter

What is sent for a source that was read is encoded, decoded by the program, encoded
by it again and decoded when its answer is taken apart. Each encoding reads back what
it has written, so all that has to be seen to is that it can write it: the characters
of a text that was read, and those that the program and the run put around them, which
are ASCII.

The second is a count. Escaping a text and setting marks around its lines keeps every
character that is not ASCII, and no other one of these is put in. So for every property
of characters that ASCII does not have, the answer has no more characters with it than
the source: none that cannot be written, and no replacement character that was not
there.

What is left is the page. It shows paths, and a name on the disk need not be text, so
a source can be read and highlighted and its page be none that can be written.
-/

namespace Marginalia

open Marginalia.Text (Lacks)

namespace Encoding

/-! ## What was written is read back -/

theorem encodeBelow_eq_ok {codec : Text} {limit : Nat} {text : Text} {bytes : Bytes}
    (h : encodeBelow codec limit text = .ok bytes) :
    (∀ c ∈ text, c.toNat < limit) ∧ bytes = text.map fun c => .ofNat c.toNat := by
  rw [encodeBelow] at h
  split at h
  · next hall =>
      cases h
      exact ⟨fun c hmem => of_decide_eq_true (Unencodable.find?_eq_none.1 hall c hmem), rfl⟩
  · cases h

theorem decodeAscii_eq_ok {bytes : Bytes} {text : Text} :
    decodeAscii bytes = .ok text ↔
      (∀ b ∈ bytes, b.toNat < 128) ∧ bytes.map (fun b => Char.ofNat b.toNat) = text := by
  rw [decodeAscii]
  split
  · next hall =>
      have hbelow : ∀ b ∈ bytes, b.toNat < 128 := fun b hmem =>
        of_decide_eq_true (List.dropWhile_eq_nil_iff.1 hall b hmem)
      rw [and_iff_right hbelow, Except.ok.injEq]
  · next b rest hrest =>
      have hnot : ¬ ∀ b ∈ bytes, b.toNat < 128 := by
        intro hbelow
        rw [List.dropWhile_eq_nil_iff.2 fun b hmem => decide_eq_true (hbelow b hmem)] at hrest
        cases hrest
      simp [hnot]

theorem map_ofNat_toNat_byte {text : Text} (h : ∀ c ∈ text, c.toNat < 256) :
    (text.map fun c => UInt8.ofNat c.toNat).map (fun b => Char.ofNat b.toNat) = text := by
  rw [List.map_map]
  refine (List.map_congr_left fun c hmem => ?_).trans (List.map_id text)
  show Char.ofNat (UInt8.ofNat c.toNat).toNat = c
  rw [Utf8.toNat_byte (h c hmem), Char.ofNat_toNat]

theorem decode_of_encode {encoding : Encoding} {text : Text} {bytes : Bytes}
    (h : encoding.encode text = .ok bytes) : encoding.decode bytes = .ok text := by
  cases encoding with
  | utf8 =>
      cases h
      exact decode_encode_utf8 text
  | utf8Marked =>
      -- the mark that is written is the one that is dropped
      cases h
      exact decode_encode_utf8 text
  | latin1 =>
      obtain ⟨hbelow, rfl⟩ := encodeBelow_eq_ok h
      rw [decode, map_ofNat_toNat_byte hbelow]
  | ascii =>
      obtain ⟨hbelow, rfl⟩ := encodeBelow_eq_ok h
      have hbyte : ∀ c ∈ text, c.toNat < 256 := fun c hmem =>
        Nat.lt_trans (hbelow c hmem) (by decide)
      refine decodeAscii_eq_ok.2 ⟨fun b hmem => ?_, map_ofNat_toNat_byte hbyte⟩
      obtain ⟨c, hc, rfl⟩ := List.mem_map.1 hmem
      rw [Utf8.toNat_byte (hbyte c hc)]
      exact hbelow c hc

theorem lossy_of_strict {position : Nat} {pieces : List Utf8.Piece} {text : Text}
    (h : Utf8.strict position pieces = .ok text) : Utf8.lossy pieces = text := by
  induction pieces generalizing position text with
  | nil =>
      cases h
      rfl
  | cons piece pieces ih =>
      cases piece with
      | broken first size fault => cases h
      | char c =>
          rw [Utf8.strict] at h
          cases hrest : Utf8.strict (position + (Utf8.Piece.char c).size) pieces with
          | error fault => rw [hrest] at h; cases h
          | ok rest =>
              rw [hrest] at h
              cases h
              rw [Utf8.lossy, ih hrest]

/-- Where strict decoding gives a text, lossy decoding has nothing to replace. -/
theorem decodeLossy_of_decode {encoding : Encoding} {bytes : Bytes} {text : Text}
    (h : encoding.decode bytes = .ok text) : encoding.decodeLossy bytes = text := by
  cases encoding with
  | utf8 => exact lossy_of_strict h
  | utf8Marked => exact lossy_of_strict h
  | latin1 =>
      cases h
      rfl
  | ascii =>
      obtain ⟨hbelow, rfl⟩ := decodeAscii_eq_ok.1 h
      exact List.map_congr_left fun b hmem => if_pos (hbelow b hmem)

end Encoding

/-! ## What a text gains -/

namespace BeyondAscii

variable {p : Char → Bool}

theorem countP_intercalate (h : BeyondAscii p) {separator : Text}
    (hseparator : separator.isAscii = true) (pieces : List Text) :
    (separator.intercalate pieces).countP p = pieces.flatten.countP p := by
  induction pieces with
  | nil => rfl
  | cons piece pieces ih =>
      cases pieces with
      | nil => rw [List.intercalate_singleton, List.flatten_singleton]
      | cons next pieces =>
          have hflatten : (piece :: next :: pieces).flatten = piece ++ (next :: pieces).flatten :=
            List.flatten_cons
          rw [List.intercalate_cons_cons, List.countP_append, List.countP_append, ih,
            h.countP_eq_zero hseparator, Nat.add_zero, hflatten, List.countP_append]

/-- The code that is sent has no more characters with the property than the source. -/
theorem countP_codes_le (h : BeyondAscii p) {language : Language}
    (hdivider : language.dividerText.isAscii = true) (source : Text) :
    (List.intercalate language.dividerText
      ((Section.ofSource language source).map (·.code))).countP p ≤ source.countP p := by
  have hle := (Section.codeChars_sublist language source).countP_le (p := p)
  have hnewline : ['\n'].countP p = 0 := h.countP_eq_zero (by decide)
  rw [List.countP_append, hnewline, Nat.add_zero, Section.codeChars, List.flatMap_def] at hle
  rwa [h.countP_intercalate hdivider]

variable {reply : LineReply}

theorem countP_renderLine_le (h : BeyondAscii p) (hcls : ∀ c ∈ reply.cls, p c = false)
    (line : Text) : (reply.renderLine line).countP p ≤ line.countP p := by
  have hescape := h.countP_escape_le .highlighted line
  cases hdivider : reply.isDivider line with
  | false => rwa [LineReply.renderLine_of_not_divider hdivider]
  | true =>
      have hstart : Language.markerStart.countP p = 0 := h.countP_eq_zero (by decide)
      have hmiddle : Language.markerMiddle.countP p = 0 := h.countP_eq_zero (by decide)
      have hend : Language.markerEnd.countP p = 0 := h.countP_eq_zero (by decide)
      have hnone : reply.cls.countP p = 0 :=
        List.countP_eq_zero.2 fun c hmem => by simp [hcls c hmem]
      rw [LineReply.renderLine_of_divider hdivider, Language.spanOf]
      simp only [List.countP_append, hstart, hmiddle, hend, hnone]
      omega

theorem countP_renderText_le (h : BeyondAscii p) (hcls : ∀ c ∈ reply.cls, p c = false)
    (text : Text) : (reply.renderText text).countP p ≤ text.countP p := by
  have hnewline : Text.isAscii ['\n'] = true := by decide
  have hlines := h.countP_intercalate hnewline (Text.splitOn '\n' text)
  rw [Text.intercalate_splitOn] at hlines
  rw [LineReply.renderText, h.countP_intercalate hnewline, hlines]
  induction Text.splitOn '\n' text with
  | nil => exact Nat.le_refl _
  | cons line lines ih =>
      rw [List.map_cons, List.flatten_cons, List.flatten_cons, List.countP_append,
        List.countP_append]
      exact Nat.add_le_add (h.countP_renderLine_le hcls line) ih

theorem countP_output_le (h : BeyondAscii p) (hcls : ∀ c ∈ reply.cls, p c = false)
    (text : Text) : (reply.output text).countP p ≤ text.countP p := by
  have hopening : Wrapper.opening.countP p = 0 := h.countP_eq_zero (by decide)
  have hspan : Wrapper.emptySpan.countP p = 0 := h.countP_eq_zero (by decide)
  have hclosing : Wrapper.closing.countP p = 0 := h.countP_eq_zero (by decide)
  have hnewline : ['\n'].countP p = 0 := h.countP_eq_zero (by decide)
  have hstrip := (Text.stripNewlines_sublist (reply.renderText text)).countP_le (p := p)
  have hrender := h.countP_renderText_le hcls text
  rw [LineReply.output, LineReply.renderLines_eq]
  simp only [List.countP_append, hopening, hspan, hclosing, hnewline]
  omega

/-- No character of an answer has the property if none of the text and of the class of the
marks has it. -/
theorem lacks_output (h : BeyondAscii p) (hcls : Lacks p reply.cls) {text : Text}
    (htext : Lacks p text) : Lacks p (reply.output text) :=
  lacks_of_countP_le (h.countP_output_le hcls text) htext

end BeyondAscii

theorem Encoding.covers_output {encoding : Encoding} {reply : LineReply}
    (hcls : ∀ c ∈ reply.cls, encoding.Covers c) {text : Text}
    (htext : ∀ c ∈ text, encoding.Covers c) : ∀ c ∈ reply.output text, encoding.Covers c := by
  have hascii : BeyondAscii fun c => decide (¬ encoding.Covers c) := fun c hc => by
    simp [encoding.covers_of_lt hc]
  intro c hmem
  have hc := hascii.lacks_output (fun c hc => by simp [hcls c hc])
    (fun c hc => by simp [htext c hc]) c hmem
  exact not_not.1 (of_decide_eq_false hc)

/-- The line highlighter answers in an encoding what it was sent in it. -/
theorem LineReply.exists_answer_eq_ok {reply : LineReply} {encoding : Encoding}
    (hnone : reply.stdout = none) (hcls : ∀ c ∈ reply.cls, encoding.Covers c) {stdin : Bytes}
    {text : Text} (hdecode : encoding.decode stdin = .ok text) :
    ∃ stdout, reply.answer encoding stdin =
        .ok { status := reply.status, stdout, stderr := reply.stderr } ∧
      encoding.decodeLossy stdout = reply.output text := by
  obtain ⟨stdout, hstdout⟩ := Encoding.exists_encode_eq_ok
    (Encoding.covers_output hcls (Encoding.covers_of_decode hdecode))
  refine ⟨stdout, ?_, Encoding.decodeLossy_of_decode (Encoding.decode_of_encode hstdout)⟩
  have houtput : reply.outputBytes encoding stdin = .ok stdout := by
    rw [outputBytes, hdecode]
    show (encoding.encode (reply.output text)).mapError RunnerFault.unencodable = .ok stdout
    rw [hstdout]
    rfl
  rw [answer, hnone, houtput]
  rfl

theorem LineHighlighter.exists_runner_eq_ok {lines : LineHighlighter} {command : List Text}
    {encoding : Encoding} (hnone : (lines.replyFor command).stdout = none)
    (hcls : ∀ c ∈ (lines.replyFor command).cls, encoding.Covers c) {stdin : Bytes} {text : Text}
    (hdecode : encoding.decode stdin = .ok text) (disk : Disk) :
    ∃ stdout, lines.runner encoding disk command stdin =
        (.ok { status := (lines.replyFor command).status, stdout
               stderr := (lines.replyFor command).stderr }, disk) ∧
      encoding.decodeLossy stdout = (lines.replyFor command).output text := by
  obtain ⟨stdout, hanswer, houtput⟩ := LineReply.exists_answer_eq_ok hnone hcls hdecode
  exact ⟨stdout, Prod.ext hanswer rfl, houtput⟩

theorem beyondAscii_replacement : BeyondAscii (· == '\uFFFD') := by
  intro c hc
  rw [beq_eq_false_iff_ne]
  rintro rfl
  exact absurd hc (by decide)

/-- The answer for a source has no replacement character that the source does not have. -/
theorem LineReply.count_output_codes_le {reply : LineReply} {language : Language}
    (hdivider : language.dividerText.isAscii = true) (hcls : ∀ c ∈ reply.cls, c ≠ '\uFFFD')
    (source : Text) :
    (reply.output (List.intercalate language.dividerText
      ((Section.ofSource language source).map (·.code)))).count '\uFFFD' ≤
        source.count '\uFFFD' := by
  rw [List.count_eq_countP, List.count_eq_countP]
  exact (beyondAscii_replacement.countP_output_le
    (fun c hmem => beq_eq_false_iff_ne.2 (hcls c hmem)) _).trans
      (beyondAscii_replacement.countP_codes_le hdivider source)

/-- Code that has bytes fails to be highlighted for want of an encoding only if the program
itself does. -/
theorem Highlighter.unencodable_of_highlight {highlighter : Highlighter} {disk : Disk}
    {language : Language} {encoding : Encoding} {sections : List Section} {stdin : Bytes}
    {fault : Unencodable} (hcodec : highlighter.codecs highlighter.encoding = some encoding.codec)
    (hrender : ∀ docs fault, highlighter.render docs ≠ .error (.unencodable fault))
    (hstdin : encoding.encode
      (List.intercalate language.dividerText (sections.map (·.code))) = .ok stdin)
    (h : (highlighter.highlight disk language sections).result = .error (.unencodable fault)) :
    (highlighter.runner disk (highlighter.commandFor language) stdin).1 =
      .error (.unencodable fault) := by
  have hencode := Encoding.encode_codec_eq_ok.2 hstdin
  rcases bind_eq_error.1 h with hcode | ⟨_, _, hfill⟩
  · rcases bind_eq_error.1 hcode with hrun | ⟨body, _, hblocks⟩
    · have hruns := highlighter.runsTo_run disk language
        (List.intercalate language.dividerText (sections.map (·.code)))
      generalize highlighter.run disk language
        (List.intercalate language.dividerText (sections.map (·.code))) = traced at hrun hruns
      cases hruns with
      | unknown _ => cases hrun
      | unencodable hsame hfault =>
          obtain rfl := Option.some.inj (hcodec.symm.trans hsame)
          cases hencode.symm.trans hfault
      | @unanswered _ _ refused _ hsame hagain hrefused =>
          obtain rfl := Option.some.inj (hcodec.symm.trans hsame)
          obtain rfl := Except.ok.inj (hencode.symm.trans hagain)
          rw [hrefused]
          have hfailure := Except.error.inj hrun
          cases refused with
          | unencodable other => cases hfailure; rfl
          | undecodable other => cases hfailure
          | notStarted reason => cases reason <;> cases hfailure
      | answered hsame _ _ =>
          obtain rfl := Option.some.inj (hcodec.symm.trans hsame)
          rcases failure_of_readReply hrun with ⟨_, _, hother⟩ | ⟨_, _, _, hnone, _⟩
          · cases hother
          · cases hnone
    · rw [blocksOf] at hblocks
      split at hblocks <;> cases hblocks
  · obtain ⟨s, _, hdocs⟩ := exists_render_error_of_fill hfill
    exact absurd hdocs (hrender s.docs fault)

/-! ## Names that are no text -/

namespace Disk

variable {disk after : Disk} {path text : Text} {fault : Fault}

/-- Whether a character stands for a byte of a name. -/
def isStray (disk : Disk) (c : Char) : Bool :=
  (disk.strays.lookup c).isSome

theorem encodeText_of_lacks (h : Lacks disk.isStray text) :
    disk.encodeText text = .ok (Utf8.encode text) :=
  encodeText_of_lookup fun c hmem =>
    Option.not_isSome_iff_eq_none.1 (Bool.eq_false_iff.1 (h c hmem))

/-- A text that holds a character which stands for a byte has no bytes. -/
theorem exists_encodeText_eq_error {c : Char} (hmem : c ∈ text) (hstray : disk.isStray c = true) :
    ∃ reason, disk.encodeText text = .error reason := by
  rw [encodeText]
  dsimp only
  split
  · next hnone =>
      have hfits := Unencodable.find?_eq_none.1 hnone c hmem
      rw [Option.isNone_iff_eq_none] at hfits
      rw [isStray, hfits] at hstray
      cases hstray
  · exact ⟨_, rfl⟩

theorem strays_ensureDir (disk : Disk) (path : Text) :
    (disk.ensureDir path).2.strays = disk.strays := by
  rcases disk.ensureDir_cases path with ⟨place, heq⟩ | heq | ⟨_, heq⟩ | ⟨cause, heq⟩
  · rw [heq]
    rfl
  all_goals rw [heq]

/-- Making directories leaves the characters as they are that stand for bytes. -/
theorem strays_makeDirs (disk : Disk) (path : Text) :
    (disk.makeDirs path).2.strays = disk.strays := by
  fun_induction makeDirs disk path with
  | case1 path hsplit hexists => exact strays_ensureDir disk path
  | case2 path hsplit hmissing refusedPath above heq hdot ih
  | case4 path hsplit hmissing above heq hdot ih =>
      rw [heq] at ih
      exact ih
  | case3 path hsplit hmissing refusedPath above heq hname ih
  | case5 path hsplit hmissing above heq hname ih =>
      rw [heq] at ih
      exact (strays_ensureDir above path).trans ih
  | case6 path hsplit hmissing htaken hmade ih => exact ih
  | case7 path hsplit => exact strays_ensureDir disk path

theorem isLate_of_openFile {opened : Disk}
    (h : disk.openFile path = (.error fault, opened)) : fault.isLate = false := by
  rw [openFile] at h
  split at h
  · cases h
    rfl
  · split at h
    · cases h
    · cases h
      rfl

theorem isLate_of_ensureDir (h : disk.ensureDir path = (.error fault, after)) :
    fault.isLate = false := by
  rcases disk.ensureDir_cases path with ⟨place, heq⟩ | heq | ⟨_, heq⟩ | ⟨cause, heq⟩
  · cases heq.symm.trans h
  · cases heq.symm.trans h
  · cases heq.symm.trans h
    rfl
  · cases heq.symm.trans h
    rfl

theorem isLate_of_makeDirs (h : disk.makeDirs path = (.error fault, after)) :
    fault.isLate = false := by
  fun_induction makeDirs disk path with
  | case1 path hsplit hexists | case7 path hsplit => exact isLate_of_ensureDir h
  | case2 path hsplit hmissing refusedPath above heq hdot ih
  | case4 path hsplit hmissing above heq hdot ih => cases h
  | case3 path hsplit hmissing refusedPath above heq hname ih
  | case5 path hsplit hmissing above heq hname ih => exact isLate_of_ensureDir h
  | case6 path hsplit hmissing htaken hmade ih => exact ih h

/-- A text that is not written for want of bytes holds a character that stands for one. -/
theorem FailsToWrite.exists_isStray {reason : Unencodable}
    (h : disk.FailsToWrite path text (.unencodable reason) after) :
    ∃ c ∈ text, disk.isStray c = true := by
  rcases h with hmade | ⟨above, hmade, hwritten⟩
  · cases isLate_of_makeDirs hmade
  · rcases fault_of_writeText hwritten with ⟨_, hopen⟩ | ⟨_, hstopped⟩ | ⟨_, htext, _⟩
    · cases isLate_of_openFile hopen
    · cases hstopped
    · have habove := disk.strays_makeDirs (Path.directoryOf path)
      rw [hmade] at habove
      by_contra hnone
      push Not at hnone
      have hlacks : Lacks above.isStray text := fun c hmem => by
        rw [isStray, habove]
        exact Bool.eq_false_iff.2 (hnone c hmem)
      cases (encodeText_of_lacks hlacks).symm.trans htext

theorem writeText_of_encodeText_eq_error {opened : Disk} {place : Location} {reason : Unencodable}
    (htext : disk.encodeText text = .error reason)
    (hopen : disk.openFile path = (.ok place, opened)) :
    disk.writeText path text = (.error (.unencodable reason), opened) := by
  rw [writeText, htext]
  simp only [hopen]

end Disk

theorem Page.subset_render_title (page : Page) : Page.escape page.title ⊆ page.render := by
  have hhead : Page.escape page.title ⊆ page.head := by
    delta Page.head
    exact fun c hmem => List.mem_append_left _ (List.mem_append_left _ (List.mem_append_left _
      (List.mem_append_left _ (List.mem_append_right _ hmem))))
  rw [Page.render]
  exact fun c hmem => List.mem_append_left _ (List.mem_append_left _ (List.mem_append_left _
    (List.mem_append_left _ (hhead hmem))))

/-! ## Documents -/

namespace Generator

open Step

variable {generator : Generator} {before : RunState} {source text : Text} {language : Language}
  {encoding : Encoding}

/-- A page is to be written that shows a character which stands for a byte of a name. -/
def ShowsStray (generator : Generator) (before : RunState) (source : Text) (language : Language)
    (text : Text) : Prop :=
  let traced := generator.highlighter.highlight before.disk language
    (Section.ofSource language text)
  ∃ sections, traced.result = .ok sections ∧
    ∃ c ∈ (Page.ofSource generator.settings.layout (Disk.pathOf traced.disk.cwd) source sections
      before.context.sources).render, traced.disk.isStray c = true

/-- A document that fails for want of an encoding has this from the program, or its page
shows a name that is no text. -/
theorem unencodable_of_fails_document {fault : Unencodable} {after : RunState} {stdin : Bytes}
    (hcodec : generator.highlighter.codecs generator.highlighter.encoding = some encoding.codec)
    (hrender : ∀ docs fault, generator.highlighter.render docs ≠ .error (.unencodable fault))
    (hlanguage : generator.registry.forPath source = some language)
    (hread : generator.readSource before.disk source = .ok text)
    (hstdin : encoding.encode (List.intercalate language.dividerText
      ((Section.ofSource language text).map (·.code))) = .ok stdin)
    (h : (generator.document source).Fails before (.unencodable fault) after) :
    (generator.highlighter.runner before.disk (generator.highlighter.commandFor language)
        stdin).1 = .error (.unencodable fault) ∨
      generator.ShowsStray before source language text := by
  generalize hfailure : Failure.unencodable fault = failure at h
  cases fails_document hlanguage h with
  | read hrefused =>
      rw [hread] at hrefused
      cases hrefused
  | highlight hsame htraced hresult =>
      obtain rfl := Except.ok.inj (hread.symm.trans hsame)
      rw [← htraced, ← hfailure] at hresult
      exact Or.inl (Highlighter.unencodable_of_highlight hcodec hrender hstdin hresult)
  | @write _ _ sections reason _ _ hsame htraced hresult hrefused =>
      obtain rfl := Except.ok.inj (hread.symm.trans hsame)
      rw [← htraced] at hresult hrefused
      cases reason with
      | unencodable other => exact Or.inr ⟨sections, hresult, hrefused.exists_isStray⟩
      | refused | linkRefused | nullByte | stopped => cases hfailure

/-- Nothing that the page of a source is made from holds a character that stands for a byte of
a name: no path, no text that was read, and nothing that rendering puts in. No such character
is ASCII. -/
structure NamesAreText (generator : Generator) (before : RunState) (source text : Text) : Prop where
  beyondAscii : BeyondAscii before.disk.isStray
  cwd : Lacks before.disk.isStray (Disk.pathOf before.disk.cwd)
  outputDir : Lacks before.disk.isStray generator.settings.outputDir
  source : Lacks before.disk.isStray source
  sources : ∀ other ∈ before.context.sources, Lacks before.disk.isStray other
  text : Lacks before.disk.isStray text
  render : ∀ docs docsHtml, Lacks before.disk.isStray docs →
    generator.highlighter.render docs = .ok docsHtml → Lacks before.disk.isStray docsHtml

/-- A page shows no names that are no text if there are none and the program answers none. -/
theorem NamesAreText.not_showsStray (h : generator.NamesAreText before source text)
    (hkeeps : generator.highlighter.runner.KeepsDisk)
    (hanswer : ∀ body, generator.highlighter.GivesBody before.disk language
      (List.intercalate language.dividerText ((Section.ofSource language text).map (·.code))) body →
        Lacks before.disk.isStray body) :
    ¬ generator.ShowsStray before source language text := by
  rintro ⟨sections, hresult, c, hmem, hstray⟩
  rw [Highlighter.disk_of_highlight hkeeps] at hmem hstray
  obtain ⟨body, hbody, hfills⟩ := Highlighter.fillsFrom_of_highlight_eq_ok hresult
  have hsections : ∀ s ∈ sections, Lacks before.disk.isStray (s.docsHtml.getD []) ∧
      Lacks before.disk.isStray (s.codeHtml.getD []) := by
    intro s hs
    obtain ⟨given, hgiven, piece, hpiece, docsHtml, hdocs, rfl⟩ := hfills.exists_of_mem hs
    have hnewline : Lacks before.disk.isStray ['\n'] := h.beyondAscii.lacks (by decide)
    refine ⟨h.render given.docs docsHtml (fun c hc => ?_) hdocs, ?_⟩
    · rcases Section.mem_docs_ofSource hgiven hc with rfl | hc
      · exact hnewline _ (List.mem_singleton_self _)
      · exact h.text c hc
    · have hshown := (hanswer body hbody).of_subset hpiece
      exact ((h.beyondAscii.lacks (by decide)).append hshown).append
        (h.beyondAscii.lacks (by decide))
  have hlacks : before.disk.isStray c = false :=
    h.beyondAscii.lacks_ofSource h.cwd h.outputDir h.source h.sources hsections c hmem
  cases hlacks.symm.trans hstray

/-- The line highlighter answers no names that are no text if its marks have none. -/
theorem NamesAreText.not_showsStray_ofLines (h : generator.NamesAreText before source text)
    (hdivider : language.dividerText.isAscii = true) {lines : LineHighlighter}
    (hrunner : generator.highlighter.runner = lines.runner encoding)
    (hcodec : generator.highlighter.codecs generator.highlighter.encoding = some encoding.codec)
    {reply : Reply} {stdin : Bytes}
    (hstdin : encoding.encode (List.intercalate language.dividerText
      ((Section.ofSource language text).map (·.code))) = .ok stdin)
    (hreply : generator.highlighter.runner before.disk
      (generator.highlighter.commandFor language) stdin = (.ok reply, before.disk))
    (houtput : encoding.decodeLossy reply.stdout =
      (lines.replyFor (generator.highlighter.commandFor language)).output
        (List.intercalate language.dividerText ((Section.ofSource language text).map (·.code))))
    (hcls : Lacks before.disk.isStray
      (lines.replyFor (generator.highlighter.commandFor language)).cls) :
    ¬ generator.ShowsStray before source language text := by
  refine h.not_showsStray (hrunner ▸ Runner.keepsDisk_ofReplies _) fun body hbody => ?_
  obtain ⟨_, _, _, _, _, shown, hsame, hagain, hgiven, _, _, hdecoded, hwraps⟩ := hbody
  obtain rfl := Option.some.inj (hcodec.symm.trans hsame)
  obtain rfl := Except.ok.inj ((Encoding.encode_codec_eq_ok.2 hstdin).symm.trans hagain)
  cases hreply.symm.trans hgiven
  obtain rfl : encoding.decodeLossy reply.stdout = shown := Except.ok.inj hdecoded
  have hcode := BeyondAscii.lacks_of_countP_le
    (h.beyondAscii.countP_codes_le hdivider text) h.text
  have hlacks := h.beyondAscii.lacks_output hcls hcode
  rw [← houtput] at hlacks
  exact hlacks.of_subset hwraps.subset

/-- What can be read can be sent: the code of a source that was read has bytes in the encoding,
from which it can be read back. The line highlighter answers it, with no replacement character
that the source does not have. So documenting the source fails for want of an encoding only if
the program itself does, or if the page shows a name whose bytes are no text; with the line
highlighter, only if there is such a name among the paths that the page is made from. -/
theorem document_encodable
    (hcodec : generator.highlighter.codecs generator.settings.encoding = some encoding.codec)
    (hshared : generator.highlighter.encoding = generator.settings.encoding)
    (hrender : ∀ docs fault, generator.highlighter.render docs ≠ .error (.unencodable fault))
    (hlanguage : generator.registry.forPath source = some language)
    (hread : generator.readSource before.disk source = .ok text) :
    let command := generator.highlighter.commandFor language
    let sections := Section.ofSource language text
    let code := List.intercalate language.dividerText (sections.map (·.code))
    ∃ stdin, encoding.encode code = .ok stdin ∧ encoding.decode stdin = .ok code ∧
      (generator.highlighter.highlight before.disk language sections).calls =
        [⟨command, stdin⟩] ∧
      (∀ fault after, (generator.document source).Fails before (.unencodable fault) after →
        (generator.highlighter.runner before.disk command stdin).1 =
            .error (.unencodable fault) ∨
          generator.ShowsStray before source language text) ∧
      ∀ lines : LineHighlighter, generator.highlighter.runner = lines.runner encoding →
        (lines.replyFor command).stdout = none →
        (∀ c ∈ (lines.replyFor command).cls, encoding.Covers c ∧ c ≠ '\uFFFD') →
        ∃ stdout, (generator.highlighter.runner before.disk command stdin).1 =
            .ok { status := (lines.replyFor command).status, stdout
                  stderr := (lines.replyFor command).stderr } ∧
          encoding.decodeLossy stdout = (lines.replyFor command).output code ∧
          (encoding.decodeLossy stdout).count '\uFFFD' ≤ text.count '\uFFFD' ∧
          (generator.NamesAreText before source text →
            Lacks before.disk.isStray (lines.replyFor command).cls →
            ∀ fault after,
              ¬ (generator.document source).Fails before (.unencodable fault) after) := by
  intro command sections code
  obtain ⟨_, known, _, hknown, htext⟩ := readSource_eq_ok hread
  obtain rfl : known = encoding.codec := Option.some.inj (hknown.symm.trans hcodec)
  rw [← hshared] at hcodec
  obtain ⟨stdin, hstdin⟩ :=
    Registry.exists_encode_codes hlanguage (Encoding.read_codec_eq_ok.1 htext)
  have hdecode := Encoding.decode_of_encode hstdin
  have hfails : ∀ fault after,
      (generator.document source).Fails before (.unencodable fault) after →
      (generator.highlighter.runner before.disk command stdin).1 = .error (.unencodable fault) ∨
        generator.ShowsStray before source language text :=
    fun fault after => unencodable_of_fails_document hcodec hrender hlanguage hread hstdin
  refine ⟨stdin, hstdin, hdecode,
    Highlighter.calls_of_run hcodec (Encoding.encode_codec_eq_ok.2 hstdin), hfails, ?_⟩
  intro lines hrunner hnone hcls
  have hdivider : language.dividerText.isAscii = true := List.all_eq_true.2 fun c hmem =>
    decide_eq_true (Registry.toNat_lt_of_mem_dividerText hlanguage c hmem)
  obtain ⟨stdout, hreply, houtput⟩ := LineHighlighter.exists_runner_eq_ok hnone
    (fun c hmem => (hcls c hmem).1) hdecode before.disk
  rw [← hrunner] at hreply
  refine ⟨stdout, congrArg Prod.fst hreply, houtput, ?_, fun hnames hstrayless fault after h => ?_⟩
  · rw [houtput]
    exact LineReply.count_output_codes_le hdivider (fun c hmem => (hcls c hmem).2) text
  · rcases hfails fault after h with hrefused | hshows
    · rw [hreply] at hrefused
      cases hrefused
    · exact hnames.not_showsStray_ofLines hdivider hrunner hcodec hstdin hreply houtput hstrayless
        hshows

/-! ## A mark, and a name that is no text -/

/-- A disk with a source, whose names have a byte that is no text as this character. -/
def strayDisk (source : Text) (content : Bytes) : Disk where
  entries := [([source], .file content), (["docs".toList], .directory)]
  strays := [('\uE0E9', 0xE9)]

theorem isStray_strayDisk {source : Text} {content : Bytes} {c : Char} :
    (strayDisk source content).isStray c = (c == '\uE0E9') := by
  show (List.lookup c [('\uE0E9', (0xE9 : UInt8))]).isSome = _
  rw [List.lookup_cons]
  cases c == '\uE0E9' <;> rfl

theorem lacks_strayDisk {source text : Text} {content : Bytes} (h : '\uE0E9' ∉ text) :
    Lacks (strayDisk source content).isStray text := by
  intro c hmem
  rw [isStray_strayDisk, beq_eq_false_iff_ne]
  rintro rfl
  exact h hmem

/-- The line highlighter, spoken to in UTF-8 with a mark. -/
def marked : Generator where
  settings := { encoding := "UTF-8-SIG".toList }
  highlighter :=
    { Highlighter.ofLines with
      encoding := "UTF-8-SIG".toList
      runner := (LineHighlighter.uniform {}).runner .utf8Marked }

/-- The mark at the start of a file goes when it is read, and another one is sent. -/
theorem document_encodable_marked :
    let before : RunState :=
      { disk := strayDisk "a.py".toList (Encoding.mark ++ Utf8.encode "\u00E9\n#x\ny\n".toList)
        context := { sources := ["a.py".toList] } }
    ∃ stdin, Encoding.utf8Marked.encode "\u00E9\n\n#DIVIDER\ny\n".toList = .ok stdin ∧
      Encoding.utf8Marked.decode stdin = .ok "\u00E9\n\n#DIVIDER\ny\n".toList ∧
      ∀ fault after,
        ¬ (marked.document "a.py".toList).Fails before (.unencodable fault) after := by
  intro before
  have hcodec : marked.highlighter.codecs marked.settings.encoding =
      some Encoding.utf8Marked.codec := by
    show Encoding.codec? "UTF-8-SIG".toList = _
    exact Encoding.codec?_of_named? (by decide)
  have hrender : ∀ docs fault, marked.highlighter.render docs ≠ .error (.unencodable fault) :=
    fun docs fault h => by cases h
  have hlanguage : marked.registry.forPath "a.py".toList = some Highlighter.firstStandard :=
    Registry.forPath_standard_of_py (by decide)
  have hread : marked.readSource before.disk "a.py".toList = .ok "\u00E9\n#x\ny\n".toList := by
    have hfile : before.disk.readFile "a.py".toList =
        .ok (Encoding.mark ++ Utf8.encode "\u00E9\n#x\ny\n".toList) := by cbv
    exact readSource_of_readFile hfile hcodec
      (Encoding.read_codec_eq_ok.2 (by decide +kernel))
  have hnames : marked.NamesAreText before "a.py".toList "\u00E9\n#x\ny\n".toList :=
    { beyondAscii := fun c hc => by
        rw [isStray_strayDisk, beq_eq_false_iff_ne]
        rintro rfl
        exact absurd hc (by decide)
      cwd := lacks_strayDisk (by decide)
      outputDir := lacks_strayDisk (by decide)
      source := lacks_strayDisk (by decide)
      sources := List.forall_mem_singleton.2 (lacks_strayDisk (by decide))
      text := lacks_strayDisk (by decide)
      render := fun docs docsHtml hdocs h => by cases h; exact hdocs }
  obtain ⟨stdin, hstdin, hdecode, _, _, hlines⟩ :=
    document_encodable hcodec rfl hrender hlanguage hread
  have hall : ("c1".toList.all fun c =>
      decide (Encoding.utf8Marked.Covers c ∧ c ≠ '\uFFFD')) = true := by decide
  obtain ⟨_, _, _, _, hfails⟩ := hlines (.uniform {}) rfl rfl fun c hmem =>
    of_decide_eq_true (List.all_eq_true.1 hall c hmem)
  have hcode : List.intercalate Highlighter.firstStandard.dividerText
      ((Section.ofSource Highlighter.firstStandard "\u00E9\n#x\ny\n".toList).map (·.code)) =
        "\u00E9\n\n#DIVIDER\ny\n".toList := by decide
  rw [hcode] at hstdin hdecode
  exact ⟨stdin, hstdin, hdecode, hfails hnames (lacks_strayDisk (by decide))⟩

/-- A source whose name has a byte that is no text. -/
def cafe : Disk := strayDisk "caf\uE0E9.py".toList (Utf8.encode "x\n".toList)

theorem readFile_cafe : cafe.readFile "caf\uE0E9.py".toList = .ok (Utf8.encode "x\n".toList) := by
  cbv

theorem failsToWrite_cafe {page : Text} (h : '\uE0E9' ∈ page) :
    ∃ reason opened, cafe.FailsToWrite "docs/caf\uE0E9.html".toList page (.unencodable reason)
      opened := by
  have hmade : cafe.makeDirs "docs".toList = (.ok (), cafe) := by
    rw [makeDirs_docs]
    cbv
  have hplace : cafe.filePlace "docs/caf\uE0E9.html".toList =
      .ok ["docs".toList, "caf\uE0E9.html".toList] := by cbv
  have hopen : cafe.openFile "docs/caf\uE0E9.html".toList =
      (.ok ["docs".toList, "caf\uE0E9.html".toList],
        cafe.putFile ["docs".toList, "caf\uE0E9.html".toList] []) := by
    rw [Disk.openFile, if_neg (by decide), hplace]
  have habove : Path.directoryOf "docs/caf\uE0E9.html".toList = "docs".toList := by decide
  have hstray : cafe.isStray '\uE0E9' = true := isStray_strayDisk.trans (by decide)
  obtain ⟨reason, hreason⟩ := Disk.exists_encodeText_eq_error h hstray
  exact ⟨reason, _, Or.inr ⟨cafe, habove ▸ hmade,
    Disk.writeText_of_encodeText_eq_error hreason hopen⟩⟩

/-- A source can be read and highlighted, and its page cannot be written for its name. -/
theorem not_document_encodable_stray :
    let source := "caf\uE0E9.py".toList
    let before : RunState := { disk := cafe, context := { sources := [source] } }
    sample.readSource before.disk source = .ok "x\n".toList ∧
      (∃ sections, (sample.highlighter.highlight before.disk Highlighter.firstStandard
        (Section.ofSource Highlighter.firstStandard "x\n".toList)).result = .ok sections) ∧
      ∃ fault after, (sample.document source).Fails before (.unencodable fault) after := by
  intro source before
  have hlanguage : sample.registry.forPath source = some Highlighter.firstStandard :=
    Registry.forPath_standard_of_py (by decide)
  have hread : sample.readSource before.disk source = .ok "x\n".toList :=
    readSource_of_readFile readFile_cafe Encoding.codec?_utf8
      (Encoding.read_codec_eq_ok.2 (by decide +kernel))
  obtain ⟨sections, hresult⟩ :=
    Highlighter.exists_highlight_ofLines_eq_ok before.disk "x\n".toList
  refine ⟨hread, ⟨sections, hresult⟩, ?_⟩
  -- the name is the title of its page
  have htitle (page : Page) (h : page.title = source) : '\uE0E9' ∈ page.render :=
    page.subset_render_title (by rw [h]; decide)
  have hpage : sample.settings.layout.pagePath source = "docs/caf\uE0E9.html".toList := by decide
  obtain ⟨reason, opened, hrefused⟩ := failsToWrite_cafe (htitle (Page.ofSource
    sample.settings.layout (Disk.pathOf before.disk.cwd) source sections [source])
    (show Path.name source = source by decide))
  rw [← hpage] at hrefused
  obtain ⟨after, hfails, _⟩ := exists_fails_document hlanguage hread hresult hrefused
  exact ⟨reason, after, hfails⟩

end Generator
end Marginalia

import Marginalia.Proofs.DividerRoundTrip
import Marginalia.Proofs.SectionBlocks
import Mathlib.Data.List.Forall2

/-!
# Every section gets its own code back

Between the sections of a source and their HTML lie a join, a foreign program
and a split, and nothing in the types keeps the code of one section from ending
up in another. For the line highlighter it does not, whatever the source is. The
reason is in the sections and not in the highlighter: a line that looks like the
divider is a comment, comments are never part of the code, and so the joined text
has no divider lines but those that were put there.

What comes back for a section is compared with its code as text: the tags and
entities of the block are read away by `Html.plain`, and newlines at the ends do
not count.
-/

namespace Marginalia

open Marginalia.Language (isNewline)

/-! ## The text of a rendered text -/

namespace LineReply

variable {reply : LineReply}

theorem outsideTags_renderLine (hcls : PlainName reply.cls) (line rest : Text) :
    Html.outsideTags false (reply.renderLine line ++ rest) =
      Html.escape .highlighted line ++ Html.outsideTags false rest := by
  have hescaped : ∀ c ∈ Html.escape .highlighted line, Html.isAngle c = false :=
    fun c hmem => Html.isAngle_of_mem_escape hmem
  cases hdivider : reply.isDivider line with
  | false => rw [renderLine_of_not_divider hdivider, Html.outsideTags_append hescaped]
  | true =>
      rw [renderLine_of_divider hdivider,
        Language.outsideTags_spanOf (fun hmem => (hcls _ hmem).2.2.2 rfl) hescaped]

/-- Outside of its tags, a rendered text is the text escaped. -/
theorem outsideTags_renderText (hcls : PlainName reply.cls) (text rest : Text) :
    Html.outsideTags false (reply.renderText text ++ rest) =
      Html.escape .highlighted text ++ Html.outsideTags false rest := by
  have hlines : ∀ lines : List Text,
      Html.outsideTags false (List.intercalate ['\n'] (lines.map reply.renderLine) ++ rest) =
        Html.escape .highlighted (List.intercalate ['\n'] lines) ++
          Html.outsideTags false rest := by
    have hnewline : ∀ c ∈ ['\n'], Html.isAngle c = false := by simp [Html.isAngle]
    intro lines
    induction lines with
    | nil => rfl
    | cons line lines ih =>
        cases lines with
        | nil =>
            rw [List.map_singleton, List.intercalate_singleton, List.intercalate_singleton,
              outsideTags_renderLine hcls]
        | cons next lines =>
            rw [List.map_cons, List.map_cons, List.intercalate_cons_cons, ← List.map_cons,
              List.intercalate_cons_cons, List.append_assoc, List.append_assoc,
              outsideTags_renderLine hcls, List.append_assoc, Html.escape_append,
              Html.escape_append, Html.outsideTags_append hnewline, ih]
            simp only [List.append_assoc]
            rfl
  rw [renderText, hlines, Text.intercalate_splitOn]

/-- The tags of a block are not part of its text. -/
theorem outsideTags_wrap (piece : Text) :
    Html.outsideTags false (Wrapper.wrap piece) =
      Html.outsideTags false (piece ++ Wrapper.closing) := rfl

/-- The text of the block that comes back for a fragment is the fragment, up to newlines at
its ends. -/
theorem stripNewlines_plain_shown (hcls : PlainName reply.cls) (total index : Nat)
    (fragment : Text) :
    Text.stripNewlines (Html.plain (Wrapper.wrap (reply.shown total index fragment))) =
      Text.stripNewlines fragment := by
  have hclosing : Html.outsideTags false Wrapper.closing = [] := by decide
  have hnewline : Html.outsideTags false (['\n'] ++ Wrapper.closing) = ['\n'] := by decide
  rw [Html.plain, outsideTags_wrap, shown, List.append_assoc, outsideTags_renderText hcls,
    Html.unescape_escape_append]
  split
  · rw [hnewline]
    exact (Text.stripNewlines_concat _).trans (Text.stripNewlines_stripNewlines fragment)
  · rw [List.nil_append, hclosing]
    exact (congrArg _ (List.append_nil _)).trans (Text.stripNewlines_stripNewlines fragment)

end LineReply

/-! ## The code of a section -/

namespace Section

/-- The divider of a registered language is a comment in it. -/
theorem isComment_dividerLine {classes : List Text} {language : Language}
    (h : language ∈ (Registry.standard classes).languages) :
    language.isComment language.dividerLine = true := by
  have hall : Registry.standardSymbols.all (fun symbol =>
      (afterSymbol? symbol (symbol ++ "DIVIDER".toList)).isSome &&
        !Language.isInterpreterLine (symbol ++ "DIVIDER".toList) &&
        (afterSymbol? (symbol ++ ['\x7b']) (symbol ++ "DIVIDER".toList)).isNone) = true := by
    decide
  exact List.all_eq_true.1 hall language.symbol (Registry.mem_languages_standard h).2

theorem newline_not_mem_of_mem_splitLines {source line : Text} (h : line ∈ splitLines source) :
    '\n' ∉ line := by
  rw [splitLines] at h
  split at h
  · exact Text.not_mem_of_mem_splitOn (List.dropLast_subset _ h)
  · exact Text.not_mem_of_mem_splitOn h

/-- No line of the code of a section is a comment. -/
theorem dividersIn_code {language : Language}
    (hcomment : language.isComment language.dividerLine = true) {source : Text} {s : Section}
    (h : s ∈ ofSource language source) : language.dividersIn s.code = 0 := by
  rw [ofSource, ofLines_eq_map_ofBlock] at h
  obtain ⟨block, hblock, rfl⟩ := List.mem_map.1 h
  have hlines : ∀ line ∈ codeLines language block,
      '\n' ∉ line ∧ language.isComment line = false := by
    intro line hline
    obtain ⟨hmem, hcode⟩ := List.mem_filter.1 hline
    have hsource : line ∈ splitLines source := by
      rw [← flatten_blocks language (splitLines source)]
      exact List.mem_flatten_of_mem hblock hmem
    exact ⟨newline_not_mem_of_mem_splitLines hsource, by simpa using hcode⟩
  rw [Language.dividersIn, ofBlock, Text.splitOn_unlines fun line hline => (hlines line hline).1]
  refine List.count_eq_zero.2 fun hmem => ?_
  rcases List.mem_append.1 hmem with hline | hnil
  · exact absurd hcomment (by simp [(hlines _ hline).2])
  · exact language.dividerLine_ne_nil (List.mem_singleton.1 hnil)

theorem dividersIn_codes {classes : List Text} {language : Language}
    (hlanguage : language ∈ (Registry.standard classes).languages) (source : Text) :
    ∀ code ∈ (ofSource language source).map (·.code), language.dividersIn code = 0 := by
  intro code hmem
  obtain ⟨s, hs, rfl⟩ := List.mem_map.1 hmem
  exact dividersIn_code (isComment_dividerLine hlanguage) hs

end Section

/-! ## Filling in the sections -/

namespace Highlighter

/-- A section filled in from another one: its docs rendered, and its code in a
block whose text is that code up to newlines at the ends. -/
def FillsIn (highlighter : Highlighter) (s filled : Section) : Prop :=
  ∃ docsHtml codeHtml, highlighter.render s.docs = .ok docsHtml ∧
    filled = { s with docsHtml := some docsHtml, codeHtml := some codeHtml } ∧
    Text.stripNewlines (Html.plain codeHtml) = Text.stripNewlines s.code ∧
    ∃ piece,
      codeHtml = "<div class=\"highlight\"><pre>".toList ++ piece ++ "</pre></div>".toList

variable {highlighter : Highlighter} {language : Language} {reply : LineReply}

theorem exists_render_error_of_fill {sections : List Section} {blocks : List Text}
    {failure : Failure} (h : highlighter.fill sections blocks = .error failure) :
    ∃ s ∈ sections, highlighter.render s.docs = .error failure := by
  induction sections generalizing blocks with
  | nil => cases h
  | cons s sections ih =>
      cases blocks with
      | nil => cases h
      | cons block blocks =>
          rw [fill_cons, bind_eq_error] at h
          rcases h with hdocs | ⟨docsHtml, _, h⟩
          · exact ⟨s, List.mem_cons_self .., hdocs⟩
          · rcases bind_eq_error.1 h with hrest | ⟨_, _, hnone⟩
            · obtain ⟨t, hmem, ht⟩ := ih hrest
              exact ⟨t, List.mem_cons_of_mem _ hmem, ht⟩
            · cases hnone

theorem exists_fill_eq_ok {sections : List Section} {pieces : List Text}
    (hpieces : List.Forall₂ (fun s piece =>
      Text.stripNewlines (Html.plain (Wrapper.wrap piece)) = Text.stripNewlines s.code) sections
        pieces)
    (hrender : ∀ s ∈ sections, ∃ docsHtml, highlighter.render s.docs = .ok docsHtml) :
    ∃ filled, highlighter.fill sections (pieces.map Wrapper.wrap) = .ok filled ∧
      List.Forall₂ highlighter.FillsIn sections filled := by
  induction hpieces with
  | nil => exact ⟨[], rfl, .nil⟩
  | @cons s piece sections pieces hpiece _ ih =>
      obtain ⟨docsHtml, hdocs⟩ := hrender s (List.mem_cons_self ..)
      obtain ⟨filled, hfill, hall⟩ := ih fun t hmem => hrender t (List.mem_cons_of_mem _ hmem)
      refine ⟨_, ?_, .cons ⟨docsHtml, _, hdocs, rfl, hpiece, piece, Wrapper.wrap_eq piece⟩ hall⟩
      rw [List.map_cons, fill_cons, hdocs, hfill]
      rfl

theorem forall₂_mapIdx_shown (hcls : PlainName reply.cls) (total : Nat) (sections : List Section) :
    List.Forall₂ (fun s piece =>
        Text.stripNewlines (Html.plain (Wrapper.wrap piece)) = Text.stripNewlines s.code) sections
      ((sections.map (·.code)).mapIdx (reply.shown total)) := by
  refine List.forall₂_iff_get.2 ⟨by simp, fun i _ hi => ?_⟩
  simp only [List.get_eq_getElem, List.getElem_mapIdx, List.getElem_map]
  exact LineReply.stripNewlines_plain_shown hcls total i _

theorem UsesLines.calls_highlight (huses : highlighter.UsesLines language reply) (disk : Disk)
    (sections : List Section) :
    (highlighter.highlight disk language sections).calls =
      [⟨highlighter.commandFor language,
        Utf8.encode (language.joined (sections.map (·.code)))⟩] := by
  obtain ⟨notices, hrun⟩ := huses.run_eq disk (language.joined (sections.map (·.code)))
  rw [highlight_eq, highlightCode, ← Language.joined, hrun]
  rfl

/-- What the sections of any source are filled in from is their own code. -/
theorem UsesLines.result_highlight_ofSource {classes : List Text}
    (hlanguage : language ∈ (Registry.standard classes).languages)
    (hplain : ∀ cls ∈ classes, PlainName cls) (hcls : reply.cls ∈ classes)
    (hsymbol : language.symbol ∈ reply.symbols) (huses : highlighter.UsesLines language reply)
    (disk : Disk) (source : Text) :
    let sections := Section.ofSource language source
    ∃ pieces, (highlighter.highlight disk language sections).result =
        highlighter.fill sections (pieces.map Wrapper.wrap) ∧
      List.Forall₂ (fun s piece =>
        Text.stripNewlines (Html.plain (Wrapper.wrap piece)) = Text.stripNewlines s.code) sections
          pieces := by
  intro sections
  have hmarks := LineReply.Marks.of_mem_standard hlanguage hplain hcls hsymbol
  have hne : sections.map (·.code) ≠ [] :=
    mt List.map_eq_nil_iff.1 (Section.ofSource_ne_nil language source)
  have hclear := Section.dividersIn_codes hlanguage source
  have hcode := huses.result_highlightCode_of_clear hmarks disk hne hclear
  refine ⟨_, ?_, forall₂_mapIdx_shown hmarks.cls_plain (sections.map (·.code)).length sections⟩
  change (highlighter.highlightCode disk language (sections.map (·.code))).result.bind
    (highlighter.fill sections) = _
  rw [hcode]
  rfl

/-- Highlighting the sections of any source makes one call, fails only where the
rendering of docs fails, and gives every section its own code. -/
theorem highlight_ofSource_aligned {classes : List Text}
    (hlanguage : language ∈ (Registry.standard classes).languages)
    (hplain : ∀ cls ∈ classes, PlainName cls) (hcls : reply.cls ∈ classes)
    (hsymbol : language.symbol ∈ reply.symbols) (huses : highlighter.UsesLines language reply)
    (disk : Disk) (source : Text) :
    let sections := Section.ofSource language source
    let traced := highlighter.highlight disk language sections
    traced.calls = [⟨highlighter.commandFor language,
        Utf8.encode (language.joined (sections.map (·.code)))⟩] ∧
      (∀ failure, traced.result = .error failure →
        ∃ s ∈ sections, highlighter.render s.docs = .error failure) ∧
      ((∀ s ∈ sections, ∃ docsHtml, highlighter.render s.docs = .ok docsHtml) →
        ∃ filled, traced.result = .ok filled ∧
          List.Forall₂ highlighter.FillsIn sections filled) := by
  intro sections traced
  obtain ⟨pieces, hresult, hpieces⟩ :=
    huses.result_highlight_ofSource hlanguage hplain hcls hsymbol disk source
  refine ⟨huses.calls_highlight disk sections, fun failure hfailure => ?_, fun hrender => ?_⟩
  · exact exists_render_error_of_fill (hresult.symm.trans hfailure)
  · obtain ⟨filled, hfill, hfills⟩ := exists_fill_eq_ok hpieces hrender
    exact ⟨filled, hresult.trans hfill, hfills⟩

theorem highlight_ofSource_aligned_dividers :
    let source := "a < 1\n#DIVIDER\n  #DIVIDER\n\n//DIVIDER\n#\n\n".toList
    ∃ filled, (ofLines.highlight {} firstStandard
        (Section.ofSource firstStandard source)).result = .ok filled ∧
      List.Forall₂ ofLines.FillsIn (Section.ofSource firstStandard source) filled :=
  (highlight_ofSource_aligned firstStandard_mem plainName_of_mem_standardClasses (by decide)
    (by decide) (usesLines_ofLines _) {} _).2.2 fun s _ => ⟨s.docs, rfl⟩

theorem exists_highlight_ofLines_eq_ok (disk : Disk) (source : Text) :
    ∃ filled, (ofLines.highlight disk firstStandard
      (Section.ofSource firstStandard source)).result = .ok filled := by
  obtain ⟨pieces, hresult, hpieces⟩ :=
    UsesLines.result_highlight_ofSource firstStandard_mem
      plainName_of_mem_standardClasses (by decide) (by decide)
      (usesLines_ofLines _) disk source
  have hrender : ∀ s ∈ Section.ofSource firstStandard source,
      ∃ docsHtml, ofLines.render s.docs = .ok docsHtml := fun s _ => ⟨s.docs, rfl⟩
  obtain ⟨filled, hfill, _⟩ := exists_fill_eq_ok hpieces hrender
  exact ⟨filled, hresult.trans hfill⟩

end Highlighter
end Marginalia

import Marginalia.Proofs.ReadableText
import Marginalia.Proofs.SectionAlignment

/-!
# Sections printed as a source

A source can be written from its sections: the docs of each as comment lines, a
space behind the symbol, and then its code. Cutting such a source gives the
sections back, whatever the docs say. The reason is the space. It is the one
blank that stripping takes off a comment, so nothing of the text behind it is
touched, and it keeps what follows the symbol from being an opening brace or the
rest of an interpreter line, so every printed docs line is a comment.

The sections that cutting makes can be printed, because stripping a line leaves
characters of that line and the code is code by choice. So a source may change
when it is printed from its sections, but not a second time.
-/

namespace Marginalia

namespace Text

theorem foldCrLf_of_not_mem {text : Text} (h : '\r' ∉ text) : foldCrLf text = text := by
  fun_induction foldCrLf text with
  | case1 => rfl
  | case2 text ih => exact absurd (List.mem_cons_self ..) h
  | case3 c text _ ih => rw [ih fun hmem => h (List.mem_cons_of_mem _ hmem)]

theorem mem_unlines {lines : List Text} {c : Char} (h : c ∈ unlines lines) :
    c = '\n' ∨ ∃ line ∈ lines, c ∈ line := by
  induction lines with
  | nil => cases h
  | cons line lines ih =>
      rcases List.mem_append.1 h with hline | hrest
      · exact Or.inr ⟨line, List.mem_cons_self .., hline⟩
      · rcases List.mem_cons.1 hrest with hnewline | hrest
        · exact Or.inl hnewline
        · refine (ih hrest).imp_right fun ⟨other, hother, hc⟩ => ?_
          exact ⟨other, List.mem_cons_of_mem _ hother, hc⟩

theorem unlines_append (lines others : List Text) :
    unlines (lines ++ others) = unlines lines ++ unlines others := by
  induction lines with
  | nil => rfl
  | cons line lines ih => rw [List.cons_append, unlines, ih, unlines, List.append_assoc]; rfl

/-- A text is one line, with no break of any kind in it. -/
def IsLine (text : Text) : Prop :=
  '\n' ∉ text ∧ '\r' ∉ text

instance (text : Text) : Decidable text.IsLine :=
  inferInstanceAs (Decidable ('\n' ∉ text ∧ '\r' ∉ text))

theorem IsLine.of_subset {text other : Text} (h : other.IsLine) (hsubset : text ⊆ other) :
    text.IsLine :=
  ⟨fun hmem => h.1 (hsubset hmem), fun hmem => h.2 (hsubset hmem)⟩

end Text

theorem splitLines_unlines {lines : List Text} (h : ∀ line ∈ lines, line.IsLine) :
    splitLines (Text.unlines lines) = lines := by
  have hreturn : '\r' ∉ Text.unlines lines := by
    intro hmem
    rcases Text.mem_unlines hmem with hnewline | ⟨line, hline, hc⟩
    · exact absurd hnewline (by decide)
    · exact (h line hline).2 hc
  rw [splitLines, Text.foldCrLf_of_not_mem hreturn,
    Text.splitOn_unlines fun line hline => (h line hline).1]
  simp

theorem isLine_of_mem_splitLines {source line : Text} (hreturn : '\r' ∉ source)
    (h : line ∈ splitLines source) : line.IsLine := by
  refine ⟨Section.newline_not_mem_of_mem_splitLines h, fun hmem => hreturn ?_⟩
  exact (Text.foldCrLf_sublist source).subset
    (Text.subset_of_mem_splitOn ((Section.splitLines_sublist source).subset h) hmem)

namespace Language

/-! ## Printed comments -/

/-- A docs line as a comment line. -/
def commentLine (language : Language) (line : Text) : Text :=
  language.symbol ++ ' ' :: line

/-- A printed docs line is a comment, and stripping it gives it back. -/
theorem isComment_commentLine {language : Language}
    (h : language.symbol ∈ Registry.standardSymbols) (line : Text) :
    language.isComment (language.commentLine line) = true ∧
      language.stripComment (language.commentLine line) = line := by
  rw [isComment, stripComment, commentLine]
  rcases List.mem_cons.1 h with hsymbol | h
  · rw [hsymbol]
    exact ⟨rfl, rfl⟩
  rcases List.mem_cons.1 h with hsymbol | h
  · rw [hsymbol]
    exact ⟨rfl, rfl⟩
  · rw [List.mem_singleton.1 h]
    exact ⟨rfl, rfl⟩

theorem subset_of_afterSymbol? {symbol line rest : Text} (h : afterSymbol? symbol line = some rest) :
    rest ⊆ line := by
  have hdrop : ∀ {text : Text}, Text.dropStart? symbol text = some rest → rest ⊆ text := by
    intro text htext
    rw [Text.eq_append_of_dropStart? htext]
    exact List.subset_append_right symbol rest
  induction line with
  | nil => exact hdrop h
  | cons c line ih =>
      rw [afterSymbol?] at h
      split at h
      · rcases Option.or_eq_some_iff.1 h with hline | ⟨_, hstart⟩
        · exact List.subset_cons_of_subset c (ih hline)
        · exact hdrop hstart
      · exact hdrop h

/-- Stripping adds no characters to a line. -/
theorem stripComment_subset (language : Language) (line : Text) :
    language.stripComment line ⊆ line := by
  have hblank : ∀ text : Text, dropBlank text ⊆ text := by
    intro text
    cases text with
    | nil => exact List.Subset.refl _
    | cons c text =>
        rw [dropBlank]
        split
        · exact List.subset_cons_self c text
        · exact List.Subset.refl _
  rw [stripComment]
  split
  · next rest hrest => exact List.Subset.trans (hblank rest) (subset_of_afterSymbol? hrest)
  · exact List.Subset.refl _

end Language

/-- The lines of a section, its docs apart from its code. -/
structure Passage where
  docs : List Text
  code : List Text
  deriving DecidableEq, Repr

namespace Passage

/-- A passage as lines of a source. -/
def lines (language : Language) (passage : Passage) : List Text :=
  passage.docs.map language.commentLine ++ passage.code

/-- Passages as a source, one after the other. -/
def print (language : Language) (passages : List Passage) : Text :=
  Text.unlines (passages.flatMap (lines language))

/-- The section that a passage stands for, without HTML. -/
def toSection (passage : Passage) : Section where
  docs := Text.unlines passage.docs
  code := Text.unlines passage.code

/-- The passage of a section. -/
def ofSection (s : Section) : Passage where
  docs := splitLines s.docs
  code := splitLines s.code

/-- Passages that are the sections of some source: where one ends and the next
begins there are code and comments, and no code line is a comment. -/
structure IsOutline (language : Language) (passages : List Passage) : Prop where
  ne_nil : passages ≠ []
  docs_isLine : ∀ passage ∈ passages, ∀ line ∈ passage.docs, line.IsLine
  code_isLine : ∀ passage ∈ passages, ∀ line ∈ passage.code, line.IsLine
  code_not_comment : ∀ passage ∈ passages, ∀ line ∈ passage.code,
    language.isComment line = false
  docs_ne_nil : ∀ passage ∈ passages.tail, passage.docs ≠ []
  code_ne_nil : ∀ passage ∈ passages.dropLast, passage.code ≠ []

variable {language : Language} {passages : List Passage}

theorem IsOutline.tail {first second : Passage}
    (h : IsOutline language (first :: second :: passages)) :
    IsOutline language (second :: passages) where
  ne_nil := List.cons_ne_nil _ _
  docs_isLine passage hmem := h.docs_isLine passage (List.mem_cons_of_mem _ hmem)
  code_isLine passage hmem := h.code_isLine passage (List.mem_cons_of_mem _ hmem)
  code_not_comment passage hmem := h.code_not_comment passage (List.mem_cons_of_mem _ hmem)
  docs_ne_nil passage hmem := h.docs_ne_nil passage (List.mem_cons_of_mem _ hmem)
  code_ne_nil passage hmem := h.code_ne_nil passage (by
    rw [List.dropLast_cons_cons]
    exact List.mem_cons_of_mem _ hmem)

/-! ## Cutting what was printed -/

/-- Code in front of sections joins the first of them if that has no docs. -/
theorem foldr_addLine_code {code : List Text} (h : ∀ line ∈ code, language.isComment line = false)
    (text : Text) (sections : List Section) :
    code.foldr (Section.addLine language) ({ code := text } :: sections) =
      { code := Text.unlines code ++ text } :: sections := by
  induction code with
  | nil => rfl
  | cons line code ih =>
      have hline : ¬ language.isComment line = true := by simp [h line (List.mem_cons_self ..)]
      rw [List.foldr_cons, ih fun other hmem => h other (List.mem_cons_of_mem _ hmem),
        Section.addLine, if_neg hline, Section.addCode, if_pos rfl, Text.unlines,
        List.append_assoc, List.cons_append]

/-- Code in front of a section that has docs is a section of its own. -/
theorem foldr_addLine_code_of_docs {code : List Text}
    (h : ∀ line ∈ code, language.isComment line = false) (hne : code ≠ []) {next : Section}
    (hdocs : next.docs ≠ []) (sections : List Section) :
    code.foldr (Section.addLine language) (next :: sections) =
      { code := Text.unlines code } :: next :: sections := by
  rcases List.eq_nil_or_concat' code with rfl | ⟨code, last, rfl⟩
  · exact absurd rfl hne
  have hlast : ¬ language.isComment last = true := by
    simp [h last (List.mem_append_right _ (List.mem_singleton_self last))]
  have hcode : ∀ line ∈ code, language.isComment line = false := fun line hmem =>
    h line (List.mem_append_left _ hmem)
  rw [List.foldr_append, List.foldr_cons, List.foldr_nil, Section.addLine, if_neg hlast,
    Section.addCode, if_neg hdocs, foldr_addLine_code hcode, Text.unlines_append]
  rfl

/-- Printed docs in front of sections are the docs of the first of them. -/
theorem foldr_addLine_docs (h : language.symbol ∈ Registry.standardSymbols) (docs : List Text)
    (code : Text) (sections : List Section) :
    (docs.map language.commentLine).foldr (Section.addLine language)
        ({ code } :: sections) =
      { docs := Text.unlines docs, code } :: sections := by
  induction docs with
  | nil => rfl
  | cons line docs ih =>
      obtain ⟨hcomment, hstrip⟩ := Language.isComment_commentLine h line
      rw [List.map_cons, List.foldr_cons, ih, Section.addLine, if_pos hcomment, hstrip,
        Section.addDocs, Text.unlines]

/-- The lines of an outline are cut into its passages. -/
theorem ofLines_lines (hsymbol : language.symbol ∈ Registry.standardSymbols)
    (h : IsOutline language passages) :
    Section.ofLines language (passages.flatMap (lines language)) = passages.map toSection := by
  induction passages with
  | nil => exact absurd rfl h.ne_nil
  | cons passage passages ih =>
      have hcode := h.code_not_comment passage (List.mem_cons_self ..)
      rw [List.flatMap_cons, lines, Section.ofLines_eq_foldr, List.foldr_append,
        List.foldr_append, ← Section.ofLines_eq_foldr]
      cases passages with
      | nil =>
          have hlast := foldr_addLine_code hcode [] []
          rw [List.append_nil] at hlast
          rw [List.flatMap_nil, Section.ofLines_nil, hlast,
            foldr_addLine_docs hsymbol]
          rfl
      | cons next passages =>
          have hnext : (toSection next).docs ≠ [] :=
            mt Text.unlines_eq_nil.1 (h.docs_ne_nil next (List.mem_cons_self ..))
          have hsome : passage.code ≠ [] :=
            h.code_ne_nil passage (by rw [List.dropLast_cons_cons]; exact List.mem_cons_self ..)
          rw [ih h.tail, List.map_cons, foldr_addLine_code_of_docs hcode hsome hnext,
            foldr_addLine_docs hsymbol]
          rfl

theorem IsOutline.isLine_of_mem (hsymbol : language.symbol ∈ Registry.standardSymbols)
    (h : IsOutline language passages) :
    ∀ line ∈ passages.flatMap (lines language), line.IsLine := by
  have hall : Registry.standardSymbols.all (fun symbol =>
      (symbol ++ [' ']).all fun c => c != '\n' && c != '\r') = true := by decide
  have hplain := List.all_eq_true.1 (List.all_eq_true.1 hall language.symbol hsymbol)
  intro line hmem
  obtain ⟨passage, hpassage, hline⟩ := List.mem_flatMap.1 hmem
  rcases List.mem_append.1 hline with hdocs | hcode
  · obtain ⟨text, htext, rfl⟩ := List.mem_map.1 hdocs
    have hisLine := h.docs_isLine passage hpassage text htext
    have hcases : language.commentLine text = (language.symbol ++ [' ']) ++ text := by
      rw [Language.commentLine, List.append_assoc]
      rfl
    rw [hcases]
    constructor <;> intro hc <;> rcases List.mem_append.1 hc with hc | hc
    · exact absurd (hplain _ hc) (by decide)
    · exact hisLine.1 hc
    · exact absurd (hplain _ hc) (by decide)
    · exact hisLine.2 hc
  · exact h.code_isLine passage hpassage line hcode

/-- A printed outline is cut into the sections that it was printed from. -/
theorem IsOutline.ofSource_eq (hsymbol : language.symbol ∈ Registry.standardSymbols)
    (h : IsOutline language passages) :
    Section.ofSource language (print language passages) = passages.map toSection := by
  rw [Section.ofSource, print, splitLines_unlines (h.isLine_of_mem hsymbol),
    ofLines_lines hsymbol h]

/-! ## Printing what was cut -/

/-- The passage of a block of lines. -/
def ofBlock (language : Language) (block : List Text) : Passage where
  docs := (Section.comments language block).map language.stripComment
  code := Section.codeLines language block

theorem isLine_of_mem_docs_ofBlock {block : List Text} (h : ∀ line ∈ block, line.IsLine) :
    ∀ line ∈ (ofBlock language block).docs, line.IsLine := by
  intro line hmem
  obtain ⟨comment, hcomment, rfl⟩ := List.mem_map.1 hmem
  exact (h comment (List.mem_of_mem_filter hcomment)).of_subset
    (language.stripComment_subset comment)

theorem toSection_ofBlock (language : Language) (block : List Text) :
    toSection (ofBlock language block) = Section.ofBlock language block := rfl

theorem ofSection_ofBlock {block : List Text} (h : ∀ line ∈ block, line.IsLine) :
    ofSection (Section.ofBlock language block) = ofBlock language block := by
  have hcode : ∀ line ∈ (ofBlock language block).code, line.IsLine := fun line hmem =>
    h line (List.mem_of_mem_filter hmem)
  rw [← toSection_ofBlock, ofSection, toSection,
    splitLines_unlines (isLine_of_mem_docs_ofBlock h), splitLines_unlines hcode]

/-- The blocks of a source are an outline, and nothing of them is lost in the sections. -/
theorem isOutline_blocks (language : Language) {source : Text} (hreturn : '\r' ∉ source) :
    let blocks := Section.blocks language (splitLines source)
    IsOutline language (blocks.map (ofBlock language)) ∧
      (Section.ofSource language source).map ofSection = blocks.map (ofBlock language) := by
  intro blocks
  have hlines : ∀ block ∈ blocks, ∀ line ∈ block, line.IsLine := by
    intro block hblock line hline
    refine isLine_of_mem_splitLines hreturn ?_
    rw [← Section.flatten_blocks language (splitLines source)]
    exact List.mem_flatten_of_mem hblock hline
  have hsections : Section.ofSource language source = blocks.map (Section.ofBlock language) :=
    Section.ofLines_eq_map_ofBlock language (splitLines source)
  refine ⟨⟨?_, ?_, ?_, ?_, ?_, ?_⟩, ?_⟩
  · have hne := Section.ofSource_ne_nil language source
    rw [hsections] at hne
    simpa using hne
  · intro passage hmem
    obtain ⟨block, hblock, rfl⟩ := List.mem_map.1 hmem
    exact isLine_of_mem_docs_ofBlock (hlines block hblock)
  · intro passage hmem line hline
    obtain ⟨block, hblock, rfl⟩ := List.mem_map.1 hmem
    exact hlines block hblock line (List.mem_of_mem_filter hline)
  · intro passage hmem line hline
    obtain ⟨block, hblock, rfl⟩ := List.mem_map.1 hmem
    simpa using (List.mem_filter.1 hline).2
  · intro passage hmem
    rw [← List.map_tail] at hmem
    obtain ⟨block, hblock, rfl⟩ := List.mem_map.1 hmem
    obtain ⟨line, hline, hcomment⟩ := Section.exists_comment_of_mem_tail language _ block hblock
    exact List.ne_nil_of_mem (List.mem_map_of_mem (List.mem_filter.2 ⟨hline, hcomment⟩))
  · intro passage hmem
    rw [← List.map_dropLast] at hmem
    obtain ⟨block, hblock, rfl⟩ := List.mem_map.1 hmem
    obtain ⟨line, hline, hcode⟩ := Section.exists_code_of_mem_dropLast language _ block hblock
    exact List.ne_nil_of_mem (List.mem_filter.2 ⟨hline, by simp [hcode]⟩)
  · rw [hsections, List.map_map]
    exact List.map_congr_left fun block hblock => ofSection_ofBlock (hlines block hblock)

/-- Cutting takes back what printing an outline has done, and a source that was
printed from its own sections has these sections again. -/
theorem ofSource_print {classes : List Text}
    (hlanguage : language ∈ (Registry.standard classes).languages) :
    (∀ passages, IsOutline language passages →
      Section.ofSource language (print language passages) = passages.map toSection) ∧
    ∀ source : Text, '\r' ∉ source →
      let sections := Section.ofSource language source
      Section.ofSource language (print language (sections.map ofSection)) = sections := by
  obtain ⟨_, hsymbol⟩ := Registry.mem_languages_standard hlanguage
  refine ⟨fun passages houtline => houtline.ofSource_eq hsymbol, fun source hreturn => ?_⟩
  intro sections
  obtain ⟨houtline, hpassages⟩ := isOutline_blocks language hreturn
  have hsections : sections = (Section.blocks language (splitLines source)).map
      (Section.ofBlock language) := Section.ofLines_eq_map_ofBlock language (splitLines source)
  rw [hpassages, houtline.ofSource_eq hsymbol, List.map_map, hsections]
  rfl

theorem ofSource_print_hashes :
    let passages : List Passage :=
      [⟨[], ["#!/bin/sh".toList, "#\x7ba\x7d".toList]⟩,
        ⟨["".toList, "  \x7b".toList, "!/".toList, "# #".toList], ["".toList]⟩, ⟨["c".toList], []⟩]
    let sections :=
      Section.ofSource Highlighter.firstStandard "\n\t#  a\n##\n#\x7bb\n#".toList
    Section.ofSource Highlighter.firstStandard (print Highlighter.firstStandard passages) =
        passages.map toSection ∧
      sections.length = 3 ∧
      Section.ofSource Highlighter.firstStandard
        (print Highlighter.firstStandard (sections.map ofSection)) = sections := by
  have hprint := ofSource_print Highlighter.firstStandard_mem
  refine ⟨hprint.1 _ ⟨?_, ?_, ?_, ?_, ?_, ?_⟩, rfl, hprint.2 _ (by decide)⟩
  all_goals decide

end Passage
end Marginalia

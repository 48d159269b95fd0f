import Marginalia.Proofs.DividerRoundTrip

/-!
# Which comment symbols divide

A divider is looked for in the text that an answer should have for it, and that
text is the divider line escaped as the library escapes it, with quotes kept. A
highlighter escapes the same line on its own, and writes quotes as entities. The
two agree on every line without a quote: nothing else in a symbol matters, be it
an ampersand or an angle bracket, because these are written alike by both.

So the symbols with a quote in them are the ones that do not divide. A marker of
such a language has a quote in its text, and an answer has none in any text, so
there is no marker anywhere in the answer and all of it is one piece.

The argument asks little of the highlighter. It answers each line by itself, it
escapes in some way that keeps no quotes and can be read back, and it marks some
lines, the divider among them, with a class.
-/

namespace Marginalia

open Marginalia.Language (spanOf)

namespace Html

/-- A way of writing text as HTML that can be read back, and in which quotes are entities
like the other characters that mean something to HTML. -/
structure EscapesQuotes (escape : Text → Text) : Prop where
  unescape_eq : ∀ text, unescape (escape text) = text
  plain : ∀ text, ∀ c ∈ escape text, isAngle c = false ∧ isQuote c = false
  eq_kept : ∀ text, (∀ c ∈ text, isQuote c = false) → escape text = Html.escape .kept text

theorem escapesQuotes_escape {quotes : Quotes} (h : quotes ≠ .kept) :
    EscapesQuotes (escape quotes) where
  unescape_eq := unescape_escape quotes
  plain := fun _ _ hc => ⟨isAngle_of_mem_escape hc, isQuote_of_mem_escape h hc⟩
  eq_kept := fun _ => escape_of_no_quotes

/-- Where quotes are kept, they are found in the escaped text. -/
theorem mem_escape_kept {text : Text} {c : Char} (hmem : c ∈ text) (hc : isQuote c = true) :
    c ∈ escape .kept text := by
  refine List.mem_flatMap.2 ⟨c, hmem, ?_⟩
  rcases isQuote_iff.1 hc with rfl | rfl <;> decide

end Html

namespace Highlighter

/-- A line as a highlighter answers it: escaped, and in a span of a class if it is marked. -/
def answerLine (cls : Text) (escape : Text → Text) (marked : Text → Bool) (line : Text) : Text :=
  if marked line then spanOf cls (escape line) else escape line

/-- A text as a highlighter answers it that works line by line. -/
def answerLines (cls : Text) (escape : Text → Text) (marked : Text → Bool) (text : Text) : Text :=
  List.intercalate ['\n']
    ((Text.splitOn '\n' (LineReply.trimmed text)).map (answerLine cls escape marked))

end Highlighter

namespace Language

open Marginalia.Highlighter (answerLine answerLines)

/-- The comment symbol has a quote in it. -/
def IsQuoted (language : Language) : Prop :=
  ∃ c ∈ language.symbol, Html.isQuote c = true

section

variable {language : Language} {cls : Text} {escape : Text → Text}
  (hclasses : ∀ known ∈ language.classes, PlainName known) (hcls : cls ∈ language.classes)
  (hescape : Html.EscapesQuotes escape)

include hclasses hcls hescape

theorem clear_answerLine (marked : Text → Bool) {line : Text}
    (h : escape line ≠ language.markerText) :
    language.Clear (answerLine cls escape marked line) := by
  have hangle : '<' ∉ escape line := fun hmem =>
    absurd (hescape.plain line '<' hmem).1 (by decide)
  exact clear_marked (quoteFree_of_plain hclasses) (hclasses cls hcls) hangle fun _ _ => h

/-- With a quote in the symbol, the marker of a divider is not found at all. -/
theorem length_splitAtDividers_of_isQuoted (hquoted : language.IsQuoted)
    (marked : Text → Bool) (text : Text) :
    (language.splitAtDividers (answerLines cls escape marked text)).length = 1 := by
  obtain ⟨c, hsymbol, hc⟩ := hquoted
  have hmarker : c ∈ language.markerText :=
    Html.mem_escape_kept (List.mem_append_left _ hsymbol) hc
  have hclear : language.Clear (answerLines cls escape marked text) := by
    refine clear_intercalate (List.forall_mem_map.2 fun line _ => ?_)
    refine clear_answerLine hclasses hcls hescape marked fun heq => ?_
    rw [(hescape.plain line c (heq ▸ hmarker)).2] at hc
    cases hc
  rw [splitAtDividers_of_clear hclear, List.length_singleton]

/-- Without one, each divider is a marker, and each divider line of the fragments is another. -/
theorem length_splitAtDividers_of_not_isQuoted (hquoted : ¬ language.IsQuoted)
    (hsymbol : '\n' ∉ language.symbol) {marked : Text → Bool}
    (hmarked : marked language.dividerLine = true) {fragments : List Text} (hne : fragments ≠ []) :
    (language.splitAtDividers (answerLines cls escape marked (language.joined fragments))).length =
      fragments.length + language.dividersAmong fragments := by
  have hline : '\n' ∉ language.dividerLine := fun hmem =>
    (List.mem_append.1 hmem).elim hsymbol (by decide)
  have hunquoted : ∀ c ∈ language.dividerLine, Html.isQuote c = false := by
    intro c hmem
    rcases List.mem_append.1 hmem with hmem | hmem
    · exact Bool.eq_false_iff.2 fun hc => hquoted ⟨c, hmem, hc⟩
    · have hword : "DIVIDER".toList.all (!Html.isQuote ·) = true := by decide
      exact (Bool.not_eq_true' _).mp (List.all_eq_true.1 hword c hmem)
  have htext : escape language.dividerLine = language.markerText :=
    hescape.eq_kept _ hunquoted
  have hdivider : answerLine cls escape marked language.dividerLine = language.marker cls := by
    rw [answerLine, if_pos hmarked, htext, marker_eq_spanOf]
  have hother : ∀ line, line ≠ language.dividerLine →
      language.Clear (answerLine cls escape marked line) := by
    refine fun line hdiffers => clear_answerLine hclasses hcls hescape marked fun heq => ?_
    refine hdiffers ?_
    rw [← hescape.unescape_eq line, heq, ← htext, hescape.unescape_eq]
  have hfree : language.AngleFree := fun known hknown hmem =>
    (plainName_of_mem_knownClasses hclasses hknown _ hmem).2.2.1 rfl
  rw [length_splitAtDividers, answerLines, length_cutAtMarkers_intercalate hfree
    (mem_knownClasses_of_mem hcls) hdivider hother, ← dividersIn, LineReply.dividersIn_trimmed,
    dividersIn_joined hline hne]

end

end Language

namespace Highlighter

variable {highlighter : Highlighter} {language : Language} {disk : Disk} {cls : Text}

/-- The program answers a text line by line, with every quote escaped, and the dividers of
a language in spans of a class. -/
def AnswersByLine (highlighter : Highlighter) (disk : Disk) (language : Language)
    (cls text : Text) : Prop :=
  ∃ (escape : Text → Text) (marked : Text → Bool), Html.EscapesQuotes escape ∧
    marked language.dividerLine = true ∧
    highlighter.GivesBody disk language text (answerLines cls escape marked text)

theorem UsesLines.answersByLine {reply : LineReply} (huses : highlighter.UsesLines language reply)
    (hsymbol : language.symbol ∈ reply.symbols) (disk : Disk) (text : Text) :
    highlighter.AnswersByLine disk language reply.cls text := by
  obtain ⟨notices, hrun⟩ := huses.run_eq disk text
  have hbody := givesBody_of_run_eq_ok (congrArg Traced.result hrun)
  have hdivider : reply.isDivider language.dividerLine = true :=
    List.any_eq_true.2 ⟨language.symbol, hsymbol, beq_self_eq_true _⟩
  exact ⟨Html.escape .highlighted, reply.isDivider, Html.escapesQuotes_escape (by decide),
    hdivider, hbody⟩

theorem result_highlightCode_of_givesBody {fragments : List Text} {body : Text}
    (h : highlighter.GivesBody disk language (language.joined fragments) body) :
    (highlighter.highlightCode disk language fragments).result =
      blocksOf language fragments.length body := by
  have hrun := run_eq_ok_of_givesBody h
  rw [highlightCode, Traced.andThen, ← Language.joined, hrun]
  rfl

/-- From a highlighter that escapes quotes, fragments without divider lines come back as one
block for each, whatever the comment symbol is, as long as it has no quote in it. With one,
they come back as a single piece. -/
theorem length_blocks_of_symbol (hclasses : ∀ known ∈ language.classes, PlainName known)
    (hcls : cls ∈ language.classes) (hsymbol : '\n' ∉ language.symbol) {fragments : List Text}
    (hne : fragments ≠ [])
    (hnone : ∀ fragment ∈ fragments, language.dividerLine ∉ Text.splitOn '\n' fragment)
    (hanswers : highlighter.AnswersByLine disk language cls (language.joined fragments)) :
    let result := (highlighter.highlightCode disk language fragments).result
    (¬ language.IsQuoted ∨ fragments.length = 1 →
      ∃ blocks, result = .ok blocks ∧ blocks.length = fragments.length) ∧
    (language.IsQuoted → fragments.length ≠ 1 →
      result = .error (.dividerMismatch language.name fragments.length 1)) := by
  intro result
  obtain ⟨escape, marked, hescape, hmarked, hbody⟩ := hanswers
  have hresult : result = blocksOf language fragments.length _ :=
    result_highlightCode_of_givesBody hbody
  have hquoted := fun h => Language.length_splitAtDividers_of_isQuoted hclasses hcls hescape h
    marked (language.joined fragments)
  refine ⟨fun h => ?_, fun h hlength => ?_⟩
  · have hpieces : (language.splitAtDividers (answerLines cls escape marked
        (language.joined fragments))).length = fragments.length := by
      by_cases hsymbolQuoted : language.IsQuoted
      · exact (hquoted hsymbolQuoted).trans (h.resolve_left (not_not.2 hsymbolQuoted)).symm
      · have hzero : language.dividersAmong fragments = 0 := by
          refine List.count_eq_zero.2 fun hmem => ?_
          obtain ⟨fragment, hfragment, hline⟩ := List.mem_flatMap.1 hmem
          exact hnone fragment hfragment hline
        rw [Language.length_splitAtDividers_of_not_isQuoted hclasses hcls hescape hsymbolQuoted
          hsymbol hmarked hne, hzero, Nat.add_zero]
    have hblocks := blocksOf_eq_ok.2 ⟨hpieces, rfl⟩
    exact ⟨_, hresult.trans hblocks, length_of_blocksOf_eq_ok hblocks⟩
  · rw [hresult, blocksOf_of_length_one (hquoted h) hlength]

/-! ## Two symbols -/

/-- A language of one comment symbol, with the standard classes. -/
def languageOf (symbol : Text) : Language :=
  { extension := ".x".toList, name := "x".toList, symbol }

/-- The line highlighter, told of one comment symbol. -/
def ofSymbol (symbol : Text) : Highlighter :=
  { ofLines with runner := (LineHighlighter.uniform { symbols := [symbol] }).runner .utf8 }

theorem answersByLine_ofSymbol (symbol text : Text) :
    (ofSymbol symbol).AnswersByLine {} (languageOf symbol) "c1".toList text := by
  have huses : (ofSymbol symbol).UsesLines (languageOf symbol) { symbols := [symbol] } := {
    codec_eq := Encoding.codec?_utf8
    runner_eq := ⟨.uniform { symbols := [symbol] }, rfl, rfl⟩
    status_eq := rfl
    stdout_eq := rfl }
  exact huses.answersByLine (List.mem_singleton_self symbol) {} text

/-- Characters that mean something to HTML do not keep a symbol from dividing. -/
theorem length_blocks_of_symbol_entities :
    let fragments := ["\"a\" < 'b'\n", "", "<*& DIVIDER\n"].map String.toList
    ∃ blocks,
      ((ofSymbol "<*&".toList).highlightCode {} (languageOf "<*&".toList) fragments).result =
        .ok blocks ∧ blocks.length = 3 := by
  intro fragments
  have hunquoted : "<*&".toList.all (!Html.isQuote ·) = true := by decide
  have hnone : ∀ fragment ∈ fragments,
      (languageOf "<*&".toList).dividerLine ∉ Text.splitOn '\n' fragment := by decide
  refine (length_blocks_of_symbol plainName_of_mem_standardClasses (by decide) (by decide)
    (by decide) hnone (answersByLine_ofSymbol _ _)).1 (Or.inl ?_)
  rintro ⟨c, hmem, hc⟩
  have hplain := List.all_eq_true.1 hunquoted c hmem
  rw [hc] at hplain
  cases hplain

/-- The divider of a language whose comments start with a quote does not come back. -/
theorem highlightCode_quote_symbol :
    let language := languageOf "\"".toList
    let fragments := ["a".toList, "b".toList]
    (∀ fragment ∈ fragments, language.dividerLine ∉ Text.splitOn '\n' fragment) ∧
      (ofSymbol "\"".toList).AnswersByLine {} language "c1".toList (language.joined fragments) ∧
      ((ofSymbol "\"".toList).highlightCode {} language fragments).result =
        .error (.dividerMismatch "x".toList 2 1) := by
  intro language fragments
  have hanswers := answersByLine_ofSymbol "\"".toList (language.joined fragments)
  refine ⟨by decide, hanswers, ?_⟩
  obtain ⟨escape, marked, hescape, _, hbody⟩ := hanswers
  have hquoted : language.IsQuoted := ⟨'"', List.mem_singleton_self _, rfl⟩
  rw [result_highlightCode_of_givesBody hbody]
  exact blocksOf_of_length_one (Language.length_splitAtDividers_of_isQuoted
    plainName_of_mem_standardClasses (by decide) hescape hquoted marked _) (by decide)

end Highlighter
end Marginalia

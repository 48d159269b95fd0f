import Marginalia.Proofs.HighlighterRun
import Marginalia.Proofs.LineRendering
import Marginalia.Proofs.RegistryRows

/-!
# Fragments survive the line highlighter

Fragments of code are joined by dividers, sent to the highlighter in one piece,
and its answer is cut at the markers. This file says what comes back: one block
per fragment and in it that fragment rendered line by line, or a mismatch that
counts exactly the lines of the fragments that look like the divider.

Newlines are lost in three places: the highlighter strips the ends of the whole,
each marker takes those on both sides of it, and one newline is put back at the
very end. The argument follows the fragments from the left. What is still to be
cut always has the form "a newline, then the rendering of the remaining
fragments", its end closed with a single newline, and `closeEnd` names that end:
it passes over a marker untouched, so the induction can take one fragment off the
front at a time.
-/

namespace Marginalia

open Marginalia.Language (isNewline)

namespace Text

/-! ## The end of a text -/

/-- A text with the newlines at its end replaced by one. -/
def closeEnd (text : Text) : Text :=
  dropEndWhile isNewline text ++ ['\n']

/-- What stands before something other than a newline does not matter for the end. -/
theorem closeEnd_of_last (front : Text) {c : Char} (hc : isNewline c = false) (rest : Text) :
    closeEnd (front ++ c :: rest) = front ++ c :: closeEnd rest := by
  rw [closeEnd, dropEndWhile_of_last rest hc, List.append_assoc]
  rfl

theorem dropWhile_append_cons {c : Char} (hc : isNewline c = false) (front rest : Text) :
    (front ++ c :: rest).dropWhile isNewline = front.dropWhile isNewline ++ c :: rest := by
  rw [List.dropWhile_append, List.dropWhile_cons_of_neg (by simp [hc])]
  split
  · next hempty => rw [List.isEmpty_iff.1 hempty, List.nil_append]
  · rfl

/-- The closing newline is lost with the newline in front if nothing else is there. -/
theorem dropWhile_closeEnd (text : Text) :
    (closeEnd ('\n' :: text)).dropWhile isNewline =
      stripNewlines text ++ if stripNewlines text = [] then [] else ['\n'] := by
  rw [closeEnd, dropEndWhile_cons, stripNewlines, dropEndWhile_dropWhile]
  split
  · next h => rw [h.2]; rfl
  · rw [List.cons_append, List.dropWhile_cons_of_pos rfl, List.dropWhile_append]
    by_cases hnil : (dropEndWhile isNewline text).dropWhile isNewline = []
    · rw [hnil]; rfl
    · rw [if_neg (by simpa using hnil), if_neg hnil]

/-! ## Counting lines -/

theorem count_splitOn_dropWhile {line : Text} (hline : line ≠ []) (text : Text) :
    (splitOn '\n' (text.dropWhile isNewline)).count line = (splitOn '\n' text).count line := by
  induction text with
  | nil => rfl
  | cons c text ih =>
      cases hc : isNewline c with
      | true =>
          rw [List.dropWhile_cons_of_pos hc, ih, isNewline_iff.1 hc, splitOn_cons_self,
            List.count_cons_of_ne hline.symm]
      | false => rw [List.dropWhile_cons_of_neg (by simp [hc])]

theorem count_splitOn_concat {line : Text} (hline : line ≠ []) (text : Text) :
    (splitOn '\n' (text ++ ['\n'])).count line = (splitOn '\n' text).count line := by
  rw [splitOn_append_cons, List.count_append]
  simp [splitOn, hline.symm]

theorem count_splitOn_closeEnd {line : Text} (hline : line ≠ []) (text : Text) :
    (splitOn '\n' (closeEnd text)).count line = (splitOn '\n' text).count line := by
  rw [closeEnd, count_splitOn_concat hline]
  induction text using List.reverseRecOn with
  | nil => rfl
  | append_singleton text c ih =>
      cases hc : isNewline c with
      | true =>
          rw [dropEndWhile_concat_of_pos hc, ih, isNewline_iff.1 hc, count_splitOn_concat hline]
      | false => rw [dropEndWhile_concat_of_neg hc]

end Text

namespace Language

/-- Fragments as they are sent: joined by dividers. -/
def joined (language : Language) (fragments : List Text) : Text :=
  List.intercalate language.dividerText fragments

@[simp] theorem joined_singleton (language : Language) (fragment : Text) :
    language.joined [fragment] = fragment :=
  List.intercalate_singleton

theorem joined_cons_cons (language : Language) (fragment next : Text) (fragments : List Text) :
    language.joined (fragment :: next :: fragments) =
      fragment ++ '\n' :: (language.dividerLine ++
        '\n' :: language.joined (next :: fragments)) := by
  rw [joined, List.intercalate_cons_cons, dividerText]
  simp only [List.append_assoc, List.cons_append, List.nil_append]
  rfl

theorem dividerLine_ne_nil (language : Language) : language.dividerLine ≠ [] :=
  List.append_ne_nil_of_right_ne_nil _ (by decide)

/-- The number of lines of a text that are the divider. -/
def dividersIn (language : Language) (text : Text) : Nat :=
  (Text.splitOn '\n' text).count language.dividerLine

/-- The number of lines of several texts that are the divider. -/
def dividersAmong (language : Language) (texts : List Text) : Nat :=
  (texts.flatMap (Text.splitOn '\n')).count language.dividerLine

theorem dividersAmong_cons (language : Language) (text : Text) (texts : List Text) :
    language.dividersAmong (text :: texts) =
      language.dividersIn text + language.dividersAmong texts := by
  rw [dividersAmong, List.flatMap_cons, List.count_append]
  rfl

theorem dividersIn_eq_zero_of_mem {language : Language} {text : Text} {texts : List Text}
    (h : language.dividersAmong texts = 0) (hmem : text ∈ texts) :
    language.dividersIn text = 0 :=
  List.count_eq_zero.2 fun hline =>
    List.count_eq_zero.1 h (List.mem_flatMap.2 ⟨text, hmem, hline⟩)

/-- Each divider between fragments is a line, next to the lines of the fragments. -/
theorem dividersIn_joined {language : Language} (hline : '\n' ∉ language.dividerLine)
    {fragments : List Text} (hne : fragments ≠ []) :
    1 + language.dividersIn (language.joined fragments) =
      fragments.length + language.dividersAmong fragments := by
  induction fragments with
  | nil => exact absurd rfl hne
  | cons fragment fragments ih =>
      cases fragments with
      | nil =>
          rw [joined_singleton, dividersAmong_cons]
          rfl
      | cons next fragments =>
          have hrest := ih (List.cons_ne_nil _ _)
          rw [dividersIn] at hrest ⊢
          rw [joined_cons_cons, Text.splitOn_append_cons, Text.splitOn_append_cons,
            Text.splitOn_of_not_mem hline, List.count_append, List.count_append,
            List.count_singleton_self, dividersAmong_cons, List.length_cons, dividersIn]
          omega

/-- The divider of a registered language is a line, written without anything to
escape but what every way of escaping writes alike. -/
theorem escape_dividerLine {classes : List Text} {language : Language}
    (hlanguage : language ∈ (Registry.standard classes).languages) :
    '\n' ∉ language.symbol ∧
      Html.escape .highlighted language.dividerLine = language.markerText := by
  obtain ⟨_, hstandard⟩ := Registry.mem_languages_standard hlanguage
  have hsymbols : Registry.standardSymbols.all (fun symbol =>
      !symbol.contains '\n' && Html.escape .highlighted (symbol ++ "DIVIDER".toList) ==
        Html.escape .kept (symbol ++ "DIVIDER".toList)) = true := by decide
  have hshape := List.all_eq_true.1 hsymbols language.symbol hstandard
  rw [Bool.and_eq_true, beq_iff_eq] at hshape
  exact ⟨by simpa using hshape.1, hshape.2⟩

end Language

namespace LineReply

/-! ## Cutting the answer -/

/-- What comes back for one of several fragments: its rendering without the
newlines around it, and a newline behind the last one unless only a divider is
in front of that newline. -/
def shown (reply : LineReply) (total index : Nat) (fragment : Text) : Text :=
  reply.renderText (Text.stripNewlines fragment) ++
    if index + 1 = total ∧ (total = 1 ∨ fragment.any (· != '\n')) then ['\n'] else []

theorem shown_of_lt {reply : LineReply} {total index : Nat} (h : index + 1 < total)
    (fragment : Text) :
    reply.shown total index fragment = reply.renderText (Text.stripNewlines fragment) := by
  rw [shown, if_neg (fun hlast => absurd hlast.1 h.ne), List.append_nil]

theorem shown_last {reply : LineReply} {total index : Nat} (hlast : index + 1 = total)
    (hindex : 0 < index) (fragment : Text) :
    reply.shown total index fragment = reply.renderText (Text.stripNewlines fragment ++
      if Text.stripNewlines fragment = [] then [] else ['\n']) := by
  by_cases hnil : Text.stripNewlines fragment = []
  · have hall := Text.stripNewlines_eq_nil.1 hnil
    have hnone : ¬ (index + 1 = total ∧ (total = 1 ∨ fragment.any (· != '\n'))) := by
      rintro ⟨_, htotal | hany⟩
      · omega
      · obtain ⟨c, hmem, hc⟩ := List.any_eq_true.1 hany
        exact bne_iff_ne.1 hc (hall c hmem)
    rw [shown, if_neg hnone, if_pos hnil, List.append_nil, List.append_nil]
  · have hsome : fragment.any (· != '\n') = true := by
      by_contra hall
      refine hnil (Text.stripNewlines_eq_nil.2 fun c hmem => ?_)
      by_contra hc
      exact hall (List.any_eq_true.2 ⟨c, hmem, bne_iff_ne.2 hc⟩)
    rw [shown, if_pos ⟨hlast, Or.inr hsome⟩, if_neg hnil, renderText_concat]

theorem mapIdx_shown_cons (reply : LineReply) (before : Nat) (fragment next : Text)
    (fragments : List Text) :
    ((fragment :: next :: fragments).mapIdx fun index =>
        reply.shown (before + (fragment :: next :: fragments).length) (before + index)) =
      reply.renderText (Text.stripNewlines fragment) :: (next :: fragments).mapIdx fun index =>
        reply.shown (before + 1 + (next :: fragments).length) (before + 1 + index) := by
  have hlt : before + 1 < before + (fragment :: next :: fragments).length := by
    simp only [List.length_cons]
    omega
  rw [List.mapIdx_cons, Nat.add_zero, shown_of_lt hlt, List.length_cons]
  simp only [Nat.add_assoc, Nat.add_comm 1]

theorem renderLines_eq_closeEnd (reply : LineReply) (text : Text) :
    reply.renderLines text = Text.closeEnd ((reply.renderText text).dropWhile isNewline) :=
  renderLines_eq reply text

/-- The highlighter's own stripping leaves the divider lines alone. -/
theorem dividersIn_trimmed (language : Language) (text : Text) :
    language.dividersIn (trimmed text) = language.dividersIn text := by
  have hclosed : trimmed text = Text.closeEnd (text.dropWhile isNewline) := rfl
  rw [hclosed, Language.dividersIn, Text.count_splitOn_closeEnd language.dividerLine_ne_nil,
    Text.count_splitOn_dropWhile language.dividerLine_ne_nil, ← Language.dividersIn]

namespace Marks

variable {reply : LineReply} {language : Language}

theorem renderText_joined (h : reply.Marks language) (fragment next : Text)
    (fragments : List Text) :
    reply.renderText (language.joined (fragment :: next :: fragments)) =
      (reply.renderText fragment ++ ['\n']) ++ (language.marker reply.cls ++
        '\n' :: reply.renderText (language.joined (next :: fragments))) := by
  rw [Language.joined_cons_cons, renderText_append, renderText_append,
    renderText_of_line reply h.dividerLine_newline, h.renderLine_dividerLine, List.append_assoc]
  rfl

theorem closeEnd_marker (language : Language) (cls front rest : Text) :
    Text.closeEnd (front ++ (language.marker cls ++ rest)) =
      front ++ (language.marker cls ++ Text.closeEnd rest) := by
  obtain ⟨start, hmarker⟩ : ∃ start, language.marker cls = start ++ ['>'] := by
    have hend : Language.markerEnd = "</span".toList ++ ['>'] := by decide
    rw [Language.marker, hend, ← List.append_assoc]
    exact ⟨_, rfl⟩
  have hnone : isNewline '>' = false := rfl
  have hlast := Text.closeEnd_of_last (front ++ start) hnone rest
  rw [hmarker]
  simpa using hlast

theorem dropWhile_marker (language : Language) (cls front rest : Text) :
    (front ++ (language.marker cls ++ rest)).dropWhile isNewline =
      front.dropWhile isNewline ++ (language.marker cls ++ rest) := by
  rw [Language.marker_eq_spanOf, Language.spanOf_append, Text.dropWhile_append_cons rfl]

theorem cutAtMarkers_renderText (h : reply.Marks language) {text : Text}
    (hnone : (Text.splitOn '\n' text).count language.dividerLine = 0) :
    language.cutAtMarkers (reply.renderText text) = [reply.renderText text] :=
  Language.cutAtMarkers_of_clear (h.clear_renderText (List.count_eq_zero.1 hnone))

theorem closeEnd_renderText (reply : LineReply) (text : Text) :
    Text.closeEnd (reply.renderText text) = reply.renderText (Text.closeEnd text) := by
  rw [Text.closeEnd, dropEndWhile_renderText, ← renderText_concat]
  rfl

/-- What follows a marker, up to the end of the answer. -/
theorem trimFollowing_cutAtMarkers (h : reply.Marks language) {fragments : List Text}
    (hne : fragments ≠ [])
    (hnone : ∀ fragment ∈ fragments, language.dividerLine ∉ Text.splitOn '\n' fragment)
    {before : Nat} (hbefore : 0 < before) :
    Language.trimFollowing (language.cutAtMarkers
        (Text.closeEnd ('\n' :: reply.renderText (language.joined fragments)))) =
      fragments.mapIdx fun index => reply.shown (before + fragments.length) (before + index) := by
  induction fragments generalizing before with
  | nil => exact absurd rfl hne
  | cons fragment fragments ih =>
      have hfirst := hnone fragment (List.mem_cons_self ..)
      cases fragments with
      | nil =>
          have hlast : (Text.splitOn '\n' (Text.closeEnd ('\n' :: fragment))).count
              language.dividerLine = 0 := by
            rw [Text.count_splitOn_closeEnd language.dividerLine_ne_nil, Text.splitOn_cons_self,
              List.count_cons_of_ne language.dividerLine_ne_nil.symm, List.count_eq_zero.2 hfirst]
          rw [Language.joined_singleton, ← renderText_cons, closeEnd_renderText,
            h.cutAtMarkers_renderText hlast, Language.trimFollowing, dropWhile_renderText,
            Text.dropWhile_closeEnd, ← shown_last rfl hbefore]
          rfl
      | cons next fragments =>
          have hfront : language.Clear ('\n' :: (reply.renderText fragment ++ ['\n'])) :=
            (Language.clear_newline language).append
              ((h.clear_renderText hfirst).append (Language.clear_newline language))
          obtain ⟨piece, pieces, hpieces⟩ := List.exists_cons_of_ne_nil
            (Language.cutAtMarkers_ne_nil language (Text.closeEnd ('\n' ::
              reply.renderText (language.joined (next :: fragments)))))
          have hrest := ih (List.cons_ne_nil _ _)
            (fun other hmem => hnone other (List.mem_cons_of_mem _ hmem)) (Nat.succ_pos before)
          rw [h.renderText_joined, ← List.cons_append, closeEnd_marker,
            Language.cutAtMarkers_append_marker h.angleFree hfront h.cls_known, hpieces,
            Language.trimFollowing, ← hpieces, hrest, ← Text.stripNewlines,
            Text.stripNewlines_cons, Text.stripNewlines_concat, stripNewlines_renderText,
            mapIdx_shown_cons]

/-- The answer to fragments without divider lines is cut into these fragments again. -/
theorem splitAtDividers_renderLines (h : reply.Marks language) {fragments : List Text}
    (hne : fragments ≠ [])
    (hnone : ∀ fragment ∈ fragments, language.dividerLine ∉ Text.splitOn '\n' fragment) :
    language.splitAtDividers (reply.renderLines (language.joined fragments)) =
      fragments.mapIdx (reply.shown fragments.length) := by
  obtain ⟨fragment, fragments, rfl⟩ := List.exists_cons_of_ne_nil hne
  have hfirst := List.count_eq_zero.2 (hnone fragment (List.mem_cons_self ..))
  cases fragments with
  | nil =>
      have hlines := (dividersIn_trimmed language fragment).trans hfirst
      have hrendered : reply.renderLines fragment = reply.renderText (trimmed fragment) := rfl
      have hshown : reply.shown 1 0 fragment = reply.renderLines fragment := by
        rw [renderLines_eq, stripNewlines_renderText, shown, if_pos ⟨rfl, Or.inl rfl⟩]
      rw [Language.splitAtDividers, Language.joined_singleton, hrendered,
        h.cutAtMarkers_renderText hlines, Language.trimPieces, ← hrendered, ← hshown]
      rfl
  | cons next fragments =>
      have hfront : language.Clear ((reply.renderText fragment ++ ['\n']).dropWhile isNewline) := by
        rw [← renderText_concat, dropWhile_renderText]
        refine h.clear_renderText (List.count_eq_zero.1 ?_)
        rw [Text.count_splitOn_dropWhile language.dividerLine_ne_nil,
          Text.count_splitOn_concat language.dividerLine_ne_nil, hfirst]
      obtain ⟨piece, pieces, hpieces⟩ := List.exists_cons_of_ne_nil
        (Language.cutAtMarkers_ne_nil language (Text.closeEnd ('\n' ::
          reply.renderText (language.joined (next :: fragments)))))
      have hrest := h.trimFollowing_cutAtMarkers (List.cons_ne_nil next fragments)
        (fun other hmem => hnone other (List.mem_cons_of_mem _ hmem)) Nat.zero_lt_one
      have hshown := mapIdx_shown_cons reply 0 fragment next fragments
      simp only [Nat.zero_add] at hshown
      rw [Language.splitAtDividers, renderLines_eq_closeEnd, h.renderText_joined,
        dropWhile_marker, closeEnd_marker,
        Language.cutAtMarkers_append_marker h.angleFree hfront h.cls_known, hpieces,
        Language.trimPieces, ← hpieces, hrest, ← Text.stripNewlines, Text.stripNewlines_concat,
        stripNewlines_renderText, hshown]

/-- Every divider line of the fragments makes one fragment more of the answer. -/
theorem length_splitAtDividers_renderLines (h : reply.Marks language) {fragments : List Text}
    (hne : fragments ≠ []) :
    (language.splitAtDividers (reply.renderLines (language.joined fragments))).length =
      fragments.length + language.dividersAmong fragments := by
  have hrendered : reply.renderLines (language.joined fragments) =
      reply.renderText (trimmed (language.joined fragments)) := rfl
  rw [Language.length_splitAtDividers, hrendered, h.length_cutAtMarkers,
    ← Language.dividersIn, dividersIn_trimmed, Language.dividersIn_joined h.dividerLine_newline hne]

theorem of_mem_knownClasses {classes : List Text}
    (hlanguage : language ∈ (Registry.standard classes).languages)
    (hplain : ∀ cls ∈ classes, PlainName cls) (hcls : reply.cls ∈ language.knownClasses)
    (hsymbol : language.symbol ∈ reply.symbols) : reply.Marks language := by
  obtain ⟨hclasses, _⟩ := Registry.mem_languages_standard hlanguage
  obtain ⟨hnewline, hescaped⟩ := Language.escape_dividerLine hlanguage
  exact {
    classes_plain := hclasses ▸ hplain
    cls_known := hcls
    symbol_marked := hsymbol
    newline_free := hnewline
    text_escaped := hescaped }

theorem of_mem_standard {classes : List Text}
    (hlanguage : language ∈ (Registry.standard classes).languages)
    (hplain : ∀ cls ∈ classes, PlainName cls) (hcls : reply.cls ∈ classes)
    (hsymbol : language.symbol ∈ reply.symbols) : reply.Marks language := by
  obtain ⟨hclasses, _⟩ := Registry.mem_languages_standard hlanguage
  rw [← hclasses] at hcls
  exact of_mem_knownClasses hlanguage hplain (Language.mem_knownClasses_of_mem hcls) hsymbol

end Marks
end LineReply

namespace Highlighter

/-! ## Highlighting fragments -/

variable {highlighter : Highlighter} {language : Language} {reply : LineReply}

theorem UsesLines.result_highlightCode (huses : highlighter.UsesLines language reply)
    (disk : Disk) (fragments : List Text) :
    (highlighter.highlightCode disk language fragments).result =
      blocksOf language fragments.length (reply.renderLines (language.joined fragments)) := by
  obtain ⟨notices, hrun⟩ := huses.run_eq disk (language.joined fragments)
  rw [highlightCode, ← Language.joined, hrun]
  rfl

theorem UsesLines.result_highlightCode_of_clear (huses : highlighter.UsesLines language reply)
    (hmarks : reply.Marks language) (disk : Disk) {fragments : List Text} (hne : fragments ≠ [])
    (hnone : ∀ fragment ∈ fragments, language.dividersIn fragment = 0) :
    (highlighter.highlightCode disk language fragments).result =
      .ok ((fragments.mapIdx (reply.shown fragments.length)).map Wrapper.wrap) := by
  have hcut := hmarks.splitAtDividers_renderLines hne fun fragment hmem =>
    List.count_eq_zero.1 (hnone fragment hmem)
  rw [huses.result_highlightCode, blocksOf, hcut, List.length_mapIdx, if_neg (by simp)]

/-- A highlighter that runs the line highlighter as it comes and leaves comments as they are. -/
def ofLines : Highlighter where
  command := []
  encoding := "utf-8".toList
  runner := (LineHighlighter.uniform {}).runner .utf8
  render := .ok

theorem usesLines_ofLines (language : Language) : ofLines.UsesLines language {} where
  codec_eq := Encoding.codec?_utf8
  runner_eq := ⟨.uniform {}, rfl, rfl⟩
  status_eq := rfl
  stdout_eq := rfl

/-- The language of the first row of the standard table. -/
def firstStandard : Language :=
  { extension := ".py".toList, name := "python".toList, symbol := "#".toList }

theorem firstStandard_mem : firstStandard ∈ (Registry.standard standardClasses).languages := by
  decide

theorem plainName_of_all {name : Text} (h : (name.all fun c => c.isAlphanum) = true) :
    PlainName name := by
  intro c hc
  have hplain := List.all_eq_true.1 h c hc
  refine ⟨?_, ?_, ?_, ?_⟩ <;>
    · rintro rfl
      exact absurd hplain (by decide)

theorem plainName_of_mem_standardClasses : ∀ cls ∈ standardClasses, PlainName cls := by
  have hall : standardClasses.all (fun cls => cls.all fun c => c.isAlphanum) = true := by decide
  exact fun cls hcls => plainName_of_all (List.all_eq_true.1 hall cls hcls)

/-- Fragments without divider lines come back one by one, each rendered by itself;
with such lines, highlighting is refused, and the refusal counts them. -/
theorem result_highlightCode_eq {classes : List Text}
    (hlanguage : language ∈ (Registry.standard classes).languages)
    (hplain : ∀ cls ∈ classes, PlainName cls) (hcls : reply.cls ∈ classes)
    (hsymbol : language.symbol ∈ reply.symbols) (huses : highlighter.UsesLines language reply)
    (disk : Disk) {fragments : List Text} (hne : fragments ≠ []) :
    (highlighter.highlightCode disk language fragments).result =
      let dividers := language.dividersAmong fragments
      if dividers = 0 then
        .ok ((fragments.mapIdx (reply.shown fragments.length)).map fun shown =>
          "<div class=\"highlight\"><pre>".toList ++ shown ++ "</pre></div>".toList)
      else
        .error (.dividerMismatch language.name fragments.length
          (fragments.length + dividers : Nat)) := by
  have hmarks := LineReply.Marks.of_mem_standard hlanguage hplain hcls hsymbol
  by_cases hzero : language.dividersAmong fragments = 0
  · have hnone : ∀ fragment ∈ fragments, language.dividersIn fragment = 0 :=
      fun _ => Language.dividersIn_eq_zero_of_mem hzero
    rw [huses.result_highlightCode_of_clear hmarks disk hne hnone, if_pos hzero]
    rfl
  · have hlength := hmarks.length_splitAtDividers_renderLines hne
    rw [huses.result_highlightCode, blocksOf, hlength, if_pos (by omega), if_neg hzero]

theorem result_highlightCode_eq_collision :
    (ofLines.highlightCode {} firstStandard
        ["\n\n".toList, "a\n#DIVIDER\nb".toList, "".toList]).result =
      .error (.dividerMismatch "python".toList 3 4) ∧
    (ofLines.highlightCode {} firstStandard
        ["\n\n".toList, "\na < b\n\n//DIVIDER".toList, "\n".toList]).result =
      .ok (["<div class=\"highlight\"><pre></pre></div>",
        "<div class=\"highlight\"><pre>a &lt; b\n\n<span class=\"c1\">//DIVIDER</span></pre></div>",
        "<div class=\"highlight\"><pre></pre></div>"].map String.toList) := by
  constructor
  · rw [result_highlightCode_eq firstStandard_mem plainName_of_mem_standardClasses (by decide)
      (by decide) (usesLines_ofLines _) {} (by decide)]
    rfl
  · rw [result_highlightCode_eq firstStandard_mem plainName_of_mem_standardClasses (by decide)
      (by decide) (usesLines_ofLines _) {} (by decide)]
    rfl

end Highlighter
end Marginalia

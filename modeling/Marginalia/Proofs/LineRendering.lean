import Marginalia.Highlighter.Lines
import Marginalia.Proofs.DividerSplit

/-!
# How the line highlighter renders a text

The line highlighter works on lines, everything else on texts. `renderText` is
its work on a whole text without the trimming, and it has a simple law: the
rendering of two texts with a newline between them is their renderings with a
newline between them. All the rest follows from that law and from what one
rendered line looks like. It starts and ends with something other than a
newline, so rendering and stripping newlines can change places; and it is a
marker if the line is the divider of the language, and clear of markers
otherwise.
-/

namespace Marginalia

open Marginalia.Language (isNewline spanOf)

/-- A name has neither quotes nor angle brackets in it. -/
def PlainName (name : Text) : Prop :=
  ∀ c ∈ name, c ≠ '"' ∧ c ≠ '\'' ∧ c ≠ '<' ∧ c ≠ '>'

namespace Language

variable {language : Language}

theorem mem_knownClasses_of_mem {cls : Text} (h : cls ∈ language.classes) :
    cls ∈ language.knownClasses := by
  rwa [knownClasses, if_neg (List.ne_nil_of_mem h)]

theorem plainName_of_mem_knownClasses (h : ∀ cls ∈ language.classes, PlainName cls) {cls : Text}
    (hcls : cls ∈ language.knownClasses) : PlainName cls :=
  forall_mem_knownClasses (fun _ hnil => absurd hnil List.not_mem_nil) h cls hcls

theorem quoteFree_of_plain (h : ∀ cls ∈ language.classes, PlainName cls) : language.QuoteFree :=
  fun _ hcls hquote => (plainName_of_mem_knownClasses h hcls _ hquote).1 rfl

/-- A line that is in a span or not is clear, unless it is in one of a known class and has the
text of a marker. -/
theorem clear_marked (hfree : language.QuoteFree) {cls html : Text} (hcls : PlainName cls)
    (hhtml : '<' ∉ html) {marked : Bool}
    (h : marked = true → cls ∈ language.knownClasses → html ≠ language.markerText) :
    language.Clear (if marked then spanOf cls html else html) := by
  split
  · next hmarked =>
      exact clear_spanOf hfree (fun hmem => (hcls _ hmem).1 rfl)
        (fun hmem => (hcls _ hmem).2.2.1 rfl) hhtml (h hmarked)
  · exact clear_of_not_mem hhtml

end Language

namespace LineReply

/-- A text rendered line by line, with all its newlines. -/
def renderText (reply : LineReply) (text : Text) : Text :=
  List.intercalate ['\n'] ((Text.splitOn '\n' text).map reply.renderLine)

theorem isDivider_nil (reply : LineReply) : reply.isDivider [] = false := by
  simp [isDivider]

@[simp] theorem renderLine_nil (reply : LineReply) : reply.renderLine [] = [] := by
  rw [renderLine]
  simp [isDivider_nil, Html.escape]

theorem renderLine_eq (reply : LineReply) (line : Text) :
    reply.renderLine line = if reply.isDivider line
      then spanOf reply.cls (Html.escape .highlighted line)
      else Html.escape .highlighted line := rfl

theorem renderLine_of_divider {reply : LineReply} {line : Text} (h : reply.isDivider line = true) :
    reply.renderLine line = spanOf reply.cls (Html.escape .highlighted line) := by
  rw [renderLine_eq, if_pos h]

theorem renderLine_of_not_divider {reply : LineReply} {line : Text}
    (h : reply.isDivider line = false) :
    reply.renderLine line = Html.escape .highlighted line := by
  rw [renderLine_eq, if_neg (by simp [h])]

theorem renderText_append (reply : LineReply) (front rest : Text) :
    reply.renderText (front ++ '\n' :: rest) =
      reply.renderText front ++ '\n' :: reply.renderText rest := by
  rw [renderText, Text.splitOn_append_cons, List.map_append, Text.intercalate_append]
  · rfl
  · exact mt List.map_eq_nil_iff.1 (Text.splitOn_ne_nil _ _)
  · exact mt List.map_eq_nil_iff.1 (Text.splitOn_ne_nil _ _)

theorem renderText_of_line (reply : LineReply) {line : Text} (h : '\n' ∉ line) :
    reply.renderText line = reply.renderLine line := by
  rw [renderText, Text.splitOn_of_not_mem h, List.map_singleton, List.intercalate_singleton]

@[simp] theorem renderText_nil (reply : LineReply) : reply.renderText [] = [] := by
  rw [renderText_of_line reply List.not_mem_nil, renderLine_nil]

theorem renderText_cons (reply : LineReply) (text : Text) :
    reply.renderText ('\n' :: text) = '\n' :: reply.renderText text := by
  have h := renderText_append reply [] text
  rw [renderText_nil] at h
  exact h

theorem renderText_concat (reply : LineReply) (text : Text) :
    reply.renderText (text ++ ['\n']) = reply.renderText text ++ ['\n'] := by
  rw [renderText_append, renderText_nil]

/-! ## Newlines at the ends -/

theorem newline_not_mem_renderLine {reply : LineReply} {line : Text}
    (hdivider : reply.isDivider line = false) (h : '\n' ∉ line) :
    '\n' ∉ reply.renderLine line := by
  rw [renderLine_of_not_divider hdivider]
  exact Html.newline_not_mem_escape h

theorem renderLine_ne_nil {reply : LineReply} {line : Text}
    (hdivider : reply.isDivider line = false) (hne : line ≠ []) :
    reply.renderLine line ≠ [] := by
  rw [renderLine_of_not_divider hdivider]
  exact mt Html.escape_eq_nil.1 hne

theorem exists_cons_renderLine (reply : LineReply) {line : Text} (hne : line ≠ [])
    (h : '\n' ∉ line) : ∃ c rest, reply.renderLine line = c :: rest ∧ isNewline c = false := by
  cases hdivider : reply.isDivider line with
  | true =>
      have hspan := Language.spanOf_append reply.cls (Html.escape .highlighted line) []
      rw [List.append_nil] at hspan
      exact ⟨_, _, (renderLine_of_divider hdivider).trans hspan, rfl⟩
  | false =>
      obtain ⟨c, rest, heq⟩ := List.exists_cons_of_ne_nil (renderLine_ne_nil hdivider hne)
      refine ⟨c, rest, heq, Bool.eq_false_iff.2 fun hc => ?_⟩
      refine newline_not_mem_renderLine hdivider h ?_
      rw [heq, isNewline_iff.1 hc]
      exact List.mem_cons_self ..

theorem exists_concat_renderLine (reply : LineReply) {line : Text} (hne : line ≠ [])
    (h : '\n' ∉ line) :
    ∃ front c, reply.renderLine line = front ++ [c] ∧ isNewline c = false := by
  cases hdivider : reply.isDivider line with
  | true =>
      have hend : Language.markerEnd = "</span".toList ++ ['>'] := by decide
      rw [renderLine_of_divider hdivider, spanOf, hend, ← List.append_assoc]
      exact ⟨_, '>', rfl, rfl⟩
  | false =>
      have hsome := renderLine_ne_nil hdivider hne
      refine ⟨_, _, (List.dropLast_append_getLast hsome).symm, Bool.eq_false_iff.2 fun hc => ?_⟩
      refine newline_not_mem_renderLine hdivider h ?_
      rw [← isNewline_iff.1 hc]
      exact List.getLast_mem hsome

theorem exists_cons_renderText (reply : LineReply) {c : Char} (hc : isNewline c = false)
    (text : Text) :
    ∃ d rest, reply.renderText (c :: text) = d :: rest ∧ isNewline d = false := by
  have hfirst : ∀ line : Text, '\n' ∉ line → '\n' ∉ c :: line := by
    intro line hline hmem
    rcases List.mem_cons.1 hmem with rfl | hmem
    · exact absurd hc (by decide)
    · exact hline hmem
  by_cases hmem : '\n' ∈ text
  · obtain ⟨line, rest, rfl, hline⟩ := List.eq_append_cons_of_mem hmem
    obtain ⟨d, front, heq, hd⟩ :=
      exists_cons_renderLine reply (List.cons_ne_nil c line) (hfirst line hline)
    refine ⟨d, front ++ '\n' :: reply.renderText rest, ?_, hd⟩
    rw [← List.cons_append, renderText_append, renderText_of_line reply (hfirst line hline), heq,
      List.cons_append]
  · rw [renderText_of_line reply (hfirst text hmem)]
    exact exists_cons_renderLine reply (List.cons_ne_nil c text) (hfirst text hmem)

theorem exists_concat_renderText (reply : LineReply) {c : Char} (hc : isNewline c = false)
    (text : Text) :
    ∃ front d, reply.renderText (text ++ [c]) = front ++ [d] ∧ isNewline d = false := by
  have hlast : ∀ line : Text, '\n' ∉ line → '\n' ∉ line ++ [c] := by
    intro line hline hmem
    rcases List.mem_append.1 hmem with hmem | hmem
    · exact hline hmem
    · rw [← List.mem_singleton.1 hmem] at hc
      exact absurd hc (by decide)
  have hne : ∀ line : Text, line ++ [c] ≠ [] := fun line => by simp
  by_cases hmem : '\n' ∈ text.reverse
  · -- the last line is the first one from behind
    obtain ⟨enil, front, heq, hline⟩ := List.eq_append_cons_of_mem hmem
    have htext : text = front.reverse ++ '\n' :: enil.reverse := by
      rw [← List.reverse_reverse text, heq]
      simp
    have hline : '\n' ∉ enil.reverse := by simpa using hline
    obtain ⟨start, d, hrendered, hd⟩ :=
      exists_concat_renderLine reply (hne enil.reverse) (hlast enil.reverse hline)
    refine ⟨reply.renderText front.reverse ++ '\n' :: start, d, ?_, hd⟩
    rw [htext, List.append_assoc, List.cons_append, renderText_append,
      renderText_of_line reply (hlast enil.reverse hline), hrendered]
    simp
  · have htext : '\n' ∉ text := by simpa using hmem
    rw [renderText_of_line reply (hlast text htext)]
    exact exists_concat_renderLine reply (hne text) (hlast text htext)

theorem dropWhile_renderText (reply : LineReply) (text : Text) :
    (reply.renderText text).dropWhile isNewline =
      reply.renderText (text.dropWhile isNewline) := by
  induction text with
  | nil => rw [renderText_nil, List.dropWhile_nil, renderText_nil]
  | cons c text ih =>
      cases hc : isNewline c with
      | true =>
          rw [isNewline_iff.1 hc, renderText_cons, List.dropWhile_cons_of_pos rfl, ih,
            List.dropWhile_cons_of_pos rfl]
      | false =>
          obtain ⟨d, rest, heq, hd⟩ := exists_cons_renderText reply hc text
          rw [List.dropWhile_cons_of_neg (by simp [hc]), heq,
            List.dropWhile_cons_of_neg (by simp [hd])]

theorem dropEndWhile_renderText (reply : LineReply) (text : Text) :
    Text.dropEndWhile isNewline (reply.renderText text) =
      reply.renderText (Text.dropEndWhile isNewline text) := by
  induction text using List.reverseRecOn with
  | nil => rw [renderText_nil]; exact (renderText_nil reply).symm
  | append_singleton text c ih =>
      cases hc : isNewline c with
      | true =>
          rw [isNewline_iff.1 hc, renderText_concat, Text.dropEndWhile_concat_of_pos rfl, ih,
            Text.dropEndWhile_concat_of_pos rfl]
      | false =>
          obtain ⟨front, d, heq, hd⟩ := exists_concat_renderText reply hc text
          rw [Text.dropEndWhile_concat_of_neg hc, heq, Text.dropEndWhile_concat_of_neg hd]

/-- Rendering and stripping can change places. -/
theorem stripNewlines_renderText (reply : LineReply) (text : Text) :
    Text.stripNewlines (reply.renderText text) =
      reply.renderText (Text.stripNewlines text) := by
  rw [Text.stripNewlines, dropWhile_renderText, dropEndWhile_renderText, ← Text.stripNewlines]

/-- What the highlighter writes is the rendered text with one newline at its end. -/
theorem renderLines_eq (reply : LineReply) (text : Text) :
    reply.renderLines text = Text.stripNewlines (reply.renderText text) ++ ['\n'] := by
  rw [stripNewlines_renderText, ← renderText_concat]
  rfl

/-- A text is rendered clear of markers if each of its lines is. -/
theorem clear_renderText_of_lines {reply : LineReply} {language : Language} {text : Text}
    (h : ∀ line ∈ Text.splitOn '\n' text, language.Clear (reply.renderLine line)) :
    language.Clear (reply.renderText text) :=
  Language.clear_intercalate (List.forall_mem_map.2 h)

/-! ## Markers

Where a highlighter marks the dividers of a language so that the language knows
them again, a rendered line is a marker exactly if it is the divider line. -/

/-- A highlighter marks the dividers of a language under a class that the
language knows, in a text that escaping writes in only one way. -/
structure Marks (reply : LineReply) (language : Language) : Prop where
  classes_plain : ∀ cls ∈ language.classes, PlainName cls
  cls_known : reply.cls ∈ language.knownClasses
  symbol_marked : language.symbol ∈ reply.symbols
  newline_free : '\n' ∉ language.symbol
  text_escaped : Html.escape .highlighted language.dividerLine = language.markerText

namespace Marks

variable {reply : LineReply} {language : Language}

theorem quoteFree (h : reply.Marks language) : language.QuoteFree :=
  Language.quoteFree_of_plain h.classes_plain

theorem angleFree (h : reply.Marks language) : language.AngleFree := fun _ hcls hmem =>
  (Language.plainName_of_mem_knownClasses h.classes_plain hcls _ hmem).2.2.1 rfl

theorem cls_plain (h : reply.Marks language) : PlainName reply.cls :=
  Language.plainName_of_mem_knownClasses h.classes_plain h.cls_known

theorem dividerLine_newline (h : reply.Marks language) : '\n' ∉ language.dividerLine := by
  intro hmem
  rcases List.mem_append.1 hmem with hmem | hmem
  · exact h.newline_free hmem
  · exact absurd hmem (by decide)

theorem isDivider_dividerLine (h : reply.Marks language) :
    reply.isDivider language.dividerLine = true :=
  List.any_eq_true.2 ⟨language.symbol, h.symbol_marked, beq_self_eq_true _⟩

theorem renderLine_dividerLine (h : reply.Marks language) :
    reply.renderLine language.dividerLine = language.marker reply.cls := by
  rw [renderLine_of_divider h.isDivider_dividerLine, h.text_escaped, Language.marker_eq_spanOf]

theorem clear_renderLine (h : reply.Marks language) {line : Text}
    (hline : line ≠ language.dividerLine) : language.Clear (reply.renderLine line) := by
  have hescaped := Html.angle_not_mem_escape .highlighted line
  rw [renderLine_eq]
  -- a marked line may be the divider of another language, under the same class
  refine Language.clear_marked h.quoteFree h.cls_plain hescaped fun _ _ heq => ?_
  rw [← h.text_escaped] at heq
  exact hline (Html.escape_injective .highlighted heq)

theorem clear_renderText (h : reply.Marks language) {text : Text}
    (htext : language.dividerLine ∉ Text.splitOn '\n' text) :
    language.Clear (reply.renderText text) :=
  clear_renderText_of_lines fun _ hmem => h.clear_renderLine fun heq => htext (heq ▸ hmem)

/-- Each divider line of a text is a cut, and there are no others. -/
theorem length_cutAtMarkers (h : reply.Marks language) (text : Text) :
    (language.cutAtMarkers (reply.renderText text)).length =
      1 + (Text.splitOn '\n' text).count language.dividerLine :=
  Language.length_cutAtMarkers_intercalate h.angleFree h.cls_known h.renderLine_dividerLine
    (fun _ => h.clear_renderLine) _

end Marks

end LineReply
end Marginalia

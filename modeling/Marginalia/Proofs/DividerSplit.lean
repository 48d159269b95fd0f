import Marginalia.Proofs.HtmlText
import Marginalia.Proofs.TextLines
import Marginalia.Proofs.TextSearch

/-!
# Cutting a text at its markers

`Language.cutAtMarkers` looks for a marker at each position from the left. Two
laws are enough to compute it on a text that is put together from known parts:
a marker ends the first piece, and a part in which no marker starts is put in
front of it.

"No marker starts in it" has to hold whatever follows the part, or the law
could not be used on a part in the middle of a text. `Clear` says so for every
position of the part. Text without angle brackets is clear, because a marker
starts with one. The tags of another divider are clear as well, and that is
the only place where the shape of markers matters: the class ends at the first
quote and the text at the first angle bracket, so a span that a marker is found
at is that marker.
-/

namespace Marginalia

namespace Text

/-- What precedes the first occurrence of a character is determined by the whole. -/
theorem append_cons_inj {c : Char} {front other rest otherRest : Text} (hfront : c ∉ front)
    (hother : c ∉ other) (h : front ++ c :: rest = other ++ c :: otherRest) :
    front = other ∧ rest = otherRest := by
  induction front generalizing other with
  | nil =>
      cases other with
      | nil => exact ⟨rfl, (List.cons.inj h).2⟩
      | cons d other =>
          obtain ⟨rfl, _⟩ := List.cons.inj h
          exact absurd (List.mem_cons_self ..) hother
  | cons d front ih =>
      cases other with
      | nil =>
          obtain ⟨rfl, _⟩ := List.cons.inj h
          exact absurd (List.mem_cons_self ..) hfront
      | cons e other =>
          obtain ⟨rfl, htail⟩ := List.cons.inj h
          obtain ⟨rfl, hrest⟩ := ih (fun hmem => hfront (List.mem_cons_of_mem _ hmem))
            (fun hmem => hother (List.mem_cons_of_mem _ hmem)) htail
          exact ⟨rfl, hrest⟩

/-- Puts a text in front of the first of several pieces. -/
def prepend (text : Text) : List Text → List Text
  | [] => [text]
  | piece :: pieces => (text ++ piece) :: pieces

theorem length_prepend {text : Text} {pieces : List Text} (h : pieces ≠ []) :
    (prepend text pieces).length = pieces.length := by
  cases pieces with
  | nil => exact absurd rfl h
  | cons piece pieces => rfl

end Text

namespace Language

/-! ## Markers -/

/-- A span of a class around a text that is HTML already. -/
def spanOf (cls html : Text) : Text :=
  markerStart ++ cls ++ markerMiddle ++ html ++ markerEnd

/-- The text of a marker. -/
def markerText (language : Language) : Text :=
  Html.escape .kept language.dividerLine

/-- The classes by which markers are known. -/
def knownClasses (language : Language) : List Text :=
  if language.classes = [] then [[]] else language.classes

/-- What holds of the empty class and of the classes of a language holds of the known ones. -/
theorem forall_mem_knownClasses {language : Language} {p : Text → Prop} (hnil : p [])
    (h : ∀ cls ∈ language.classes, p cls) : ∀ cls ∈ language.knownClasses, p cls := by
  intro cls hcls
  rw [knownClasses] at hcls
  split at hcls
  · rw [List.mem_singleton.1 hcls]
    exact hnil
  · exact h cls hcls

theorem marker_eq_spanOf (language : Language) (cls : Text) :
    language.marker cls = spanOf cls language.markerText := rfl

/-- What an opening tag of a span has between its bracket and its class. -/
def spanHead : Text := "span class=\"".toList

/-- What a closing tag of a span has after its bracket. -/
def spanTail : Text := "/span>".toList

theorem spanOf_append (cls html rest : Text) :
    spanOf cls html ++ rest =
      '<' :: (spanHead ++ (cls ++ '"' :: '>' :: (html ++ '<' :: (spanTail ++ rest)))) := by
  have hstart : markerStart = '<' :: spanHead := by decide
  have hmiddle : markerMiddle = ['"', '>'] := by decide
  have hend : markerEnd = '<' :: spanTail := by decide
  rw [spanOf, hstart, hmiddle, hend]
  simp only [List.append_assoc, List.cons_append, List.nil_append]

theorem spanOf_append_inj {cls other html otherHtml rest otherRest : Text}
    (hcls : '"' ∉ cls) (hother : '"' ∉ other) (hhtml : '<' ∉ html) (hotherHtml : '<' ∉ otherHtml)
    (h : spanOf cls html ++ rest = spanOf other otherHtml ++ otherRest) :
    cls = other ∧ html = otherHtml ∧ rest = otherRest := by
  rw [spanOf_append, spanOf_append] at h
  have hhead := List.append_cancel_left (List.cons.inj h).2
  have hquote := Text.append_cons_inj hcls hother hhead
  have hangle := Text.append_cons_inj hhtml hotherHtml (List.cons.inj hquote.2).2
  exact ⟨hquote.1, hangle.1, List.append_cancel_left hangle.2⟩

/-- Outside of tags a span shows what is in it, even where its opening tag stands in a tag. -/
theorem outsideTags_spanOf {cls html : Text} (hcls : '>' ∉ cls)
    (hhtml : ∀ c ∈ html, Html.isAngle c = false) (inside : Bool) (rest : Text) :
    Html.outsideTags inside (spanOf cls html ++ rest) = html ++ Html.outsideTags false rest := by
  have hopen : '>' ∉ spanHead ++ (cls ++ ['"']) := by
    have hhead : '>' ∉ spanHead := by decide
    simp [hhead, hcls]
  have hclose : spanTail = "/span".toList ++ ['>'] := by decide
  have htags : spanOf cls html ++ rest = '<' :: ((spanHead ++ (cls ++ ['"'])) ++
      '>' :: (html ++ '<' :: ("/span".toList ++ '>' :: rest))) := by
    rw [spanOf_append, hclose]
    simp only [List.append_assoc, List.cons_append, List.nil_append]
  have htag (text : Text) : Html.outsideTags inside ('<' :: text) = Html.outsideTags true text := by
    cases inside <;> rfl
  rw [htags, htag, Html.outsideTags_tag hopen, Html.outsideTags_append hhtml, Html.outsideTags,
    if_pos rfl, Html.outsideTags_tag (by decide)]

theorem not_mem_markerText (language : Language) : '<' ∉ language.markerText :=
  Html.angle_not_mem_escape .kept _

theorem eq_marker_append_of_afterMarker? {language : Language} {text rest : Text}
    (h : language.afterMarker? text = some rest) :
    ∃ cls ∈ language.knownClasses, text = language.marker cls ++ rest := by
  obtain ⟨marker, hmem, hdrop⟩ := List.exists_of_findSome?_eq_some h
  obtain ⟨cls, hcls, rfl⟩ := List.mem_map.1 hmem
  exact ⟨cls, hcls, Text.eq_append_of_dropStart? hdrop⟩

/-- The classes are free of what ends a class. -/
def QuoteFree (language : Language) : Prop :=
  ∀ cls ∈ language.knownClasses, '"' ∉ cls

/-- The classes are free of what begins a tag. -/
def AngleFree (language : Language) : Prop :=
  ∀ cls ∈ language.knownClasses, '<' ∉ cls

/-- Up to its closing tag a marker is its class, whatever quotes that has, and the one text. -/
theorem marker_append_inj {language : Language} {cls other rest otherRest : Text}
    (hcls : '<' ∉ cls) (hother : '<' ∉ other)
    (h : language.marker cls ++ rest = language.marker other ++ otherRest) :
    cls = other ∧ rest = otherRest := by
  have hfree (name : Text) (hname : '<' ∉ name) :
      '<' ∉ name ++ '"' :: '>' :: language.markerText := by
    simp [hname, not_mem_markerText]
  have hregroup (name after : Text) : name ++ '"' :: '>' :: (language.markerText ++ after) =
      (name ++ '"' :: '>' :: language.markerText) ++ after := by simp
  rw [marker_eq_spanOf, marker_eq_spanOf, spanOf_append, spanOf_append] at h
  have hhead := List.append_cancel_left (List.cons.inj h).2
  rw [hregroup, hregroup] at hhead
  obtain ⟨hname, htail⟩ := Text.append_cons_inj (hfree cls hcls) (hfree other hother) hhead
  exact ⟨List.append_cancel_right hname, List.append_cancel_left htail⟩

theorem afterMarker?_marker {language : Language} (hfree : language.AngleFree) {cls : Text}
    (hcls : cls ∈ language.knownClasses) (rest : Text) :
    language.afterMarker? (language.marker cls ++ rest) = some rest := by
  cases hfound : language.afterMarker? (language.marker cls ++ rest) with
  | none =>
      have hnone := List.findSome?_eq_none_iff.1 hfound (language.marker cls)
        (List.mem_map_of_mem hcls)
      rw [Text.dropStart?_append] at hnone
      cases hnone
  | some found =>
      obtain ⟨other, hother, heq⟩ := eq_marker_append_of_afterMarker? hfound
      rw [(marker_append_inj (hfree cls hcls) (hfree other hother) heq).2]

/-! ## Parts in which no marker starts -/

/-- No marker starts in a text, whatever follows it. -/
def Clear (language : Language) (text : Text) : Prop :=
  ∀ before after rest : Text, text = before ++ after → after ≠ [] →
    language.afterMarker? (after ++ rest) = none

/-- No marker starts in a text that `rest` follows. -/
def ClearBefore (language : Language) (text rest : Text) : Prop :=
  ∀ before after : Text, text = before ++ after → after ≠ [] →
    language.afterMarker? (after ++ rest) = none

theorem ClearBefore.head {language : Language} {c : Char} {text rest : Text}
    (h : language.ClearBefore (c :: text) rest) : language.afterMarker? (c :: (text ++ rest)) = none :=
  h [] (c :: text) rfl (List.cons_ne_nil _ _)

theorem ClearBefore.tail {language : Language} {c : Char} {text rest : Text}
    (h : language.ClearBefore (c :: text) rest) : language.ClearBefore text rest :=
  fun before after heq => h (c :: before) after (by rw [heq, List.cons_append])

theorem afterMarker?_eq_none {language : Language} {c : Char} {text : Text} (hc : c ≠ '<') :
    language.afterMarker? (c :: text) = none := by
  cases hfound : language.afterMarker? (c :: text) with
  | none => rfl
  | some rest =>
      obtain ⟨cls, _, heq⟩ := eq_marker_append_of_afterMarker? hfound
      rw [marker_eq_spanOf, spanOf_append] at heq
      exact absurd (List.cons.inj heq).1 hc

theorem clear_of_not_mem {language : Language} {text : Text} (h : '<' ∉ text) :
    language.Clear text := by
  intro before after rest heq hne
  cases after with
  | nil => exact absurd rfl hne
  | cons c after =>
      refine afterMarker?_eq_none ?_
      rintro rfl
      exact h (heq ▸ List.mem_append_right before (List.mem_cons_self ..))

theorem Clear.append {language : Language} {text other : Text} (htext : language.Clear text)
    (hother : language.Clear other) : language.Clear (text ++ other) := by
  intro before after rest heq hne
  rcases List.append_eq_append_iff.1 heq with ⟨middle, hbefore, hafter⟩ | ⟨middle, hbefore, hafter⟩
  · exact hother middle after rest hafter hne
  · cases middle with
    | nil =>
        rw [List.nil_append] at hafter
        exact hother [] after rest hafter.symm hne
    | cons c middle =>
        rw [hafter, List.append_assoc]
        exact htext before (c :: middle) (other ++ rest) hbefore (List.cons_ne_nil _ _)

/-- The only other angle bracket of a span opens the closing tag. -/
theorem eq_spanTail_of_spanOf_eq {cls html before after : Text} {c : Char} (hangle : '<' ∉ cls)
    (hhtml : '<' ∉ html) (h : spanOf cls html = c :: before ++ '<' :: after) :
    after = spanTail := by
  have hspan := spanOf_append cls html []
  rw [List.append_nil, h, List.cons_append, List.append_nil] at hspan
  have hinner : '<' ∉ spanHead ++ (cls ++ '"' :: '>' :: html) := by
    have hhead : '<' ∉ spanHead := by decide
    simp [hhead, hangle, hhtml]
  have hsplit : (spanHead ++ (cls ++ '"' :: '>' :: html)) ++ '<' :: spanTail =
      before ++ '<' :: after := by
    rw [(List.cons.inj hspan).2]
    simp only [List.append_assoc, List.cons_append]
  have hnone : '<' ∉ spanTail := by decide
  exact ((List.append_cons_inj_of_notMem hinner hnone).1 hsplit).2.2.symm

/-- The tags of a span hold a marker only if the span is one. -/
theorem clear_spanOf {language : Language} (hfree : language.QuoteFree) {cls html : Text}
    (hquote : '"' ∉ cls) (hangle : '<' ∉ cls) (hhtml : '<' ∉ html)
    (hother : cls ∈ language.knownClasses → html ≠ language.markerText) :
    language.Clear (spanOf cls html) := by
  intro before after rest heq hne
  cases hfound : language.afterMarker? (after ++ rest) with
  | none => rfl
  | some found =>
      exfalso
      obtain ⟨known, hknown, hafter⟩ := eq_marker_append_of_afterMarker? hfound
      rw [marker_eq_spanOf] at hafter
      cases before with
      | nil =>
          -- the marker starts where the span starts
          rw [List.nil_append] at heq
          rw [← heq] at hafter
          obtain ⟨rfl, hsame, _⟩ := spanOf_append_inj hquote (hfree known hknown) hhtml
            (not_mem_markerText language) hafter
          exact hother hknown hsame
      | cons c before =>
          cases after with
          | nil => exact hne rfl
          | cons d after =>
              rw [spanOf_append, List.cons_append] at hafter
              obtain ⟨rfl, hbody⟩ := List.cons.inj hafter
              rw [eq_spanTail_of_spanOf_eq hangle hhtml heq] at hbody
              exact absurd (List.cons.inj hbody).1 (by decide)

/-! ## The two laws of cutting -/

theorem cutAtMarkers_ne_nil (language : Language) (text : Text) :
    language.cutAtMarkers text ≠ [] := by
  cases text with
  | nil =>
      rw [cutAtMarkers]
      exact List.cons_ne_nil _ _
  | cons c text =>
      rw [cutAtMarkers]
      split
      · exact List.cons_ne_nil _ _
      · cases language.cutAtMarkers text <;> exact List.cons_ne_nil _ _

theorem cutAtMarkers_of_clearBefore {language : Language} {text rest : Text}
    (h : language.ClearBefore text rest) :
    language.cutAtMarkers (text ++ rest) = Text.prepend text (language.cutAtMarkers rest) := by
  obtain ⟨piece, pieces, heq⟩ :=
    List.exists_cons_of_ne_nil (cutAtMarkers_ne_nil language rest)
  induction text with
  | nil => rw [List.nil_append, heq]; rfl
  | cons c text ih =>
      have hnone := h.head
      rw [List.cons_append, cutAtMarkers]
      split
      · next found hfound => rw [hnone] at hfound; cases hfound
      · rw [ih h.tail, heq]; rfl

theorem cutAtMarkers_append {language : Language} {text : Text} (h : language.Clear text)
    (rest : Text) :
    language.cutAtMarkers (text ++ rest) = Text.prepend text (language.cutAtMarkers rest) :=
  cutAtMarkers_of_clearBefore fun before after => h before after rest

theorem cutAtMarkers_of_clear {language : Language} {text : Text} (h : language.Clear text) :
    language.cutAtMarkers text = [text] := by
  have hcut := cutAtMarkers_append h []
  rw [List.append_nil, cutAtMarkers] at hcut
  rw [hcut, Text.prepend, List.append_nil]

theorem cutAtMarkers_of_afterMarker? {language : Language} {text rest : Text}
    (h : language.afterMarker? text = some rest) :
    language.cutAtMarkers text = [] :: language.cutAtMarkers rest := by
  cases text with
  | nil => exact absurd (length_of_afterMarker? h) (Nat.not_lt_zero _)
  | cons c text =>
      rw [cutAtMarkers]
      split
      · next found heq =>
          rw [h] at heq
          cases heq
          rfl
      · next heq => rw [h] at heq; cases heq

theorem cutAtMarkers_marker {language : Language} (hfree : language.AngleFree) {cls : Text}
    (hcls : cls ∈ language.knownClasses) (rest : Text) :
    language.cutAtMarkers (language.marker cls ++ rest) = [] :: language.cutAtMarkers rest :=
  cutAtMarkers_of_afterMarker? (afterMarker?_marker hfree hcls rest)

theorem cutAtMarkers_append_marker {language : Language} (hfree : language.AngleFree)
    {text cls : Text} (htext : language.Clear text) (hcls : cls ∈ language.knownClasses)
    (rest : Text) :
    language.cutAtMarkers (text ++ (language.marker cls ++ rest)) =
      text :: language.cutAtMarkers rest := by
  rw [cutAtMarkers_append htext, cutAtMarkers_marker hfree hcls, Text.prepend, List.append_nil]

/-! ## Texts made of lines -/

theorem clear_newline (language : Language) : language.Clear ['\n'] :=
  clear_of_not_mem (by decide)

theorem clear_intercalate {language : Language} {lines : List Text}
    (h : ∀ line ∈ lines, language.Clear line) :
    language.Clear (List.intercalate ['\n'] lines) := by
  induction lines with
  | nil => exact clear_of_not_mem List.not_mem_nil
  | cons line lines ih =>
      have hline := h line (List.mem_cons_self ..)
      cases lines with
      | nil => rwa [List.intercalate_singleton]
      | cons next lines =>
          rw [List.intercalate_cons_cons]
          exact (hline.append (clear_newline language)).append
            (ih fun other hmem => h other (List.mem_cons_of_mem _ hmem))

/-- Where one line is rendered as a marker and the others are clear of markers, each
occurrence of that line is a cut, and there are no others. -/
theorem length_cutAtMarkers_intercalate {language : Language} (hfree : language.AngleFree)
    {cls marked : Text} (hcls : cls ∈ language.knownClasses) {render : Text → Text}
    (hmarked : render marked = language.marker cls)
    (hclear : ∀ line, line ≠ marked → language.Clear (render line)) (lines : List Text) :
    (language.cutAtMarkers (List.intercalate ['\n'] (lines.map render))).length =
      1 + lines.count marked := by
  induction lines with
  | nil =>
      rw [List.map_nil, List.intercalate_nil, cutAtMarkers]
      rfl
  | cons line lines ih =>
      obtain ⟨tail, htext, htail⟩ : ∃ tail : Text,
          List.intercalate ['\n'] ((line :: lines).map render) = render line ++ tail ∧
            (language.cutAtMarkers tail).length = 1 + lines.count marked := by
        cases lines with
        | nil =>
            refine ⟨[], ?_, by rw [cutAtMarkers]; rfl⟩
            rw [List.map_singleton, List.intercalate_singleton, List.append_nil]
        | cons next lines =>
            refine ⟨['\n'] ++ List.intercalate ['\n'] ((next :: lines).map render), ?_, ?_⟩
            · rw [List.map_cons, List.map_cons, List.intercalate_cons_cons, List.append_assoc]
            · rw [cutAtMarkers_append (clear_newline language),
                Text.length_prepend (cutAtMarkers_ne_nil language _), ih]
      rw [htext]
      by_cases hline : line = marked
      · rw [hline, hmarked, cutAtMarkers_marker hfree hcls, List.length_cons, htail,
          List.count_cons_self]
        omega
      · rw [cutAtMarkers_append (hclear line hline),
          Text.length_prepend (cutAtMarkers_ne_nil language _), htail, List.count_cons_of_ne hline]

/-! ## Counting pieces -/

theorem length_trimFollowing (pieces : List Text) :
    (trimFollowing pieces).length = pieces.length := by
  fun_induction trimFollowing pieces with
  | case1 => rfl
  | case2 piece => rfl
  | case3 piece next pieces ih => rw [List.length_cons, ih]; rfl

theorem splitAtDividers_of_clear {language : Language} {text : Text} (h : language.Clear text) :
    language.splitAtDividers text = [text] := by
  rw [splitAtDividers, cutAtMarkers_of_clear h, trimPieces]

/-- The newlines that go with the markers leave the number of pieces as it is. -/
theorem length_splitAtDividers (language : Language) (text : Text) :
    (language.splitAtDividers text).length = (language.cutAtMarkers text).length := by
  rw [splitAtDividers]
  match language.cutAtMarkers text with
  | [] => rfl
  | [piece] => rfl
  | piece :: next :: pieces =>
      rw [trimPieces, List.length_cons, length_trimFollowing]
      rfl

end Language
end Marginalia

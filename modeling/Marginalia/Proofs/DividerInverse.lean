import Marginalia.Proofs.DividerInterleaving
import Mathlib.Data.List.Infix

/-!
# Splitting is the inverse of interleaving

A text that is put together from fragments, with a divider between each two of them,
is split into these fragments again. What makes a list of texts fragments is just what
splitting leaves: no marker in any of them, and no newline at an end where a divider
was. So for every text there is one list of fragments that it can be put together from.

The fragments end where markers begin, and that is seen from the shape of a marker.
It has two angle brackets that open a tag, the second one before a slash. A marker that
would begin in a fragment and end behind it would have a divider's marker begin at its
second angle bracket, and no marker begins like that. For the same reason two markers do
not overlap, and the markers in a text can be counted by the places where they begin.
-/

namespace Marginalia

namespace Language

variable {language : Language}

/-! ## Where a marker can begin -/

theorem exists_marker_eq (language : Language) (cls : Text) :
    ∃ inner, language.marker cls = '<' :: (inner ++ ['>']) := by
  have hstart : markerStart = '<' :: spanHead := by decide
  have hend : markerEnd = "</span".toList ++ ['>'] := by decide
  refine ⟨spanHead ++ cls ++ markerMiddle ++ language.markerText ++ "</span".toList, ?_⟩
  rw [marker_eq_spanOf, spanOf, hstart, hend]
  simp only [List.append_assoc, List.cons_append]

/-- No marker begins inside a marker. -/
theorem clearBefore_of_marker_eq {cls inner : Text} {c : Char} (hcls : '<' ∉ cls)
    (h : language.marker cls = c :: inner) (rest : Text) : language.ClearBefore inner rest := by
  intro before after hinner hafter
  obtain ⟨d, after, rfl⟩ := List.exists_cons_of_ne_nil hafter
  by_cases hd : d = '<'
  · subst hd
    rw [hinner, marker_eq_spanOf] at h
    have htail := eq_spanTail_of_spanOf_eq hcls (not_mem_markerText language) h
    cases hfound : language.afterMarker? ('<' :: after ++ rest) with
    | none => rfl
    | some found =>
        obtain ⟨other, _, heq⟩ := eq_marker_append_of_afterMarker? hfound
        rw [htail, marker_eq_spanOf, spanOf_append, List.cons_append] at heq
        exact absurd (List.cons.inj (List.cons.inj heq).2).1 (by decide)
  · exact afterMarker?_eq_none hd

/-- What a text may be followed by so that no marker begins in the one and ends in the other. -/
def Bounds (language : Language) (rest : Text) : Prop :=
  rest = [] ∨ ∃ cls ∈ language.knownClasses, language.marker cls <+: rest

theorem MarkerFree.clearBefore (hfree : language.AngleFree) {text rest : Text}
    (h : language.MarkerFree text) (hrest : language.Bounds rest) :
    language.ClearBefore text rest := by
  intro before after htext hafter
  have hinfix : after <:+: text := htext ▸ (List.suffix_append before after).isInfix
  cases hfound : language.afterMarker? (after ++ rest) with
  | none => rfl
  | some found =>
      exfalso
      obtain ⟨other, hother, heq⟩ := eq_marker_append_of_afterMarker? hfound
      rcases List.append_eq_append_iff.1 heq with ⟨middle, hmarker, hmiddle⟩ | ⟨middle, hwhole, _⟩
      · by_cases hnil : middle = []
        · subst hnil
          rw [List.append_nil] at hmarker
          exact h other hother (hmarker ▸ hinfix)
        · -- the rest begins inside the marker, but also with one
          obtain ⟨c, after, rfl⟩ := List.exists_cons_of_ne_nil hafter
          have hnone := clearBefore_of_marker_eq (hfree other hother) hmarker found after middle
            rfl hnil
          rw [← hmiddle] at hnone
          rcases hrest with rfl | ⟨cls, hcls, hprefix⟩
          · exact hnil (List.append_eq_nil_iff.1 hmiddle.symm).1
          · exact afterMarker?_ne_none hcls hprefix hnone
      · exact h other hother ((hwhole ▸ List.prefix_append ..).isInfix.trans hinfix)

/-! ## Cutting -/

theorem cutAtMarkers_of_markerFree (hfree : language.AngleFree) {text : Text}
    (h : language.MarkerFree text) : language.cutAtMarkers text = [text] := by
  have hcut := cutAtMarkers_of_clearBefore (h.clearBefore hfree (Or.inl rfl))
  rw [List.append_nil, cutAtMarkers] at hcut
  rw [hcut, Text.prepend, List.append_nil]

theorem cutAtMarkers_markerFree_append (hfree : language.AngleFree) {text cls : Text}
    (h : language.MarkerFree text) (hcls : cls ∈ language.knownClasses) (rest : Text) :
    language.cutAtMarkers (text ++ (language.marker cls ++ rest)) =
      text :: language.cutAtMarkers rest := by
  have hbounds : language.Bounds (language.marker cls ++ rest) :=
    Or.inr ⟨cls, hcls, List.prefix_append ..⟩
  rw [cutAtMarkers_of_clearBefore (h.clearBefore hfree hbounds), cutAtMarkers_marker hfree hcls,
    Text.prepend, List.append_nil]

/-! ## Fragments -/

/-- What lies between markers and the newlines around them. -/
structure Fragments (language : Language) (pieces : List Text) : Prop where
  markerFree : ∀ piece ∈ pieces, language.MarkerFree piece
  starts : ∀ piece ∈ pieces.tail, piece.head? ≠ some '\n'
  ends : ∀ piece ∈ pieces.dropLast, piece.getLast? ≠ some '\n'

theorem MarkerFree.replicate_append {text : Text} (h : language.MarkerFree text) (n : Nat) :
    language.MarkerFree (List.replicate n '\n' ++ text) := by
  induction n with
  | zero => exact h
  | succ n ih =>
      rw [List.replicate_succ, List.cons_append]
      refine ih.cons fun cls _ hmarker => ?_
      obtain ⟨inner, heq⟩ := exists_marker_eq language cls
      rw [heq, List.cons_prefix_cons] at hmarker
      exact absurd hmarker.1 (by decide)

theorem MarkerFree.append_replicate {text : Text} (h : language.MarkerFree text) (n : Nat) :
    language.MarkerFree (text ++ List.replicate n '\n') := by
  induction n with
  | zero => rwa [List.replicate_zero, List.append_nil]
  | succ n ih =>
      rw [List.replicate_succ', ← List.append_assoc]
      intro cls hcls hmarker
      rcases List.infix_concat_iff.1 hmarker with hsuffix | hinfix
      · obtain ⟨inner, heq⟩ := exists_marker_eq language cls
        obtain ⟨front, hfront⟩ := hsuffix
        rw [heq, ← List.cons_append, ← List.append_assoc] at hfront
        exact absurd (List.append_inj_right' hfront rfl) (by decide)
      · exact ih cls hcls hinfix

theorem dropWhile_eq_self_iff {text : Text} :
    text.dropWhile isNewline = text ↔ text.head? ≠ some '\n' := by
  rw [List.dropWhile_eq_self_iff]
  cases text <;> simp [isNewline_iff]

theorem dropEndWhile_eq_self_iff {text : Text} :
    Text.dropEndWhile isNewline text = text ↔ text.getLast? ≠ some '\n' := by
  rw [Text.dropEndWhile_eq_rdropWhile, List.rdropWhile_eq_self_iff]
  by_cases hnil : text = []
  · simp [hnil]
  · rw [List.getLast?_eq_some_getLast hnil]
    simp [isNewline_iff, hnil]

theorem dropEndWhile_append_replicate (text : Text) (n : Nat) :
    Text.dropEndWhile isNewline (text ++ List.replicate n '\n') =
      Text.dropEndWhile isNewline text := by
  induction n with
  | zero => rw [List.replicate_zero, List.append_nil]
  | succ n ih =>
      rw [List.replicate_succ', ← List.append_assoc, Text.dropEndWhile_concat_of_pos rfl, ih]

theorem dropWhile_replicate_append (n : Nat) (text : Text) :
    (List.replicate n '\n' ++ text).dropWhile isNewline = text.dropWhile isNewline := by
  induction n with
  | zero => rfl
  | succ n ih => rwa [List.replicate_succ, List.cons_append, List.dropWhile_cons_of_pos rfl]

theorem trimFollowing_cons (piece : Text) {pieces : List Text} (h : pieces ≠ []) :
    trimFollowing (piece :: pieces) = Text.stripNewlines piece :: trimFollowing pieces := by
  obtain ⟨next, pieces, rfl⟩ := List.exists_cons_of_ne_nil h
  rfl

theorem trimPieces_cons (piece : Text) {pieces : List Text} (h : pieces ≠ []) :
    trimPieces (piece :: pieces) =
      Text.dropEndWhile isNewline piece :: trimFollowing pieces := by
  obtain ⟨next, pieces, rfl⟩ := List.exists_cons_of_ne_nil h
  rfl

theorem stripNewlines_append_replicate (text : Text) (n : Nat) :
    Text.stripNewlines (text ++ List.replicate n '\n') = Text.stripNewlines text := by
  rw [Text.stripNewlines, Text.stripNewlines, Text.dropEndWhile_dropWhile,
    Text.dropEndWhile_dropWhile, dropEndWhile_append_replicate]

theorem stripNewlines_replicate_append (n : Nat) (text : Text) :
    Text.stripNewlines (List.replicate n '\n' ++ text) = Text.stripNewlines text := by
  rw [Text.stripNewlines, Text.stripNewlines, dropWhile_replicate_append]

/-- What is left of a fragment with newlines around it, when these are trimmed. -/
theorem stripNewlines_pad {piece : Text} (hstart : piece.head? ≠ some '\n')
    (hend : piece.getLast? ≠ some '\n') (before after : Nat) :
    Text.stripNewlines (List.replicate before '\n' ++ piece ++ List.replicate after '\n') =
      piece := by
  rw [stripNewlines_append_replicate, stripNewlines_replicate_append, Text.stripNewlines,
    dropWhile_eq_self_iff.2 hstart, dropEndWhile_eq_self_iff.2 hend]

/-- A divider is cut at its marker, and its newlines stay with the pieces. -/
theorem IsDivider.exists_cutAtMarkers_eq (hfree : language.AngleFree) {divider text : Text}
    (h : language.IsDivider divider) (htext : language.MarkerFree text) (rest : Text) :
    ∃ before after, language.cutAtMarkers (text ++ divider ++ rest) =
      (text ++ List.replicate before '\n') ::
        language.cutAtMarkers (List.replicate after '\n' ++ rest) := by
  obtain ⟨cls, hcls, before, after, rfl⟩ := h
  refine ⟨before, after, ?_⟩
  rw [← cutAtMarkers_markerFree_append hfree (htext.append_replicate before) hcls]
  simp only [List.append_assoc]

/-- Behind a divider, splitting finds the fragments after any newlines. -/
theorem Interleaves.trimFollowing_eq (hfree : language.AngleFree) {pieces : List Text}
    {text : Text} (h : language.Interleaves pieces text)
    (hmarkers : ∀ piece ∈ pieces, language.MarkerFree piece)
    (hstarts : ∀ piece ∈ pieces, piece.head? ≠ some '\n')
    (hends : ∀ piece ∈ pieces.dropLast, piece.getLast? ≠ some '\n') (n : Nat) :
    Language.trimFollowing (language.cutAtMarkers (List.replicate n '\n' ++ text)) = pieces := by
  induction h generalizing n with
  | last piece =>
      have hmem := List.mem_singleton_self piece
      rw [cutAtMarkers_of_markerFree hfree ((hmarkers piece hmem).replicate_append n),
        Language.trimFollowing, dropWhile_replicate_append,
        dropWhile_eq_self_iff.2 (hstarts piece hmem)]
  | @next piece divider rest pieces hdivider hrest ih =>
      obtain ⟨following, others, rfl⟩ := List.exists_cons_of_ne_nil hrest.ne_nil
      obtain ⟨before, after, hcut⟩ := hdivider.exists_cutAtMarkers_eq hfree
        ((hmarkers piece (List.mem_cons_self ..)).replicate_append n) rest
      have hstrip := stripNewlines_pad (hstarts piece (List.mem_cons_self ..))
        (hends piece (List.mem_cons_self ..)) n before
      have hfollowing := ih (fun other hmem => hmarkers other (List.mem_cons_of_mem _ hmem))
        (fun other hmem => hstarts other (List.mem_cons_of_mem _ hmem))
        (fun other hmem => hends other (List.mem_cons_of_mem _ hmem)) after
      have htext : List.replicate n '\n' ++ (piece ++ divider ++ rest) =
          List.replicate n '\n' ++ piece ++ divider ++ rest := by
        simp only [List.append_assoc]
      rw [htext, hcut, trimFollowing_cons _ (cutAtMarkers_ne_nil _ _), hstrip, hfollowing]

/-- A text put together from fragments is split into them. -/
theorem Interleaves.splitAtDividers_eq (hfree : language.AngleFree) {pieces : List Text}
    {text : Text} (h : language.Interleaves pieces text) (hpieces : language.Fragments pieces) :
    language.splitAtDividers text = pieces := by
  obtain ⟨hmarkers, hstarts, hends⟩ := hpieces
  cases h with
  | last =>
      have htext := hmarkers text (List.mem_singleton_self text)
      rw [splitAtDividers, cutAtMarkers_of_markerFree hfree htext, Language.trimPieces]
  | @next piece divider rest pieces hdivider hrest =>
      obtain ⟨following, others, rfl⟩ := List.exists_cons_of_ne_nil hrest.ne_nil
      obtain ⟨before, after, hcut⟩ := hdivider.exists_cutAtMarkers_eq hfree
        (hmarkers piece (List.mem_cons_self ..)) rest
      have hfollowing := hrest.trimFollowing_eq hfree
        (fun other hmem => hmarkers other (List.mem_cons_of_mem _ hmem)) hstarts
        (fun other hmem => hends other (List.mem_cons_of_mem _ hmem)) after
      rw [splitAtDividers, hcut, trimPieces_cons _ (cutAtMarkers_ne_nil _ _), hfollowing,
        dropEndWhile_append_replicate,
        dropEndWhile_eq_self_iff.2 (hends piece (List.mem_cons_self ..))]

/-! ## What splitting leaves -/

theorem head?_dropWhile_ne (text : Text) : (text.dropWhile isNewline).head? ≠ some '\n' :=
  dropWhile_eq_self_iff.1 (List.dropWhile_idempotent _ text)

theorem getLast?_dropEndWhile_ne (text : Text) :
    (Text.dropEndWhile isNewline text).getLast? ≠ some '\n' :=
  dropEndWhile_eq_self_iff.1 (List.rdropWhile_idempotent _ text)

theorem trimFollowing_ne_nil {pieces : List Text} (h : pieces ≠ []) :
    trimFollowing pieces ≠ [] := by
  rw [← List.length_pos_iff, length_trimFollowing]
  exact List.length_pos_iff.2 h

theorem head?_of_mem_trimFollowing {pieces : List Text} {piece : Text}
    (h : piece ∈ trimFollowing pieces) : piece.head? ≠ some '\n' := by
  fun_induction trimFollowing pieces with
  | case1 => cases h
  | case2 whole =>
      rw [List.mem_singleton.1 h]
      exact head?_dropWhile_ne whole
  | case3 whole next pieces ih =>
      rcases List.mem_cons.1 h with rfl | hmem
      · rw [Text.dropEndWhile_dropWhile]
        exact head?_dropWhile_ne _
      · exact ih hmem

theorem getLast?_of_mem_trimFollowing {pieces : List Text} {piece : Text}
    (h : piece ∈ (trimFollowing pieces).dropLast) : piece.getLast? ≠ some '\n' := by
  fun_induction trimFollowing pieces with
  | case1 => cases h
  | case2 whole => cases h
  | case3 whole next pieces ih =>
      rw [List.dropLast_cons_of_ne_nil (trimFollowing_ne_nil (List.cons_ne_nil _ _))] at h
      rcases List.mem_cons.1 h with rfl | hmem
      · exact getLast?_dropEndWhile_ne _
      · exact ih hmem

/-- Splitting leaves fragments, whatever the text and the classes are. -/
theorem fragments_splitAtDividers (language : Language) (text : Text) :
    language.Fragments (language.splitAtDividers text) := by
  obtain ⟨whole, pieces, heq⟩ :=
    List.exists_cons_of_ne_nil (cutAtMarkers_ne_nil language text)
  have hmarkers := markerFree_splitAtDividers language text
  rw [splitAtDividers, heq] at hmarkers ⊢
  by_cases hnil : pieces = []
  · subst hnil
    exact ⟨hmarkers, by simp [trimPieces], by simp [trimPieces]⟩
  · rw [trimPieces_cons whole hnil] at hmarkers ⊢
    refine ⟨hmarkers, fun piece hmem => head?_of_mem_trimFollowing hmem, ?_⟩
    rw [List.dropLast_cons_of_ne_nil (trimFollowing_ne_nil hnil)]
    exact List.forall_mem_cons.2 ⟨getLast?_dropEndWhile_ne whole, fun piece hmem =>
      getLast?_of_mem_trimFollowing hmem⟩

/-! ## Counting markers -/

/-- The number of places in a text at which a marker begins. -/
def markerCount (language : Language) (text : Text) : Nat :=
  text.tails.countP fun tail => language.markers.any (·.isPrefixOf tail)

theorem any_isPrefixOf_eq (language : Language) (text : Text) :
    (language.markers.any (·.isPrefixOf text)) = (language.afterMarker? text).isSome := by
  cases hfound : language.afterMarker? text with
  | none =>
      rw [Option.isSome_none, List.any_eq_false]
      intro marker hmem hprefix
      obtain ⟨cls, hcls, rfl⟩ := List.mem_map.1 hmem
      exact afterMarker?_ne_none hcls (List.isPrefixOf_iff_prefix.1 hprefix) hfound
  | some rest =>
      obtain ⟨cls, hcls, rfl⟩ := eq_marker_append_of_afterMarker? hfound
      refine List.any_eq_true.2 ⟨language.marker cls, List.mem_map_of_mem hcls, ?_⟩
      exact List.isPrefixOf_iff_prefix.2 (List.prefix_append ..)

theorem markerCount_nil (language : Language) : language.markerCount [] = 0 := by
  have hnone : language.afterMarker? [] = none := by
    cases hfound : language.afterMarker? [] with
    | none => rfl
    | some rest => exact absurd (length_of_afterMarker? hfound) (Nat.not_lt_zero _)
  rw [markerCount, List.tails, List.countP_singleton, any_isPrefixOf_eq, hnone]
  rfl

theorem markerCount_cons (language : Language) (c : Char) (text : Text) :
    language.markerCount (c :: text) =
      language.markerCount text + if (language.afterMarker? (c :: text)).isSome then 1 else 0 := by
  rw [markerCount, List.tails_cons, List.countP_cons, any_isPrefixOf_eq, ← markerCount]

theorem markerCount_of_clearBefore {text rest : Text} (h : language.ClearBefore text rest) :
    language.markerCount (text ++ rest) = language.markerCount rest := by
  induction text with
  | nil => rfl
  | cons c text ih =>
      rw [List.cons_append, markerCount_cons, h.head, ih h.tail]
      rfl

/-- Markers do not overlap, so every place where one begins is a cut. -/
theorem length_cutAtMarkers_eq (hfree : language.AngleFree) (text : Text) :
    (language.cutAtMarkers text).length = language.markerCount text + 1 := by
  fun_induction cutAtMarkers language text with
  | case1 => rw [markerCount_nil]; rfl
  | case2 c text rest hafter ih =>
      obtain ⟨cls, hcls, heq⟩ := eq_marker_append_of_afterMarker? hafter
      obtain ⟨inner, hinner⟩ := exists_marker_eq language cls
      have hinside := clearBefore_of_marker_eq (hfree cls hcls) hinner rest
      rw [hinner] at heq
      have htext : text = inner ++ ['>'] ++ rest := (List.cons.inj heq).2
      rw [List.length_cons, ih, markerCount_cons, hafter, htext, markerCount_of_clearBefore hinside]
      rfl
  | case3 c text hafter ih =>
      obtain ⟨first, pieces, heq⟩ :=
        List.exists_cons_of_ne_nil (cutAtMarkers_ne_nil language text)
      rw [heq] at ih ⊢
      rw [markerCount_cons, hafter]
      exact ih

/-- Splitting at dividers is the inverse of putting fragments together with dividers between:
a text is split into the only fragments that it can be put together from, one more than there
are markers in it. -/
theorem splitAtDividers_eq_iff (hclasses : ∀ cls ∈ language.classes, '<' ∉ cls) (text : Text) :
    (∀ pieces, language.splitAtDividers text = pieces ↔
      language.Interleaves pieces text ∧ language.Fragments pieces) ∧
    (language.splitAtDividers text).length = language.markerCount text + 1 := by
  have hfree : language.AngleFree := by
    intro cls hcls
    rw [knownClasses] at hcls
    split at hcls
    · rw [List.mem_singleton.1 hcls]
      exact List.not_mem_nil
    · exact hclasses cls hcls
  refine ⟨fun pieces => ⟨?_, ?_⟩, ?_⟩
  · rintro rfl
    exact ⟨interleaves_splitAtDividers language text, fragments_splitAtDividers language text⟩
  · rintro ⟨hinterleaves, hfragments⟩
    exact hinterleaves.splitAtDividers_eq hfree hfragments
  · rw [length_splitAtDividers, length_cutAtMarkers_eq hfree]

/-- Between two markers under classes of which one begins the other there is an empty fragment. -/
theorem splitAtDividers_eq_iff_adjacent :
    let language : Language :=
      { extension := ".x".toList, name := "x".toList, symbol := "<!".toList
        classes := ["c".toList, "c1".toList] }
    language.splitAtDividers ("a\n\n".toList ++ language.marker "c1".toList ++ "\n".toList ++
      language.marker "c".toList ++ "\nb".toList) = ["a".toList, [], "b".toList] := by
  intro language
  have hinterleaves : language.Interleaves ["a".toList, [], "b".toList]
      ("a".toList ++ ("\n\n".toList ++ language.marker "c1".toList ++ "\n".toList) ++
        ([] ++ ([] ++ language.marker "c".toList ++ "\n".toList) ++ "b".toList)) :=
    .next _ ⟨"c1".toList, by decide, 2, 1, rfl⟩
      (.next _ ⟨"c".toList, by decide, 0, 1, rfl⟩ (.last _))
  have hmarkers : ∀ piece ∈ ["a".toList, [], "b".toList], ∀ cls ∈ language.knownClasses,
      ¬ language.marker cls <:+: piece := by decide
  have hfragments : language.Fragments ["a".toList, [], "b".toList] :=
    ⟨hmarkers, by decide, by decide⟩
  exact ((splitAtDividers_eq_iff (by decide) _).1 _).2 ⟨hinterleaves, hfragments⟩

end Language
end Marginalia

import Marginalia.Proofs.DividerSplit

/-!
# What a split takes away

Whatever a text holds, splitting it at the dividers of a language takes nothing
away but markers and newlines next to them, and leaves no marker behind. Nothing
is asked of the text or of the classes here, so this holds of every answer of
every highlighter.

Cutting gives the pieces with bare markers between them. Trimming then moves
newlines from the pieces into the dividers. A newline behind a marker has to go
to the marker in front of it, which is no longer at hand when the pieces that
follow are trimmed: they are shown to be interleaved after some newlines, and the
step before them takes those.
-/

namespace Marginalia

namespace Language

variable {language : Language}

/-- A marker with newlines on either side. -/
def IsDivider (language : Language) (text : Text) : Prop :=
  ∃ cls ∈ language.knownClasses, ∃ before after : Nat,
    text = List.replicate before '\n' ++ language.marker cls ++ List.replicate after '\n'

/-- A text consists of the pieces and of a divider between each two of them. -/
inductive Interleaves (language : Language) : List Text → Text → Prop where
  | last (piece : Text) : Interleaves language [piece] piece
  | next (piece : Text) {divider rest : Text} {pieces : List Text}
      (hdivider : language.IsDivider divider) (hrest : Interleaves language pieces rest) :
      Interleaves language (piece :: pieces) (piece ++ divider ++ rest)

/-- No marker stands anywhere in a text. -/
def MarkerFree (language : Language) (text : Text) : Prop :=
  ∀ cls ∈ language.knownClasses, ¬ language.marker cls <:+: text

theorem isDivider_marker {cls : Text} (hcls : cls ∈ language.knownClasses) :
    language.IsDivider (language.marker cls) :=
  ⟨cls, hcls, 0, 0, (List.append_nil _).symm⟩

/-- A divider with further newlines around it is one. -/
theorem IsDivider.pad {divider : Text} (h : language.IsDivider divider) (before after : Nat) :
    language.IsDivider
      (List.replicate before '\n' ++ divider ++ List.replicate after '\n') := by
  obtain ⟨cls, hcls, first, last, rfl⟩ := h
  refine ⟨cls, hcls, before + first, last + after, ?_⟩
  rw [← List.replicate_append_replicate, ← List.replicate_append_replicate]
  simp only [List.append_assoc]

theorem MarkerFree.of_isInfix {part text : Text} (h : language.MarkerFree text)
    (hpart : part <:+: text) : language.MarkerFree part :=
  fun cls hcls hmarker => h cls hcls (hmarker.trans hpart)

theorem markerFree_nil : language.MarkerFree [] := fun cls _ h =>
  absurd (language.length_marker_pos cls) (by rw [List.infix_nil.1 h]; decide)

/-! ## Cutting -/

theorem Interleaves.ne_nil {pieces : List Text} {text : Text}
    (h : language.Interleaves pieces text) : pieces ≠ [] := by
  cases h <;> exact List.cons_ne_nil _ _

theorem Interleaves.prefix_of_cons {piece text : Text} {pieces : List Text}
    (h : language.Interleaves (piece :: pieces) text) : piece <+: text := by
  cases h with
  | last => exact List.prefix_rfl
  | next _ hdivider hrest =>
      rw [List.append_assoc]
      exact List.prefix_append ..

theorem Interleaves.subset {pieces : List Text} {text : Text}
    (h : language.Interleaves pieces text) : ∀ piece ∈ pieces, piece ⊆ text := by
  induction h with
  | last piece => exact List.forall_mem_singleton.2 (List.Subset.refl piece)
  | next piece hdivider hrest ih =>
      refine List.forall_mem_cons.2 ⟨fun c hmem => ?_, fun other hother c hmem => ?_⟩
      · exact List.mem_append_left _ (List.mem_append_left _ hmem)
      · exact List.mem_append_right _ (ih other hother hmem)

theorem Interleaves.consPiece {pieces : List Text} {text : Text} (c : Char)
    (h : language.Interleaves pieces text) :
    language.Interleaves (Text.consPiece c pieces) (c :: text) := by
  cases h with
  | last => exact .last (c :: text)
  | next piece hdivider hrest => exact .next (c :: piece) hdivider hrest

theorem interleaves_cutAtMarkers (language : Language) (text : Text) :
    language.Interleaves (language.cutAtMarkers text) text := by
  fun_induction cutAtMarkers language text with
  | case1 => exact .last []
  | case2 c text rest hafter ih =>
      obtain ⟨cls, hcls, heq⟩ := eq_marker_append_of_afterMarker? hafter
      rw [heq]
      exact .next [] (isDivider_marker hcls) ih
  | case3 c text hafter ih => exact ih.consPiece c

/-- A marker is found where one stands. -/
theorem afterMarker?_ne_none {cls text : Text} (hcls : cls ∈ language.knownClasses)
    (h : language.marker cls <+: text) : language.afterMarker? text ≠ none := by
  obtain ⟨rest, rfl⟩ := h
  intro hnone
  have hmarker := List.findSome?_eq_none_iff.1 hnone _ (List.mem_map_of_mem hcls)
  rw [Text.dropStart?_append] at hmarker
  cases hmarker

theorem MarkerFree.cons {c : Char} {text : Text} (h : language.MarkerFree text)
    (hstart : ∀ cls ∈ language.knownClasses, ¬ language.marker cls <+: c :: text) :
    language.MarkerFree (c :: text) := by
  intro cls hcls hmarker
  rcases List.infix_cons_iff.1 hmarker with hprefix | hinfix
  · exact hstart cls hcls hprefix
  · exact h cls hcls hinfix

theorem markerFree_cutAtMarkers (language : Language) (text : Text) :
    ∀ piece ∈ language.cutAtMarkers text, language.MarkerFree piece := by
  fun_induction cutAtMarkers language text with
  | case1 =>
      intro piece h
      rw [List.mem_singleton.1 h]
      exact markerFree_nil
  | case2 c text rest hafter ih =>
      intro piece h
      rcases List.mem_cons.1 h with rfl | hmem
      · exact markerFree_nil
      · exact ih piece hmem
  | case3 c text hafter ih =>
      intro piece h
      have hcut := interleaves_cutAtMarkers language text
      obtain ⟨first, pieces, heq⟩ := List.exists_cons_of_ne_nil hcut.ne_nil
      rw [heq] at hcut ih
      rw [heq, Text.consPiece] at h
      rcases List.mem_cons.1 h with rfl | hmem
      · -- a marker at the start of the piece would start the text
        have hfirst : first <+: text := hcut.prefix_of_cons
        refine (ih _ (List.mem_cons_self ..)).cons fun cls hcls hmarker => ?_
        exact afterMarker?_ne_none hcls
          (hmarker.trans (List.cons_prefix_cons.2 ⟨rfl, hfirst⟩)) hafter
      · exact ih piece (List.mem_cons_of_mem _ hmem)

/-! ## Trimming -/

theorem exists_eq_replicate_append_dropWhile (text : Text) :
    ∃ n, text = List.replicate n '\n' ++ text.dropWhile isNewline := by
  induction text with
  | nil => exact ⟨0, rfl⟩
  | cons c text ih =>
      cases hc : isNewline c with
      | true =>
          obtain ⟨n, hn⟩ := ih
          refine ⟨n + 1, ?_⟩
          rw [List.dropWhile_cons_of_pos hc, isNewline_iff.1 hc, List.replicate_succ,
            List.cons_append, ← hn]
      | false =>
          refine ⟨0, ?_⟩
          rw [List.dropWhile_cons_of_neg (by rw [hc]; exact Bool.false_ne_true)]
          rfl

theorem exists_eq_dropEndWhile_append_replicate (text : Text) :
    ∃ n, text = Text.dropEndWhile isNewline text ++ List.replicate n '\n' := by
  obtain ⟨n, hn⟩ := exists_eq_replicate_append_dropWhile text.reverse
  refine ⟨n, ?_⟩
  rw [Text.dropEndWhile, ← List.reverse_replicate, ← List.reverse_append, ← hn,
    List.reverse_reverse]

/-- The pieces behind a marker stay interleaved, after newlines that go to that marker. -/
theorem Interleaves.trimFollowing {pieces : List Text} {text : Text}
    (h : language.Interleaves pieces text) :
    ∃ n rest, text = List.replicate n '\n' ++ rest ∧
      language.Interleaves (Language.trimFollowing pieces) rest := by
  induction h with
  | last piece =>
      obtain ⟨n, hn⟩ := exists_eq_replicate_append_dropWhile piece
      exact ⟨n, _, hn, .last _⟩
  | @next piece divider rest pieces hdivider hrest ih =>
      obtain ⟨behind, rest, rfl, htrim⟩ := ih
      obtain ⟨first, hfirst⟩ := exists_eq_replicate_append_dropWhile piece
      obtain ⟨last, hlast⟩ :=
        exists_eq_dropEndWhile_append_replicate (piece.dropWhile isNewline)
      obtain ⟨following, pieces, rfl⟩ := List.exists_cons_of_ne_nil hrest.ne_nil
      refine ⟨first, _, ?_, .next _ (hdivider.pad last behind) htrim⟩
      conv_lhs => rw [hfirst, hlast]
      simp only [List.append_assoc]

theorem Interleaves.trimPieces {pieces : List Text} {text : Text}
    (h : language.Interleaves pieces text) :
    language.Interleaves (Language.trimPieces pieces) text := by
  cases h with
  | last => exact .last text
  | @next piece divider rest pieces hdivider hrest =>
      obtain ⟨behind, rest, rfl, htrim⟩ := hrest.trimFollowing
      obtain ⟨last, hlast⟩ := exists_eq_dropEndWhile_append_replicate piece
      obtain ⟨following, pieces, rfl⟩ := List.exists_cons_of_ne_nil hrest.ne_nil
      have htext : piece ++ divider ++ (List.replicate behind '\n' ++ rest) =
          Text.dropEndWhile isNewline piece ++
            (List.replicate last '\n' ++ divider ++ List.replicate behind '\n') ++ rest := by
        conv_lhs => rw [hlast]
        simp only [List.append_assoc]
      rw [htext]
      exact .next _ (hdivider.pad last behind) htrim

theorem exists_infix_of_mem_trimFollowing {pieces : List Text} {piece : Text}
    (h : piece ∈ trimFollowing pieces) : ∃ whole ∈ pieces, piece <:+: whole := by
  fun_induction trimFollowing pieces with
  | case1 => cases h
  | case2 whole =>
      rw [List.mem_singleton.1 h]
      exact ⟨whole, List.mem_cons_self .., (List.dropWhile_suffix _).isInfix⟩
  | case3 whole next pieces ih =>
      rcases List.mem_cons.1 h with rfl | hmem
      · refine ⟨whole, List.mem_cons_self .., ?_⟩
        rw [Text.dropEndWhile_eq_rdropWhile]
        exact (List.rdropWhile_prefix _ _).isInfix.trans (List.dropWhile_suffix _).isInfix
      · obtain ⟨other, hother, hinfix⟩ := ih hmem
        exact ⟨other, List.mem_cons_of_mem _ hother, hinfix⟩

theorem exists_infix_of_mem_trimPieces {pieces : List Text} {piece : Text}
    (h : piece ∈ trimPieces pieces) : ∃ whole ∈ pieces, piece <:+: whole := by
  match pieces with
  | [] => cases h
  | [whole] => exact ⟨piece, h, List.infix_rfl⟩
  | whole :: next :: pieces =>
      rcases List.mem_cons.1 h with rfl | hmem
      · refine ⟨whole, List.mem_cons_self .., ?_⟩
        rw [Text.dropEndWhile_eq_rdropWhile]
        exact (List.rdropWhile_prefix _ _).isInfix
      · obtain ⟨other, hother, hinfix⟩ := exists_infix_of_mem_trimFollowing hmem
        exact ⟨other, List.mem_cons_of_mem _ hother, hinfix⟩

/-! ## Splitting -/

/-- A text is what it is split into, with dividers between. -/
theorem interleaves_splitAtDividers (language : Language) (text : Text) :
    language.Interleaves (language.splitAtDividers text) text :=
  (interleaves_cutAtMarkers language text).trimPieces

/-- No marker is left in what a text is split into. -/
theorem markerFree_splitAtDividers (language : Language) (text : Text) :
    ∀ piece ∈ language.splitAtDividers text, language.MarkerFree piece := by
  intro piece h
  obtain ⟨whole, hwhole, hinfix⟩ := exists_infix_of_mem_trimPieces h
  exact (markerFree_cutAtMarkers language text whole hwhole).of_isInfix hinfix

end Language
end Marginalia

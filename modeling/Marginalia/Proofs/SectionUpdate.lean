import Marginalia.Proofs.DividerInterleaving
import Marginalia.Proofs.SectionAlignment

/-!
# Sections are updated all or not at all

Nothing is known here of the outside program: it replies what it likes, or does
not reply. Highlighting fails before the first section is touched, unless the
rendering of docs fails, because the answer is cut and its pieces are counted
before the loop over the sections begins. Once the loop runs, the number of pieces
is right, and what the sections get is the answer itself, without the dividers.

That rendering cannot fail is needed: the loop works in place, and a section whose
docs cannot be rendered has its code by then, as all sections before it have.
-/

namespace Marginalia

/-- A section with its docs rendered and a piece of an answer as the HTML of its code. -/
def Section.withHtml (render : Text → Text) (s : Section) (piece : Text) : Section :=
  { s with
    docsHtml := some (render s.docs)
    codeHtml := some
      ("<div class=\"highlight\"><pre>".toList ++ piece ++ "</pre></div>".toList) }

namespace Highlighter

variable {highlighter : Highlighter} {language : Language} {render : Text → Text}

/-- Fragments get blocks only from a body that is split into as many pieces. -/
theorem highlightCode_eq_ok {disk : Disk} {fragments blocks : List Text}
    (h : (highlighter.highlightCode disk language fragments).result = .ok blocks) :
    ∃ body, highlighter.GivesBody disk language (List.intercalate language.dividerText fragments)
        body ∧
      (language.splitAtDividers body).length = fragments.length ∧
      blocks = (language.splitAtDividers body).map Wrapper.wrap := by
  obtain ⟨body, hrun, hblocks⟩ := bind_eq_ok.1 h
  exact ⟨body, givesBody_of_run_eq_ok hrun, blocksOf_eq_ok.1 hblocks⟩

/-- A section with a piece of an answer is filled in: its docs are rendered, and the piece is
its code. -/
def FillsWith (highlighter : Highlighter) (given : Section × Text) (filled : Section) : Prop :=
  ∃ docsHtml, highlighter.render given.1.docs = .ok docsHtml ∧
    filled = { given.1 with
      docsHtml := some docsHtml
      codeHtml := some
        ("<div class=\"highlight\"><pre>".toList ++ given.2 ++ "</pre></div>".toList) }

/-- Sections are filled in with all of a body but the dividers in it. -/
def FillsFrom (highlighter : Highlighter) (language : Language) (body : Text)
    (sections filled : List Section) : Prop :=
  ∃ pieces, language.Interleaves pieces body ∧ (∀ piece ∈ pieces, language.MarkerFree piece) ∧
    pieces.length = sections.length ∧
    List.Forall₂ highlighter.FillsWith (sections.zip pieces) filled

theorem forall₂_of_fill_eq_ok {sections filled : List Section} {pieces : List Text}
    (hlength : pieces.length = sections.length)
    (h : highlighter.fill sections (pieces.map Wrapper.wrap) = .ok filled) :
    List.Forall₂ highlighter.FillsWith (sections.zip pieces) filled := by
  induction sections generalizing pieces filled with
  | nil =>
      cases h
      exact .nil
  | cons s sections ih =>
      cases pieces with
      | nil => cases hlength
      | cons piece pieces =>
          rw [List.map_cons, fill_cons] at h
          obtain ⟨docsHtml, hdocs, h⟩ := bind_eq_ok.1 h
          obtain ⟨rest, hrest, h⟩ := bind_eq_ok.1 h
          cases h
          exact .cons ⟨docsHtml, hdocs, by rw [← Wrapper.wrap_eq]⟩
            (ih (Nat.succ.inj hlength) hrest)

theorem fillsFrom_of_highlight_eq_ok {disk : Disk} {sections filled : List Section}
    (h : (highlighter.highlight disk language sections).result = .ok filled) :
    ∃ body, highlighter.GivesBody disk language
        (List.intercalate language.dividerText (sections.map (·.code))) body ∧
      highlighter.FillsFrom language body sections filled := by
  obtain ⟨body, blocks, hrun, hblocks, hfill⟩ := highlight_eq_ok.1 h
  obtain ⟨hlength, rfl⟩ := blocksOf_eq_ok.1 hblocks
  exact ⟨body, givesBody_of_run_eq_ok hrun, _, language.interleaves_splitAtDividers body,
    language.markerFree_splitAtDividers body, hlength, forall₂_of_fill_eq_ok hlength hfill⟩

theorem FillsFrom.length_eq {body : Text} {sections filled : List Section}
    (h : highlighter.FillsFrom language body sections filled) :
    filled.length = sections.length := by
  obtain ⟨pieces, _, _, hlength, hfills⟩ := h
  rw [← hfills.length_eq, List.length_zip, hlength, Nat.min_self]

/-- A section that is filled in from a body has the docs of a given one, and no other
characters in its code than tags and the body have. -/
theorem FillsFrom.exists_of_mem {body : Text} {sections filled : List Section}
    (h : highlighter.FillsFrom language body sections filled) {s : Section} (hmem : s ∈ filled) :
    ∃ given ∈ sections, ∃ piece, piece ⊆ body ∧ highlighter.FillsWith (given, piece) s := by
  obtain ⟨pieces, hpieces, _, _, hfills⟩ := h
  obtain ⟨⟨given, piece⟩, hzip, hfilled⟩ := exists_of_forall₂_of_mem hfills.flip hmem
  obtain ⟨hgiven, hpiece⟩ := List.of_mem_zip hzip
  exact ⟨given, hgiven, piece, hpieces.subset piece hpiece, hfilled⟩

theorem FillsFrom.isSome {body : Text} {sections filled : List Section}
    (h : highlighter.FillsFrom language body sections filled) :
    ∀ s ∈ filled, s.docsHtml.isSome ∧ s.codeHtml.isSome := by
  intro s hmem
  obtain ⟨given, _, piece, _, docsHtml, _, hfilled⟩ := h.exists_of_mem hmem
  rw [hfilled]
  exact ⟨rfl, rfl⟩

/-- With nothing that could stop it, the loop gives every section its piece. -/
theorem fillInPlace_eq (hrender : ∀ docs, highlighter.render docs = .ok (render docs))
    {sections : List Section} {pieces : List Text} (hlength : pieces.length = sections.length) :
    highlighter.fillInPlace sections (pieces.map Wrapper.wrap) =
      (.ok (), List.zipWith (Section.withHtml render) sections pieces) := by
  induction sections generalizing pieces with
  | nil => rw [List.length_eq_zero_iff.1 hlength]; rfl
  | cons s sections ih =>
      cases pieces with
      | nil => cases hlength
      | cons piece pieces =>
          rw [List.map_cons, fillInPlace, hrender]
          simp only [ih (Nat.succ.inj hlength)]
          rfl

/-- Whatever the program does, either highlighting fails and no section is changed, or
every section has its docs rendered and its piece of the answer as its code, and the
answer is those pieces with dividers between them. -/
theorem highlight_all_or_nothing (highlighter : Highlighter)
    (hrender : ∀ docs, highlighter.render docs = .ok (render docs)) (disk : Disk)
    (language : Language) (sections : List Section) :
    let result := (highlighter.highlight disk language sections).result
    let left := (highlighter.highlightInPlace disk language sections).2
    (∃ failure, result = .error failure ∧ left = sections) ∨
      ∃ body pieces,
        highlighter.GivesBody disk language
          (List.intercalate language.dividerText (sections.map (·.code))) body ∧
        language.Interleaves pieces body ∧
        (∀ piece ∈ pieces, language.MarkerFree piece) ∧
        pieces.length = sections.length ∧
        result = .ok left ∧
        left = List.zipWith (Section.withHtml render) sections pieces := by
  intro result left
  cases hcode : (highlighter.highlightCode disk language (sections.map (·.code))).result with
  | error failure =>
      refine Or.inl ⟨failure, ?_, ?_⟩
      · exact bind_eq_error.2 (Or.inl hcode)
      · simp only [left, highlightInPlace, hcode]
  | ok blocks =>
      obtain ⟨body, hbody, hlength, hblocks⟩ := highlightCode_eq_ok hcode
      rw [List.length_map] at hlength
      have hfill := fillInPlace_eq hrender hlength
      rw [← hblocks] at hfill
      have hleft : left =
          List.zipWith (Section.withHtml render) sections (language.splitAtDividers body) := by
        simp only [left, highlightInPlace, hcode, hfill]
      refine Or.inr ⟨body, _, hbody, language.interleaves_splitAtDividers body,
        language.markerFree_splitAtDividers body, hlength, ?_, hleft⟩
      refine bind_eq_ok.2 ⟨blocks, hcode, ?_⟩
      rw [fill, hfill, hleft]
      rfl

theorem highlight_all_or_nothing_lines :
    let source := "# a\nb\n# c\nd <\n".toList
    let sections := Section.ofSource firstStandard source
    let left := (ofLines.highlightInPlace {} firstStandard sections).2
    ∃ body pieces,
      ofLines.GivesBody {} firstStandard
        (List.intercalate firstStandard.dividerText (sections.map (·.code))) body ∧
      firstStandard.Interleaves pieces body ∧
      (∀ piece ∈ pieces, firstStandard.MarkerFree piece) ∧
      pieces.length = sections.length ∧
      (ofLines.highlight {} firstStandard sections).result = .ok left ∧
      left = List.zipWith (Section.withHtml id) sections pieces := by
  intro source sections left
  rcases highlight_all_or_nothing ofLines (fun _ => rfl) {} firstStandard sections with
    ⟨failure, herror, _⟩ | hall
  · obtain ⟨filled, hok⟩ := exists_highlight_ofLines_eq_ok {} source
    rw [hok] at herror
    cases herror
  · exact hall

/-- A rendering that fails leaves the sections before it changed. -/
example :
    let failing : Highlighter := { ofLines with
      render := fun docs => if docs = [] then .error (.unknownEncoding []) else .ok docs }
    failing.fillInPlace [{ docs := ['a'] }, {}] [['b'], ['c']] =
      (.error (.unknownEncoding []),
        [{ docs := ['a'], docsHtml := some ['a'], codeHtml := some ['b'] },
          { codeHtml := some ['c'] }]) := rfl

end Highlighter
end Marginalia

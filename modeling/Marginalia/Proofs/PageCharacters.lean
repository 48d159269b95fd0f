import Marginalia.Page.Basic
import Marginalia.Proofs.HtmlText
import Marginalia.Proofs.LiteratePrinting
import Marginalia.Proofs.PageLinks
import Marginalia.Proofs.PathCharacters

/-!
# The characters of a page

All that a page has of its own is ASCII, and so is what escaping and numbering put in.
Every other character comes from outside: from a name or a path of the run, or with the
HTML of a section. So a property that no ASCII character has, such as to stand for a byte
of a name, or to be a replacement character, is not found on a page if it is in none of
these.
-/

namespace Marginalia

open Marginalia.Text (Lacks)

/-- Whether all characters of a text are ASCII. -/
def Text.isAscii (text : Text) : Bool :=
  text.all fun c => c.toNat < 128

/-- A property that no ASCII character has. -/
def BeyondAscii (p : Char → Bool) : Prop :=
  ∀ c : Char, c.toNat < 128 → p c = false

namespace BeyondAscii

variable {p : Char → Bool}

theorem lacks (h : BeyondAscii p) {text : Text} (htext : text.isAscii = true) : Lacks p text :=
  fun c hmem => h c (of_decide_eq_true (List.all_eq_true.1 htext c hmem))

theorem countP_eq_zero (h : BeyondAscii p) {text : Text} (htext : text.isAscii = true) :
    text.countP p = 0 :=
  List.countP_eq_zero.2 fun c hmem => Bool.eq_false_iff.1 (h.lacks htext c hmem)

theorem lacks_of_countP_le {text given : Text} (hle : text.countP p ≤ given.countP p)
    (hgiven : Lacks p given) : Lacks p text := by
  rw [List.countP_eq_zero.2 fun c hmem => Bool.eq_false_iff.1 (hgiven c hmem), Nat.le_zero,
    List.countP_eq_zero] at hle
  exact fun c hmem => Bool.eq_false_iff.2 (hle c hmem)

theorem countP_escape_le (h : BeyondAscii p) (quotes : Html.Quotes) (text : Text) :
    (Html.escape quotes text).countP p ≤ text.countP p := by
  have hentities : ∀ entity ∈ Html.entities, entity.isAscii = true := by decide
  induction text with
  | nil => exact Nat.le_refl _
  | cons c text ih =>
      rw [Html.escape_cons, List.countP_append, ← List.singleton_append, List.countP_append]
      refine Nat.add_le_add ?_ ih
      rcases Html.escapeChar_cases quotes c with ⟨heq, _⟩ | hentity
      · rw [heq]
      · rw [h.countP_eq_zero (hentities _ hentity)]
        exact Nat.zero_le _

theorem lacks_escape (h : BeyondAscii p) {text : Text} (htext : Lacks p text) :
    Lacks p (Page.escape text) :=
  lacks_of_countP_le (h.countP_escape_le .numbered text) htext

theorem lacks_ofNat (h : BeyondAscii p) (n : Nat) : Lacks p (Text.ofNat n) := by
  intro c hmem
  have hdigit := Nat.isDigit_of_mem_toDigits (by decide) (by decide) hmem
  have hle : c.toNat ≤ '9'.toNat := (Bool.and_eq_true_iff.1 hdigit).2 |> of_decide_eq_true
  exact h c (Nat.lt_of_le_of_lt hle (by decide))

theorem ignores (h : BeyondAscii p) : Path.Ignores p :=
  h.lacks (by decide)

theorem lacks_relative (h : BeyondAscii p) {cwd path start : Text} (hcwd : Lacks p cwd)
    (hpath : Lacks p path) : Lacks p (Path.relative cwd path start) := by
  have hsteps : ∀ step ∈ Path.relativeComponents cwd path start, Lacks p step := by
    intro step hmem
    rcases List.mem_append.1 hmem with hup | hdown
    · obtain ⟨_, _, rfl⟩ := List.mem_map.1 hup
      exact h.lacks (by decide)
    · obtain ⟨_, _, hpath'⟩ := Path.exists_dropCommon_eq
        (Path.components (Path.join cwd start)) (Path.components (Path.join cwd path))
      refine Path.lacks_of_mem_components (h.ignores.join hcwd hpath) ?_
      rw [hpath']
      exact List.mem_append_right _ hdown
  rw [Path.relative]
  split
  · exact h.lacks (by decide)
  · exact Text.Lacks.intercalate (h.lacks (by decide)) hsteps

/-! ## Pages -/

theorem lacks_stylesheetLink (h : BeyondAscii p) (page : Page) : Lacks p page.stylesheetLink := by
  refine Text.Lacks.append (fun c hmem => ?_) (h.lacks (by decide))
  obtain ⟨step, hstep, hc⟩ := List.mem_flatten.1 hmem
  rw [List.eq_of_mem_replicate hstep] at hc
  exact h.lacks (by decide) c hc

theorem lacks_menuHtml (h : BeyondAscii p) {menu : List (Text × Text)}
    (hmenu : ∀ entry ∈ menu, Lacks p entry.1 ∧ Lacks p entry.2) : Lacks p (Page.menuHtml menu) := by
  have hentries : Lacks p (menu.flatMap fun entry => Page.menuEntry entry.1 entry.2) := by
    intro c hmem
    obtain ⟨entry, hentry, hc⟩ := List.mem_flatMap.1 hmem
    obtain ⟨hlink, hname⟩ := hmenu entry hentry
    refine ((((Text.Lacks.append ?_ ?_).append ?_).append ?_).append ?_) c hc
    · exact h.lacks (by decide)
    · exact h.lacks_escape hlink
    · exact h.lacks (by decide)
    · exact h.lacks_escape hname
    · exact h.lacks (by decide)
  rw [Page.menuHtml]
  split
  · refine ((((h.lacks ?_).append (h.lacks ?_)).append (h.lacks ?_)).append hentries).append
      (h.lacks ?_)
    all_goals decide +kernel
  · exact h.lacks rfl

theorem lacks_sectionRows (h : BeyondAscii p) {sections : List Section}
    (hsections : ∀ s ∈ sections, Lacks p (s.docsHtml.getD []) ∧ Lacks p (s.codeHtml.getD []))
    (number : Nat) : Lacks p (Page.sectionRows number sections) := by
  induction sections generalizing number with
  | nil => exact h.lacks rfl
  | cons s sections ih =>
      obtain ⟨hdocs, hcode⟩ := hsections s (List.mem_cons_self ..)
      have hanchor : Lacks p ("section-".toList ++ Text.ofNat number) :=
        (h.lacks (by decide)).append (h.lacks_ofNat number)
      refine Text.Lacks.append ?_ (ih (fun t hmem => hsections t (List.mem_cons_of_mem _ hmem)) _)
      delta Page.sectionRow
      refine ((((((((Text.Lacks.append ?_ hanchor).append ?_).append ?_).append hanchor).append
        ?_).append hdocs).append ?_).append hcode).append ?_
      all_goals exact h.lacks (by decide +kernel)

theorem lacks_head (h : BeyondAscii p) {page : Page} (htitle : Lacks p page.title) :
    Lacks p page.head := by
  delta Page.head
  refine (((((h.lacks ?_).append (h.lacks_escape htitle)).append (h.lacks ?_)).append
    (h.lacks ?_)).append (h.lacks_stylesheetLink page)).append (h.lacks ?_)
  all_goals decide +kernel

theorem lacks_tableHead (h : BeyondAscii p) {page : Page} (htitle : Lacks p page.title) :
    Lacks p page.tableHead := by
  delta Page.tableHead
  refine ((((h.lacks ?_).append (h.lacks ?_)).append (h.lacks_escape htitle)).append
    (h.lacks ?_)).append (h.lacks ?_)
  all_goals decide +kernel

/-- What no name, link or section of a page has, the page does not have. -/
theorem lacks_render (h : BeyondAscii p) {page : Page} (htitle : Lacks p page.title)
    (hmenu : ∀ entry ∈ page.menu, Lacks p entry.1 ∧ Lacks p entry.2)
    (hsections : ∀ s ∈ page.sections, Lacks p (s.docsHtml.getD []) ∧ Lacks p (s.codeHtml.getD [])) :
    Lacks p page.render := by
  have hfoot : Page.foot.isAscii = true := by decide +kernel
  rw [Page.render]
  exact ((((h.lacks_head htitle).append (h.lacks_menuHtml hmenu)).append
    (h.lacks_tableHead htitle)).append (h.lacks_sectionRows hsections 1)).append (h.lacks hfoot)

/-- A page of a run shows its names and paths, and the HTML of its sections. -/
theorem lacks_ofSource (h : BeyondAscii p) {layout : Layout} {cwd source : Text}
    {sections : List Section} {sources : List Text} (hcwd : Lacks p cwd)
    (houtput : Lacks p layout.outputDir) (hsource : Lacks p source)
    (hsources : ∀ other ∈ sources, Lacks p other)
    (hsections : ∀ s ∈ sections, Lacks p (s.docsHtml.getD []) ∧ Lacks p (s.codeHtml.getD [])) :
    Lacks p (Page.ofSource layout cwd source sections sources).render := by
  have htitle : Lacks p (Page.ofSource layout cwd source sections sources).title :=
    hsource.of_subset (Path.name_subset source)
  refine h.lacks_render htitle (fun entry hmem => ?_) hsections
  obtain ⟨other, hother, rfl⟩ := List.mem_map.1 hmem
  constructor
  · dsimp only
    exact h.lacks_relative hcwd (Layout.lacks_pagePath h.ignores houtput (hsources other hother))
  · exact (hsources other hother).of_subset (Path.name_subset other)

end BeyondAscii

/-! ## Sections -/

namespace Section

theorem subset_of_mem_splitLines {source line : Text} (h : line ∈ splitLines source) :
    line ⊆ source := fun _ hc =>
  (Text.foldCrLf_sublist source).subset
    (Text.subset_of_mem_splitOn ((splitLines_sublist source).subset h) hc)

theorem mem_docs_ofLines {language : Language} {lines : List Text} {s : Section} {c : Char}
    (hs : s ∈ ofLines language lines) (h : c ∈ s.docs) : c = '\n' ∨ ∃ line ∈ lines, c ∈ line := by
  induction lines generalizing s with
  | nil =>
      rw [ofLines_nil, List.mem_singleton] at hs
      rw [hs] at h
      cases h
  | cons line lines ih =>
      have hrest : ∀ t ∈ ofLines language lines, c ∈ t.docs →
          c = '\n' ∨ ∃ other ∈ line :: lines, c ∈ other := fun t ht hc =>
        (ih ht hc).imp_right fun ⟨other, hother, hc⟩ => ⟨other, List.mem_cons_of_mem _ hother, hc⟩
      rw [ofLines_cons, addLine] at hs
      generalize ofLines language lines = sections at hs hrest
      split at hs
      · -- a comment goes into the docs of the first section
        have hline : c ∈ language.stripComment line → ∃ other ∈ line :: lines, c ∈ other :=
          fun hc => ⟨line, List.mem_cons_self .., language.stripComment_subset line hc⟩
        cases sections with
        | nil =>
            rw [addDocs, List.mem_singleton] at hs
            rw [hs] at h
            exact (List.mem_append.1 h).symm.imp List.mem_singleton.1 hline
        | cons first rest =>
            rcases List.mem_cons.1 hs with rfl | hmem
            · rcases List.mem_append.1 h with hc | hc
              · exact Or.inr (hline hc)
              · rcases List.mem_cons.1 hc with hnewline | hc
                · exact Or.inl hnewline
                · exact hrest first (List.mem_cons_self ..) hc
            · exact hrest s (List.mem_cons_of_mem _ hmem) h
      · cases sections with
        | nil =>
            rw [addCode, List.mem_singleton] at hs
            rw [hs] at h
            cases h
        | cons first rest =>
            rw [addCode] at hs
            split at hs
            · rcases List.mem_cons.1 hs with rfl | hmem
              · exact hrest first (List.mem_cons_self ..) h
              · exact hrest s (List.mem_cons_of_mem _ hmem) h
            · rcases List.mem_cons.1 hs with rfl | hmem
              · cases h
              · exact hrest s hmem h

/-- The docs of a source have no other characters than the source. -/
theorem mem_docs_ofSource {language : Language} {source : Text} {s : Section} {c : Char}
    (hs : s ∈ ofSource language source) (h : c ∈ s.docs) : c = '\n' ∨ c ∈ source :=
  (mem_docs_ofLines hs h).imp_right fun ⟨_, hline, hc⟩ => subset_of_mem_splitLines hline hc

end Section
end Marginalia

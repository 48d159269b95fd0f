import Marginalia.Proofs.MenuReading

/-!
# Rows of a page

The HTML of sections goes into a page as it is. So it cannot be found again by looking for
tags, as names can: docs may hold a table of their own. What can be said is where it stands.
`ShowsRows` spells out the rows, and `Shows` says what else there is on a page: its title,
the links of its menu, and the one place where the rows begin and end.

A section that was highlighted has both its docs and its code as HTML, and only of such
sections the rows say anything.
-/

namespace Marginalia.Page

/-- Rows of a table show sections, which are numbered from `number`. -/
inductive ShowsRows : Nat → List Section → Text → Prop where
  | nil (number : Nat) : ShowsRows number [] []
  | cons {number : Nat} {s : Section} {sections : List Section} {docsHtml codeHtml rows : Text}
      (hdocs : s.docsHtml = some docsHtml) (hcode : s.codeHtml = some codeHtml)
      (hrows : ShowsRows (number + 1) sections rows) :
      ShowsRows number (s :: sections)
        ("\n        <tr id=\"section-".toList ++ Text.ofNat number ++
          "\">\n          <td class=\"docs\">\n            <div class=\"pilwrap\">\n".toList ++
          "              <a class=\"pilcrow\" href=\"#section-".toList ++ Text.ofNat number ++
          "\">&#182;</a>\n            </div>\n            ".toList ++ docsHtml ++
          "\n          </td>\n          <td class=\"code\">\n            ".toList ++ codeHtml ++
          "\n          </td>\n        </tr>".toList ++ rows)

/-- What a page of a source shows: the name of the source as its title, a menu with the
names and the pages of all sources if there are several, and at least one section, each in a
row of its own. The rows are all that stands between the first opening of the table's body
and what closes the page. -/
structure Shows (layout : Layout) (cwd source : Text) (sections : List Section)
    (sources : List Text) (html : Text) : Prop where
  title : (Text.between? titleOpening titleClosing html).map Html.unescape =
    some (Path.name source)
  menu : ∃ above below, Text.cutAt? tableOpening html = some (above, below) ∧
    List.Forall₂ (fun text other => ∃ link,
        relativeLink? cwd (layout.pagePath other) (layout.pagePath source) = some link ∧
        readLink? text = some (link, Path.name other))
      (Text.behindEach linkOpening above) (if 2 ≤ sources.length then sources else [])
  rows : ∃ above rows, ShowsRows 1 sections rows ∧ rows ≠ [] ∧
    Text.cutAt? rowsOpening html = some (above,
      rows ++ "\n      </tbody>\n    </table>\n  </div>\n</body>\n</html>\n".toList)

theorem sectionRow_eq {s : Section} {docsHtml codeHtml : Text} (hdocs : s.docsHtml = some docsHtml)
    (hcode : s.codeHtml = some codeHtml) (number : Nat) :
    sectionRow number s =
      "\n        <tr id=\"section-".toList ++ Text.ofNat number ++
        "\">\n          <td class=\"docs\">\n            <div class=\"pilwrap\">\n".toList ++
        "              <a class=\"pilcrow\" href=\"#section-".toList ++ Text.ofNat number ++
        "\">&#182;</a>\n            </div>\n            ".toList ++ docsHtml ++
        "\n          </td>\n          <td class=\"code\">\n            ".toList ++ codeHtml ++
        "\n          </td>\n        </tr>".toList := by
  have hanchor : "\n        <tr id=\"section-".toList =
      "\n        <tr id=\"".toList ++ "section-".toList := by decide
  have hlink : "              <a class=\"pilcrow\" href=\"#section-".toList =
      "              <a class=\"pilcrow\" href=\"#".toList ++ "section-".toList := by decide
  have hcell :
      "\">\n          <td class=\"docs\">\n            <div class=\"pilwrap\">\n".toList =
        "\">\n          <td class=\"docs\">\n".toList ++
          "            <div class=\"pilwrap\">\n".toList := by decide +kernel
  have hpilcrow :
      "            <div class=\"pilwrap\">\n              <a class=\"pilcrow\" href=\"#".toList =
        "            <div class=\"pilwrap\">\n".toList ++
          "              <a class=\"pilcrow\" href=\"#".toList := by decide +kernel
  delta sectionRow
  rw [hdocs, hcode, hanchor, hlink, hcell, hpilcrow]
  simp only [Option.getD_some, List.append_assoc]

theorem showsRows_sectionRows {sections : List Section}
    (hfilled : ∀ s ∈ sections, s.docsHtml.isSome ∧ s.codeHtml.isSome) (number : Nat) :
    ShowsRows number sections (sectionRows number sections) := by
  induction sections generalizing number with
  | nil => exact .nil number
  | cons s sections ih =>
      obtain ⟨hdocs, hcode⟩ := hfilled s (List.mem_cons_self ..)
      obtain ⟨docsHtml, hdocs⟩ := Option.isSome_iff_exists.1 hdocs
      obtain ⟨codeHtml, hcode⟩ := Option.isSome_iff_exists.1 hcode
      have hrows := ih (fun t hmem => hfilled t (List.mem_cons_of_mem _ hmem)) (number + 1)
      rw [sectionRows, sectionRow_eq hdocs hcode]
      exact .cons hdocs hcode hrows

theorem ShowsRows.ne_nil {number : Nat} {sections : List Section} {rows : Text}
    (h : ShowsRows number sections rows) (hne : sections ≠ []) : rows ≠ [] := by
  cases h with
  | nil => exact absurd rfl hne
  | cons hdocs hcode hrows =>
      simp only [List.append_assoc]
      exact List.append_ne_nil_of_left_ne_nil (by decide) _

/-- The body of the table opens once before the rows, and the names above cannot open it. -/
theorem exists_cutAt?_rowsOpening (page : Page) :
    ∃ above, Text.cutAt? rowsOpening page.render =
      some (above, sectionRows 1 page.sections ++ foot) := by
  have hmark : rowsOpening ∈ [tableOpening, rowsOpening] := by decide
  have hopening : "        </tr>\n      </thead>\n      <tbody>".toList =
      "        </tr>\n      </thead>\n      ".toList ++ rowsOpening := by decide +kernel
  obtain ⟨above, htable, habove⟩ : ∃ above, page.tableHead = above ++ rowsOpening ∧
      Text.FreeOf rowsOpening above := by
    delta tableHead
    rw [hopening, ← List.append_assoc]
    refine ⟨_, rfl, (((Text.FreeOf.append ?_ ?_).append ?_).append ?_).append ?_⟩
    · decide +kernel
    · decide +kernel
    · exact (isQuiet_escape page.title).table hmark
    · decide +kernel
    · decide +kernel
  have hfree := ((page.isQuiet_head.table hmark).append (freeOf_menuHtml hmark page.menu)).append
    habove
  have hrender : page.render = (page.head ++ menuHtml page.menu ++ above) ++
      (rowsOpening ++ (sectionRows 1 page.sections ++ foot)) := by
    simp only [render, htable, List.append_assoc]
  rw [hrender]
  exact ⟨_, Text.cutAt?_append hfree _⟩

/-- A page of sections that are all highlighted shows them. -/
theorem shows_render (layout : Layout) (cwd source : Text) {sections : List Section}
    (sources : List Text) (hne : sections ≠ [])
    (hfilled : ∀ s ∈ sections, s.docsHtml.isSome ∧ s.codeHtml.isSome) :
    Shows layout cwd source sections sources
      (Page.ofSource layout cwd source sections sources).render where
  title := title_render layout cwd source sections sources
  menu := menu_render layout cwd source sections sources
  rows := by
    obtain ⟨above, hcut⟩ :=
      (Page.ofSource layout cwd source sections sources).exists_cutAt?_rowsOpening
    have hrows := showsRows_sectionRows hfilled 1
    exact ⟨above, _, hrows, hrows.ne_nil hne, hcut⟩

end Marginalia.Page

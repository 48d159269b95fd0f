import Marginalia.Page.Basic
import Marginalia.Proofs.HtmlText
import Marginalia.Proofs.PathNames
import Marginalia.Proofs.TextSearch
import Mathlib.Data.List.Forall2

/-!
# Names on a page

The names of sources, which may hold any characters, come into a page in three places: the
title, and the address and the text of each link of the menu. All of them are escaped, and
then they hold neither an angle bracket nor a double quote. So whoever looks for a tag
finds only those that the page itself writes, and reading up to the next quote or closing
tag gives a whole name.

A page is put together from fixed parts and escaped ones. `IsQuiet` says that in a part
neither the table nor its body nor a link of the menu begins, whatever follows, so it is
checked on one part at a time. The only parts where it fails are the openings themselves.
-/

namespace Marginalia

namespace Text

/-- The text between the first opening mark and the closing mark that comes next. -/
def between? (opening closing text : Text) : Option Text := do
  let (_, rest) ← cutAt? opening text
  let (inside, _) ← cutAt? closing rest
  some inside

theorem between?_append {opening closing front inside : Text} (hfront : FreeOf opening front)
    (hinside : FreeOf closing inside) (rest : Text) :
    between? opening closing (front ++ (opening ++ (inside ++ (closing ++ rest)))) =
      some inside := by
  simp only [between?, Option.bind_eq_bind, Option.bind_some, cutAt?_append hfront,
    cutAt?_append hinside]

end Text

open Text (FreeOf cutAt? behindEach between?)

namespace Page

/-! ## Tags

The marks that a reader of a page looks for.
-/

def titleOpening : Text := "<title>".toList

def titleClosing : Text := "</title>".toList

def tableOpening : Text := "<table".toList

def rowsOpening : Text := "<tbody>".toList

def linkOpening : Text := "<a class=\"source\"".toList

def linkClosing : Text := "</a>".toList

/-- The address and the text of a link, from what stands behind its class. -/
def readLink? (text : Text) : Option (Text × Text) := do
  let rest ← Text.dropStart? " href=\"".toList text
  let (address, rest) ← cutAt? ['"'] rest
  let rest ← Text.dropStart? ['>'] rest
  let (name, _) ← cutAt? linkClosing rest
  some (Html.unescape address, Html.unescape name)

/-! ## Escaped parts -/

/-- No tag begins in an escaped text. -/
theorem freeOf_escape {mark : Text} (hmark : mark.head? = some '<') (text : Text) :
    FreeOf mark (escape text) := by
  obtain ⟨mark, rfl⟩ := List.head?_eq_some_iff.1 hmark
  exact Text.freeOf_of_not_mem (Html.angle_not_mem_escape .numbered text) mark

theorem angle_not_mem_stylesheetLink (page : Page) : '<' ∉ page.stylesheetLink := by
  intro hmem
  rcases List.mem_append.1 hmem with hsteps | hname
  · obtain ⟨step, hstep, hmem⟩ := List.mem_flatten.1 hsteps
    rw [List.eq_of_mem_replicate hstep] at hmem
    exact absurd hmem (by decide)
  · exact absurd hname (by decide)

/-! ## Where nothing begins -/

/-- None of the tags that are looked for begins in a text. -/
def IsQuiet (text : Text) : Prop :=
  ∀ mark ∈ [tableOpening, rowsOpening, linkOpening], FreeOf mark text

instance decidableIsQuiet (text : Text) : Decidable (IsQuiet text) :=
  inferInstanceAs (Decidable (∀ mark ∈ _, _))

theorem IsQuiet.link {text : Text} (h : IsQuiet text) : FreeOf linkOpening text :=
  h linkOpening (by decide)

/-- The tags that belong to the table, which no entry of the menu holds. -/
theorem IsQuiet.table {text mark : Text} (h : IsQuiet text)
    (hmark : mark ∈ [tableOpening, rowsOpening]) : FreeOf mark text :=
  h mark (List.mem_append_left [linkOpening] hmark)

theorem IsQuiet.append {text other : Text} (htext : IsQuiet text) (hother : IsQuiet other) :
    IsQuiet (text ++ other) :=
  fun mark hmark => (htext mark hmark).append (hother mark hmark)

theorem isQuiet_of_not_mem {text : Text} (h : '<' ∉ text) : IsQuiet text := by
  have hangle : ∀ mark ∈ [tableOpening, rowsOpening, linkOpening], mark.head? = some '<' := by
    decide
  intro mark hmark
  obtain ⟨rest, rfl⟩ := List.head?_eq_some_iff.1 (hangle mark hmark)
  exact Text.freeOf_of_not_mem h rest

theorem isQuiet_escape (text : Text) : IsQuiet (escape text) :=
  isQuiet_of_not_mem (Html.angle_not_mem_escape .numbered text)

theorem isQuiet_head (page : Page) : IsQuiet page.head := by
  delta head
  refine (((((IsQuiet.append ?_ ?_).append ?_).append ?_).append ?_).append ?_)
  · decide +kernel
  · exact isQuiet_escape page.title
  · decide +kernel
  · decide +kernel
  · exact isQuiet_of_not_mem (angle_not_mem_stylesheetLink page)
  · decide +kernel

/-! ## Links -/

/-- What stands behind the class of a link. -/
def linkRest (link name : Text) : Text :=
  " href=\"".toList ++ (escape link ++ (['"'] ++ (['>'] ++ (escape name ++ linkClosing))))

theorem menuEntry_eq (link name : Text) :
    menuEntry link name = "\n          ".toList ++ (linkOpening ++ linkRest link name) := by
  have hopening : "\n          <a class=\"source\" href=\"".toList =
      "\n          ".toList ++ (linkOpening ++ " href=\"".toList) := by decide
  have hmiddle : "\">".toList = ['"'] ++ ['>'] := by decide
  delta menuEntry linkRest linkClosing
  rw [hopening, hmiddle]
  simp only [List.append_assoc]

theorem isQuiet_linkRest (link name : Text) : IsQuiet (linkRest link name) := by
  have hclosing : IsQuiet linkClosing := by decide
  have hquote : IsQuiet ['"'] := by decide
  have hangle : IsQuiet ['>'] := by decide
  have hname := (isQuiet_escape name).append hclosing
  exact IsQuiet.append (by decide)
    ((isQuiet_escape link).append (hquote.append (hangle.append hname)))

theorem linkRest_append (link name rest : Text) :
    linkRest link name ++ rest = " href=\"".toList ++ (escape link ++ (['"'] ++
      (['>'] ++ (escape name ++ (linkClosing ++ rest))))) := by
  delta linkRest
  simp only [List.append_assoc]

theorem readLink?_linkRest (link name rest : Text) :
    readLink? (linkRest link name ++ rest) = some (link, name) := by
  have hlink : FreeOf ['"'] (escape link) :=
    Text.freeOf_of_not_mem (Html.quote_not_mem_escape link) []
  have hname : FreeOf linkClosing (escape name) := freeOf_escape (by decide) name
  rw [linkRest_append, readLink?]
  simp only [Text.dropStart?_append, Text.cutAt?_append hlink, Text.cutAt?_append hname,
    Option.bind_eq_bind, Option.bind_some]
  rw [escape, escape, Html.unescape_escape, Html.unescape_escape]

theorem freeOf_menuEntry {mark : Text} (hmark : mark ∈ [tableOpening, rowsOpening])
    (link name : Text) : FreeOf mark (menuEntry link name) := by
  have hopening : ∀ mark ∈ [tableOpening, rowsOpening],
      FreeOf mark "\n          ".toList ∧ FreeOf mark linkOpening := by decide
  obtain ⟨hblank, hlink⟩ := hopening mark hmark
  rw [menuEntry_eq]
  exact hblank.append (hlink.append ((isQuiet_linkRest link name).table hmark))

/-! ## The menu -/

/-- The entries of the menu in a row. -/
def menuEntries (menu : List (Text × Text)) : Text :=
  menu.flatMap fun (link, name) => menuEntry link name

theorem menuEntries_cons (link name : Text) (menu : List (Text × Text)) :
    menuEntries ((link, name) :: menu) = menuEntry link name ++ menuEntries menu :=
  rfl

/-- Behind each place where a link begins there is the next entry of the menu. -/
theorem forall₂_behindEach_menuEntries (menu : List (Text × Text)) {rest : Text}
    (hrest : FreeOf linkOpening rest) :
    List.Forall₂ (fun text entry => readLink? text = some entry)
      (behindEach linkOpening (menuEntries menu ++ rest)) menu := by
  have hopening : linkOpening = '<' :: "a class=\"source\"".toList := by decide
  have hinner : '<' ∉ "a class=\"source\"".toList := by decide
  have hblank : FreeOf linkOpening "\n          ".toList := by decide
  induction menu with
  | nil =>
      have hnone : behindEach linkOpening rest = [] :=
        Text.behindEach_of_freeOf (by decide) hrest
      rw [menuEntries, List.flatMap_nil, List.nil_append, hnone]
      exact .nil
  | cons entry menu ih =>
      obtain ⟨link, name⟩ := entry
      -- One link is found where the entry has it, and none in its address and name.
      have hfound := Text.behindEach_mark_append hinner
        (linkRest link name ++ (menuEntries menu ++ rest))
      rw [← hopening, Text.behindEach_append (isQuiet_linkRest link name).link] at hfound
      rw [menuEntries_cons, menuEntry_eq, List.append_assoc, List.append_assoc, List.append_assoc,
        Text.behindEach_append hblank, hfound]
      exact .cons (readLink?_linkRest link name _) ih

/-- A menu is its entries between two fixed parts. -/
theorem exists_menuHtml_eq {menu : List (Text × Text)} (h : 1 < menu.length) :
    ∃ front back, IsQuiet front ∧ IsQuiet back ∧
      menuHtml menu = front ++ (menuEntries menu ++ back) := by
  delta menuHtml menuEntries
  rw [if_pos h, List.append_assoc]
  refine ⟨_, _, (IsQuiet.append ?_ ?_).append ?_, ?_, rfl⟩ <;> decide +kernel

theorem freeOf_menuHtml {mark : Text} (hmark : mark ∈ [tableOpening, rowsOpening])
    (menu : List (Text × Text)) : FreeOf mark (menuHtml menu) := by
  by_cases h : 1 < menu.length
  · obtain ⟨front, back, hfront, hback, heq⟩ := exists_menuHtml_eq h
    have hentries : FreeOf mark (menuEntries menu) :=
      .flatMap fun entry _ => freeOf_menuEntry hmark entry.1 entry.2
    rw [heq]
    exact (hfront.table hmark).append (hentries.append (hback.table hmark))
  · have hnone : menuHtml menu = [] := if_neg h
    rw [hnone]
    exact Text.freeOf_nil _

theorem forall₂_behindEach_menuHtml (menu : List (Text × Text)) {rest : Text}
    (hrest : FreeOf linkOpening rest) :
    List.Forall₂ (fun text entry => readLink? text = some entry)
      (behindEach linkOpening (menuHtml menu ++ rest)) (if 2 ≤ menu.length then menu else []) := by
  by_cases h : 2 ≤ menu.length
  · obtain ⟨front, back, hfront, hback, heq⟩ := exists_menuHtml_eq h
    rw [if_pos h, heq, List.append_assoc, List.append_assoc, Text.behindEach_append hfront.link]
    exact forall₂_behindEach_menuEntries menu (hback.link.append hrest)
  · have hnone : menuHtml menu = [] := if_neg h
    rw [if_neg h, hnone]
    exact forall₂_behindEach_menuEntries [] hrest

/-! ## The page -/

theorem between?_head (page : Page) (rest : Text) :
    between? titleOpening titleClosing (page.head ++ rest) = some (escape page.title) := by
  have hopening : "<!DOCTYPE html>\n<html>\n<head>\n  <title>".toList =
      "<!DOCTYPE html>\n<html>\n<head>\n  ".toList ++ titleOpening := by decide +kernel
  have hclosing :
      "</title>\n  <meta http-equiv=\"content-type\" content=\"text/html; charset=UTF-8\">\n".toList =
      titleClosing ++
        "\n  <meta http-equiv=\"content-type\" content=\"text/html; charset=UTF-8\">\n".toList := by
    decide +kernel
  have hfront : FreeOf titleOpening "<!DOCTYPE html>\n<html>\n<head>\n  ".toList := by
    decide +kernel
  have htitle : FreeOf titleClosing (escape page.title) := freeOf_escape (by decide) page.title
  delta head
  rw [hopening, hclosing]
  simp only [List.append_assoc]
  exact Text.between?_append hfront htitle _

theorem exists_tableHead_eq (page : Page) :
    ∃ rest, page.tableHead = "\n    ".toList ++ (tableOpening ++ rest) := by
  have hopening :
      "\n    <table cellpadding=\"0\" cellspacing=\"0\">\n      <thead>\n        <tr>\n".toList =
      "\n    ".toList ++ (tableOpening ++
        " cellpadding=\"0\" cellspacing=\"0\">\n      <thead>\n        <tr>\n".toList) := by
    decide +kernel
  delta tableHead
  rw [hopening]
  simp only [List.append_assoc]
  exact ⟨_, rfl⟩

theorem between?_render (page : Page) :
    between? titleOpening titleClosing page.render = some (escape page.title) := by
  simp only [render, List.append_assoc]
  exact page.between?_head _

/-- Before the table there are the links of the menu and no other. -/
theorem exists_cutAt?_render (page : Page) :
    ∃ above below, cutAt? tableOpening page.render = some (above, below) ∧
      List.Forall₂ (fun text entry => readLink? text = some entry)
        (behindEach linkOpening above) (if 2 ≤ page.menu.length then page.menu else []) := by
  have hblank : IsQuiet "\n    ".toList := by decide
  have htable : tableOpening ∈ [tableOpening, rowsOpening] := by decide
  obtain ⟨rest, hhead⟩ := page.exists_tableHead_eq
  -- The table's own tag is the first: the head and the menu are quiet about tables.
  have hrender : page.render = (page.head ++ (menuHtml page.menu ++ "\n    ".toList)) ++
      (tableOpening ++ (rest ++ (sectionRows 1 page.sections ++ foot))) := by
    simp only [render, hhead, List.append_assoc]
  have habove : FreeOf tableOpening (page.head ++ (menuHtml page.menu ++ "\n    ".toList)) :=
    (page.isQuiet_head.table htable).append
      ((freeOf_menuHtml htable page.menu).append (hblank.table htable))
  have hcut := Text.cutAt?_append habove (rest ++ (sectionRows 1 page.sections ++ foot))
  rw [← hrender] at hcut
  refine ⟨_, _, hcut, ?_⟩
  rw [Text.behindEach_append page.isQuiet_head.link]
  exact forall₂_behindEach_menuHtml page.menu hblank.link

end Page

theorem Layout.pagePath_ne_nil (layout : Layout) (source : Text) :
    layout.pagePath source ≠ [] := by
  obtain ⟨front, hjoin, _⟩ := Path.exists_join_eq layout.outputDir
    (Path.withoutExtension (if layout.nested then relativeSource source else Path.name source) ++
      pageEnding)
  have hending : pageEnding ≠ [] := by decide
  rw [Layout.pagePath, hjoin, ← List.append_assoc]
  exact List.append_ne_nil_of_right_ne_nil _ hending

theorem Page.title_render (layout : Layout) (cwd source : Text) (sections : List Section)
    (sources : List Text) :
    (between? titleOpening titleClosing
      (Page.ofSource layout cwd source sections sources).render).map Html.unescape =
        some (Path.name source) := by
  rw [between?_render, Option.map_some, escape, Html.unescape_escape]
  rfl

theorem Page.menu_render (layout : Layout) (cwd source : Text) (sections : List Section)
    (sources : List Text) : ∃ above below,
    cutAt? tableOpening (Page.ofSource layout cwd source sections sources).render =
        some (above, below) ∧
      List.Forall₂ (fun text other => ∃ link,
          relativeLink? cwd (layout.pagePath other) (layout.pagePath source) = some link ∧
          readLink? text = some (link, Path.name other))
        (behindEach linkOpening above) (if 2 ≤ sources.length then sources else []) := by
  obtain ⟨above, below, hcut, hlinks⟩ :=
    (Page.ofSource layout cwd source sections sources).exists_cutAt?_render
  refine ⟨above, below, hcut, ?_⟩
  have hmenu : (if 2 ≤ (Page.ofSource layout cwd source sections sources).menu.length then
      (Page.ofSource layout cwd source sections sources).menu else []) =
      (if 2 ≤ sources.length then sources else []).map fun other =>
        (Path.relative cwd (layout.pagePath other) (Path.directoryOf (layout.pagePath source)),
          Path.name other) := by
    rw [Page.ofSource, List.length_map, apply_ite (List.map _), List.map_nil]
  rw [hmenu, List.forall₂_map_right_iff] at hlinks
  exact hlinks.imp fun text other hread => ⟨_, if_neg (layout.pagePath_ne_nil other), hread⟩

/-- The title of a page reads back as the name of its source. Before the table there is one
link for each source of a run of two or more, and none else. Each reads back as the way to the
page of its source, and the name of the source. -/
theorem Page.names_render (layout : Layout) (cwd source : Text) (sections : List Section)
    (sources : List Text) :
    let html := (Page.ofSource layout cwd source sections sources).render
    (between? titleOpening titleClosing html).map Html.unescape = some (Path.name source) ∧
    ∃ above below, cutAt? tableOpening html = some (above, below) ∧
      List.Forall₂ (fun text other => ∃ link,
          relativeLink? cwd (layout.pagePath other) (layout.pagePath source) = some link ∧
          readLink? text = some (link, Path.name other))
        (behindEach linkOpening above) (if 2 ≤ sources.length then sources else []) :=
  ⟨title_render layout cwd source sections sources, menu_render layout cwd source sections sources⟩

end Marginalia

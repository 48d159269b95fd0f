import Marginalia.Proofs.LineRendering
import Marginalia.Proofs.RegistryRows
import Marginalia.Settings.EnvFile

/-!
# Lists in the settings

A setting that is a list is written with commas, and its items are what stands
between the commas and is not blank. A setting without items should be the
built-in list, and it is if there is no value or a blank one. But blankness is
asked of the whole value before it is cut, and a comma is not blank: a value
of commas and white space only passes and is cut into no items at all.

That is the one exception, and `IsHollow` names it. Every other value gives a
list that has items, all of them trimmed and free of commas, so the list joined
with commas is read as itself again. The exception matters where the list holds
the classes of dividers. The markers of an empty list are those of an empty
list of alternatives, which match an empty class only, and no divider is known
under any class that a highlighter could give it. Under a list with items the
first class always counts, whatever characters are in it: where its marker
starts, no other marker is tried before it.
-/

namespace Marginalia

open Marginalia.Language (isNewline)

namespace Text

/-! ## Trimming -/

theorem trim_eq_nil {text : Text} : trim text = [] ↔ isBlank text = true :=
  dropEndWhile_dropWhile_eq_nil.trans List.all_eq_true.symm

theorem trim_trim (text : Text) : trim (trim text) = trim text :=
  dropEndWhile_dropWhile_idempotent Marginalia.isBlank text

theorem isBlank_trim (text : Text) : isBlank (trim text) = isBlank text := by
  rw [Bool.eq_iff_iff, ← trim_eq_nil, ← trim_eq_nil, trim_trim]

theorem trim_sublist (text : Text) : (trim text).Sublist text :=
  dropEndWhile_dropWhile_sublist Marginalia.isBlank text

end Text

namespace Settings

/-! ## Items -/

/-- What stands between the commas of a value and is not blank, trimmed. -/
def itemsOf : Option Text → List Text
  | none => []
  | some text => ((Text.splitOn ',' text).filter fun item => !Text.isBlank item).map Text.trim

/-- A value has commas in it and otherwise nothing but white space. -/
def IsHollow (value : Option Text) : Prop :=
  ∃ text, value = some text ∧ ',' ∈ text ∧ ∀ c ∈ text, c = ',' ∨ Marginalia.isBlank c = true

/-- A list can be written with commas: it has items, and none of them would be read otherwise. -/
structure IsUsable (list : List Text) : Prop where
  ne_nil : list ≠ []
  items : ∀ item ∈ list, Text.isBlank item = false ∧ Text.trim item = item ∧ ',' ∉ item

theorem itemsOf_eq_nil {text : Text} :
    itemsOf (some text) = [] ↔ ∀ c ∈ text, c = ',' ∨ Marginalia.isBlank c = true := by
  have hpieces : itemsOf (some text) = [] ↔
      ∀ piece ∈ Text.splitOn ',' text, Text.isBlank piece = true := by
    simp [itemsOf]
  rw [hpieces]
  constructor
  · intro h c hmem
    rw [← Text.intercalate_splitOn ',' text] at hmem
    rcases Text.mem_intercalate hmem with hcomma | ⟨piece, hpiece, hc⟩
    · exact Or.inl (List.mem_singleton.1 hcomma)
    · exact Or.inr (List.all_eq_true.1 (h piece hpiece) c hc)
  · intro h piece hpiece
    refine List.all_eq_true.2 fun c hc => ?_
    rcases h c (Text.subset_of_mem_splitOn hpiece hc) with rfl | hblank
    · exact absurd hc (Text.not_mem_of_mem_splitOn hpiece)
    · exact hblank

theorem isUsable_itemsOf {value : Option Text} (h : itemsOf value ≠ []) :
    IsUsable (itemsOf value) := by
  cases value with
  | none => exact absurd rfl h
  | some text =>
      refine ⟨h, fun item hitem => ?_⟩
      obtain ⟨piece, hkept, rfl⟩ := List.mem_map.1 hitem
      obtain ⟨hpiece, hblank⟩ := List.mem_filter.1 hkept
      have hcomma := Text.not_mem_of_mem_splitOn hpiece
      exact ⟨(Text.isBlank_trim piece).trans (by simpa using hblank), Text.trim_trim piece,
        fun hmem => hcomma ((Text.trim_sublist piece).subset hmem)⟩

/-- Trimming first and dropping what is then empty keeps the same items. -/
theorem parseList_some (text : Text) (default : List Text) :
    parseList (some text) default =
      if Text.isBlank text then default else itemsOf (some text) := by
  have hkept : ((fun item => decide (item ≠ [])) ∘ Text.trim) =
      fun item => !Text.isBlank item := by
    funext item
    rw [Function.comp_apply, decide_not, Bool.not_inj_iff, Bool.eq_iff_iff, decide_eq_true_iff]
    exact Text.trim_eq_nil
  rw [parseList, itemsOf, List.filter_map, hkept]

theorem parseList_of_items {value : Option Text} (h : itemsOf value ≠ []) (default : List Text) :
    parseList value default = itemsOf value := by
  cases value with
  | none => exact absurd rfl h
  | some text =>
      rw [parseList_some, if_neg]
      intro hblank
      exact h (itemsOf_eq_nil.2 fun c hmem => Or.inr (List.all_eq_true.1 hblank c hmem))

theorem IsHollow.itemsOf_eq_nil {value : Option Text} (h : IsHollow value) :
    itemsOf value = [] := by
  obtain ⟨text, rfl, _, hall⟩ := h
  exact Settings.itemsOf_eq_nil.2 hall

theorem parseList_of_isHollow {value : Option Text} (h : IsHollow value) (default : List Text) :
    parseList value default = [] := by
  have hitems := h.itemsOf_eq_nil
  obtain ⟨text, rfl, hcomma, _⟩ := h
  rw [parseList_some, hitems, if_neg]
  intro hblank
  exact absurd (List.all_eq_true.1 hblank ',' hcomma) (by decide)

theorem parseList_of_no_items {value : Option Text} (h : itemsOf value = [])
    (hfull : ¬ IsHollow value) (default : List Text) : parseList value default = default := by
  cases value with
  | none => rfl
  | some text =>
      rw [parseList_some, if_pos]
      -- without a comma in the value, nothing but white space is left
      refine List.all_eq_true.2 fun c hmem => ?_
      rcases itemsOf_eq_nil.1 h c hmem with rfl | hblank
      · exact absurd ⟨text, rfl, hmem, itemsOf_eq_nil.1 h⟩ hfull
      · exact hblank

/-- A list that is written with commas is read as itself. -/
theorem IsUsable.parseList_intercalate {list : List Text} (h : IsUsable list)
    (default : List Text) :
    parseList (some (List.intercalate [','] list)) default = list := by
  have hcut : Text.splitOn ',' (List.intercalate [','] list) = list :=
    Text.splitOn_intercalate h.ne_nil fun item hitem => (h.items item hitem).2.2
  have hkept : list.filter (fun item => !Text.isBlank item) = list :=
    List.filter_eq_self.2 fun item hitem => by rw [(h.items item hitem).1]; rfl
  have htrimmed : list.map Text.trim = list :=
    List.map_congr_left (fun item hitem => (h.items item hitem).2.1) |>.trans (List.map_id list)
  have hitems : itemsOf (some (List.intercalate [','] list)) = list := by
    rw [itemsOf, hcut, hkept, htrimmed]
  rw [parseList_of_items (by rw [hitems]; exact h.ne_nil), hitems]

/-- What a setting becomes under a value: its items, or the default if it has none, or
nothing under a hollow value. But for the last it can be used, and can be written again. -/
structure FallsBack (value : Option Text) (default list : List Text) : Prop where
  eq_items : itemsOf value ≠ [] → list = itemsOf value
  eq_default : itemsOf value = [] → ¬ IsHollow value → list = default
  eq_nil : IsHollow value → list = []
  usable : ¬ IsHollow value → IsUsable list
  written : ¬ IsHollow value →
    ∀ other, parseList (some (List.intercalate [','] list)) other = list

theorem fallsBack_parseList {default : List Text} (hdefault : IsUsable default)
    (value : Option Text) : FallsBack value default (parseList value default) := by
  have husable : ¬ IsHollow value → IsUsable (parseList value default) := by
    intro hfull
    by_cases hitems : itemsOf value = []
    · rwa [parseList_of_no_items hitems hfull]
    · rw [parseList_of_items hitems]
      exact isUsable_itemsOf hitems
  exact {
    eq_items := fun hitems => parseList_of_items hitems default
    eq_default := fun hitems hfull => parseList_of_no_items hitems hfull default
    eq_nil := fun hhollow => parseList_of_isHollow hhollow default
    usable := husable
    written := fun hfull => (husable hfull).parseList_intercalate }

end Settings

namespace Language

/-! ## Classes of dividers -/

variable {language : Language} {classes : List Text}

/-- Two parts of an answer, with the divider under a class between them, are told apart. -/
def Recognises (language : Language) (cls : Text) : Prop :=
  ∀ front rest : Text, language.Clear front → language.Clear rest →
    language.splitAtDividers (front ++ (language.marker cls ++ rest)) =
      [Text.dropEndWhile isNewline front, rest.dropWhile isNewline]

/-- The first class is recognised, whatever characters it or the others have. -/
theorem recognises_of_classes_eq {cls : Text} (h : language.classes = cls :: classes) :
    language.Recognises cls := by
  intro front rest hfront hrest
  have hfound : language.afterMarker? (language.marker cls ++ rest) = some rest := by
    rw [afterMarker?, markers, if_neg (by simp [h]), h, List.map_cons, List.findSome?_cons,
      Text.dropStart?_append]
  rw [splitAtDividers, cutAtMarkers_append hfront, cutAtMarkers_of_afterMarker? hfound,
    cutAtMarkers_of_clear hrest, Text.prepend, List.append_nil]
  rfl

theorem not_recognises_of_classes_eq_nil (h : language.classes = []) {cls : Text}
    (hplain : PlainName cls) (hne : cls ≠ []) : ¬ language.Recognises cls := by
  intro hrecognised
  have hknown : language.knownClasses = [[]] := by rw [knownClasses, if_pos h]
  have hfree : language.QuoteFree := quoteFree_of_plain (by simp [h])
  have hclear : language.Clear (language.marker cls) :=
    clear_spanOf hfree (fun hmem => (hplain _ hmem).1 rfl) (fun hmem => (hplain _ hmem).2.2.1 rfl)
      (not_mem_markerText language) fun hmem =>
        absurd (List.mem_singleton.1 (hknown ▸ hmem)) hne
  have hnil : language.Clear [] := clear_of_not_mem List.not_mem_nil
  have hcut := hrecognised [] [] hnil hnil
  rw [List.nil_append, List.append_nil, splitAtDividers_of_clear hclear] at hcut
  exact absurd (congrArg List.length hcut) (by simp)

end Language

namespace Settings

theorem isUsable_standardClasses : IsUsable standardClasses := by
  have hitems : ∀ item ∈ standardClasses,
      Text.isBlank item = false ∧ Text.trim item = item ∧ ',' ∉ item := by decide
  exact ⟨by decide, hitems⟩

theorem isUsable_standardExtensions : IsUsable standardExtensions := by
  have hitems : ∀ item ∈ standardExtensions,
      Text.isBlank item = false ∧ Text.trim item = item ∧ ',' ∉ item := by decide
  exact ⟨by decide, hitems⟩

/-- Both lists of the settings fall back to what is built in, unless their value is hollow.
So a language knows its divider under a class that has a name, and under a hollow value it
knows it under none. -/
theorem load_fallsBack {disk : Disk} (hfile : disk.nearestFile? EnvFile.fileName = none)
    (environment : List (Text × Text)) :
    let classes := Dict.get? "DOCCO_DIVIDER_CLASSES".toList environment
    let extensions := Dict.get? "DOCCO_MARKDOWN_EXTENSIONS".toList environment
    ∃ settings, Settings.load environment disk = .ok settings ∧
      FallsBack classes standardClasses settings.classes ∧
      FallsBack extensions standardExtensions settings.extensions ∧
      ∀ language ∈ (Registry.standard settings.classes).languages,
        (¬ IsHollow classes → ∃ cls ∈ settings.classes, cls ≠ [] ∧ language.Recognises cls) ∧
        (IsHollow classes → ∀ cls, PlainName cls → cls ≠ [] → ¬ language.Recognises cls) := by
  intro classes extensions
  let settings := ofEnvironment (Dict.get? · environment)
  have hload : Settings.load environment disk = .ok settings := by
    rw [Settings.load, EnvFile.load_of_no_file hfile]
    rfl
  have hclasses : FallsBack classes standardClasses settings.classes :=
    fallsBack_parseList isUsable_standardClasses classes
  have hextensions : FallsBack extensions standardExtensions settings.extensions :=
    fallsBack_parseList isUsable_standardExtensions extensions
  refine ⟨settings, hload, hclasses, hextensions, fun language hlanguage => ⟨fun hfull => ?_,
    fun hhollow cls => ?_⟩⟩
  · have husable := hclasses.usable hfull
    obtain ⟨cls, others, heq⟩ := List.exists_cons_of_ne_nil husable.ne_nil
    have hmem : cls ∈ settings.classes := heq ▸ List.mem_cons_self ..
    refine ⟨cls, hmem, ?_, ?_⟩
    · rintro rfl
      exact absurd (husable.items [] hmem).1 (by decide)
    · exact Language.recognises_of_classes_eq
        ((Registry.mem_languages_standard hlanguage).1.trans heq)
  · have hnone : language.classes = [] :=
      (Registry.mem_languages_standard hlanguage).1.trans (hclasses.eq_nil hhollow)
    exact Language.not_recognises_of_classes_eq_nil hnone

theorem load_fallsBack_spaced :
    let environment := [("DOCCO_DIVIDER_CLASSES".toList, "\t, c1 ,\u3000,c p\n".toList)]
    ({} : Disk).nearestFile? EnvFile.fileName = none ∧
      ∃ settings, Settings.load environment {} = .ok settings ∧
        settings.classes = ["c1".toList, "c p".toList] ∧
        settings.extensions = standardExtensions ∧
        ∀ language ∈ (Registry.standard settings.classes).languages,
          ∃ cls ∈ settings.classes, cls ≠ [] ∧ language.Recognises cls := by
  intro environment
  have hfile : ({} : Disk).nearestFile? EnvFile.fileName = none := by cbv
  have hitems : itemsOf (Dict.get? "DOCCO_DIVIDER_CLASSES".toList environment) =
      ["c1".toList, "c p".toList] := by decide
  have hsome : itemsOf (Dict.get? "DOCCO_DIVIDER_CLASSES".toList environment) ≠ [] := by
    rw [hitems]
    exact List.cons_ne_nil _ _
  have habsent : Dict.get? "DOCCO_MARKDOWN_EXTENSIONS".toList environment = none := by decide
  obtain ⟨settings, hload, hclasses, hextensions, hlanguages⟩ := load_fallsBack hfile environment
  refine ⟨hfile, settings, hload, (hclasses.eq_items hsome).trans hitems, ?_,
    fun language hlanguage => (hlanguages language hlanguage).1 fun hhollow =>
      hsome hhollow.itemsOf_eq_nil⟩
  rw [habsent] at hextensions
  refine hextensions.eq_default rfl ?_
  rintro ⟨text, hvalue, _⟩
  cases hvalue

/-- A comma alone is a value without items, and the built-in classes are not put in its place. -/
theorem load_hollow :
    let environment := [("DOCCO_DIVIDER_CLASSES".toList, ",".toList)]
    itemsOf (Dict.get? "DOCCO_DIVIDER_CLASSES".toList environment) = [] ∧
      ∃ settings, Settings.load environment {} = .ok settings ∧ settings.classes = [] := by
  intro environment
  have hfile : ({} : Disk).nearestFile? EnvFile.fileName = none := by cbv
  refine ⟨by decide, ofEnvironment (Dict.get? · environment), ?_, by decide⟩
  rw [Settings.load, EnvFile.load_of_no_file hfile]
  rfl

end Settings
end Marginalia

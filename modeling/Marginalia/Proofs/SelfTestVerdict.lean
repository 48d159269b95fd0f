import Marginalia.CommandLine.Standard
import Marginalia.Proofs.SectionAlignment

/-!
# The self-test speaks for every source

The self-test sends two short fragments, and only once for all languages of one
name. What it says holds for every source all the same. Whether a divider comes
back as a marker depends on two things, the class that the highlighter gives it
and the comment symbol, and on nothing else of the text. If both are known, every
answer has one piece for each fragment. If not, no answer has a marker at all, and
every answer is one piece, for whatever was sent.

The languages of one name share their symbol in the table, so no symbol is left
out when a name is tried only once.
-/

namespace Marginalia

namespace Registry

/-- In the standard table a name has one symbol, whatever the extensions. -/
theorem symbol_eq_of_name_eq {classes : List Text} {language other : Language}
    (hlanguage : language ∈ (standard classes).languages)
    (hother : other ∈ (standard classes).languages) (h : language.name = other.name) :
    language.symbol = other.symbol := by
  have hall : standardTable.all (fun row => standardTable.all fun next =>
      row.2.1 != next.2.1 || row.2.2 == next.2.2) = true := by decide +kernel
  obtain ⟨row, hrow, rfl⟩ := exists_row_of_mem_ofTable hlanguage
  obtain ⟨next, hnext, rfl⟩ := exists_row_of_mem_ofTable hother
  have hsame := List.all_eq_true.1 (List.all_eq_true.1 hall row hrow) next hnext
  simpa [ofRow, show row.2.1 = next.2.1 from h] using hsame

end Registry

namespace LineReply

/-- The dividers of a language come back from a highlighter as markers that the
language knows. -/
def IsKnown (reply : LineReply) (language : Language) : Prop :=
  reply.cls ∈ language.knownClasses ∧ language.symbol ∈ reply.symbols

variable {reply : LineReply} {language : Language} {classes : List Text}

/-- Where dividers do not come back as markers, nothing does. -/
theorem clear_renderText_of_not_isKnown
    (hlanguage : language ∈ (Registry.standard classes).languages)
    (hplain : ∀ cls ∈ classes, PlainName cls) (hcls : PlainName reply.cls)
    (h : ¬ reply.IsKnown language) (text : Text) : language.Clear (reply.renderText text) := by
  obtain ⟨hclasses, _⟩ := Registry.mem_languages_standard hlanguage
  have hfree : language.QuoteFree := Language.quoteFree_of_plain (hclasses ▸ hplain)
  obtain ⟨_, hdivider⟩ := Language.escape_dividerLine hlanguage
  refine clear_renderText_of_lines fun line _ => ?_
  have hescaped := Html.angle_not_mem_escape .highlighted line
  rw [renderLine_eq]
  -- a span of a known class is around the divider of another symbol
  refine Language.clear_marked hfree hcls hescaped fun hmarked hknown heq => ?_
  rw [← hdivider] at heq
  have hline : line = language.dividerLine := Html.escape_injective .highlighted heq
  obtain ⟨symbol, hsymbol, hsame⟩ := List.any_eq_true.1 hmarked
  rw [hline, beq_iff_eq] at hsame
  have hother : language.symbol = symbol := List.append_cancel_right hsame
  exact h ⟨hknown, hother ▸ hsymbol⟩

end LineReply

namespace Highlighter

/-- A result is that an answer had another number of pieces than there were fragments. -/
def IsMismatch {α : Type} (result : Except Failure α) : Prop :=
  ∃ name expected actual, result = .error (.dividerMismatch name expected actual)

variable {highlighter : Highlighter} {language : Language} {reply : LineReply}
  {classes : List Text}

/-- Fragments without divider lines are refused for one reason only: their
dividers are not known again, and there is more than one of them. -/
theorem UsesLines.highlightCode_eq_error_iff (huses : highlighter.UsesLines language reply)
    (hlanguage : language ∈ (Registry.standard classes).languages)
    (hplain : ∀ cls ∈ classes, PlainName cls) (hcls : PlainName reply.cls) (disk : Disk)
    {fragments : List Text} (hne : fragments ≠ [])
    (hnone : ∀ fragment ∈ fragments, language.dividersIn fragment = 0) (failure : Failure) :
    (highlighter.highlightCode disk language fragments).result = .error failure ↔
      ¬ reply.IsKnown language ∧ fragments.length ≠ 1 ∧
        failure = .dividerMismatch language.name fragments.length 1 := by
  by_cases hknown : reply.IsKnown language
  · have hmarks := LineReply.Marks.of_mem_knownClasses hlanguage hplain hknown.1 hknown.2
    rw [huses.result_highlightCode_of_clear hmarks disk hne hnone]
    exact ⟨fun h => (by cases h), fun h => absurd hknown h.1⟩
  · have hclear : language.Clear (reply.renderLines (language.joined fragments)) :=
      LineReply.clear_renderText_of_not_isKnown hlanguage hplain hcls hknown _
    have hlength : (language.splitAtDividers
        (reply.renderLines (language.joined fragments))).length = 1 := by
      rw [Language.splitAtDividers_of_clear hclear, List.length_singleton]
    rw [huses.result_highlightCode]
    by_cases hone : fragments.length = 1
    · rw [blocksOf_eq_ok.2 ⟨hlength.trans hone.symm, rfl⟩]
      exact ⟨fun h => (by cases h), fun h => absurd hone h.2.1⟩
    · rw [blocksOf_of_length_one hlength hone]
      constructor
      · intro h
        cases h
        exact ⟨hknown, hone, rfl⟩
      · rintro ⟨_, _, rfl⟩
        rfl

theorem dividersIn_probe (hlanguage : language ∈ (Registry.standard classes).languages) :
    ∀ fragment ∈ probe, language.dividersIn fragment = 0 := by
  obtain ⟨_, hsymbol⟩ := Registry.mem_languages_standard hlanguage
  have hall : Registry.standardSymbols.all (fun symbol => probe.all fun fragment =>
      (Text.splitOn '\n' fragment).count (symbol ++ "DIVIDER".toList) == 0) = true := by decide
  intro fragment hmem
  exact beq_iff_eq.1 (List.all_eq_true.1 (List.all_eq_true.1 hall language.symbol hsymbol)
    fragment hmem)

/-- The self-test of a language finds whether its dividers are known again. -/
theorem UsesLines.verifyDivider_eq_error_iff (huses : highlighter.UsesLines language reply)
    (hlanguage : language ∈ (Registry.standard classes).languages)
    (hplain : ∀ cls ∈ classes, PlainName cls) (hcls : PlainName reply.cls) (disk : Disk)
    (failure : Failure) :
    (highlighter.verifyDivider disk language).result = .error failure ↔
      ¬ reply.IsKnown language ∧ failure = .dividerMismatch language.name 2 1 := by
  have hne : probe ≠ [] := List.cons_ne_nil _ _
  have hcode := huses.highlightCode_eq_error_iff hlanguage hplain hcls disk hne
    (dividersIn_probe hlanguage) failure
  rw [verifyDivider_eq_error, hcode]
  exact and_congr_right fun _ => and_iff_right (by decide)

/-- A source is refused for its dividers if they are not known again and it has any. -/
theorem UsesLines.isMismatch_highlight_iff (huses : highlighter.UsesLines language reply)
    (hlanguage : language ∈ (Registry.standard classes).languages)
    (hplain : ∀ cls ∈ classes, PlainName cls) (hcls : PlainName reply.cls)
    (hrender : ∀ docs, ¬ IsMismatch (highlighter.render docs)) (disk : Disk) (source : Text) :
    let sections := Section.ofSource language source
    let result := (highlighter.highlight disk language sections).result
    (IsMismatch result ↔ ¬ reply.IsKnown language ∧ sections.length ≠ 1) ∧
      (IsMismatch result →
        result = .error (.dividerMismatch language.name sections.length 1)) := by
  intro sections result
  have hclear := Section.dividersIn_codes hlanguage source
  have hcode := huses.highlightCode_eq_error_iff hlanguage hplain hcls disk
    (mt List.map_eq_nil_iff.1 (Section.ofSource_ne_nil language source)) hclear
  rw [List.length_map] at hcode
  have hfailure : ∀ {failure : Failure}, result = .error failure →
      (highlighter.highlightCode disk language (sections.map (·.code))).result = .error failure ∨
        ∃ s ∈ sections, highlighter.render s.docs = .error failure := by
    intro failure h
    rcases bind_eq_error.1 h with hcode | ⟨blocks, _, hfill⟩
    · exact Or.inl hcode
    · exact Or.inr (exists_render_error_of_fill hfill)
  have hmismatch : IsMismatch result → ¬ reply.IsKnown language ∧ sections.length ≠ 1 ∧
      result = .error (.dividerMismatch language.name sections.length 1) := by
    rintro ⟨name, expected, actual, h⟩
    rcases hfailure h with h' | ⟨s, _, hdocs⟩
    · obtain ⟨hknown, hlength, heq⟩ := (hcode _).1 h'
      exact ⟨hknown, hlength, heq ▸ h⟩
    · exact absurd ⟨name, expected, actual, hdocs⟩ (hrender s.docs)
  refine ⟨⟨fun h => ⟨(hmismatch h).1, (hmismatch h).2.1⟩, fun ⟨hknown, hlength⟩ => ?_⟩,
    fun h => (hmismatch h).2.2⟩
  exact ⟨_, _, _, bind_eq_error.2 (Or.inl ((hcode _).2 ⟨hknown, hlength, rfl⟩))⟩

/-- A highlighter speaks to all languages of one name alike. -/
theorem UsesLines.of_name_eq (huses : highlighter.UsesLines language reply) {other : Language}
    (h : language.name = other.name) : highlighter.UsesLines other reply := by
  obtain ⟨lines, hrunner, hreply⟩ := huses.runner_eq
  refine ⟨huses.codec_eq, ⟨lines, hrunner, ?_⟩, huses.status_eq, huses.stdout_eq⟩
  rw [← hreply, commandFor, commandFor, h]

end Highlighter

namespace SelfTest

open Highlighter (IsMismatch firstStandard firstStandard_mem)

variable {highlighter : Highlighter}

theorem mem_of_mem_firstOfName {seen : List Text} {languages : List Language}
    {language : Language} (h : language ∈ firstOfName seen languages) : language ∈ languages := by
  fun_induction firstOfName seen languages with
  | case1 => cases h
  | case2 seen first languages _ ih => exact List.mem_cons_of_mem _ (ih h)
  | case3 seen first languages _ ih =>
      rcases List.mem_cons.1 h with rfl | hmem
      · exact List.mem_cons_self ..
      · exact List.mem_cons_of_mem _ (ih hmem)

/-- Every name that was not seen yet is tried with some language. -/
theorem exists_mem_firstOfName {seen : List Text} {languages : List Language}
    {language : Language} (h : language ∈ languages) (hnew : language.name ∉ seen) :
    ∃ first ∈ firstOfName seen languages, first.name = language.name := by
  fun_induction firstOfName seen languages with
  | case1 => cases h
  | case2 seen first languages hseen ih =>
      rcases List.mem_cons.1 h with rfl | hmem
      · exact absurd (List.contains_iff_mem.1 hseen) hnew
      · exact ih hmem hnew
  | case3 seen first languages _ ih =>
      by_cases hname : first.name = language.name
      · exact ⟨first, List.mem_cons_self .., hname⟩
      · rcases List.mem_cons.1 h with rfl | hmem
        · exact absurd rfl hname
        · have hlater : language.name ∉ first.name :: seen := fun hmem =>
            (List.mem_cons.1 hmem).elim (Ne.symm hname) hnew
          obtain ⟨found, hfound, hsame⟩ := ih hmem hlater
          exact ⟨found, List.mem_cons_of_mem _ hfound, hsame⟩

/-- An outcome is good if the check that it is about was passed. -/
theorem failure_eq_none_iff {language : Language} {verdict : Except Failure Unit}
    {outcome : Outcome} (h : outcomeOf language verdict = .ok outcome) :
    outcome.failure = none ↔ verdict = .ok () := by
  cases verdict with
  | ok value =>
      cases h
      exact iff_of_true rfl rfl
  | error failure =>
      rw [outcomeOf] at h
      split at h
      · cases h
        exact iff_of_false (by simp) (by simp)
      · cases h

/-- Outcomes of languages, each of a check on the disk as it then was. -/
def AreOutcomes (highlighter : Highlighter) (languages : List Language)
    (outcomes : List Outcome) : Prop :=
  List.Forall₂ (fun language outcome => ∃ disk,
    outcomeOf language (highlighter.verifyDivider disk language).result = .ok outcome)
    languages outcomes

/-- Languages whose checks fail with the generator's own failures only are all tried. -/
theorem exists_tryEach_eq_ok {languages : List Language}
    (h : ∀ language ∈ languages, ∀ disk failure,
      (highlighter.verifyDivider disk language).result = .error failure → failure.isOwn = true)
    (disk : Disk) :
    ∃ outcomes, (tryEach highlighter disk languages).result = .ok outcomes ∧
      AreOutcomes highlighter languages outcomes := by
  induction languages generalizing disk with
  | nil => exact ⟨[], rfl, .nil⟩
  | cons language languages ih =>
      obtain ⟨outcomes, hrest, hall⟩ := ih
        (fun other hmem => h other (List.mem_cons_of_mem _ hmem))
        (highlighter.verifyDivider disk language).disk
      have houtcome : ∃ outcome,
          outcomeOf language (highlighter.verifyDivider disk language).result = .ok outcome := by
        cases hverdict : (highlighter.verifyDivider disk language).result with
        | ok value => exact ⟨_, rfl⟩
        | error failure =>
            have hown := h language (List.mem_cons_self ..) disk failure hverdict
            exact ⟨_, if_pos hown⟩
      obtain ⟨outcome, houtcome⟩ := houtcome
      refine ⟨outcome :: outcomes, ?_, .cons ⟨disk, houtcome⟩ hall⟩
      simp only [tryEach, houtcome, hrest]
      rfl

section

variable {classes : List Text} (hplain : ∀ cls ∈ classes, PlainName cls)
  (huses : ∀ language ∈ (Registry.standard classes).languages,
    ∃ reply, PlainName reply.cls ∧ highlighter.UsesLines language reply)

include hplain huses

/-- With the line highlighter behind it, a self-test has an outcome for each name. -/
theorem exists_run_eq_ok (disk : Disk) :
    let languages := (Registry.standard classes).languages
    ∃ outcomes, (run highlighter disk languages).result = .ok outcomes ∧
      AreOutcomes highlighter (firstOfName [] languages) outcomes := by
  refine exists_tryEach_eq_ok (fun language hmem now failure hfailure => ?_) disk
  have hlanguage := mem_of_mem_firstOfName hmem
  obtain ⟨reply, hcls, hreply⟩ := huses language hlanguage
  obtain ⟨_, rfl⟩ :=
    (hreply.verifyDivider_eq_error_iff hlanguage hplain hcls now failure).1 hfailure
  rfl

/-- The self-test predicts every source. A source of several sections is refused
for its dividers exactly if the check of its language is, and one of a single
section never. If all outcomes are good, no source of any language is refused so. -/
theorem verdict_of_source
    (hrender : ∀ docs, ¬ IsMismatch (highlighter.render docs)) :
    let languages := (Registry.standard classes).languages
    (∀ language ∈ languages, ∀ disk source,
      let sections := Section.ofSource language source
      let result := (highlighter.highlight disk language sections).result
      (sections.length = 1 → ¬ IsMismatch result) ∧
      (2 ≤ sections.length →
        (IsMismatch result ↔ IsMismatch (highlighter.verifyDivider disk language).result) ∧
        (IsMismatch result →
          result = .error (.dividerMismatch language.name sections.length 1)))) ∧
    ∀ disk, ∃ outcomes, (run highlighter disk languages).result = .ok outcomes ∧
      ((∀ outcome ∈ outcomes, outcome.failure = none) →
        ∀ language ∈ languages, ∀ now source, ¬ IsMismatch
          (highlighter.highlight now language (Section.ofSource language source)).result) := by
  intro languages
  refine ⟨fun language hlanguage disk source => ?_, fun disk => ?_⟩
  · intro sections result
    obtain ⟨reply, hcls, hreply⟩ := huses language hlanguage
    obtain ⟨hiff, hresult⟩ := hreply.isMismatch_highlight_iff hlanguage hplain hcls hrender disk
      source
    have hverify := hreply.verifyDivider_eq_error_iff hlanguage hplain hcls disk
    refine ⟨fun hone h => (hiff.1 h).2 hone, fun htwo => ⟨⟨fun h => ?_, ?_⟩, hresult⟩⟩
    · exact ⟨_, _, _, (hverify _).2 ⟨(hiff.1 h).1, rfl⟩⟩
    · rintro ⟨name, expected, actual, h⟩
      exact hiff.2 ⟨((hverify _).1 h).1, (Nat.lt_of_succ_le htwo).ne'⟩
  · obtain ⟨outcomes, hrun, hall⟩ := exists_run_eq_ok hplain huses disk
    refine ⟨outcomes, hrun, fun hgood language hlanguage now source hmismatch => ?_⟩
    obtain ⟨first, hfirst, hname⟩ := exists_mem_firstOfName hlanguage List.not_mem_nil
    have htried := mem_of_mem_firstOfName hfirst
    obtain ⟨reply, hcls, hreply⟩ := huses first htried
    obtain ⟨outcome, houtcome, checked, hcheck⟩ := exists_of_forall₂_of_mem hall hfirst
    have hverdict := (failure_eq_none_iff hcheck).1 (hgood outcome houtcome)
    have hsource := (hreply.of_name_eq hname).isMismatch_highlight_iff hlanguage hplain hcls
      hrender now source
    -- the language that was tried in place of this one has its symbol and its classes
    have hsame : reply.IsKnown first ↔ reply.IsKnown language := by
      rw [LineReply.IsKnown, LineReply.IsKnown, Language.knownClasses, Language.knownClasses,
        (Registry.mem_languages_standard htried).1, (Registry.mem_languages_standard hlanguage).1,
        Registry.symbol_eq_of_name_eq htried hlanguage hname]
    have hunknown := mt hsame.1 (hsource.1.1 hmismatch).1
    rw [(hreply.verifyDivider_eq_error_iff htried hplain hcls checked _).2 ⟨hunknown, rfl⟩]
      at hverdict
    cases hverdict

end

/-- A highlighter that gives dividers a class of its own, with the program's renderer. -/
def ofClass (cls : Text) : Highlighter :=
  CommandLine.highlighterFor .standard ((LineHighlighter.uniform { cls }).runner .utf8) {}

theorem usesLines_ofClass (cls : Text) (language : Language) :
    (ofClass cls).UsesLines language { cls } where
  codec_eq := Encoding.codec?_utf8
  runner_eq := ⟨.uniform { cls }, rfl, rfl⟩
  status_eq := rfl
  stdout_eq := rfl

/-- Rendering docs never ends in a mismatch of fragments. -/
theorem not_isMismatch_renderDocs (library : CommandLine.Library) (extensions : List Text)
    (docs : Text) : ¬ IsMismatch (CommandLine.renderDocs library extensions docs) := by
  rintro ⟨name, expected, actual, h⟩
  rw [CommandLine.renderDocs] at h
  split at h
  · cases h
  · cases hrendered : library.markup extensions docs with
    | ok html => simp only [hrendered] at h; cases h
    | error fault => simp only [hrendered] at h; cases h

theorem isKnown_standard {language : Language} (h : language ∈ Registry.standard.languages) :
    LineReply.IsKnown {} language := by
  obtain ⟨hclasses, hsymbol⟩ := Registry.mem_languages_standard h
  refine ⟨Language.mem_knownClasses_of_mem ?_, hsymbol⟩
  rw [hclasses]
  decide

theorem verdict_of_source_renamed :
    let source := "a\n# b\nc\n# d\n".toList
    let sections := Section.ofSource firstStandard source
    2 ≤ sections.length ∧
      ((ofClass "k".toList).highlight {} firstStandard sections).result =
        .error (.dividerMismatch "python".toList 3 1) ∧
      ∃ outcomes, (run (ofClass "c1".toList) {} Registry.standard.languages).result =
          .ok outcomes ∧
        (∀ outcome ∈ outcomes, outcome.failure = none) ∧
        ¬ IsMismatch ((ofClass "c1".toList).highlight {} firstStandard sections).result := by
  intro source sections
  have hplain := Highlighter.plainName_of_mem_standardClasses
  have hk : PlainName "k".toList := Highlighter.plainName_of_all (by decide)
  have hc1 : PlainName "c1".toList := hplain _ (by decide)
  refine ⟨by decide, ?_, ?_⟩
  · obtain ⟨_, htwo⟩ := (verdict_of_source hplain
      (fun language _ => ⟨_, hk, usesLines_ofClass _ language⟩)
      (not_isMismatch_renderDocs _ _)).1 firstStandard firstStandard_mem {} source
    have hunknown : ¬ LineReply.IsKnown { cls := "k".toList } firstStandard := fun h =>
      absurd h.1 (by decide)
    have hverify := ((usesLines_ofClass "k".toList firstStandard).verifyDivider_eq_error_iff
      firstStandard_mem hplain hk {} _).2 ⟨hunknown, rfl⟩
    obtain ⟨hiff, hresult⟩ := htwo (by decide)
    exact hresult (hiff.2 ⟨_, _, _, hverify⟩)
  · have huses : ∀ language ∈ Registry.standard.languages,
        ∃ reply, PlainName reply.cls ∧ (ofClass "c1".toList).UsesLines language reply :=
      fun language _ => ⟨_, hc1, usesLines_ofClass _ language⟩
    obtain ⟨outcomes, hrun, hnone⟩ := (verdict_of_source hplain huses
      (not_isMismatch_renderDocs _ _)).2 {}
    obtain ⟨others, hothers, hall⟩ := exists_run_eq_ok hplain huses {}
    have hgood : ∀ outcome ∈ outcomes, outcome.failure = none := by
      obtain rfl : outcomes = others := Except.ok.inj (hrun.symm.trans hothers)
      intro outcome hmem
      obtain ⟨language, htried, now, hcheck⟩ := exists_of_forall₂_of_mem hall.flip hmem
      have hlanguage := mem_of_mem_firstOfName htried
      refine (failure_eq_none_iff hcheck).2 ?_
      cases hverdict : ((ofClass "c1".toList).verifyDivider now language).result with
      | ok value => rfl
      | error failure =>
          have hunknown := ((usesLines_ofClass "c1".toList language).verifyDivider_eq_error_iff
            hlanguage hplain hc1 now failure).1 hverdict
          exact absurd (isKnown_standard hlanguage) hunknown.1
    exact ⟨outcomes, hrun, hgood, hnone hgood firstStandard firstStandard_mem {} source⟩

end SelfTest
end Marginalia

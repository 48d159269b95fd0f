import Marginalia.Proofs.DividerInverse
import Marginalia.Proofs.DividerSymbols
import Marginalia.Proofs.RunReport
import Marginalia.Proofs.SectionUpdate

/-!
# What a passed check of a divider means

The check sends two fragments and looks at one thing in the answer: it is split
into two pieces. What is in the pieces is not compared with what was sent. So a
check passes exactly if the program succeeds with one block in which the divider
is found once. Any other answer is reported as a failure of the generator's own,
unless the codec that the program is spoken to in refuses it. A program that
changes the fragments on the way is not found out.

For a program that keeps the text, passing does mean that the fragments were
recovered. Of such an answer the text outside of tags is what was sent, up to
newlines at its ends, and the word of the divider has a letter that occurs
nowhere else in it. The one marker shows that letter too, so it stands where
the divider was sent, and what is shown in front of it and behind it are the two
fragments. This goes through even if a piece ends inside a tag: the marker's own
opening tag ends there as well. It does not go through for a class with a bracket
that closes a tag, since the rest of such a class is shown, as if it were a part
of the first fragment.
-/

namespace Marginalia

open Marginalia.Language (isNewline)

namespace Text

/-! ## Texts between newlines -/

theorem exists_eq_stripNewlines (text : Text) : ∃ before after : Nat,
    text = List.replicate before '\n' ++ (stripNewlines text ++ List.replicate after '\n') := by
  obtain ⟨before, hbefore⟩ := Language.exists_eq_replicate_append_dropWhile text
  obtain ⟨after, hafter⟩ :=
    Language.exists_eq_dropEndWhile_append_replicate (text.dropWhile isNewline)
  refine ⟨before, after, ?_⟩
  rw [stripNewlines, ← hafter, ← hbefore]

theorem stripNewlines_isInfix (text : Text) : stripNewlines text <:+: text := by
  obtain ⟨before, after, heq⟩ := exists_eq_stripNewlines text
  exact ⟨_, _, (List.append_assoc ..).trans heq.symm⟩

theorem mem_stripNewlines {text : Text} {c : Char} (hc : c ≠ '\n') (h : c ∈ text) :
    c ∈ stripNewlines text := by
  obtain ⟨before, after, heq⟩ := exists_eq_stripNewlines text
  rw [heq] at h
  rcases List.mem_append.1 h with hmem | hmem
  · exact absurd (List.eq_of_mem_replicate hmem) hc
  · rcases List.mem_append.1 hmem with hmem | hmem
    · exact hmem
    · exact absurd (List.eq_of_mem_replicate hmem) hc

end Text

namespace Language

variable {language : Language}

/-- Of a divider, the text of its marker is shown, with newlines around it, and what
follows is outside of tags. -/
theorem IsDivider.exists_outsideTags {divider : Text} (h : language.IsDivider divider)
    (hclasses : ∀ cls ∈ language.knownClasses, '>' ∉ cls) (inside : Bool) (rest : Text) :
    ∃ before after, Html.outsideTags inside (divider ++ rest) =
      List.replicate before '\n' ++
        (language.markerText ++ (List.replicate after '\n' ++ Html.outsideTags false rest)) := by
  obtain ⟨cls, hcls, before, after, rfl⟩ := h
  have hmarker : ∀ c ∈ language.markerText, Html.isAngle c = false := fun _ =>
    Html.isAngle_of_mem_escape
  have hnewlines : ∀ c ∈ List.replicate after '\n', Html.isAngle c = false := by
    intro c hmem
    rw [List.eq_of_mem_replicate hmem]
    rfl
  -- the newlines in front are shown or not, the marker is in either case
  obtain ⟨now, hnow⟩ := Html.exists_outsideTags_append inside (List.replicate before '\n')
  have hfront : Html.outsideTags inside (List.replicate before '\n') =
      List.replicate (Html.outsideTags inside (List.replicate before '\n')).length '\n' :=
    List.eq_replicate_of_mem fun c hmem =>
      List.eq_of_mem_replicate ((Html.outsideTags_sublist _ _).subset hmem)
  refine ⟨(Html.outsideTags inside (List.replicate before '\n')).length, after, ?_⟩
  rw [← hfront, marker_eq_spanOf, List.append_assoc, List.append_assoc, hnow,
    outsideTags_spanOf (hclasses cls hcls) hmarker, Html.outsideTags_append hnewlines]

theorem Interleaves.exists_outsideTags {first second body : Text}
    (h : language.Interleaves [first, second] body)
    (hclasses : ∀ cls ∈ language.knownClasses, '>' ∉ cls) :
    ∃ before after, Html.outsideTags false body =
      Html.outsideTags false first ++ (List.replicate before '\n' ++ (language.markerText ++
        (List.replicate after '\n' ++ Html.outsideTags false second))) := by
  cases h with
  | @next _ divider rest _ hdivider hrest =>
      cases hrest with
      | last =>
          obtain ⟨now, hnow⟩ := Html.exists_outsideTags_append false first
          obtain ⟨before, after, heq⟩ := hdivider.exists_outsideTags hclasses now second
          exact ⟨before, after, by rw [List.append_assoc, hnow, heq]⟩
      | next _ _ hnone => exact absurd rfl hnone.ne_nil

end Language

namespace Highlighter

open Marginalia.Text (stripNewlines)

variable {highlighter : Highlighter} {language : Language} {disk : Disk} {classes : List Text}

/-- A body shows a text: without tags, and with its entities read, it is that text, up to
newlines at the ends. -/
def Shows (body text : Text) : Prop :=
  stripNewlines (Html.plain body) = stripNewlines text

/-- Two pieces are the two fragments of the probe: outside of tags, each has the word of its
own fragment and not the word of the other. -/
def Recovers (first second : Text) : Prop :=
  ("first".toList <:+: Html.outsideTags false first ∧
      ¬ "second".toList <:+: Html.outsideTags false first) ∧
    ("second".toList <:+: Html.outsideTags false second ∧
      ¬ "first".toList <:+: Html.outsideTags false second)

theorem recovers_of_stripNewlines {first second : Text}
    (hfirst : stripNewlines (Html.outsideTags false first) = "first".toList)
    (hsecond : stripNewlines (Html.outsideTags false second) = "second".toList) :
    Recovers first second := by
  -- each word has a letter that the other has not
  have he : 'e' ∈ "second".toList := by decide
  have hf : 'f' ∈ "first".toList := by decide
  refine ⟨⟨hfirst ▸ Text.stripNewlines_isInfix _, fun h => ?_⟩,
    ⟨hsecond ▸ Text.stripNewlines_isInfix _, fun h => ?_⟩⟩
  · have hmem := Text.mem_stripNewlines (by decide) (h.subset he)
    rw [hfirst] at hmem
    exact absurd hmem (by decide)
  · have hmem := Text.mem_stripNewlines (by decide) (h.subset hf)
    rw [hsecond] at hmem
    exact absurd hmem (by decide)

/-- Outside of tags, a body that shows a text has it letter by letter if nothing in the text is
escaped. -/
theorem Shows.exists_outsideTags_eq {body text : Text} (h : Shows body text)
    (hkept : ∀ c ∈ stripNewlines text, Html.escapeChar .highlighted c = [c]) :
    ∃ before after, Html.outsideTags false body =
      List.replicate before '\n' ++ (stripNewlines text ++ List.replicate after '\n') := by
  obtain ⟨before, after, hplain⟩ := Text.exists_eq_stripNewlines (Html.plain body)
  rw [h] at hplain
  refine ⟨before, after, ?_⟩
  rw [← hplain, Html.plain, Html.unescape_eq_self fun c hmem => ?_]
  by_cases hc : c = '\n'
  · rw [hc]
    rfl
  · refine hkept c ?_
    rw [← h]
    exact Text.mem_stripNewlines hc hmem

/-- A letter of the divider's word stands in the probe once, and nothing in the probe is
escaped, its divider included. -/
theorem joined_probe (hlanguage : language ∈ (Registry.standard classes).languages) :
    let front := "first\n\n".toList ++ (language.symbol ++ "DI".toList)
    let back := "IDER".toList ++ "\nsecond".toList
    stripNewlines (language.joined probe) = front ++ 'V' :: back ∧
      ('V' ∉ front ∧ (front ++ 'V' :: back).all (fun c =>
        Html.escapeChar .highlighted c == [c]) = true) ∧
      language.markerText = language.symbol ++ "DI".toList ++ 'V' :: "IDER".toList := by
  obtain ⟨_, hsymbol⟩ := Registry.mem_languages_standard hlanguage
  have hall : ∀ symbol ∈ Registry.standardSymbols,
      let front := "first\n\n".toList ++ (symbol ++ "DI".toList)
      let back := "IDER".toList ++ "\nsecond".toList
      stripNewlines (List.intercalate ('\n' :: (symbol ++ "DIVIDER".toList) ++ ['\n']) probe) =
          front ++ 'V' :: back ∧
        ('V' ∉ front ∧ (front ++ 'V' :: back).all (fun c =>
          Html.escapeChar .highlighted c == [c]) = true) ∧
        Html.escape .kept (symbol ++ "DIVIDER".toList) =
          symbol ++ "DI".toList ++ 'V' :: "IDER".toList := by
    decide
  exact hall _ hsymbol

/-- Where the text was kept and the divider was found once, it was found where it was sent. -/
theorem Shows.recovers (hlanguage : language ∈ (Registry.standard classes).languages)
    (hclasses : ∀ cls ∈ language.knownClasses, '>' ∉ cls) {first second body : Text}
    (hshows : Shows body (language.joined probe))
    (hbody : language.Interleaves [first, second] body) : Recovers first second := by
  obtain ⟨hprobe, ⟨hfront, hkept⟩, hmarker⟩ := joined_probe hlanguage
  obtain ⟨i, j, hshown⟩ := hshows.exists_outsideTags_eq fun c hmem =>
    beq_iff_eq.1 (List.all_eq_true.1 hkept c (hprobe ▸ hmem))
  obtain ⟨before, after, hpieces⟩ := hbody.exists_outsideTags hclasses
  -- the letter stands in the divider and nowhere else, so the two sides are known
  have hleft : 'V' ∉ List.replicate i '\n' ++
      ("first\n\n".toList ++ (language.symbol ++ "DI".toList)) := fun hmem =>
    (List.mem_append.1 hmem).elim (fun h => absurd (List.eq_of_mem_replicate h) (by decide)) hfront
  have hright : 'V' ∉ "IDER".toList ++ "\nsecond".toList ++ List.replicate j '\n' := fun hmem =>
    (List.mem_append.1 hmem).elim (by decide)
      fun h => absurd (List.eq_of_mem_replicate h) (by decide)
  have heq : List.replicate i '\n' ++ ("first\n\n".toList ++ (language.symbol ++ "DI".toList)) ++
        'V' :: ("IDER".toList ++ "\nsecond".toList ++ List.replicate j '\n') =
      Html.outsideTags false first ++ List.replicate before '\n' ++
          (language.symbol ++ "DI".toList) ++
        'V' :: ("IDER".toList ++ (List.replicate after '\n' ++ Html.outsideTags false second)) := by
    have h := hshown.symm.trans hpieces
    rw [hprobe, hmarker] at h
    simpa only [List.append_assoc, List.cons_append] using h
  obtain ⟨hfirst, -, hsecond⟩ := (List.append_cons_inj_of_notMem hleft hright).1 heq
  rw [← List.append_assoc] at hfirst
  rw [List.append_assoc] at hsecond
  have hbefore := congrArg stripNewlines (List.append_cancel_right hfirst)
  have hbehind := congrArg stripNewlines (List.append_cancel_left hsecond)
  rw [Language.stripNewlines_append_replicate,
    Language.stripNewlines_replicate_append] at hbefore hbehind
  exact recovers_of_stripNewlines hbefore.symm hbehind.symm

/-! ## The verdict -/

theorem verifyDivider_of_givesBody {body : Text}
    (h : highlighter.GivesBody disk language (language.joined probe) body) :
    (highlighter.verifyDivider disk language).result = .ok () ↔
      ∃ first second, language.splitAtDividers body = [first, second] := by
  rw [verifyDivider_eq_ok, result_highlightCode_of_givesBody h]
  simp only [blocksOf_eq_ok, exists_and_left, exists_eq, and_true]
  exact List.length_eq_two

theorem isOwn_of_verifyDivider
    (hknown : ∃ codec, highlighter.codecs highlighter.encoding = some codec)
    (hanswers : highlighter.runner.Answers) {failure : Failure}
    (h : (highlighter.verifyDivider disk language).result = .error failure) :
    failure.isOwn = true ∨
      ∃ fault, highlighter.CodecFails disk language (language.joined probe) fault ∧
        failure = .ofCodec fault := by
  rcases failure_of_highlightCode hknown hanswers (verifyDivider_eq_error.1 h) with
    ⟨_, _, rfl⟩ | ⟨_, rfl⟩ | hcodec
  · exact Or.inl rfl
  · exact Or.inl rfl
  · exact Or.inr hcodec

/-- A check of a divider is passed exactly if the answer is split into two pieces, whatever is in
them; otherwise it fails with a failure of the generator's own, or with one of the codec if that
refuses the probe or the answer. For a program that keeps the text, it is passed exactly if the
two pieces are the two fragments. -/
theorem verifyDivider_recovers (hlanguage : language ∈ (Registry.standard classes).languages)
    (hknown : ∃ codec, highlighter.codecs highlighter.encoding = some codec)
    (hanswers : highlighter.runner.Answers) (disk : Disk) :
    let sent := language.joined probe
    let result := (highlighter.verifyDivider disk language).result
    (result = .ok () ↔ ∃ body first second, highlighter.GivesBody disk language sent body ∧
        language.splitAtDividers body = [first, second]) ∧
      (∀ failure, result = .error failure → failure.isOwn = true ∨
        ∃ fault, highlighter.CodecFails disk language sent fault ∧ failure = .ofCodec fault) ∧
      ((∀ cls ∈ classes, '>' ∉ cls) →
        ∀ body, highlighter.GivesBody disk language sent body → Shows body sent →
          (result = .ok () ↔ ∃ first second, language.splitAtDividers body = [first, second] ∧
            Recovers first second)) := by
  intro sent result
  refine ⟨⟨fun h => ?_, ?_⟩, fun failure h => ?_, fun hclasses body hbody hshows => ?_⟩
  · obtain ⟨blocks, hblocks⟩ := verifyDivider_eq_ok.1 h
    obtain ⟨body, hbody, _⟩ := highlightCode_eq_ok hblocks
    obtain ⟨first, second, hsplit⟩ := (verifyDivider_of_givesBody hbody).1 h
    exact ⟨body, first, second, hbody, hsplit⟩
  · rintro ⟨body, first, second, hbody, hsplit⟩
    exact (verifyDivider_of_givesBody hbody).2 ⟨first, second, hsplit⟩
  · exact isOwn_of_verifyDivider hknown hanswers h
  · have hunbracketed : ∀ cls ∈ language.knownClasses, '>' ∉ cls :=
      Language.forall_mem_knownClasses List.not_mem_nil
        ((Registry.mem_languages_standard hlanguage).1 ▸ hclasses)
    rw [verifyDivider_of_givesBody hbody]
    constructor
    · rintro ⟨first, second, hsplit⟩
      have hinterleaves := language.interleaves_splitAtDividers body
      rw [hsplit] at hinterleaves
      exact ⟨first, second, hsplit, hshows.recovers hlanguage hunbracketed hinterleaves⟩
    · rintro ⟨first, second, hsplit, _⟩
      exact ⟨first, second, hsplit⟩

/-! ## Two programs with one answer each -/

/-- A program that has one answer to everything. -/
def answering (body : Text) : Highlighter :=
  { ofLines with runner := .ofReplies fun _ _ => .ok { stdout := Utf8.encode (Wrapper.wrap body) } }

theorem answers_answering (body : Text) : (answering body).runner.Answers :=
  fun disk _ _ => ⟨_, disk, rfl⟩

theorem givesBody_answering {body : Text} (h : Wrapper.body? (Wrapper.wrap body) = some body)
    (text : Text) : (answering body).GivesBody {} firstStandard text body := by
  refine ⟨Encoding.utf8.codec, _, _, {}, _, Wrapper.wrap body, Encoding.codec?_utf8, rfl, rfl, rfl,
    rfl, ?_, Wrapper.body?_eq_some_iff.1 h⟩
  exact congrArg Except.ok (Encoding.decodeLossy_encode_utf8 _)

/-- Two pieces, with the divider that the probe was sent with between them. -/
def twoPieces (first second : Text) : Text :=
  first ++ "\n\n<span class=\"c1\">#DIVIDER</span>\n".toList ++ second

theorem splitAtDividers_twoPieces {first second : Text}
    (hfragments : firstStandard.Fragments [first, second]) :
    firstStandard.splitAtDividers (twoPieces first second) = [first, second] := by
  have hfree : ∀ cls ∈ firstStandard.knownClasses, '<' ∉ cls := by decide
  have hdivider : firstStandard.IsDivider "\n\n<span class=\"c1\">#DIVIDER</span>\n".toList :=
    ⟨"c1".toList, by decide, 2, 1, by decide⟩
  exact (Language.Interleaves.next _ hdivider (.last _)).splitAtDividers_eq hfree hfragments

/-- Tags around a word, or within one, do not keep it from being recovered. -/
theorem verifyDivider_recovers_tagged :
    let first := "<span class=\"k\">first</span>".toList
    let second := "<b>sec</b>ond\n".toList
    let body := twoPieces first second
    ((answering body).verifyDivider {} firstStandard).result = .ok () ∧ Recovers first second := by
  intro first second body
  have hmarkers : ∀ piece ∈ [first, second], ∀ cls ∈ firstStandard.knownClasses,
      ¬ firstStandard.marker cls <:+: piece := by decide
  have hsplit := splitAtDividers_twoPieces ⟨hmarkers, by decide, by decide⟩
  have hwrapped : Wrapper.body? (Wrapper.wrap body) = some body := by decide
  have hbody := givesBody_answering hwrapped (firstStandard.joined probe)
  have hverdict := verifyDivider_recovers firstStandard_mem ⟨_, Encoding.codec?_utf8⟩
    (answers_answering body) {}
  have hok := hverdict.1.2 ⟨_, first, second, hbody, hsplit⟩
  have hshows : Shows body (firstStandard.joined probe) := by
    rw [Shows]
    decide
  obtain ⟨_, _, heq, hrecovers⟩ := (hverdict.2.2 (by decide) _ hbody hshows).1 hok
  rw [hsplit] at heq
  cases heq
  exact ⟨hok, hrecovers⟩

/-- A program that swaps the fragments passes the check. -/
theorem verifyDivider_swapped :
    let first := "second".toList
    let second := "first\n".toList
    let body := twoPieces first second
    let program := answering body
    program.runner.Answers ∧
      program.GivesBody {} firstStandard (firstStandard.joined probe) body ∧
      (program.verifyDivider {} firstStandard).result = .ok () ∧
      firstStandard.splitAtDividers body = [first, second] ∧ ¬ Recovers first second := by
  intro first second body program
  have hmarkers : ∀ piece ∈ [first, second], ∀ cls ∈ firstStandard.knownClasses,
      ¬ firstStandard.marker cls <:+: piece := by decide
  have hsplit := splitAtDividers_twoPieces ⟨hmarkers, by decide, by decide⟩
  have hwrapped : Wrapper.body? (Wrapper.wrap body) = some body := by decide
  have hbody := givesBody_answering hwrapped (firstStandard.joined probe)
  have hlost : ¬ "first".toList <:+: Html.outsideTags false first := by decide
  exact ⟨answers_answering body, hbody,
    (verifyDivider_of_givesBody hbody).2 ⟨first, second, hsplit⟩, hsplit,
    fun hrecovers => hlost hrecovers.1.1⟩

end Highlighter
end Marginalia

import Marginalia.Proofs.CollectionOrder
import Marginalia.Proofs.RunFailures
import Marginalia.Proofs.RunProgress

/-!
# What a run has on record

A run keeps two lists: the pages that it wrote and the calls that it made. Both
grow by one entry for each source that is documented, whatever the program
behind the highlighter does, to the disk or otherwise. A source that fails adds
no page, and it adds a call exactly if it could be read and sent.
-/

namespace Marginalia

namespace Generator

open Step

variable {generator : Generator} {before after : RunState} {failure : Failure}

/-- A call sends the code of a source that can be read on the given disk. -/
def IsCallFor (generator : Generator) (disk : Disk) (source : Text) (call : Call) : Prop :=
  ∃ language text codec, generator.registry.forPath source = some language ∧
    generator.readSource disk source = .ok text ∧
    call.command = generator.highlighter.commandFor language ∧
    generator.highlighter.codecs generator.highlighter.encoding = some codec ∧
    codec.encode (List.intercalate language.dividerText
      ((Section.ofSource language text).map (·.code))) = .ok call.stdin

/-- A source can be read on the given disk, but its code cannot be sent. -/
def FailsToSend (generator : Generator) (disk : Disk) (source : Text) (failure : Failure) : Prop :=
  ∃ language text codec fault, generator.registry.forPath source = some language ∧
    generator.readSource disk source = .ok text ∧
    generator.highlighter.codecs generator.highlighter.encoding = some codec ∧
    codec.encode (List.intercalate language.dividerText
      ((Section.ofSource language text).map (·.code))) = .error fault ∧
    failure = .ofCodec fault

/-- A run has made one call for each of these sources, in their order, when it came to it. -/
def CallsFor (generator : Generator) (before : RunState) (sources reached : List Text)
    (calls : List Call) : Prop :=
  calls.length = reached.length ∧
    ∀ front source back, reached = front ++ source :: back →
      ∃ now call, generator.ComesTo before sources front now ∧
        calls[front.length]? = some call ∧ generator.IsCallFor now.disk source call

/-! ## One source -/

theorem record_document {source page : Text}
    (hsome : (generator.registry.forPath source).isSome)
    (h : (generator.document source).Gives before page after) :
    page = generator.settings.layout.pagePath source ∧
      after.context.written = before.context.written ++ [page] ∧
      ∃ call, generator.IsCallFor before.disk source call ∧
        after.calls = before.calls ++ [call] := by
  obtain ⟨language, hlanguage⟩ := Option.isSome_iff_exists.1 hsome
  obtain ⟨rfl, text, sections, traced, above, notices, hread, rfl, hresult, _, _, hafter⟩ :=
    gives_document hlanguage h
  obtain ⟨codec, stdin, hcodec, hstdin, hcalls⟩ := Highlighter.calls_of_highlight_eq_ok hresult
  refine ⟨rfl, by rw [hafter], ⟨generator.highlighter.commandFor language, stdin⟩,
    ⟨language, text, codec, hlanguage, hread, rfl, hcodec, hstdin⟩, ?_⟩
  rw [hafter, hcalls]

/-- The code of a source that was read is sent in one call, whatever comes of it, or it has
no bytes in the encoding. -/
theorem call_of_readSource (hsame : generator.highlighter.encoding = generator.settings.encoding)
    {source text : Text} {language : Language}
    (hlanguage : generator.registry.forPath source = some language)
    (hread : generator.readSource before.disk source = .ok text) :
    let traced := generator.highlighter.highlight before.disk language
      (Section.ofSource language text)
    (∃ call, generator.IsCallFor before.disk source call ∧ traced.calls = [call]) ∨
      ∃ failure, generator.FailsToSend before.disk source failure ∧
        traced.result = .error failure ∧ traced.calls = [] := by
  intro traced
  obtain ⟨content, codec, _, hcodec, _⟩ := readSource_eq_ok hread
  rw [← hsame] at hcodec
  cases hstdin : codec.encode (List.intercalate language.dividerText
      ((Section.ofSource language text).map (·.code))) with
  | ok stdin =>
      exact Or.inl ⟨_, ⟨language, text, codec, hlanguage, hread, rfl, hcodec, hstdin⟩,
        Highlighter.calls_of_run hcodec hstdin⟩
  | error fault =>
      have htraced : traced = .fail before.disk (.ofCodec fault) :=
        Highlighter.highlight_of_encode_eq_error hcodec hstdin
      rw [htraced]
      exact Or.inr ⟨_, ⟨language, text, codec, fault, hlanguage, hread, hcodec, hstdin, rfl⟩, rfl,
        rfl⟩

/-- A source that fails leaves no page, and a call if it was read and sent. -/
theorem DocumentFails.record (hsame : generator.highlighter.encoding = generator.settings.encoding)
    {source : Text} {language : Language}
    (hlanguage : generator.registry.forPath source = some language)
    (h : generator.DocumentFails before source language failure after) :
    after.context = before.context ∧
      ((generator.readSource before.disk source = .error failure ∨
          generator.FailsToSend before.disk source failure) ∧ after.calls = before.calls ∨
        (∃ text, generator.readSource before.disk source = .ok text) ∧
          ∃ call, generator.IsCallFor before.disk source call ∧
            after.calls = before.calls ++ [call]) := by
  cases h with
  | read hread => exact ⟨rfl, Or.inl ⟨Or.inl hread, rfl⟩⟩
  | highlight hread htraced hresult =>
      refine ⟨rfl, ?_⟩
      rcases call_of_readSource hsame hlanguage hread with
        ⟨call, hcall, hcalls⟩ | ⟨_, hsend, herror, hcalls⟩
      · rw [htraced] at hcalls
        exact Or.inr ⟨⟨_, hread⟩, call, hcall, by rw [hcalls]⟩
      · rw [htraced] at hcalls herror
        obtain rfl := Except.error.inj (hresult.symm.trans herror)
        exact Or.inl ⟨Or.inr hsend, by rw [hcalls, List.append_nil]⟩
  | write hread htraced hresult hrefused =>
      refine ⟨rfl, Or.inr ⟨⟨_, hread⟩, ?_⟩⟩
      rcases call_of_readSource hsame hlanguage hread with
        ⟨call, hcall, hcalls⟩ | ⟨_, _, herror, _⟩
      · rw [htraced] at hcalls
        exact ⟨call, hcall, by rw [hcalls]⟩
      · rw [htraced, hresult] at herror
        cases herror

/-! ## All sources -/

theorem record_mapM_document {sources pages : List Text}
    (hsome : ∀ source ∈ sources, (generator.registry.forPath source).isSome)
    (h : (sources.mapM generator.document).Gives before pages after) :
    after.context.written =
        before.context.written ++ sources.map generator.settings.layout.pagePath ∧
      ∃ calls, after.calls = before.calls ++ calls ∧ calls.length = sources.length ∧
        ∀ front source back, sources = front ++ source :: back →
          ∃ values now call, (front.mapM generator.document).Gives before values now ∧
            calls[front.length]? = some call ∧ generator.IsCallFor now.disk source call := by
  induction sources generalizing before pages with
  | nil =>
      obtain ⟨_, rfl⟩ := gives_pure.1 h
      exact ⟨(List.append_nil _).symm, [], (List.append_nil _).symm, rfl,
        fun front _ _ hnil => by cases front <;> cases hnil⟩
  | cons source sources ih =>
      obtain ⟨page, middle, others, hfirst, hrest, rfl⟩ := gives_mapM_cons.1 h
      obtain ⟨rfl, hwritten, call, hcall, hcalls⟩ :=
        record_document (hsome source (List.mem_cons_self ..)) hfirst
      obtain ⟨hothers, calls, hmore, hlength, hall⟩ :=
        ih (fun other hmem => hsome other (List.mem_cons_of_mem _ hmem)) hrest
      refine ⟨by rw [hothers, hwritten, List.append_assoc]; rfl, call :: calls,
        by rw [hmore, hcalls, List.append_assoc]; rfl,
        by rw [List.length_cons, List.length_cons, hlength], fun front other back hsplit => ?_⟩
      cases front with
      | nil =>
          cases hsplit
          exact ⟨[], before, call, gives_pure.2 ⟨rfl, rfl⟩, rfl, hcall⟩
      | cons first front =>
          cases hsplit
          obtain ⟨values, now, found, hfront, hfound, hother⟩ := hall front other back rfl
          exact ⟨_, now, found, gives_mapM_cons.2 ⟨_, middle, values, hfirst, hfront, rfl⟩,
            hfound, hother⟩

/-- One call more, for one source more. -/
theorem CallsFor.concat {sources reached : List Text} {calls : List Call} {source : Text}
    {call : Call} {now : RunState} (h : generator.CallsFor before sources reached calls)
    (hnow : generator.ComesTo before sources reached now)
    (hcall : generator.IsCallFor now.disk source call) :
    generator.CallsFor before sources (reached ++ [source]) (calls ++ [call]) := by
  obtain ⟨hlength, hall⟩ := h
  refine ⟨by rw [List.length_append, List.length_append, hlength]; rfl,
    fun front other back hsplit => ?_⟩
  rcases List.eq_nil_or_concat' back with rfl | ⟨back, last, rfl⟩
  · obtain ⟨rfl, hlast⟩ := List.append_inj' hsplit rfl
    cases hlast
    exact ⟨now, call, hnow, by rw [← hlength, List.getElem?_concat_length], hcall⟩
  · have hreached : reached = front ++ other :: back := by
      have hassoc : front ++ other :: (back ++ [last]) = (front ++ other :: back) ++ [last] := by
        rw [List.append_assoc, List.cons_append]
      exact (List.append_inj' (hsplit.trans hassoc) rfl).1
    obtain ⟨earlier, found, hearlier, hfound, hother⟩ := hall front other back hreached
    obtain ⟨hlt, _⟩ := List.getElem?_eq_some_iff.1 hfound
    exact ⟨earlier, found, hearlier, by rw [List.getElem?_append_left hlt, hfound], hother⟩

/-- What is on record of a fresh run that has documented some of its sources. -/
theorem ComesTo.record {disk : Disk} {inputs sources first rest : List Text} {now : RunState}
    (h : generator.ComesTo { disk, context := { pending := inputs } } sources first now)
    (hsources : sources = first ++ rest) :
    now.context.written = first.map generator.settings.layout.pagePath ∧
      generator.CallsFor { disk, context := { pending := inputs } } sources first now.calls := by
  obtain ⟨styled, pages, hprepares, hfirst⟩ := h
  obtain ⟨_, hcontext, hstyled⟩ := hprepares.state_eq
  have hknown := hprepares.forPath_isSome fun _ hnil => by cases hnil
  obtain ⟨hwritten, calls, hcalls, hlength, hall⟩ := record_mapM_document
    (fun source hmem => hknown source (hsources ▸ List.mem_append_left rest hmem)) hfirst
  rw [hcontext, Context.written_collect] at hwritten
  rw [hstyled] at hcalls
  refine ⟨hwritten, ?_, fun front source back hsplit => ?_⟩
  · rw [hcalls]
    exact hlength
  · obtain ⟨values, middle, call, hfront, hcall, hsource⟩ := hall front source back hsplit
    rw [hcalls]
    exact ⟨middle, call, ⟨styled, values, hprepares, hfront⟩, hcall, hsource⟩

end Generator
end Marginalia

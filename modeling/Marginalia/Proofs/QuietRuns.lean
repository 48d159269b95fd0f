import Marginalia.Proofs.RunInvariants

/-!
# A quiet run beside a loud one

A quiet run does what a loud one does and prints less. The two are taken step by
step: from states that differ only in what was printed, a step of the quiet run
ends as the step of the loud one does, and the states after them again differ only
in what was printed. What is kept of the loud run's notices is what the quiet run
has printed, the warnings of the highlighter. Since nothing that a run does depends
on its notices, this needs no assumption about where the two runs are or how they
end.

Along with it goes what the notices of the loud run are. That a notice is a warning
can be seen from its line, and a warning has the error stream of a call in it.
-/

namespace Marginalia

/-- What the line of a warning starts with. -/
def Notice.warningStart : Text := "[warn] highlighter: ".toList

/-- A notice is what the program wrote to its error stream in one of the calls, while it
succeeded. -/
def Highlighter.Tells (highlighter : Highlighter) (calls : List Call) (notice : Notice) : Prop :=
  ∃ call ∈ calls, ∃ codec disk reply after warning,
    highlighter.codecs highlighter.encoding = some codec ∧
    highlighter.runner disk call.command call.stdin = (.ok reply, after) ∧ reply.status = 0 ∧
    codec.decodeLossy reply.stderr = .ok warning ∧ Text.trim warning ≠ [] ∧
    notice = .highlighterWarning (Text.trim warning)

namespace RunState

/-- The state of a quiet run in the place of a loud one. -/
def quieted (state : RunState) : RunState :=
  { state with notices := state.notices.filter Notice.isWarning }

/-- A notice is a warning if its line says so, and has then come with one of the calls. -/
structure Explains (highlighter : Highlighter) (calls : List Call) (notice : Notice) : Prop where
  line_eq : Text.startsWith Notice.warningStart notice.text = notice.isWarning
  tells : notice.isWarning = true → highlighter.Tells calls notice

/-- All that was printed is explained by the calls so far. -/
def Explained (highlighter : Highlighter) (state : RunState) : Prop :=
  ∀ notice ∈ state.notices, Explains highlighter state.calls notice

end RunState

namespace Step

variable {α β : Type} {P : RunState → Prop}

/-- From every state with a property, a quiet step ends as a loud one does, and the loud
one leaves the property. -/
def Follows (P : RunState → Prop) (quiet loud : Step α) : Prop :=
  ∀ state, P state → loud.Leaves state P ∧
    quiet.run.run state.quieted = ((loud.run.run state).1, (loud.run.run state).2.quieted)

theorem follows_pure (value : α) : Follows P (pure value) (pure value) := fun _ h => ⟨h, rfl⟩

theorem follows_throw (failure : Failure) :
    Follows P (throw failure : Step α) (throw failure) := fun _ h => ⟨h, rfl⟩

theorem follows_set {state : RunState} (h : P state) :
    Follows P (set state.quieted : Step Unit) (set state) := fun _ _ => ⟨h, rfl⟩

theorem follows_modify {change : RunState → RunState} (hkeeps : ∀ state, P state → P (change state))
    (hquiet : ∀ state, change state.quieted = (change state).quieted) :
    Follows P (modify change : Step Unit) (modify change) := fun state h =>
  ⟨hkeeps state h, Prod.ext rfl (hquiet state)⟩

theorem follows_bind {quiet loud : Step α} {quietNext loudNext : α → Step β}
    (hfirst : Follows P quiet loud)
    (hnext : ∀ value, Follows P (quietNext value) (loudNext value)) :
    Follows P (quiet >>= quietNext) (loud >>= loudNext) := by
  intro state h
  obtain ⟨hleaves, hquiet⟩ := hfirst state h
  refine ⟨leaves_bind hleaves fun value middle _ hmiddle => (hnext value middle hmiddle).1, ?_⟩
  rw [run_bind, run_bind, hquiet]
  rcases hloud : loud.run.run state with ⟨outcome, middle⟩
  cases outcome with
  | error failure => rfl
  | ok value => exact (hnext value middle (Gives.leaves hloud hleaves)).2

/-- The two runs read different states, so what follows is compared for both. -/
theorem follows_get_bind {quietNext loudNext : RunState → Step β}
    (h : ∀ state, P state → Follows P (quietNext state.quieted) (loudNext state)) :
    Follows P (get >>= quietNext) (get >>= loudNext) :=
  fun state hstate => h state hstate state hstate

theorem follows_mapM {quiet loud : α → Step β} (h : ∀ x, Follows P (quiet x) (loud x))
    (xs : List α) : Follows P (xs.mapM quiet) (xs.mapM loud) := by
  induction xs with
  | nil => exact follows_pure []
  | cons x xs ih =>
      rw [List.mapM_cons, List.mapM_cons]
      exact follows_bind (h x) fun value => follows_bind ih fun values => follows_pure _

end Step

namespace Highlighter

theorem Tells.mono {highlighter : Highlighter} {calls more : List Call} {notice : Notice}
    (h : highlighter.Tells calls notice) (hsubset : calls ⊆ more) :
    highlighter.Tells more notice := by
  obtain ⟨call, hcall, hreply⟩ := h
  exact ⟨call, hsubset hcall, hreply⟩

theorem Tells.exists_eq {highlighter : Highlighter} {calls : List Call} {notice : Notice}
    (h : highlighter.Tells calls notice) : ∃ warning, notice = .highlighterWarning warning := by
  obtain ⟨_, _, _, _, _, _, _, _, _, _, _, _, hnotice⟩ := h
  exact ⟨_, hnotice⟩

/-- A reply is only warned of if it is one of success. -/
theorem warning_of_mem_readReply {codec : Codec} {language : Language} {call : Call} {disk : Disk}
    {reply : Reply} {notice : Notice}
    (h : notice ∈ (readReply codec language call disk reply).notices) :
    ∃ warning, reply.status = 0 ∧ codec.decodeLossy reply.stderr = .ok warning ∧
      Text.trim warning ≠ [] ∧ notice = .highlighterWarning (Text.trim warning) := by
  rw [readReply] at h
  split at h
  · cases h
  · next warning hwarning =>
      dsimp only at h
      split at h
      · cases h
      · next hstatus =>
          dsimp only at h
          split at h
          · cases h
          · next hstderr =>
              exact ⟨warning, not_not.1 hstatus, hwarning, hstderr, List.mem_singleton.1 h⟩

theorem tells_of_mem_run {highlighter : Highlighter} {disk : Disk} {language : Language}
    {text : Text} {notice : Notice} (h : notice ∈ (highlighter.run disk language text).notices) :
    highlighter.Tells (highlighter.run disk language text).calls notice := by
  have hruns := highlighter.runsTo_run disk language text
  generalize highlighter.run disk language text = traced at h hruns ⊢
  cases hruns with
  | unknown _ => cases h
  | unencodable _ _ => cases h
  | unanswered _ _ _ => cases h
  | answered hcodec hstdin hreply =>
      rw [calls_readReply]
      obtain ⟨warning, hstatus, hwarning, hstderr, hnotice⟩ := warning_of_mem_readReply h
      exact ⟨_, List.mem_singleton_self _, _, disk, _, _, warning, hcodec, hreply, hstatus,
        hwarning, hstderr, hnotice⟩

/-- All that highlighting prints comes from the error stream of its call. -/
theorem tells_of_mem_highlight {highlighter : Highlighter} {disk : Disk} {language : Language}
    {sections : List Section} {notice : Notice}
    (h : notice ∈ (highlighter.highlight disk language sections).notices) :
    highlighter.Tells (highlighter.highlight disk language sections).calls notice :=
  tells_of_mem_run h

end Highlighter

namespace RunState

variable {highlighter : Highlighter} {state : RunState}

theorem Explained.append (h : Explained highlighter state) {calls : List Call}
    {notices : List Notice} (hnew : ∀ notice ∈ notices, Explains highlighter calls notice)
    (disk : Disk) : Explained highlighter
      { state with disk, calls := state.calls ++ calls, notices := state.notices ++ notices } := by
  intro notice hmem
  rcases List.mem_append.1 hmem with hold | hmem
  · obtain ⟨hline, htells⟩ := h notice hold
    exact ⟨hline, fun hwarning => (htells hwarning).mono (List.subset_append_left ..)⟩
  · obtain ⟨hline, htells⟩ := hnew notice hmem
    exact ⟨hline, fun hwarning => (htells hwarning).mono (List.subset_append_right ..)⟩

theorem explains_of_tells {calls : List Call} {notice : Notice}
    (h : highlighter.Tells calls notice) : Explains highlighter calls notice := by
  refine ⟨?_, fun _ => h⟩
  obtain ⟨_, rfl⟩ := h.exists_eq
  show (Text.dropStart? Notice.warningStart (Notice.warningStart ++ _)).isSome = true
  rw [Text.dropStart?_append, Option.isSome_some]

end RunState

/-- A notice of the run itself, of which a quiet run prints nothing. -/
def Notice.IsProgress (notice : Notice) : Prop :=
  notice.isWarning = false ∧ Text.startsWith warningStart notice.text = false

theorem Context.isProgress_of_mem_collect {registry : Registry} {disk : Disk} {context : Context} :
    ∀ notice ∈ (context.collect registry disk).2, notice.IsProgress := by
  fun_induction collect registry disk context with
  | case1 => simp
  | case2 context path pending _ place _ _ final notices heq ih =>
      rw [heq] at ih
      exact List.forall_mem_cons.2 ⟨⟨rfl, rfl⟩, ih⟩
  | case3 context path pending _ place _ _ ih => exact ih
  | case4 context path pending _ _ _ final notices heq ih =>
      rw [heq] at ih
      exact List.forall_mem_cons.2 ⟨⟨rfl, rfl⟩, ih⟩
  | case5 context path pending _ _ language _ ih => exact ih

namespace Generator

open Step

variable {generator : Generator}

/-- A generator that is quiet or loud, and otherwise the same. -/
def withQuiet (generator : Generator) (quiet : Bool) : Generator :=
  { generator with settings := { generator.settings with quiet } }

theorem follows_report {notice : Notice} (h : notice.IsProgress) :
    Follows (RunState.Explained generator.highlighter) ((generator.withQuiet true).report notice)
      ((generator.withQuiet false).report notice) := by
  intro state hstate
  refine ⟨?_, ?_⟩
  · have hnew : ∀ other ∈ [notice], RunState.Explains generator.highlighter [] other := by
      intro other hother
      rw [List.mem_singleton.1 hother]
      exact ⟨h.2.trans h.1.symm, fun hwarning => by rw [h.1] at hwarning; cases hwarning⟩
    have happend := hstate.append hnew state.disk
    rw [List.append_nil] at happend
    exact happend
  · have hquiet : ({ state with notices := state.notices ++ [notice] } : RunState).quieted =
        state.quieted := by
      simp [RunState.quieted, List.filter_append, h.1]
    exact Prod.ext rfl hquiet.symm

theorem follows_forM_report {notices : List Notice} (h : ∀ notice ∈ notices, notice.IsProgress) :
    Follows (RunState.Explained generator.highlighter)
      (notices.forM (generator.withQuiet true).report)
      (notices.forM (generator.withQuiet false).report) := by
  induction notices with
  | nil => exact follows_pure ()
  | cons notice notices ih =>
      exact follows_bind (follows_report (h notice (List.mem_cons_self ..))) fun _ =>
        ih fun other hmem => h other (List.mem_cons_of_mem _ hmem)

theorem follows_collect :
    Follows (RunState.Explained generator.highlighter) (generator.withQuiet true).collect
      (generator.withQuiet false).collect := by
  refine follows_get_bind fun state hstate => follows_bind (follows_set hstate) fun _ => ?_
  exact follows_bind (follows_forM_report Context.isProgress_of_mem_collect) fun _ => follows_pure _

theorem follows_change (toFailure : Disk.Fault → Failure) (act : Disk → Disk.Change) :
    Follows (RunState.Explained generator.highlighter) (change toFailure act)
      (change toFailure act) := by
  refine follows_get_bind fun state hstate => follows_bind (follows_set hstate) fun _ => ?_
  have hdisk : state.quieted.disk = state.disk := rfl
  rw [hdisk]
  cases (act state.disk).1 with
  | ok value => exact follows_pure ()
  | error fault => exact follows_throw _

theorem follows_writeFile (path content : Text) :
    Follows (RunState.Explained generator.highlighter) (writeFile path content)
      (writeFile path content) :=
  follows_bind (follows_change _ _) fun _ => follows_bind (follows_change _ _) fun _ =>
    follows_pure path

theorem follows_absorb {α : Type} {traced : Traced α}
    (h : ∀ notice ∈ traced.notices, generator.highlighter.Tells traced.calls notice) :
    Follows (RunState.Explained generator.highlighter) (absorb traced) (absorb traced) := by
  refine follows_bind (follows_modify (fun state hstate => ?_) fun state => ?_) fun _ => ?_
  · exact hstate.append (fun notice hmem => RunState.explains_of_tells (h notice hmem)) traced.disk
  · have hfilter : traced.notices.filter Notice.isWarning = traced.notices := by
      refine List.filter_eq_self.2 fun notice hmem => ?_
      obtain ⟨_, rfl⟩ := (h notice hmem).exists_eq
      rfl
    simp [RunState.quieted, List.filter_append, hfilter]
  · cases traced.result with
    | ok value => exact follows_pure value
    | error failure => exact follows_throw failure

theorem follows_buildSections (source : Text) :
    Follows (RunState.Explained generator.highlighter)
      ((generator.withQuiet true).buildSections source)
      ((generator.withQuiet false).buildSections source) := by
  have hregistry (quiet : Bool) : (generator.withQuiet quiet).registry = generator.registry := rfl
  have hread (quiet : Bool) (disk : Disk) :
      (generator.withQuiet quiet).readSource disk source = generator.readSource disk source := rfl
  rw [buildSections, buildSections, hregistry, hregistry]
  cases generator.registry.forPath source with
  | none => exact follows_pure []
  | some language =>
      refine follows_get_bind fun state _ => ?_
      have hdisk : state.quieted.disk = state.disk := rfl
      rw [hread, hread, hdisk]
      cases generator.readSource state.disk source with
      | error failure => exact follows_throw failure
      | ok text => exact follows_absorb fun notice => Highlighter.tells_of_mem_highlight

/-- One step of the loop. -/
theorem follows_document (source : Text) :
    Follows (RunState.Explained generator.highlighter)
      ((generator.withQuiet true).document source)
      ((generator.withQuiet false).document source) := by
  refine follows_bind (follows_report ⟨rfl, rfl⟩) fun _ => ?_
  refine follows_bind (follows_buildSections source) fun sections => ?_
  refine follows_get_bind fun state _ => follows_bind (follows_writeFile _ _) fun page => ?_
  refine follows_bind (follows_modify (fun _ hnow => hnow) fun _ => rfl) fun _ => ?_
  exact follows_bind (follows_report ⟨rfl, rfl⟩) fun _ => follows_pure page

theorem follows_execute :
    Follows (RunState.Explained generator.highlighter) (generator.withQuiet true).execute
      (generator.withQuiet false).execute := by
  refine follows_bind follows_collect fun sources => ?_
  split
  · refine follows_bind (follows_report ⟨rfl, rfl⟩) fun _ => ?_
    exact follows_get_bind fun state _ => follows_pure _
  · refine follows_bind (follows_change _ _) fun _ => ?_
    refine follows_bind (follows_writeFile _ _) fun _ => ?_
    refine follows_bind (follows_mapM follows_document sources) fun pages => ?_
    refine follows_bind (follows_report ⟨rfl, rfl⟩) fun _ => ?_
    exact follows_get_bind fun state _ => follows_pure _

/-- A quiet run ends as a loud one does and leaves the same behind. It prints the same warnings
of the highlighter in the same order and nothing else, and all of them were written by the
highlighter to its error stream. -/
theorem execute_quietly (generator : Generator) (disk : Disk) (context : Context) :
    let before : RunState := { disk, context }
    let quiet := (generator.withQuiet true).execute.run.run before
    let loud := (generator.withQuiet false).execute.run.run before
    quiet.1 = loud.1 ∧
    quiet.2 = { loud.2 with notices := loud.2.notices.filter Notice.isWarning } ∧
    ∀ notice ∈ loud.2.notices,
      (notice.isWarning = true ↔ Text.startsWith Notice.warningStart notice.text = true) ∧
      (notice.isWarning = true ↔ generator.highlighter.Tells loud.2.calls notice) := by
  intro before quiet loud
  have hbefore : RunState.Explained generator.highlighter before := by
    intro notice hmem
    cases hmem
  obtain ⟨hexplained, hruns⟩ := follows_execute before hbefore
  have hquiet : quiet = (loud.1, loud.2.quieted) := hruns
  rw [hquiet]
  refine ⟨rfl, rfl, fun notice hmem => ?_⟩
  obtain ⟨hline, htells⟩ := hexplained notice hmem
  refine ⟨by rw [hline], htells, fun h => ?_⟩
  obtain ⟨_, rfl⟩ := h.exists_eq
  rfl

end Generator
end Marginalia

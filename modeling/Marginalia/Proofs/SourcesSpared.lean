import Marginalia.Proofs.RunInvariants

/-!
# Sources are spared

The output directory may be the directory of the sources, lie in it or around it.
No source is overwritten all the same: it has a registered extension, and the
names of all outputs end in another one, so that no spelling of the two paths can
lead to one place. Directories are made where nothing is.

This is an invariant of the run, whether or not the run succeeds, and of the
highlighter no more is asked than that it spares the sources, too.
-/

namespace Marginalia

open Marginalia.Disk (Updated)
open Marginalia.Step (Leaves)

/-- The place that the end of a walk is at. -/
def Disk.Spot.place : Disk.Spot → Location
  | .present place _ => place
  | .vacant place => place

@[simp] theorem Disk.place_spotAt (disk : Disk) (place : Location) :
    (disk.spotAt place).place = place := by
  rw [spotAt]
  split <;> rfl

/-- The sources that could be reached on the disk `before` can be reached, and hold what
they held. -/
structure Spares (before : Disk) (sources : List Text) (now : Disk) : Prop where
  linkFree : now.LinkFree
  cwd_eq : now.cwd = before.cwd
  reaches : ∀ source ∈ sources, before.Reaches source → now.Reaches source
  files : ∀ source ∈ sources, ∀ content,
    now.get? (before.placeOf source) = some (.file content) ↔
      before.get? (before.placeOf source) = some (.file content)

namespace Spares

variable {before now after : Disk} {sources : List Text} {dirs : List Location}
  {files : List (Location × Bytes)}

theorem refl {disk : Disk} (hfree : disk.LinkFree) (sources : List Text) :
    Spares disk sources disk where
  linkFree := hfree
  cwd_eq := rfl
  reaches _ _ h := h
  files _ _ _ := Iff.rfl

theorem placeOf_eq (h : Spares before sources now) (path : Text) :
    now.placeOf path = before.placeOf path := by
  rw [Disk.placeOf, Disk.placeOf, Disk.start, Disk.start, h.cwd_eq]

/-- Sources stay spared as long as nothing is written to their places. -/
theorem updated (h : Spares before sources now) (hupdated : Updated now after dirs files)
    (hother : ∀ source ∈ sources, ∀ entry ∈ files, entry.1 ≠ before.placeOf source) :
    Spares before sources after where
  linkFree := hupdated.linkFree h.linkFree
  cwd_eq := hupdated.cwd_eq.trans h.cwd_eq
  reaches source hmem hreaches :=
    (h.reaches source hmem hreaches).mono hupdated.cwd_eq hupdated.kept
  files source hmem content := by
    rw [← h.files source hmem]
    refine ⟨fun hfile => hupdated.get?_of_file hfile (hother source hmem), fun hfile => ?_⟩
    rcases hupdated.rest _ (Disk.lastWritten?_eq_none (hother source hmem)) with
      hsame | ⟨_, hnone, _⟩
    · rw [hsame, hfile]
    · rw [hfile] at hnone
      cases hnone

/-- A source that could be read reads as before. -/
theorem readFile_eq (h : Spares before sources now) (hfree : before.LinkFree) {source : Text}
    (hmem : source ∈ sources) {content : Bytes} (hread : before.readFile source = .ok content) :
    now.readFile source = .ok content := by
  obtain ⟨hreaches, hfile⟩ := (Disk.readFile_iff hfree).1 hread
  refine (Disk.readFile_iff h.linkFree).2 ⟨h.reaches source hmem hreaches, ?_⟩
  rw [h.placeOf_eq]
  exact (h.files source hmem content).2 hfile

end Spares

namespace Generator

variable {generator : Generator} {sources : List Text}

/-- No output has the place of a source, whatever their paths look like. -/
theorem placeOf_ne_of_mem_outputs {source : Text}
    (hsome : (generator.registry.forPath source).isSome) (disk : Disk) {path : Text}
    (h : path ∈ generator.outputs sources) : disk.placeOf path ≠ disk.placeOf source := by
  obtain ⟨language, hlanguage⟩ := Option.isSome_iff_exists.1 hsome
  rcases List.mem_cons.1 h with rfl | hmem
  · exact Registry.placeOf_ne_stylesheetPath hlanguage disk _
  · obtain ⟨other, _, rfl⟩ := List.mem_map.1 hmem
    exact Registry.placeOf_ne_pagePath hlanguage disk _ other

theorem preserves_spares {before : Disk}
    (hsome : ∀ source ∈ sources, (generator.registry.forPath source).isSome)
    (hrunner : ∀ now command stdin, Spares before sources now →
      Spares before sources (generator.highlighter.runner now command stdin).2) :
    generator.Preserves (Spares before sources) (generator.outputs sources) where
  makeDirs now path h :=
    h.updated (Disk.updated_makeDirs h.linkFree path) fun _ _ _ hnil => by cases hnil
  writeText now path hpath text h := by
    obtain ⟨files, hfiles, hupdated⟩ := Disk.updated_writeText h.linkFree path text
    refine h.updated hupdated fun source hmem entry hentry => ?_
    rw [(hfiles entry hentry).1, h.placeOf_eq]
    exact placeOf_ne_of_mem_outputs (hsome source hmem) before hpath
  runner := hrunner

/-- A run spares its sources: no output is at the place of a source, and at the end, whether
it is a success or a failure, all sources hold what they held. -/
theorem execute_spares {disk : Disk} (hfree : disk.LinkFree) (inputs : List Text) :
    let sources := (Context.collect generator.registry disk { pending := inputs }).1.sources
    (∀ now : Disk, now.LinkFree → ∀ path ∈ generator.outputs sources, ∀ source ∈ sources,
      ∀ place spot, now.filePlace path = .ok place → now.resolve source = .ok spot →
        place ≠ spot.place) ∧
    ((∀ now command stdin, Spares disk sources now →
        Spares disk sources (generator.highlighter.runner now command stdin).2) →
      generator.execute.Leaves { disk, context := { pending := inputs } } fun after =>
        Spares disk sources after.disk ∧
        ∀ source ∈ sources, ∀ content, disk.readFile source = .ok content →
          after.disk.readFile source = .ok content) := by
  intro sources
  have hsome : ∀ source ∈ sources, (generator.registry.forPath source).isSome :=
    Context.forPath_of_mem_sources fun _ hnil => by cases hnil
  refine ⟨fun now hnow path hpath source hsource place spot hplace hresolve => ?_, fun hrunner => ?_⟩
  · obtain ⟨_, _, _, _, rfl⟩ := Disk.passes_of_resolve hnow hresolve
    rw [Disk.place_spotAt, (Disk.filePlace_eq_ok hnow hplace).1]
    exact placeOf_ne_of_mem_outputs (hsome source hsource) now hpath
  · have hspares : generator.execute.Leaves { disk, context := { pending := inputs } }
        (Spares disk sources ·.disk) :=
      leaves_execute (preserves_spares hsome hrunner) (.refl hfree sources)
    exact ⟨hspares, fun source hmem content hread => Spares.readFile_eq hspares hfree hmem hread⟩

/-- A run into the directory of its sources. -/
def inPlace : Generator where
  settings := { outputDir := "./b/..".toList }
  highlighter := Highlighter.ofLines

theorem execute_spares_inPlace :
    (inPlace.execute.run.run
        { disk := sampleDisk [], context := { pending := sampleSources } }).2.disk.readFile
      "a.py".toList = .ok (Utf8.encode "#x\n".toList) := by
  have hsources : (Context.collect inPlace.registry (sampleDisk [])
      { pending := sampleSources }).1.sources = sampleSources :=
    congrArg (·.sources) collect_sample
  have hkeeps : inPlace.highlighter.runner.KeepsDisk := Runner.keepsDisk_ofReplies _
  have hread : (sampleDisk []).readFile "a.py".toList = .ok (Utf8.encode "#x\n".toList) := by
    cbv
  have hspares := (inPlace.execute_spares linkFree_sampleDisk sampleSources).2
    fun now command stdin hnow => by rwa [hkeeps now command stdin]
  exact hspares.2 "a.py".toList (by rw [hsources]; decide) _ hread

end Generator
end Marginalia

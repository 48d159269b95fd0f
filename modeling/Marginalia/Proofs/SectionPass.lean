import Marginalia.Section.Basic

/-!
# The pass over a source, line by line

The pass goes forward and carries an open section with it. What it makes of a line and
all lines after it can as well be told from the end: the line is put in front of the
sections of the later ones, and the docs of the first of these say whether code may join
it. Both are the same because a section that is open takes over the first of the later
sections, unless it has code and that one has comments. This is what `Pass.before` says,
and it is what the induction carries.
-/

namespace Marginalia.Section

/-- Puts a comment line in front of sections; it opens the first one or joins its docs. -/
def addDocs (line : Text) : List Section → List Section
  | [] => [{ docs := line ++ ['\n'] }]
  | first :: rest => { first with docs := line ++ '\n' :: first.docs } :: rest

/--
Puts a code line in front of sections. It joins the code of the first one, unless
that starts with a comment, before which code ends a section of its own.
-/
def addCode (line : Text) : List Section → List Section
  | [] => [{ code := line ++ ['\n'] }]
  | first :: rest =>
    if first.docs = [] then { first with code := line ++ '\n' :: first.code } :: rest
    else { code := line ++ ['\n'] } :: first :: rest

/-- Puts a line in front of sections, by its kind. -/
def addLine (language : Language) (line : Text) (sections : List Section) : List Section :=
  if language.isComment line then addDocs (language.stripComment line) sections
  else addCode line sections

/-- What an open section and the sections of the later lines come to. -/
def Pass.before (pass : Pass) : List Section → List Section
  | [] => [{ docs := pass.docs, code := pass.code }]
  | first :: rest =>
    if pass.hasCode && first.docs ≠ [] then
      { docs := pass.docs, code := pass.code } :: first :: rest
    else { first with docs := pass.docs ++ first.docs, code := pass.code ++ first.code } :: rest

variable {language : Language}

/-- A line that is put in front of later sections, or taken in before them. -/
theorem Pass.before_addLine (pass : Pass) (line : Text) (sections : List Section) :
    pass.sealed ++ pass.before (addLine language line sections) =
      (pass.take language line).sealed ++ (pass.take language line).before sections := by
  obtain ⟨done, docs, code, hasCode⟩ := pass
  rw [addLine, Pass.take]
  split
  · -- a comment never joins an open section that has code
    cases hasCode <;> cases sections <;> simp [addDocs, Pass.before, Pass.seal]
  · cases sections with
    | nil => simp [addCode, Pass.before]
    | cons first rest =>
        rw [addCode]
        split <;> simp_all [Pass.before]

theorem Pass.seal_foldl (lines : List Text) (pass : Pass) :
    (lines.foldl (Pass.take language) pass).seal =
      pass.sealed ++ pass.before (lines.foldr (addLine language) [{}]) := by
  induction lines generalizing pass with
  | nil => simp [Pass.seal, Pass.before]
  | cons line lines ih => rw [List.foldl_cons, ih, List.foldr_cons, Pass.before_addLine]

theorem addLine_ne_nil (line : Text) (sections : List Section) :
    addLine language line sections ≠ [] := by
  rw [addLine]
  split
  · cases sections <;> exact List.cons_ne_nil _ _
  · cases sections with
    | nil => exact List.cons_ne_nil _ _
    | cons first rest =>
        rw [addCode]
        split <;> exact List.cons_ne_nil _ _

theorem ofLines_eq_foldr (language : Language) (lines : List Text) :
    ofLines language lines = lines.foldr (addLine language) [{}] := by
  rw [ofLines, Pass.seal_foldl]
  have hsome : lines.foldr (addLine language) [{}] ≠ [] := by
    cases lines with
    | nil => exact List.cons_ne_nil _ _
    | cons line lines => exact addLine_ne_nil line _
  cases hsections : lines.foldr (addLine language) [{}] with
  | nil => exact absurd hsections hsome
  | cons first rest => simp [Pass.before]

theorem ofLines_nil (language : Language) : ofLines language [] = [{}] := rfl

theorem ofLines_cons (language : Language) (line : Text) (lines : List Text) :
    ofLines language (line :: lines) = addLine language line (ofLines language lines) := by
  rw [ofLines_eq_foldr, ofLines_eq_foldr, List.foldr_cons]

end Marginalia.Section

import Marginalia.Language.Basic

/-!
# Sections

A source is a sequence of sections, each a run of comment lines with the run of
code lines after it. A comment line that follows code opens a new section, and
the last section is always there, so no source is without one.
-/

namespace Marginalia

/-- A comment run and the code run that follows it, with their HTML once it is known. -/
structure Section where
  docs : Text := []
  code : Text := []
  docsHtml : Option Text := none
  codeHtml : Option Text := none
  deriving DecidableEq, Repr

/-- The lines of a source; a final newline ends the last line and starts none. -/
def splitLines (source : Text) : List Text :=
  let lines := Text.splitOn '\n' (Text.foldCrLf source)
  if lines.getLast? = some [] then lines.dropLast else lines

namespace Section

/-- Where the pass over the lines of a source stands: the sections that are sealed, and
what the open one has so far. -/
structure Pass where
  sealed : List Section := []
  docs : Text := []
  code : Text := []
  hasCode : Bool := false

/-- The sections with the open one sealed. -/
def Pass.seal (pass : Pass) : List Section :=
  pass.sealed ++ [{ docs := pass.docs, code := pass.code }]

/-- Takes in a line. A comment after code seals the open section first. -/
def Pass.take (language : Language) (pass : Pass) (line : Text) : Pass :=
  if language.isComment line then
    let opened := if pass.hasCode then { sealed := pass.seal } else pass
    { opened with docs := opened.docs ++ language.stripComment line ++ ['\n'] }
  else { pass with hasCode := true, code := pass.code ++ line ++ ['\n'] }

/-- The sections of lines. The open section is sealed at the end, whatever it has. -/
def ofLines (language : Language) (lines : List Text) : List Section :=
  (lines.foldl (Pass.take language) {}).seal

/-- The sections of a source. -/
def ofSource (language : Language) (source : Text) : List Section :=
  ofLines language (splitLines source)

end Section
end Marginalia

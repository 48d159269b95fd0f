import Marginalia.Markup.Line
import Marginalia.Text.Word

/-!
# Fenced code

Code between two fences is taken out of a text before anything else is read,
whatever it holds. What is left are stretches of lines.
-/

namespace Marginalia.Markup

/-- A character of the name of a language. -/
def isLanguageChar (c : Char) : Bool :=
  isWordChar c || c == '#' || c == '.' || c == '+' || c == '-'

/-- The fence and the language of a line that opens fenced code. -/
def openingFence? (line : Text) : Option (Text × Text) :=
  let fence :=
    match line with
    | '~' :: _ => line.takeWhile (· == '~')
    | _ => line.takeWhile (· == '`')
  let info := (line.drop fence.length).dropWhile (· == ' ')
  let info := (Text.dropStart? ['.'] info).getD info
  let language := info.takeWhile isLanguageChar
  if fence.length < 3 || !(info.drop language.length).all (· == ' ') then none
  else some (fence, language)

/-- Whether a line closes code that a fence opened. -/
def closesFence (fence line : Text) : Bool :=
  match Text.dropStart? fence line with
  | some rest => rest.all (· == ' ')
  | none => false

/-- A stretch of text: lines, or fenced code in a language if one is named. -/
inductive Stretch where
  | lines (lines : Lines)
  | fenced (language code : Text)

/-- The text of the lines; fenced code is not read as text. -/
def Stretch.text : Stretch → Text
  | .lines held => held.join
  | .fenced .. => []

/-- The stretch with another text for its lines. A stretch without lines stays so. -/
def Stretch.withText : Stretch → Text → Stretch
  | .lines [], _ => .lines []
  | .lines _, text => .lines (Text.splitOn '\n' text)
  | .fenced language code, _ => .fenced language code

/-- The lines up to a closing fence, and the lines after it. -/
def untilFence? (fence : Text) : Lines → Option (Lines × Lines)
  | [] => none
  | line :: lines =>
    if closesFence fence line then some ([], lines)
    else (untilFence? fence lines).map fun (code, rest) => (line :: code, rest)

theorem length_of_untilFence? {fence : Text} {lines code rest : Lines}
    (h : untilFence? fence lines = some (code, rest)) : rest.length ≤ lines.length := by
  induction lines generalizing code with
  | nil => simp [untilFence?] at h
  | cons line lines ih =>
    simp only [untilFence?] at h
    split at h
    · simp only [Option.some.injEq, Prod.mk.injEq] at h
      simp [h.2]
    · obtain ⟨⟨inner, after⟩, hrec, heq⟩ := Option.map_eq_some_iff.1 h
      simp only [Prod.mk.injEq] at heq
      have := ih (heq.2 ▸ hrec)
      simp only [List.length_cons]
      omega

/-- The fenced code that a line opens: its language, the code, and the lines after it. -/
def fencedCode? (line : Text) (lines : Lines) : Option (Text × Lines × Lines) :=
  (openingFence? line).bind fun (fence, language) =>
    (untilFence? fence lines).map fun (code, rest) => (language, code, rest)

theorem length_of_fencedCode? {line language : Text} {lines code rest : Lines}
    (h : fencedCode? line lines = some (language, code, rest)) : rest.length ≤ lines.length := by
  obtain ⟨⟨fence, name⟩, _, hmap⟩ := Option.bind_eq_some_iff.1 h
  obtain ⟨⟨inner, after⟩, huntil, heq⟩ := Option.map_eq_some_iff.1 hmap
  simp only [Prod.mk.injEq] at heq
  have := length_of_untilFence? huntil
  simpa only [heq.2.2] using this

/-- Cuts lines into stretches; `held` are the lines of the open one, last first. -/
def stretchesFrom (held lines : Lines) : List Stretch :=
  match lines with
  | [] => [.lines held.reverse]
  | line :: lines =>
    match _h : fencedCode? line lines with
    | some (language, code, rest) =>
      .lines held.reverse :: .fenced language (Text.unlines code) :: stretchesFrom [] rest
    | none => stretchesFrom (line :: held) lines
termination_by lines.length
decreasing_by
  · have := length_of_fencedCode? _h
    simp only [List.length_cons]
    omega
  · simp

/-- The stretches of lines, if fences have a meaning; otherwise all lines are one. -/
def Lines.stretches (fences : Bool) (lines : Lines) : List Stretch :=
  if fences then stretchesFrom [] lines else [.lines lines]

end Marginalia.Markup

import Marginalia.Html
import Marginalia.Language.Basic

/-!
# Dividers

All code of a file is highlighted in one piece. Between two fragments stands a
divider: a comment line of the language, which the highlighter returns as a
marker, its text escaped inside a `span` of a comment class. Splitting takes
the newlines around a marker away with it.
-/

namespace Marginalia

namespace Text

/-- A text that begins with `start` is as long as `start` and the rest together. -/
theorem length_of_dropStart? {start text rest : Text} (h : dropStart? start text = some rest) :
    text.length = start.length + rest.length := by
  induction start generalizing text with
  | nil => simp only [dropStart?, Option.some.injEq] at h; simp [h]
  | cons a start ih =>
    cases text with
    | nil => simp [dropStart?] at h
    | cons b text =>
      simp only [dropStart?] at h
      split at h
      · simp [ih h]; omega
      · simp at h

end Text

namespace Language

/-- The comment line that divides two fragments. -/
def dividerLine (language : Language) : Text :=
  language.symbol ++ "DIVIDER".toList

/-- What stands between two fragments of code: the divider on a line of its own. -/
def dividerText (language : Language) : Text :=
  '\n' :: language.dividerLine ++ ['\n']

/-- What a marker starts with, up to its class. -/
def markerStart : Text := "<span class=\"".toList

/-- What stands between the class of a marker and its text. -/
def markerMiddle : Text := "\">".toList

/-- What a marker ends with. -/
def markerEnd : Text := "</span>".toList

/-- The divider as the highlighter shows it under one class. -/
def marker (language : Language) (cls : Text) : Text :=
  markerStart ++ cls ++ markerMiddle ++ Html.escape .kept language.dividerLine ++ markerEnd

/-- The markers that are recognised. Without any class, it is the one with an empty class. -/
def markers (language : Language) : List Text :=
  (if language.classes = [] then [[]] else language.classes).map language.marker

/-- What follows the first of the markers that the text begins with. -/
def afterMarker? (language : Language) (text : Text) : Option Text :=
  language.markers.findSome? (Text.dropStart? · text)

theorem length_marker_pos (language : Language) (cls : Text) :
    0 < (language.marker cls).length := by
  have h : 0 < markerStart.length := by decide
  simp only [marker, List.length_append]
  omega

theorem length_of_afterMarker? {language : Language} {text rest : Text}
    (h : language.afterMarker? text = some rest) : rest.length < text.length := by
  obtain ⟨marker, hmem, hdrop⟩ := List.exists_of_findSome?_eq_some h
  obtain ⟨cls, _, rfl⟩ := List.mem_map.1 hmem
  have hlen := Text.length_of_dropStart? hdrop
  have hpos := language.length_marker_pos cls
  omega

/-- The pieces of a text between its markers, taken from the left. -/
def cutAtMarkers (language : Language) (text : Text) : List Text :=
  match text with
  | [] => [[]]
  | c :: text =>
    match _h : language.afterMarker? (c :: text) with
    | some rest => [] :: cutAtMarkers language rest
    | none => Text.consPiece c (cutAtMarkers language text)
termination_by text.length
decreasing_by
  · exact length_of_afterMarker? _h
  · simp

/-- Whether a character is a newline. -/
def isNewline (c : Char) : Bool := c == '\n'

/-- Pieces that follow a marker: leading newlines go, and trailing ones before a further marker. -/
def trimFollowing : List Text → List Text
  | [] => []
  | [piece] => [piece.dropWhile isNewline]
  | piece :: next :: pieces =>
    Text.dropEndWhile isNewline (piece.dropWhile isNewline) :: trimFollowing (next :: pieces)

/-- Takes the newlines next to markers off the pieces between them. -/
def trimPieces : List Text → List Text
  | [] => []
  | [piece] => [piece]
  | piece :: next :: pieces =>
    Text.dropEndWhile isNewline piece :: trimFollowing (next :: pieces)

/-- The fragments of highlighted text: what stands between markers and the newlines around them. -/
def splitAtDividers (language : Language) (text : Text) : List Text :=
  trimPieces (cutAtMarkers language text)

end Language
end Marginalia

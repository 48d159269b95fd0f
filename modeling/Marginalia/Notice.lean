import Marginalia.Text.Basic

/-!
# Notices

The lines that a run prints as it goes. All but the highlighter's warnings are
left out by a quiet run.
-/

namespace Marginalia

/-- One line that a run prints. -/
inductive Notice where
  /-- A directory was reached a second time. -/
  | alreadyExpanded (path : Text)
  /-- A file has no known language. -/
  | unsupported (path : Text)
  /-- The inputs hold no source at all. -/
  | noSources
  /-- A source is about to be documented. -/
  | parsing (source : Text)
  /-- The page of a source was written. -/
  | documented (source page : Text) (sections : Nat)
  /-- All pages were written. -/
  | finished (pages : Nat) (outputDir : Text)
  /-- The highlighter succeeded but wrote to its error stream. -/
  | highlighterWarning (stderr : Text)
  /-- Any other remark. -/
  | remark (text : Text)
  deriving DecidableEq, Repr

namespace Notice

/-- Whether a notice is printed by a quiet run too. -/
def isWarning : Notice → Bool
  | highlighterWarning _ => true
  | _ => false

/-- The line that is printed, without its end. -/
def text : Notice → Text
  | alreadyExpanded path => "[skip] ".toList ++ path ++ " (already expanded)".toList
  | unsupported path => "[skip] ".toList ++ path ++ " (unsupported language)".toList
  | noSources => "[warn] No supported source files".toList
  | parsing source => "[parse] ".toList ++ source
  | documented source page sections =>
    "[ok] ".toList ++ source ++ " -> ".toList ++ page ++ " sections=".toList ++ Text.ofNat sections
  | finished pages outputDir =>
    "[done] ".toList ++ Text.ofNat pages ++ " pages written to ".toList ++ outputDir
  | highlighterWarning stderr => "[warn] highlighter: ".toList ++ stderr
  | remark text => text

end Notice

/-- The printed form of notices, a line each. -/
def printed (notices : List Notice) : Text :=
  Text.unlines (notices.map Notice.text)

end Marginalia

import Marginalia.Encoding.Basic
import Marginalia.Highlighter.Basic
import Marginalia.Html

/-!
# A highlighter of lines

The plainest highlighter that the generator works with: it escapes each line and
marks the lines that are dividers. Its replies can be set to anything else, by
language, to see how the generator takes them.
-/

namespace Marginalia

/-- How the line highlighter answers. -/
structure LineReply where
  status : Int := 0
  /-- The output, if it is not to be made from the input. -/
  stdout : Option Bytes := none
  stderr : Bytes := []
  /-- The class that divider lines are marked with. -/
  cls : Text := "c1".toList
  /-- The comment symbols whose dividers are marked. -/
  symbols : List Text := ["#".toList, "//".toList, "--".toList]

/-- The replies of the line highlighter: one for all languages, or one for each that is named. -/
inductive LineHighlighter where
  | uniform (reply : LineReply)
  | byLanguage (replies : List (Text × LineReply))

namespace LineReply

/-- Whether a line is the divider of one of the symbols. -/
def isDivider (reply : LineReply) (line : Text) : Bool :=
  reply.symbols.any fun symbol => line == symbol ++ "DIVIDER".toList

/-- One line as HTML. -/
def renderLine (reply : LineReply) (line : Text) : Text :=
  let escaped := Html.escape .highlighted line
  if reply.isDivider line then
    "<span class=\"".toList ++ reply.cls ++ "\">".toList ++ escaped ++ "</span>".toList
  else escaped

/-- Text without newlines at either end, and one newline after it. -/
def trimmed (text : Text) : Text :=
  Text.dropEndWhile (· == '\n') (text.dropWhile (· == '\n')) ++ ['\n']

/-- A whole input as HTML, without the tags around it. -/
def renderLines (reply : LineReply) (text : Text) : Text :=
  List.intercalate ['\n'] ((Text.splitOn '\n' (trimmed text)).map reply.renderLine)

/-- The text that is written in answer to a text. -/
def output (reply : LineReply) (text : Text) : Text :=
  Wrapper.opening ++ Wrapper.emptySpan ++ reply.renderLines text ++ Wrapper.closing ++ ['\n']

/-- The output for an input in an encoding. -/
def outputBytes (reply : LineReply) (encoding : Encoding) (stdin : Bytes) :
    Except RunnerFault Bytes := do
  let text ← (encoding.decode stdin).mapError .undecodable
  (encoding.encode (reply.output text)).mapError .unencodable

/-- The reply to an input. -/
def answer (reply : LineReply) (encoding : Encoding) (stdin : Bytes) :
    Except RunnerFault Reply := do
  let stdout ← match reply.stdout with
    | some stdout => pure stdout
    | none => reply.outputBytes encoding stdin
  return { status := reply.status, stdout, stderr := reply.stderr }

end LineReply

namespace LineHighlighter

/-- The argument after the first option that names a language. -/
def languageOf : List Text → Option Text
  | [] => none
  | argument :: arguments =>
    if argument = "-l".toList then arguments.head? else languageOf arguments

/-- The reply for a command. -/
def replyFor : LineHighlighter → List Text → LineReply
  | uniform reply, _ => reply
  | byLanguage replies, command =>
    ((languageOf command).bind (Dict.get? · replies)).getD {}

/-- The line highlighter as an outside program. -/
def runner (highlighter : LineHighlighter) (encoding : Encoding) : Runner :=
  .ofReplies fun command stdin => (highlighter.replyFor command).answer encoding stdin

end LineHighlighter
end Marginalia

import Marginalia.Disk.Basic
import Marginalia.Encoding.Codec

/-!
# Failures

What can end a run, by cause. The generator's own failures are reported by the
command line; the others are faults of a call that it makes without a report
of its own.
-/

namespace Marginalia

/-- Why a source could not be read. -/
inductive ReadFault where
  | refused (cause : Disk.Cause) (path : Text)
  | undecodable (fault : Undecodable)
  | other (reason : Text)
  deriving DecidableEq, Repr

/-- Why an output file could not be written. -/
inductive WriteFault where
  | refused (cause : Disk.Cause) (path : Text)
  | stopped (cause : Disk.Cause)
  | other (reason : Text)
  deriving DecidableEq, Repr

/-- What was wrong with a call of the highlighter. -/
inductive HighlighterFault where
  /-- The program could not be started. -/
  | notStarted (program : Text) (cause : Disk.Cause) (path : Text)
  /-- The program ended with a status other than zero. -/
  | exited (status : Int) (language : Text)
  /-- The program wrote nothing but white space. -/
  | silent (language : Text)
  /-- The program wrote something that is not one highlighted block. -/
  | unexpected (language : Text) (output : Text)
  | other (message : Text)
  deriving DecidableEq, Repr

/-- A failure of other code that the generator uses, by its kind and in its own words. -/
structure ForeignFault where
  kind : Text
  message : Text
  deriving DecidableEq, Repr

/-- A part of a message that has no form of its own. -/
inductive Detail where
  | text (words : Text)
  | number (n : Int)
  | truth (holds : Bool)
  | absent
  deriving DecidableEq, Repr

/-- What ends a run early. -/
inductive Failure where
  /-- A source could not be read. -/
  | sourceRead (path : Text) (fault : ReadFault)
  /-- The highlighter failed; what it wrote to its error stream is kept if it was started. -/
  | highlighter (fault : HighlighterFault) (stderr : Option Text)
  /-- Highlighted code does not split back into the fragments that were sent. -/
  | dividerMismatch (language : Text) (expected actual : Int)
  /-- An output file could not be written. -/
  | outputWrite (path : Text) (fault : WriteFault)
  /-- A failure of the generator without a closer kind, told in any number of parts. -/
  | general (parts : List Detail)
  /-- The disk refused a call that is not reported as reading or writing. -/
  | disk (fault : Disk.Fault)
  /-- A relative path was asked for from nothing. -/
  | noPath
  /-- No encoding has this name. -/
  | unknownEncoding (name : Text)
  /-- Text of a page, for the highlighter or of its answer has no bytes in the encoding. -/
  | unencodable (fault : Unencodable)
  /-- The highlighter was sent bytes that are no text to it. -/
  | undecodable (fault : Undecodable)
  /-- The encoding refuses text or bytes in words of its own. -/
  | codec (message : Text)
  /-- The environment file could not be loaded, or a comment could not be rendered. -/
  | foreign (fault : ForeignFault)
  deriving DecidableEq, Repr

/-- The reason of a failed read in words. -/
def ReadFault.message : ReadFault → Text
  | .refused cause path => (Disk.Fault.refused cause path).message
  | .undecodable fault => fault.message
  | .other reason => reason

/-- The reason of a failed write in words. -/
def WriteFault.message : WriteFault → Text
  | .refused cause path => (Disk.Fault.refused cause path).message
  | .stopped cause => (Disk.Fault.stopped cause).message
  | .other reason => reason

/-- How much of an unexpected output is shown. -/
def shownOutput : Nat := 80

/-- A highlighter's fault in words; what it wrote to its error stream follows its status. -/
def HighlighterFault.message (stderr : Option Text) : HighlighterFault → Text
  | .notStarted program cause path =>
    "could not start highlighter ".toList ++ Text.quoted program ++ ": ".toList ++
      (Disk.Fault.refused cause path).message
  | .exited status language =>
    "highlighter exited with status ".toList ++ Text.ofInt status ++ " for ".toList ++ language ++
      match stderr with
      | none | some [] => []
      | some text => ": ".toList ++ text
  | .silent language => "highlighter produced no output for ".toList ++ language
  | .unexpected language output =>
    "unexpected highlighter output for ".toList ++ language ++ ": ".toList ++
      Text.quoted (output.take shownOutput)
  | .other message => message

/-- A part in words. -/
def Detail.shown : Detail → Text
  | .text words => words
  | .number n => Text.ofInt n
  | .truth holds => if holds then "True".toList else "False".toList
  | .absent => "None".toList

/-- A part as it is listed among others: a text is quoted. -/
def Detail.listed : Detail → Text
  | .text words => Text.quoted words
  | part => part.shown

/-- A message of one part is that part; several are listed in brackets. -/
def partsMessage : List Detail → Text
  | [] => []
  | [part] => part.shown
  | parts => '(' :: List.intercalate ", ".toList (parts.map Detail.listed) ++ [')']

namespace Failure

/-- A failure in words. -/
def message : Failure → Text
  | sourceRead path fault => "could not read ".toList ++ path ++ ": ".toList ++ fault.message
  | highlighter fault stderr => fault.message stderr
  | dividerMismatch language expected actual =>
    language ++ ": highlighted output split into ".toList ++ Text.ofInt actual ++
      " fragments, expected ".toList ++ Text.ofInt expected
  | outputWrite path fault => "could not write ".toList ++ path ++ ": ".toList ++ fault.message
  | general parts => partsMessage parts
  | disk fault => fault.message
  | noPath => "no path specified".toList
  | unknownEncoding name => "unknown encoding: ".toList ++ name
  | unencodable fault => fault.message
  | undecodable fault => fault.message
  | codec message => message
  | foreign fault => fault.message

/-- Whether a failure is the generator's own, so that the command line reports it. -/
def isOwn : Failure → Bool
  | sourceRead .. | highlighter .. | dividerMismatch .. | outputWrite .. | general .. => true
  | disk _ | noPath | unknownEncoding _ | unencodable _ | undecodable _ | codec _ | foreign _ =>
    false

/-- The failure of a codec that is not reported as one of reading. -/
def ofCodec : CodecFault → Failure
  | .unencodable fault => unencodable fault
  | .undecodable fault => undecodable fault
  | .refused message => codec message

end Failure
end Marginalia

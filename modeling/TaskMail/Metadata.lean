import TaskMail.OsError
import TaskMail.Xml.Element
import TaskMail.Xml.Reference

/-!
# TaskMail.Metadata

What the workflow engine knows about a task, and the exchange that asks for it.

* `Metadata`            — the name of a workflow and its times.
* `workflowQuery`       — the question, one empty element.
* `ResponseFault`       — what can be wrong with an answer.
* `Metadata.ofResponse` — an answer: the attributes of its first element.
* `FetchFailure`        — why there is no metadata.
-/

namespace TaskMail

/-- What is not known is empty. -/
structure Metadata where
  name : String := ""
  startTime : String := ""
  endTime : String := ""
  deriving Repr, DecidableEq, Inhabited

def workflowQuery (taskId : String) : String :=
  "<workflow id=\"" ++ Xml.escape taskId ++ "\" />"

inductive ResponseFault where
  | markup (fault : Xml.MarkupFault)
  | attribute (fault : Xml.AttributeFault)
  | encoding (fault : Utf8.Fault)
  | reference (fault : Xml.ReferenceFault)
  deriving Repr, DecidableEq

def encodingText (fault : Utf8.Fault) : String :=
  match fault.size with
  | some n =>
    "invalid utf-8 sequence of " ++ toString n ++ " bytes from index " ++
      toString fault.validUpTo
  | none => "incomplete utf-8 byte sequence from index " ++ toString fault.validUpTo

def ResponseFault.text : ResponseFault → String
  | .markup fault => fault.text
  | .attribute fault => fault.text
  | .encoding fault => "cannot decode input using UTF-8: " ++ encodingText fault
  | .reference fault => fault.text

namespace Metadata

/-- The text that an attribute value spells. -/
def valueText (value : Bytes) : Except ResponseFault String :=
  match Utf8.decode? value with
  | some s => (Xml.unescape s).mapError .reference
  | none => .error (.encoding ((Utf8.fault? value).getD ⟨0, none⟩))

/-- Takes the value of an attribute that matters; the others are not looked at. -/
def assign (m : Metadata) (a : Xml.Attribute) : Except ResponseFault Metadata :=
  if a.key = Utf8.encode "name" then
    (valueText a.value).map fun v => { m with name := v }
  else if a.key = Utf8.encode "start_time" then
    (valueText a.value).map fun v => { m with startTime := v }
  else if a.key = Utf8.encode "end_time" then
    (valueText a.value).map fun v => { m with endTime := v }
  else .ok m

/-- The metadata in the content of a tag. Of several faults the leftmost is reported. -/
def ofTag (content : Bytes) : Except ResponseFault Metadata :=
  let (attributes, fault?) := Xml.attributes content
  match attributes.foldlM assign {} with
  | .error e => .error e
  | .ok m =>
    match fault? with
    | some fault => .error (.attribute fault)
    | none => .ok m

def ofResponse (response : Bytes) : Except ResponseFault Metadata :=
  match Xml.firstElement response with
  | .ok content => ofTag content
  | .error fault => .error (.markup fault)

end Metadata

/-- Why there is no metadata. A path need not be text. -/
inductive FetchFailure where
  | connect (path : Bytes) (error : OsError)
  | io (error : OsError)
  | malformed (fault : ResponseFault)
  deriving Repr, DecidableEq

/-- The message about an answer that cannot be read. -/
def malformedMessage (detail : String) : String :=
  "malformed workflow response: " ++ detail

def FetchFailure.message : FetchFailure → String
  | .connect path error =>
    "could not connect to " ++ Utf8.decodeLossy path ++ ": " ++ error.text
  | .io error => "socket i/o failed: " ++ error.text
  | .malformed fault => malformedMessage fault.text

end TaskMail

import TaskMail.Xml.Attribute

/-!
# TaskMail.Xml.Element

Finding the first element of a document.

* `MarkupFault`  — what can be wrong in front of the first element.
* `Scan`         — what is being read; comments, declarations and text are passed over.
* `Scan.step`    — reads an octet.
* `firstElement` — the content of the first tag, without the slash that makes an element empty.

Once the first tag is closed the scan stays where it is, so nothing behind that tag matters.
-/

namespace TaskMail.Xml

inductive MarkupFault where
  | noElement
  | tagNotClosed
  | unknownMarkup
  | sectionNotClosed
  | commentNotClosed
  | doctypeNotClosed
  | doctypeWithoutName
  | instructionNotClosed
  | strayCloseTag (name : String)
  deriving Repr, DecidableEq

def MarkupFault.text : MarkupFault → String
  | .noElement => "response contains no element"
  | .tagNotClosed => "syntax error: tag not closed: `>` not found before end of input"
  | .unknownMarkup => "syntax error: unknown or missed symbol in markup"
  | .sectionNotClosed => "syntax error: CDATA not closed: `]]>` not found before end of input"
  | .commentNotClosed => "syntax error: comment not closed: `-->` not found before end of input"
  | .doctypeNotClosed => "syntax error: DOCTYPE not closed: `>` not found before end of input"
  | .doctypeWithoutName =>
    "ill-formed document: `<!DOCTYPE>` declaration does not contain a name of a document type"
  | .instructionNotClosed =>
    "syntax error: processing instruction or xml declaration not closed: " ++
      "`?>` not found before end of input"
  | .strayCloseTag name =>
    "ill-formed document: close tag `</" ++ name ++ ">` does not match any open tag"

/-- What is being read. `seen` are the octets since the opening angle bracket, the latest
first. -/
inductive Scan where
  | text
  /-- Behind an opening angle bracket. -/
  | opened
  /-- Behind an opening angle bracket and an exclamation mark. -/
  | declared
  | marked (seen : Bytes)
  | comment (seen : Bytes)
  /-- The depth counts the angle brackets that are open inside. -/
  | doctype (seen : Bytes) (depth : Nat)
  | instruction (seen : Bytes)
  /-- A start or close tag, inside of a quoted value or outside. -/
  | tag (seen : Bytes) (quote : Option UInt8)
  | element (content : Bytes)
  deriving Repr, DecidableEq

namespace Scan

def lower (b : UInt8) : UInt8 :=
  if 0x41 ≤ b ∧ b ≤ 0x5A then b + 0x20 else b

def letters (s : String) : Bytes :=
  s.toList.map fun c => UInt8.ofNat c.toNat

/-- The name in a close tag: what stands behind the slash, without the white space at its end
unless there is nothing else. -/
def closeName (rest : Bytes) : String :=
  let trimmed := (rest.reverse.dropWhile isSpace).reverse
  (Utf8.decode? (if trimmed.isEmpty then rest else trimmed)).getD ""

/-- The end of a tag with the given octets, the latest first. -/
def closeTag (seen : Bytes) : Except MarkupFault Scan :=
  match seen.reverse with
  | 0x2F :: rest => .error (.strayCloseTag (closeName rest))
  | content =>
    match seen with
    | 0x2F :: before => .ok (.element before.reverse)
    | _ => .ok (.element content)

/-- The next octet of a tag. -/
def takeTag (seen : Bytes) (quote : Option UInt8) (b : UInt8) : Except MarkupFault Scan :=
  match quote with
  | some q => .ok (.tag (b :: seen) (if b = q then none else some q))
  | none =>
    if b = 0x3E then closeTag seen
    else .ok (.tag (b :: seen) (if b = 0x22 ∨ b = 0x27 then some b else none))

/-- The end of a document type declaration with the given content. -/
def closeDoctype (content : Bytes) : Except MarkupFault Scan :=
  if (content.take 8).map lower ≠ letters "!doctype" then .error .doctypeNotClosed
  else if (content.drop 8).all isSpace then .error .doctypeWithoutName
  else .ok .text

def step (s : Scan) (b : UInt8) : Except MarkupFault Scan :=
  match s with
  | .text => .ok (if b = 0x3C then .opened else .text)
  | .opened =>
    if b = 0x21 then .ok .declared
    else if b = 0x3F then .ok (.instruction [b])
    else takeTag [] none b
  | .declared =>
    if b = 0x5B then .ok (.marked [b, 0x21])
    else if b = 0x2D then .ok (.comment [b, 0x21])
    else if b = 0x44 ∨ b = 0x64 then .ok (.doctype [b, 0x21] 0)
    else .error .unknownMarkup
  | .marked seen =>
    if b = 0x3E ∧ seen.take 2 = letters "]]" then
      if letters "![CDATA[" <+: seen.reverse then .ok .text else .error .sectionNotClosed
    else .ok (.marked (b :: seen))
  | .comment seen =>
    if b = 0x3E ∧ seen.take 2 = letters "--" ∧ (seen.drop 4).isEmpty = false then
      if letters "!--" <+: seen.reverse then .ok .text else .error .commentNotClosed
    else .ok (.comment (b :: seen))
  | .doctype seen depth =>
    if b = 0x3C then .ok (.doctype (b :: seen) (depth + 1))
    else if b = 0x3E then
      match depth with
      | 0 => closeDoctype seen.reverse
      | d + 1 => .ok (.doctype (b :: seen) d)
    else .ok (.doctype (b :: seen) depth)
  | .instruction seen =>
    if b = 0x3E ∧ seen.take 1 = letters "?" then
      if seen.length = 1 then .error .instructionNotClosed else .ok .text
    else .ok (.instruction (b :: seen))
  | .tag seen quote => takeTag seen quote b
  | .element content => .ok (.element content)

/-- The content of the first tag when the document ends here. -/
def finish (s : Scan) : Except MarkupFault Bytes :=
  match s with
  | .text => .error .noElement
  | .opened | .tag _ _ => .error .tagNotClosed
  | .declared => .error .unknownMarkup
  | .marked _ => .error .sectionNotClosed
  | .comment _ => .error .commentNotClosed
  | .doctype _ _ => .error .doctypeNotClosed
  | .instruction _ => .error .instructionNotClosed
  | .element content => .ok content

end Scan

def firstElement (document : Bytes) : Except MarkupFault Bytes :=
  match document.foldlM Scan.step .text with
  | .ok s => s.finish
  | .error e => .error e

end TaskMail.Xml

/-
# Requests, responses and outcomes

The messages of the exchange with the service, and the ways in which an exchange can end.

A request keeps the pairs of its query apart; `Request.url` writes them behind the URL.  A
response keeps its body as bytes; `Response.text` reads them in the character set that the
`Content-Type` header names, or as UTF-8 if it names none.  The tables of most character sets are not
part of this library: what they make of a body comes with the response (`Response.foreign`).

Not every body can be read as text (`ReadFault`): the parameters of the header may be refused, and so
may the body by the character set, an empty one apart.
-/
import Workspace.Bytes.Charset
import Workspace.Form
import Workspace.Http.Parameter
import Workspace.Text.Blank
namespace Workspace.Http

/-- A request, as the service sees it. -/
structure Request where
  method : String
  /-- The URL without its query. -/
  base : String
  query : List (String × String)
  body : String
  contentType : Option String
  authorization : Option String
  userAgent : String
  accept : String
  /-- Is the lock on the creation of directories held while the request is sent? -/
  locked : Bool
  deriving DecidableEq, Repr

/-- The URL of a request, with its query if it has one. -/
def Request.url (r : Request) : String :=
  if r.query.isEmpty then r.base else r.base ++ "?" ++ Form.encode r.query

/-- A response of the service. -/
structure Response where
  status : Int
  body : Bytes
  /-- The text behind the status, as it was sent. -/
  reason : String
  headers : List (String × String)
  /-- What is made of the body by a codec that is none of this library, if the header names one for
  the body, or for the label of its character set. -/
  foreign : Option Charset.Reading
  deriving DecidableEq, Repr

/-- Why a body cannot be read as text. -/
inductive ReadFault
  | header (refusal : Parameter.Refusal)
  | charset (fault : Charset.Fault)
  deriving DecidableEq, Repr

/-- The text of a fault. -/
def ReadFault.text : ReadFault → String
  | header refusal => refusal.text
  | charset fault => fault.text

namespace Response

/-- Does the status tell success? -/
def isSuccess (r : Response) : Bool := 200 ≤ r.status && r.status ≤ 299

/-- The values of a header, whose name may have any case, separated by commas. -/
def header? (r : Response) (name : String) : Option String :=
  match r.headers.filter fun (n, _) => n.toLower == name with
  | [] => none
  | values => some (", ".intercalate (values.map Prod.snd))

/-- The parameter of the header that names the character set of the body. -/
def charset? (r : Response) : Except Parameter.Refusal (Option Parameter) :=
  match r.header? "content-type" with
  | none => .ok none
  | some value => (Parameter.ofHeader value).map (Parameter.find? "charset")

/-- Does a text hold the character U+0000? -/
def hasNul (s : String) : Bool := s.toList.contains '\x00'

/-- Does a label in ASCII stay as it is if it is read in a character set?  So it does too if there is
no such character set, or one that cannot read labels. -/
def keepsLabels (charset : String) : Bool :=
  match Charset.ofLabel? charset with
  | some .utf16 | some .utf32 | some .hostNames | none => false
  | _ => true

/-- The body as text, in the character set with a label. -/
def textIn (r : Response) (label : String) : Except Charset.Fault String :=
  -- such a label is never looked up
  if label.toList.any fun c => 128 ≤ c.toNat then .ok (String.ofList (Utf8.decodeLossy r.body))
  else if hasNul label then .error .nulInLabel
  else
    match Charset.ofLabel? label, r.foreign with
    | some charset, _ => (charset.decode r.body).map String.ofList
    | none, some reading => reading.toExcept
    | none, none => .ok (String.ofList (Utf8.decodeLossy r.body))

/-- The body as text, in the character set that a parameter names. -/
def textBy (r : Response) (p : Parameter) : Except Charset.Fault String :=
  let charset := p.charset.getD ""
  if hasNul charset then .error .nulInLabel
  else if charset.isEmpty || keepsLabels charset then r.textIn p.value
  else
    match r.foreign with
    | some reading => reading.toExcept
    | none => r.textIn p.value

/-- The body as text. -/
def text (r : Response) : Except ReadFault String :=
  if r.body.isEmpty then .ok ""
  else
    match r.charset? with
    | .error refusal => .error (.header refusal)
    | .ok none => .ok (String.ofList (Utf8.decodeLossy r.body))
    | .ok (some p) => (r.textBy p).mapError .charset

/-- The reason phrase, which is ASCII: other characters are dropped. -/
def reasonPhrase (r : Response) : String :=
  String.ofList (r.reason.toList.filter fun c => c.toNat < 128)

/-- Is there nothing but white space in the body? -/
def isBlank (r : Response) : Bool := r.body.all Text.isBlankByte

end Response

/-- How an exchange ends. -/
inductive Outcome
  | response (r : Response)
  /-- No answer came in time. -/
  | timedOut (text : String)
  /-- The connection failed. -/
  | disconnected (text : String)
  /-- The exchange was redirected too often. -/
  | tooManyRedirects (text : String)
  /-- The body of the response did not match its encoding. -/
  | undecodable (text : String)
  /-- The response sends on to a target that cannot be completed. -/
  | misdirected
  deriving DecidableEq, Repr

/-- A service: what it answers to a request, and its state afterwards. -/
abbrev Remote (σ : Type) := Request → σ → Outcome × σ

end Workspace.Http

import SenderPolicy.Dns.Name
import SenderPolicy.Options
import SenderPolicy.Resolver

/-!
# Asking a name server

A name server is asked for the data of one kind at a name. It answers with them, where a name without data has an empty
answer, or fails the question for some reason. No question gets through where the link to it is down. A text at a name is
the text of its pieces, each of which has to be UTF-8; a host is given without the dot at its end.
-/

namespace SenderPolicy.Dns

/-- What a question asks for. -/
inductive Kind where
  | txt
  /-- Addresses of both families. -/
  | ip
  | mx
  | ptr
  deriving DecidableEq, Repr

/-- The types of the records that hold data of a kind. -/
def Kind.records : Kind → List String
  | txt => ["TXT"]
  | ip => ["A", "AAAA"]
  | mx => ["MX"]
  | ptr => ["PTR"]

/-- A question to a name server. -/
structure Question where
  kind : Kind
  /-- The name in lower case without the dot at its end. -/
  name : String
  deriving DecidableEq, Repr

/-- The question in words, once for each type of records. -/
def Question.texts (q : Question) : List String :=
  q.kind.records.map fun type => type ++ " " ++ q.name

/-- One datum of an answer. -/
inductive Datum where
  /-- The pieces of a text. -/
  | txt (pieces : List (List UInt8))
  | ip (address : Address)
  | mx (preference : UInt16) (host : String)
  | ptr (host : String)
  deriving DecidableEq, Repr

/-- A name server. -/
structure Server where
  /-- The data of the answer to a question, or the reason why there is no answer. -/
  answer : Question → Except String (List Datum)

/-- The way to a name server. -/
inductive Link where
  | up (server : Server)
  /-- No question gets through. -/
  | down (reason : String)

namespace Link

variable (link : Link)

/-! ## Questions -/

/-- The question for a query. -/
def target : Query → Except NameFault Question
  | .txt name => (Name.ofChars (Name.absolute name.toList)).map fun n => ⟨.txt, n.text⟩
  | .ip name => (Name.ofChars (Name.absolute name.toList)).map fun n => ⟨.ip, n.text⟩
  | .mx name => (Name.ofChars (Name.absolute name.toList)).map fun n => ⟨.mx, n.text⟩
  | .ptr address => .ok ⟨.ptr, (Name.ofAddress address).text⟩

/-- What the server sees of a query. -/
def questions (q : Query) : List String :=
  match link, target q with
  | up _, .ok question => question.texts
  | _, _ => []

/-- The data of the answer to a query. -/
def data (q : Query) : Except Error (List Datum) :=
  match target q with
  | .error f => .error (.noAnswer q.subject ("proto error: " ++ f.message))
  | .ok question =>
    match link with
    | down reason => .error (.noAnswer q.subject ("proto error: " ++ reason))
    | up server => (server.answer question).mapError (.noAnswer q.subject)

/-! ## Answers -/

/-- The text of pieces, each of which has to be UTF-8. -/
def pieceText (pieces : List (List UInt8)) : Except Text.Utf8.Fault String := do
  return String.ofList (← pieces.mapM Text.Utf8.decode).flatten

/-- The texts of records of pieces at a name. -/
def recordTexts (name : String) (records : List (List (List UInt8))) : Except Error (List String) :=
  (records.mapM pieceText).mapError (.notText name)

/-- The pieces of a text. -/
def pieces? : Datum → Option (List (List UInt8))
  | .txt pieces => some pieces
  | _ => none

/-- The address in a datum. -/
def address? : Datum → Option Address
  | .ip address => some address
  | _ => none

/-- The mail exchange in a datum. -/
def exchange? : Datum → Option MailExchange
  | .mx preference host => some ⟨preference, Name.relative host⟩
  | _ => none

/-- The host in a datum. -/
def host? : Datum → Option String
  | .ptr host => some (Name.relative host)
  | _ => none

/-- The name service over the link. -/
def resolver : Resolver where
  txt name := do recordTexts name ((← link.data (.txt name)).filterMap pieces?)
  ip name := do return (← link.data (.ip name)).filterMap address?
  mx name := do return (← link.data (.mx name)).filterMap exchange?
  ptr address := do return (← link.data (.ptr address)).filterMap host?

/-- What the server sees of queries, each question once, in the order of their texts. -/
def seen (qs : List Query) : List String :=
  (qs.flatMap link.questions).eraseDups.mergeSort

end Link

end SenderPolicy.Dns

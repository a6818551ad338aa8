import Gatehouse.Http.Url

/-!
# Requests to other services

A request and its reply, as a client sees them, and the network that carries them. A server may refer
a client elsewhere; whether the client goes there is its own affair.
-/

namespace Gatehouse.Http

/-- A request to another service. -/
structure Request where
  method : String
  /-- The address as it was put together. -/
  url : String
  /-- Path and query. -/
  path : String
  /-- Header names in lower case, with their values. -/
  headers : List (String × String) := []
  body : String := ""
deriving DecidableEq, Repr

/-- The value of a header. -/
def Request.header? (r : Request) (name : String) : Option String :=
  r.headers.lookup name

/-- The reply of another service. -/
structure Reply where
  status : Nat
  body : String
deriving DecidableEq, Repr

/-- What a server answers: a reply, and the address that it refers to, if there is one. -/
structure Response extends Reply where
  location : Option String := none
deriving DecidableEq, Repr

/-- Why there was no reply: a chain of causes, each the reason of the one before it. -/
abbrev Unanswered := List String

/-- The text of the first cause. -/
def Unanswered.message (causes : Unanswered) : String :=
  causes.headD "no reply"

/-- A way to other services, with a state of its own. What cannot be had comes with the reason. -/
structure Network (σ : Type) where
  /-- An access token for the cloud that the client runs in. -/
  token : σ → Except String String × σ
  /-- The response to a request. -/
  send : Request → σ → Except Unanswered Response × σ

/-- Why a request cannot even be made: its address has to be absolute and of the web. -/
def Request.problem? (r : Request) : Option Unanswered :=
  match Url.scheme? r.url with
  | none => some ["builder error", "relative URL without a base"]
  | some "http" | some "https" => none
  | some _ => some [s!"builder error for url ({r.url})", "URL scheme is not allowed"]

/-- Makes a request. -/
def Network.request {σ : Type} (net : Network σ) (r : Request) (s : σ) :
    Except Unanswered Response × σ :=
  match r.problem? with
  | some causes => (.error causes, s)
  | none => net.send r s

/-- The causes that are told when no connection to the server of a request can be made. -/
def Request.unreachable (r : Request) : Unanswered :=
  [s!"error sending request for url ({Url.normal r.url})", "client error (Connect)",
    "tcp connect error", "Network is unreachable (os error 101)"]

/-- The reason that is told when no connection to the server of access tokens can be made. -/
def tokenUnreachable : String := "HTTP request failed: client error (Connect)"

/-- The network that has no way to any server. -/
def Network.none (σ : Type) : Network σ where
  token s := (.error tokenUnreachable, s)
  send r s := (.error r.unreachable, s)

end Gatehouse.Http

import Gatehouse.Http.Client

/-!
# Redirects

A client of the web goes where a server refers it to, up to ten times. For some codes it makes the
same request there, for others it only asks for what is there. It does not show its credentials to
another server, and it tells where it comes from unless that is less public.
-/

namespace Gatehouse.Http

/-- Codes of a server that has the same request made elsewhere. -/
def repeatCodes : List Nat := [307, 308]

/-- Codes of a server that has its client look elsewhere. -/
def lookCodes : List Nat := [301, 302, 303]

/-- The headers of a request that do not go with it to some address. -/
def Request.withheld (r : Request) (url : String) : List String :=
  "referer" ::
    if Url.server url = Url.server r.url then [] else ["authorization", "cookie"]

/-- What a request to some address tells of the address before. -/
def Request.referer (r : Request) (url : String) : List (String × String) :=
  if Url.scheme? r.url = some "https" && Url.scheme? url = some "http" then []
  else [("referer", Url.normal r.url)]

/-- A request made again at another address. -/
def Request.moved (r : Request) (url : String) : Request :=
  { r with
    url, path := Url.target url
    headers := r.headers.filter (fun h => !(r.withheld url).contains h.1) ++ r.referer url }

/-- A request that asks for what is at another address. -/
def Request.looking (r : Request) (url : String) : Request :=
  let moved := r.moved url
  { moved with
    method := if r.method = "HEAD" then "HEAD" else "GET"
    headers := moved.headers.filter (·.1 != "content-type"), body := "" }

/-- The request that a client makes of the server that it is referred to. -/
def Request.redirected? (r : Request) (response : Response) : Option Request := do
  let url := Url.join r.url (← response.location)
  if (Url.server url).1 = "" then none
  else if repeatCodes.contains response.status then some (r.moved url)
  else if lookCodes.contains response.status then some (r.looking url)
  else none

/-- Why a client that is referred on and on gives up. -/
def Request.tooManyRedirects (r : Request) : Unanswered :=
  [s!"error following redirect for url ({Url.normal r.url})", "too many redirects"]

/-- How often a client lets itself be referred on. -/
def maxRedirects : Nat := 10

/-- The response that a request leads to, if the client lets itself be referred on at most `left`
times. -/
def Network.follow {σ : Type} (net : Network σ) (left : Nat) (r : Request) (s : σ) :
    Except Unanswered Response × σ :=
  match net.request r s with
  | (.error causes, s) => (.error causes, s)
  | (.ok response, s) =>
    match r.redirected? response, left with
    | .none, _ => (.ok response, s)
    | .some _, 0 => (.error r.tooManyRedirects, s)
    | .some next, left + 1 => net.follow left next s

end Gatehouse.Http

import Gatehouse.Kms.Gcp

/-!
# A scripted service

A network with one server whose replies are given in advance. It keeps the requests that it gets;
one beyond the script is answered as not found, and none is referred elsewhere. All other servers
are unreachable. Access tokens come from a reply of their own, and the first token that can be read
serves for all requests.
-/

namespace Gatehouse.Http

/-- The state of a scripted service. -/
structure Script where
  /-- The replies still to come. -/
  replies : List Reply := []
  /-- The requests so far. -/
  seen : List Request := []
  /-- The reply that holds an access token; absent if its server cannot be reached. -/
  tokenReply : Option String := none
  /-- The access token, once it has been read. -/
  token : Option String := none
deriving DecidableEq, Repr

namespace Script

/-- The reply to a request beyond the script. -/
def unscripted : Reply := ⟨404, "unscripted"⟩

/-- Whether an address belongs to the server at a base address. -/
def serves (base url : String) : Bool :=
  match base.toList.isPrefixOf? url.toList with
  | none => false
  | some [] => true
  | some (c :: _) => Url.endsAuthority c

/-- The network whose one server is at a base address. -/
def network (base : String) : Network Script where
  token s :=
    match s.token, s.tokenReply with
    | some token, _ => (.ok token, s)
    | none, none => (.error tokenUnreachable, s)
    | none, some body =>
      match Gcp.tokenOfReply? body with
      | some token => (.ok token, { s with token := some token })
      | none => (.error "unreadable reply", s)
  send r s :=
    if serves base r.url then
      (.ok { toReply := s.replies.headD unscripted },
        { s with replies := s.replies.tail, seen := s.seen ++ [r] })
    else (.error r.unreachable, s)

end Script
end Gatehouse.Http

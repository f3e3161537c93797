import PullReview.GitHub.Exchange

/-!
# A rehearsed server

The server has its replies written down, one for each request in turn; when
they are used up nobody answers any more. Requests and pauses are noted, and
the clock stands where it is put.
-/

namespace PullReview.Rehearsal

inductive Reply where
  | responds (response : HttpResponse)
  | fails (fault : Fault)

structure Server where
  replies : List Reply := []
  requests : Array HttpRequest := #[]
  pauses : Array Double := #[]
  now : Instant := ⟨0⟩

namespace Server

/-- Answers a request with the next reply. -/
def answer (s : Server) (request : HttpRequest) : Except Fault HttpResponse × Server :=
  let s := { s with requests := s.requests.push request }
  match s.replies with
  | [] => (.error (.unreachable "script exhausted"), s)
  | .responds r :: rest => (.ok r, { s with replies := rest })
  | .fails fault :: rest => (.error fault, { s with replies := rest })

end Server

/-- The way to a rehearsed server. -/
def transport {σ : Type} (part : Part σ Server) : Transport σ where
  send request := part.step fun s => s.answer request
  pause x := part.step fun s => (.ok (), { s with pauses := s.pauses.push x })
  now := part.step fun s => (.ok s.now, s)

end PullReview.Rehearsal

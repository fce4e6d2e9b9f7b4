import PatternNfa.Cache

/-! A sequence of requests that share one cache and one set of buffers, with names for the automata in use. -/

namespace PatternNfa

/-- `get` asks the cache for a pattern and `compile` goes past it; both store the automaton under a name. The
other requests concern the cache itself or named automata. -/
inductive Request where
  | get (pattern : Pattern) (name : String)
  | compile (pattern : Pattern) (name : String)
  | size
  | clear
  | describe
  | compare (first second : String)
  | accepts (name input : String)
  | count (name text : String)
deriving DecidableEq

/-- A match is tried three ways: in fresh buffers, in the shared ones, and as a bare run in the shared ones. -/
inductive Reply where
  | stored (states entries : Nat)
  | size (entries : Nat) (isEmpty : Bool)
  | description (text : String)
  | comparison (same equal : Bool)
  | acceptance (fresh reused traversed : Bool)
  | count (total : Nat)
  | failure (error : PatternError)
  | unknownName
deriving DecidableEq

structure Session where
  cache : Cache
  buffers : Buffers
  names : Std.HashMap String Handle

namespace Session

def empty : Session := ⟨Cache.empty, Buffers.empty, ∅⟩

/-- Gives a name to an automaton, taking it from any other automaton that had it. -/
def store (session : Session) (name : String) (handle : Handle) : Reply × Session :=
  (.stored handle.nfa.stateCount session.cache.size, { session with names := session.names.insert name handle })

def sizeReply (session : Session) : Reply := .size session.cache.size session.cache.isEmpty

/-- Answers one request. A pattern that fails leaves the names as they were. -/
def answer [CaseMap] [Categories] (session : Session) : Request → Reply × Session
  | .get pattern name =>
    match session.cache.fetch pattern with
    | (.ok handle, cache) => { session with cache }.store name handle
    | (.error error, cache) => (.failure error, { session with cache })
  | .compile pattern name =>
    match pattern.compile with
    | .ok nfa =>
      let (handle, cache) := session.cache.issue nfa
      { session with cache }.store name handle
    | .error error => (.failure error, session)
  | .size => (session.sizeReply, session)
  | .clear =>
    let session := { session with cache := session.cache.clear }
    (session.sizeReply, session)
  | .describe => (.description session.cache.describe, session)
  | .compare first second =>
    match session.names[first]?, session.names[second]? with
    | some first, some second =>
      (.comparison (first.serial == second.serial) (first.nfa == second.nfa), session)
    | _, _ => (.unknownName, session)
  | .accepts name input =>
    match session.names[name]? with
    | some handle =>
      let (reused, buffers) := handle.nfa.acceptsWith input session.buffers
      let (outcome, buffers) := handle.nfa.run input buffers
      (.acceptance (handle.nfa.accepts input) reused outcome.isAccepted, { session with buffers })
    | none => (.unknownName, session)
  | .count name text =>
    match session.names[name]? with
    | some handle => (.count (handle.nfa.occurrences text), session)
    | none => (.unknownName, session)

/-- Answers requests in turn, starting with an empty session. -/
def replies [CaseMap] [Categories] (requests : List Request) : List Reply :=
  (requests.foldl (fun (given, session) request =>
    let (reply, session) := answer session request
    (given.push reply, session)) ((#[] : Array Reply), empty)).1.toList

end Session

end PatternNfa

import RestartCheck.Effect.Action
import RestartCheck.Files.Tree

/-!
# Rehearsals

A rehearsal stands in for the service, the clock, chance and the files.  For every method and path
it holds a list of replies: each request takes the next one, and the last is never used up.  The
clock moves only when the procedure sleeps or when a reply takes time.

**Output.**  The result of the procedure, and the transcript of its queries and their answers, each
with the time at which it was asked.
-/

namespace RestartCheck

structure Reply where
  answer : Except Failure Response
  took : Float := 0.0

/-- One question with its answer and the time at which it was asked. -/
structure Moment where
  time : Float
  event : Event

/-- State of a rehearsal.  The transcript has the latest moment first.  The memory of the session is
kept from one action to the next. -/
structure Rehearsal where
  session : Session := {}
  routes : OrderedMap String (List Reply) := []
  clock : Float := 0.0
  year : Int := 2000
  files : Files.Tree := {}
  directory : Files.Path := ⟨true, [], false⟩
  transcript : List Moment := []

namespace Rehearsal

def routeName (request : Request) : String :=
  request.method ++ " " ++ request.path

/-- The answer to a request without a route. -/
def noRoute (name : String) : Response :=
  ⟨404, "\x7b\"error\": \"no route for " ++ name ++ "\"\x7d"⟩

/-- The next of several replies, and those that remain. -/
def nextReply : List Reply → Option (Reply × List Reply)
  | [] => none
  | [reply] => some (reply, [reply])
  | reply :: rest => some (reply, rest)

def reply (request : Request) (r : Rehearsal) : Except Failure Response × Rehearsal :=
  let name := routeName request
  match nextReply ((OrderedMap.lookup r.routes name).getD []) with
  | none => (.ok (noRoute name), r)
  | some (next, rest) =>
    (next.answer, { r with
      routes := OrderedMap.put r.routes name rest
      clock := r.clock + next.took })

/-- Accounts that every machine has. -/
def usualAccounts : List String :=
  ["root", "daemon", "bin", "sys", "sync", "games", "man", "lp", "mail", "news", "uucp", "proxy",
   "www-data", "backup", "list", "irc", "nobody"]

/-- The home directory of an account.  It lies outside of the files that were prepared. -/
def homeOf? (account : String) : Option Files.Path :=
  if account = "" ∨ account ∈ usualAccounts then some (Files.Path.ofText "/home") else none

/-- Answer a query without keeping it in the transcript. -/
def respondTo : (query : Query) → Rehearsal → query.Answer × Rehearsal
  | .call request, r => reply request r
  | .now, r => (r.clock, r)
  | .sleep seconds, r => ((), { r with clock := r.clock + seconds })
  | .drawNumber _ _, r => (r.year, r)
  | .drawLetters alphabet count, r => (String.ofList (alphabet.toList.take count), r)
  | .log _, r => ((), r)
  | .setUpLogging _, r => ((), r)
  | .connect _, r => ((), r)
  | .disconnect, r => ((), r)
  | .isDirectory path, r => (r.files.isDirectory r.directory path, r)
  | .readFile path, r => (r.files.read? r.directory path, r)
  | .home account, r => (homeOf? account, r)

/-- Answer a query and keep it in the transcript. -/
def respond (query : Query) (r : Rehearsal) : query.Answer × Rehearsal :=
  let (answer, next) := respondTo query r
  (answer, { next with transcript := ⟨r.clock, query, answer⟩ :: next.transcript })

/-- The queries and answers so far, the earliest first. -/
def moments (r : Rehearsal) : List Moment :=
  r.transcript.reverse

/-- Add prepared replies, in place of those that were prepared for the same routes. -/
def addRoutes (routes : List (String × List Reply)) (r : Rehearsal) : Rehearsal :=
  { r with routes := OrderedMap.update r.routes routes }

/-- Add files, in place of those with the same names. -/
def addFiles (files : List (List String × String)) (r : Rehearsal) : Rehearsal :=
  { r with files := files.foldl (fun tree file => tree.put file.1 file.2) r.files }

end Rehearsal

abbrev Play := StateM Rehearsal

namespace Play

def procedure {α : Type} (procedure : Procedure α) : Play (Option α) :=
  procedure.play Rehearsal.respond

/-- Play an action with the memory of the session. -/
def action {α : Type} (action : Action α) : Play (Except Failure α) := do
  match ← procedure (action.start (← get).session) with
  | some (result, session) =>
    modify fun r => { r with session := session }
    return result
  | none => return .error (.unspecific "the patience of a poll ran out")

end Play

end RestartCheck

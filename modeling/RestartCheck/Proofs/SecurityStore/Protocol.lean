import RestartCheck.Proofs.Effect.Rehearsed
import RestartCheck.Proofs.Scenario.Answers
import RestartCheck.Proofs.SecurityStore.Conduct

/-!
# The order of requests in the second half of the security store scenario

The half looks up which resource is behind the alias of the store, detects the state of that
resource once, and brings it to the current version.  A migration command is the last resort: the
first detection must have found the store required, and the service must have refused a new user
for the very reason that the store is outdated.

**Algorithm.**  The requests of a run fall into three stretches: the lookup, what brings the store
to the current version, and the principals.  Only the middle one can contain a command, and at most
one, so the place of a command is known from the stretch that it stands in.

**Results.**
* `commands_of_runs_migrateOutdated`: what is sent while the store is outdated.
* `exists_stretch_of_runs_bringUpToDate`: what brings the store to the current version.
* `keepsUser_of_runs_verifyUser`, `keepsRole_of_runs_verifyRole`: what a principal that is read back
  still has.
* `follows_protocol_of_runs_postUpgrade`: the whole half.
-/

namespace RestartCheck
namespace SecurityStore

open RestartCheck.Action Trace Migration

/-! ## Requests and what their answers say -/

/-- The request that looks up the resource behind the alias. -/
def lookupRequest (named : String) : Request :=
  { method := "GET", path := "/" ++ named ++ "/_settings/index.format" }

def readUserRequest (user : String) : Request :=
  { method := "GET", path := userPath ++ "/" ++ user }

def readRoleRequest (role : String) : Request :=
  { method := "GET", path := rolePath ++ "/" ++ role }

/-- The answer to the lookup names the store.  Without a successful answer that names a resource the
alias itself is the store. -/
def NamesStore
    (named : ResourceRef)
    (answer : Except Failure Response)
    (store : ResourceRef) : Prop :=
  ∃ response,
    answer = .ok response ∧
    ((∃ concrete value others,
        response.ok = true ∧
        response.object = .ok ((concrete, value) :: others) ∧
        store = ⟨concrete, named.kind⟩)
      ∨
      ((response.ok = true → response.object = .ok []) ∧ store = named))

/-- The service refused the request, and says that the store is outdated. -/
def RefusesOutdated (answer : Except Failure Response) : Prop :=
  ∃ response,
    answer = .ok response ∧
    response.ok = false ∧
    outdatedError.toList <:+: response.body.toList

/-- The answer reports success. -/
def Succeeded (answer : Except Failure Response) : Prop :=
  ∃ response, answer = .ok response ∧ response.ok = true

/-- The members of the object have a value under the key. -/
def Has
    (info : Json.Members)
    (key : String) : Prop :=
  ∃ value, OrderedMap.lookup info key = some value ∧ value ≠ .null

/-- The decoded answer holds the user, with its e-mail address, a full name and roles. -/
def KeepsUser
    (user : String)
    (body : Json.Members) : Prop :=
  ∃ info,
    OrderedMap.lookup body user = some (.object info) ∧
    OrderedMap.lookup info "email" = some (.string (emailOf user)) ∧
    Has info "full_name" ∧
    Has info "roles"

/-- The decoded answer holds the role, with all of its definition. -/
def KeepsRole
    (role : String)
    (body : Json.Members) : Prop :=
  ∃ info,
    OrderedMap.lookup body role = some (.object info) ∧
    Has info "run_as" ∧
    Has info "cluster" ∧
    Has info "indices"

/-- What is sent once the first detection has found the store required, given the answer to the
detection. -/
inductive Commands
    (harness : Harness)
    (store : ResourceRef)
    (first : Except Failure Response) : List Exchange → Prop
  /-- The attempt to write a user has not shown that the store is outdated. -/
  | probed
      (fullName : String)
      (probe : Except Failure Response)
      (hrequired : Classifies first store .required) :
      Commands harness store first [⟨userRequest postUser fullName, probe⟩]
  /-- The store is outdated and is migrated. -/
  | migrated
      (fullName : String)
      (probe answer : Except Failure Response)
      (hrequired : Classifies first store .required)
      (hrefused : RefusesOutdated probe) :
      Commands harness store first
        [⟨userRequest postUser fullName, probe⟩,
         ⟨upgradeRequest harness.upgradePath store, answer⟩]

/-- The commands are sent exactly when the first detection found the store required, and then all of
them. -/
def AreComplete
    (harness : Harness)
    (store : ResourceRef)
    (first : Except Failure Response)
    (commands : List Exchange) : Prop :=
  (¬Classifies first store .required ∧ commands = [])
  ∨
  (Classifies first store .required ∧
    ∃ fullName probe answer,
      RefusesOutdated probe ∧
      commands =
        [⟨userRequest postUser fullName, probe⟩,
         ⟨upgradeRequest harness.upgradePath store, answer⟩])

/-- The last of the detections leaves nothing to be done for the store. -/
def EndsSettled
    (harness : Harness)
    (store : ResourceRef)
    (detections : List Exchange) : Prop :=
  ∃ front last,
    detections = front ++ [⟨assistanceRequest harness.assistancePath, last⟩] ∧
    Settles last [store]

/-- What brings the store to the current version: a first detection, the commands that it calls for,
and the detections of a wait. -/
structure Stretch
    (harness : Harness)
    (store : ResourceRef)
    (result : Except Failure Unit)
    (first : Except Failure Response)
    (commands polled : List Exchange) : Prop where
  waits : ∀ exchange ∈ polled, exchange.request = assistanceRequest harness.assistancePath
  warranted : commands = [] ∨ Commands harness store first commands
  complete : result = .ok () → AreComplete harness store first commands
  settled : result = .ok () →
    EndsSettled harness store (⟨assistanceRequest harness.assistancePath, first⟩ :: polled)

/-- What the four principals are read back as, in order. -/
def keptPrincipals : List (Exchange → Prop) :=
  [Exchange.Accepted (readUserRequest preUser) (KeepsUser preUser),
   Exchange.Accepted (readRoleRequest preRole) (KeepsRole preRole),
   Exchange.Accepted (readUserRequest postUser) (KeepsUser postUser),
   Exchange.Accepted (readRoleRequest postRole) (KeepsRole postRole)]

/-- The new principals are written, and then all four are read back. -/
def RenewsPrincipals (all : List Exchange) : Prop :=
  ∃ fullName userAnswer roleAnswer reads,
    all =
      ⟨userRequest postUser fullName, userAnswer⟩ :: ⟨roleRequest postRole, roleAnswer⟩ :: reads ∧
    Succeeded userAnswer ∧
    Succeeded roleAnswer ∧
    List.Forall₂ (fun kept exchange => kept exchange) keptPrincipals reads

/-! ## Writing and looking up -/

section Parts

variable {before after : Session} {events : List Event}

theorem has_of_keeps
    {info : Json.Members} {key : String}
    (hkeeps : keeps info key = true) :
    Has info key := by
  unfold keeps at hkeeps
  cases hlookup : OrderedMap.lookup info key with
  | none =>
      rw [hlookup] at hkeeps
      cases hkeeps
  | some value =>
      refine ⟨value, hlookup, ?_⟩
      rintro rfl
      rw [hlookup] at hkeeps
      cases hkeeps

theorem infoOf_eq_ok_iff
    {kind principal : String} {body info : Json.Members} :
    infoOf kind principal body = .ok info ↔
      OrderedMap.lookup body principal = some (.object info) := by
  unfold infoOf
  split
  · next found hfound => simp [hfound, eq_comm]
  · next hmissing =>
      simp only [reduceCtorEq, false_iff]
      exact hmissing info

/-- Writing a user is one exchange, and the answer to it is the result. -/
theorem exists_answer_of_runs_createUser
    {user : String} {result : Except Failure Response}
    (hrun : (createUser user).Runs before events result after) :
    ∃ fullName, exchanges events = [⟨userRequest user fullName, result⟩] := by
  unfold createUser at hrun
  obtain ⟨fullName, rest, rfl, hcalled⟩ := runs_query_bind_iff.mp hrun
  obtain ⟨rfl, _⟩ := runs_call_iff.mp hcalled
  exact ⟨fullName, rfl⟩

/-- Looking up the store is one exchange. -/
theorem exists_answer_of_runs_concreteStore
    {named : ResourceRef} {result : Except Failure ResourceRef}
    (hrun : (concreteStore named).Runs before events result after) :
    ∃ answer,
      exchanges events = [⟨lookupRequest named.name, answer⟩] ∧
      ∀ store, result = .ok store → NamesStore named answer store := by
  unfold concreteStore at hrun
  rcases runs_call_bind_iff.mp hrun with ⟨response, rest, rfl, hread⟩ | ⟨failure, rfl, rfl, _⟩
  · refine ⟨.ok response, ?_⟩
    simp only at hread
    cases hok : response.ok with
    | true =>
        rw [hok, if_pos rfl] at hread
        rcases runs_liftM_bind_iff.mp hread with ⟨settings, hsettings, hnamed⟩ |
          ⟨failure, _, rfl, rfl, _⟩
        · cases settings with
          | nil =>
              obtain ⟨rfl, rfl, _⟩ := runs_pure_iff.mp hnamed
              refine ⟨rfl, ?_⟩
              rintro store hstore
              cases hstore
              exact ⟨response, rfl, Or.inr ⟨fun _ => hsettings, rfl⟩⟩
          | cons entry others =>
              obtain ⟨rfl, rfl, _⟩ := runs_pure_iff.mp hnamed
              refine ⟨rfl, ?_⟩
              rintro store hstore
              cases hstore
              exact ⟨response, rfl, Or.inl ⟨entry.1, entry.2, others, hok, hsettings, rfl⟩⟩
        · exact ⟨rfl, by simp⟩
    | false =>
        rw [hok, if_neg (by decide)] at hread
        obtain ⟨rfl, rfl, _⟩ := runs_pure_iff.mp hread
        refine ⟨rfl, ?_⟩
        rintro store hstore
        cases hstore
        exact ⟨response, rfl, Or.inr ⟨by simp [hok], rfl⟩⟩
  · exact ⟨.error failure, rfl, by simp⟩

/-! ## Bringing the store to the current version -/

variable {harness : Harness} {store : ResourceRef} {first : Except Failure Response}

/-- The command is sent only if the service refused the user because the store is outdated. -/
theorem commands_of_runs_migrateOutdated
    {result : Except Failure Unit}
    (hrequired : Classifies first store .required)
    (hrun : (migrateOutdated harness store).Runs before events result after) :
    Commands harness store first (exchanges events) ∧
    (result = .ok () → AreComplete harness store first (exchanges events)) := by
  unfold migrateOutdated at hrun
  rcases runs_bind_iff.mp hrun with
    ⟨response, middle, probing, others, rfl, hprobed, hrest⟩ | ⟨failure, rfl, hprobed⟩
  · obtain ⟨fullName, hprobe⟩ := exists_answer_of_runs_createUser hprobed
    rw [exchanges_append, hprobe, List.singleton_append]
    rcases runs_liftM_bind_iff.mp hrest with ⟨_, hrefused, hrest⟩ | ⟨failure, _, rfl, rfl, _⟩
    · rcases runs_liftM_bind_iff.mp hrest with ⟨_, houtdated, hrest⟩ | ⟨failure, _, rfl, rfl, _⟩
      · have hrefuses : RefusesOutdated (.ok response) := by
          have hnotOk : response.ok = false := by
            simpa using check_eq_ok_iff.mp hrefused
          exact ⟨response, rfl, hnotOk, Text.contains_iff.mp (check_eq_ok_iff.mp houtdated)⟩
        rcases runs_bind_iff.mp hrest with
          ⟨outcome, last, posting, noting, rfl, hposted, hnoted⟩ | ⟨failure, rfl, hposted⟩
        · obtain ⟨answer, hcommand, _, _⟩ := exists_answer_of_runs_migrate hposted
          obtain ⟨rfl, _, _⟩ := runs_note_iff.mp hnoted
          rw [exchanges_append, hcommand]
          exact ⟨.migrated fullName _ answer hrequired hrefuses, fun _ =>
            Or.inr ⟨hrequired, fullName, _, answer, hrefuses, rfl⟩⟩
        · obtain ⟨answer, hcommand, _, _⟩ := exists_answer_of_runs_migrate hposted
          rw [hcommand]
          exact ⟨.migrated fullName _ answer hrequired hrefuses, by simp⟩
      · exact ⟨.probed fullName _ hrequired, by simp⟩
    · exact ⟨.probed fullName _ hrequired, by simp⟩
  · obtain ⟨fullName, hprobe⟩ := exists_answer_of_runs_createUser hprobed
    rw [hprobe]
    exact ⟨.probed fullName _ hrequired, by simp⟩

/-- What a detection of one resource returns is what the answer classifies it as. -/
theorem classifies_of_runs_detect
    {path : String} {statuses : OrderedMap ResourceRef MigrationStatus}
    (hrun : (detect path [store]).Runs before events (.ok statuses) after) :
    ∃ answer status,
      exchanges events = [⟨assistanceRequest path, answer⟩] ∧
      OrderedMap.lookup statuses store = some status ∧
      ∀ other, Classifies answer store other ↔ other = status := by
  obtain ⟨response, body, reported, hexchange, hok, hbody, hindices, hclassified⟩ :=
    exists_answer_of_runs_detect hrun
  obtain ⟨status, hclass, hlookup⟩ := hclassified store List.mem_cons_self
  refine ⟨.ok response, status, hexchange, hlookup, fun other => ⟨?_, ?_⟩⟩
  · rintro ⟨known, members, entries, hknown, _, hmembers, hentries, hother⟩
    cases hknown
    cases hbody.symm.trans hmembers
    cases hindices.symm.trans hentries
    cases hclass.symm.trans hother
    rfl
  · rintro rfl
    exact ⟨response, body, reported, rfl, hok, hbody, hindices, hclass⟩

/-- What the detections of a wait come to, behind a first detection that classified the store with
the status.  Without a need to wait the first detection is also the last. -/
theorem settles_of_runs_wait
    {status : MigrationStatus} {interval timeout : Float} {result : Except Failure Unit}
    (hclass : ∀ other, Classifies first store other ↔ other = status)
    (hrun : Action.Runs (do
        if status.isPending then
          let _ ← awaitMigrated harness [store] interval timeout) before events result after) :
    (∀ exchange ∈ exchanges events,
      exchange.request = assistanceRequest harness.assistancePath) ∧
    (result = .ok () →
      EndsSettled harness store
        (⟨assistanceRequest harness.assistancePath, first⟩ :: exchanges events)) := by
  cases hpending : status.isPending with
  | false =>
      rw [hpending] at hrun
      obtain ⟨rfl, _⟩ := runs_pure_iff.mp hrun
      refine ⟨by simp, fun _ => ⟨[], first, rfl, fun ref hmem => ?_⟩⟩
      obtain rfl := List.mem_singleton.mp hmem
      rcases MigrationStatus.isPending_eq_false_iff.mp hpending with rfl | rfl
      · exact Or.inl ((hclass _).mpr rfl)
      · exact Or.inr ((hclass _).mpr rfl)
  | true =>
      rw [hpending] at hrun
      have hsends : Sends (· = assistanceRequest harness.assistancePath)
          (awaitMigrated harness [store] interval timeout) :=
        Conforms.sends (conforms_awaitMigrated rfl nofun)
      rcases runs_bind_iff.mp hrun with
        ⟨found, middle, waiting, rest, rfl, hwaited, hend⟩ | ⟨failure, rfl, hfailed⟩
      · obtain ⟨rfl, _⟩ := runs_pure_iff.mp hend
        rw [List.append_nil]
        obtain ⟨front, last, hlast, hsettles⟩ := settles_of_runs_awaitMigrated hwaited
        refine ⟨hsends hwaited, fun _ =>
          ⟨⟨assistanceRequest harness.assistancePath, first⟩ :: front, last, ?_, hsettles⟩⟩
        rw [hlast, List.cons_append]
      · exact ⟨hsends hfailed, by simp⟩

/-- A first detection, the commands that it calls for, and the detections of a wait. -/
theorem exists_stretch_of_runs_bringUpToDate
    {settings : SecurityStoreSettings} {result : Except Failure Unit}
    (hrun : (bringUpToDate settings harness store).Runs before events result after) :
    ∃ first commands polled,
      exchanges events =
        ⟨assistanceRequest harness.assistancePath, first⟩ :: (commands ++ polled) ∧
      Stretch harness store result first commands polled := by
  unfold bringUpToDate at hrun
  rcases runs_bind_iff.mp hrun with
    ⟨statuses, middle, detecting, others, rfl, hdetected, hnoted⟩ | ⟨failure, rfl, hfailed⟩
  · obtain ⟨first, status, hexchange, hlookup, hclass⟩ := classifies_of_runs_detect hdetected
    obtain ⟨rest, rfl, hrest⟩ := runs_note_bind_iff.mp hnoted
    rw [hlookup, Option.getD_some] at hrest
    rw [exchanges_append, hexchange, exchanges_noted_cons, List.singleton_append]
    by_cases hstatus : status = .required
    · have hrequired : Classifies first store .required := (hclass _).mpr hstatus.symm
      simp only [if_pos hstatus] at hrest
      rcases runs_bind_iff.mp hrest with
        ⟨_, last, posting, waiting, rfl, hmigrated, hwaited⟩ | ⟨failure, rfl, hmigrated⟩
      · obtain ⟨hcommands, hcomplete⟩ := commands_of_runs_migrateOutdated hrequired hmigrated
        obtain ⟨hpolled, hsettles⟩ := settles_of_runs_wait hclass hwaited
        rw [exchanges_append]
        exact ⟨first, exchanges posting, exchanges waiting, rfl,
          ⟨hpolled, Or.inr hcommands, fun _ => hcomplete rfl, hsettles⟩⟩
      · obtain ⟨hcommands, _⟩ := commands_of_runs_migrateOutdated hrequired hmigrated
        refine ⟨first, exchanges rest, [], ?_, by simp, Or.inr hcommands, by simp, by simp⟩
        rw [List.append_nil]
    · have hspared : ¬Classifies first store .required := fun hrequired =>
        hstatus ((hclass _).mp hrequired).symm
      simp only [if_neg hstatus] at hrest
      obtain ⟨hpolled, hsettles⟩ := settles_of_runs_wait hclass hrest
      exact ⟨first, [], exchanges rest, rfl,
        ⟨hpolled, Or.inl rfl, fun _ => Or.inl ⟨hspared, rfl⟩, hsettles⟩⟩
  · obtain ⟨answer, hexchange⟩ := exists_exchange_of_runs_detect hfailed
    exact ⟨answer, [], [], hexchange, ⟨by simp, Or.inl rfl, by simp, by simp⟩⟩

/-! ## The principals -/

/-- A user that is read back still has what the scenario looks at. -/
theorem keepsUser_of_runs_verifyUser
    {user : String}
    (hrun : (verifyUser user).Runs before events (.ok ()) after) :
    ∃ answer,
      exchanges events = [⟨readUserRequest user, answer⟩] ∧
      Exchange.Accepted (readUserRequest user) (KeepsUser user) ⟨readUserRequest user, answer⟩ := by
  obtain ⟨response, body, rest, rfl, hok, hbody, hread⟩ := runs_checked_ok_iff.mp hrun
  obtain ⟨info, hinfo, hread⟩ := runs_liftM_bind_ok_iff.mp hread
  obtain ⟨hemail, hread⟩ := runs_check_bind_ok_iff.mp hread
  obtain ⟨hfullName, hread⟩ := runs_check_bind_ok_iff.mp hread
  obtain ⟨rfl, hroles, _⟩ := runs_check_ok_iff.mp hread
  refine ⟨.ok response, rfl, accepted_ok_iff.mpr ⟨hok, body, hbody, info, ?_⟩⟩
  have hlookup : OrderedMap.lookup info "email" = some (.string (emailOf user)) := by
    have hsame : info.getOrNull "email" = .string (emailOf user) := Json.same_string_iff.mp hemail
    exact (Json.Members.getOrNull_eq_iff (by simp)).mp hsame
  exact ⟨infoOf_eq_ok_iff.mp hinfo, hlookup, has_of_keeps hfullName, has_of_keeps hroles⟩

theorem keepsRole_of_runs_verifyRole
    {role : String}
    (hrun : (verifyRole role).Runs before events (.ok ()) after) :
    ∃ answer,
      exchanges events = [⟨readRoleRequest role, answer⟩] ∧
      Exchange.Accepted (readRoleRequest role) (KeepsRole role) ⟨readRoleRequest role, answer⟩ := by
  obtain ⟨response, body, rest, rfl, hok, hbody, hread⟩ := runs_checked_ok_iff.mp hrun
  obtain ⟨info, hinfo, hread⟩ := runs_liftM_bind_ok_iff.mp hread
  obtain ⟨rfl, hkeys, _⟩ := runs_each_check_ok_iff.mp hread
  have hhas : ∀ key ∈ ["run_as", "cluster", "indices"], Has info key :=
    fun key hmem => has_of_keeps (hkeys key hmem)
  refine ⟨.ok response, rfl, accepted_ok_iff.mpr ⟨hok, body, hbody, info, ?_⟩⟩
  exact ⟨infoOf_eq_ok_iff.mp hinfo, hhas _ (by simp), hhas _ (by simp), hhas _ (by simp)⟩

theorem renewsPrincipals_of_runs_renew
    (hrun : (renew preUser preRole).Runs before events (.ok ()) after) :
    RenewsPrincipals (exchanges events) := by
  obtain ⟨userResponse, _, _, _, rfl, hcreated, hwritten⟩ := runs_bind_ok_iff.mp hrun
  obtain ⟨fullName, huser⟩ := exists_answer_of_runs_createUser hcreated
  obtain ⟨_, huserOk, hwritten⟩ := runs_liftM_bind_ok_iff.mp hwritten
  obtain ⟨roleResponse, _, rfl, hanswered⟩ := runs_call_bind_ok_iff.mp hwritten
  obtain ⟨_, hroleOk, hreading⟩ := runs_liftM_bind_ok_iff.mp hanswered
  obtain ⟨_, _, _, _, rfl, hpreUser, hreading⟩ := runs_bind_ok_iff.mp hreading
  obtain ⟨_, _, _, _, rfl, hpreRole, hreading⟩ := runs_bind_ok_iff.mp hreading
  obtain ⟨_, _, _, _, rfl, hpostUser, hpostRole⟩ := runs_bind_ok_iff.mp hreading
  obtain ⟨_, hpreUser, hkeptUser⟩ := keepsUser_of_runs_verifyUser hpreUser
  obtain ⟨_, hpreRole, hkeptRole⟩ := keepsRole_of_runs_verifyRole hpreRole
  obtain ⟨_, hpostUser, hnewUser⟩ := keepsUser_of_runs_verifyUser hpostUser
  obtain ⟨_, hpostRole, hnewRole⟩ := keepsRole_of_runs_verifyRole hpostRole
  refine ⟨fullName, _, _, _, ?_, ⟨userResponse, rfl, (requireOk_eq_ok_iff.mp huserOk).1⟩,
    ⟨roleResponse, rfl, (requireOk_eq_ok_iff.mp hroleOk).1⟩,
    .cons hkeptUser (.cons hkeptRole (.cons hnewUser (.cons hnewRole .nil)))⟩
  rw [exchanges_append, huser, exchanges_call_cons, exchanges_append, hpreUser, exchanges_append,
    hpreRole, exchanges_append, hpostUser, hpostRole]
  rfl

end Parts

/-! ## The whole half -/

/-- The exchange is a migration command or another request of its kind. -/
def IsPost (exchange : Exchange) : Prop :=
  exchange.request.method = "POST"

theorem not_isPost_of_isRead
    {exchange : Exchange}
    (hread : exchange.request.IsRead) :
    ¬IsPost exchange := by
  rw [IsPost, hread]
  decide

/-- What stands before a migration command: the first detection found the store required that the
lookup had named, and then a new user was refused because the store is outdated. -/
def Warranted
    (settings : SecurityStoreSettings)
    (harness : Harness)
    (front : List Exchange)
    (command : Exchange) : Prop :=
  ∃ opening lookup store first fullName probe,
    front =
      [opening,
       ⟨lookupRequest settings.storeName, lookup⟩,
       ⟨assistanceRequest harness.assistancePath, first⟩,
       ⟨userRequest postUser fullName, probe⟩] ∧
    opening.request.IsRead ∧
    NamesStore ⟨settings.storeName, "index"⟩ lookup store ∧
    Classifies first store .required ∧
    RefusesOutdated probe ∧
    command.request = upgradeRequest harness.upgradePath store

/-- The exchanges of a half that succeeds, from the first to the last. -/
def FollowsProtocol
    (settings : SecurityStoreSettings)
    (harness : Harness)
    (all : List Exchange) : Prop :=
  ∃ opening lookup store first commands polled principals,
    all =
      opening ::
      ⟨lookupRequest settings.storeName, lookup⟩ ::
      ⟨assistanceRequest harness.assistancePath, first⟩ ::
      (commands ++ polled ++ principals) ∧
    opening.request.IsRead ∧
    NamesStore ⟨settings.storeName, "index"⟩ lookup store ∧
    AreComplete harness store first commands ∧
    (∀ exchange ∈ polled, exchange.request = assistanceRequest harness.assistancePath) ∧
    EndsSettled harness store (⟨assistanceRequest harness.assistancePath, first⟩ :: polled) ∧
    RenewsPrincipals principals

section Half

variable {settings : SecurityStoreSettings} {ctx : ScenarioContext} {before after : Session}
  {events : List Event} {result : Except Failure Unit}

/-- The middle stretch and the last, if the middle one succeeds. -/
theorem exists_stretch_of_runs_bringAndRenew
    {harness : Harness} {store : ResourceRef}
    (hrun : (bringUpToDate settings harness store >>= fun _ => renew preUser preRole).Runs before
      events result after) :
    ∃ brought first commands polled principals,
      exchanges events =
        ⟨assistanceRequest harness.assistancePath, first⟩ :: (commands ++ polled ++ principals) ∧
      Stretch harness store brought first commands polled ∧
      (∀ exchange ∈ principals, ¬IsPost exchange) ∧
      (result = .ok () → brought = .ok () ∧ RenewsPrincipals principals) := by
  rcases runs_bind_iff.mp hrun with
    ⟨_, _, bringing, renewing, rfl, hbrought, hrenewed⟩ | ⟨failure, rfl, hbrought⟩
  · obtain ⟨first, commands, polled, hexchanges, hstretch⟩ :=
      exists_stretch_of_runs_bringUpToDate hbrought
    have hwrites : Sends (fun request => request.method ≠ "POST") (renew preUser preRole) := by
      refine Conforms.sends (conforms_renew (fun _ request hread => ?_) (fun _ => ?_) ?_)
      · change request.method ≠ "POST"
        rw [hread]
        decide
      · change "PUT" ≠ "POST"
        decide
      · change "PUT" ≠ "POST"
        decide
    refine ⟨.ok (), first, commands, polled, exchanges renewing, ?_, hstretch, hwrites hrenewed, ?_⟩
    · rw [exchanges_append, hexchanges]
      rfl
    · rintro rfl
      exact ⟨rfl, renewsPrincipals_of_runs_renew hrenewed⟩
  · obtain ⟨first, commands, polled, hexchanges, hstretch⟩ :=
      exists_stretch_of_runs_bringUpToDate hbrought
    refine ⟨.error failure, first, commands, polled, [], ?_, hstretch, by simp, by simp⟩
    rw [hexchanges, List.append_nil]

/-- The three stretches of a run, unless it fails in the first of them. -/
theorem exists_stretches_of_runs_verify
    (hrun : (verify settings ctx).Runs before events result after) :
    ((∀ exchange ∈ exchanges events, exchange.request.IsRead) ∧ result ≠ .ok ())
    ∨
    ∃ opening lookup store brought first commands polled principals,
      exchanges events =
        opening ::
        ⟨lookupRequest settings.storeName, lookup⟩ ::
        ⟨assistanceRequest ctx.harness.assistancePath, first⟩ ::
        (commands ++ polled ++ principals) ∧
      opening.request.IsRead ∧
      NamesStore ⟨settings.storeName, "index"⟩ lookup store ∧
      Stretch ctx.harness store brought first commands polled ∧
      (∀ exchange ∈ principals, ¬IsPost exchange) ∧
      (result = .ok () → brought = .ok () ∧ RenewsPrincipals principals) := by
  unfold verify at hrun
  rcases runs_liftM_bind_iff.mp hrun with ⟨named, hnamed, hrun⟩ | ⟨failure, _, rfl, rfl, _⟩
  swap
  · exact Or.inl ⟨by simp, by simp⟩
  rcases runs_liftM_bind_iff.mp hrun with ⟨user, huser, hrun⟩ | ⟨failure, _, rfl, rfl, _⟩
  swap
  · exact Or.inl ⟨by simp, by simp⟩
  rcases runs_liftM_bind_iff.mp hrun with ⟨role, hrole, hrun⟩ | ⟨failure, _, rfl, rfl, _⟩
  swap
  · exact Or.inl ⟨by simp, by simp⟩
  obtain ⟨rfl, _⟩ := ScenarioContext.resource_eq_ok_iff.mp hnamed
  obtain ⟨rfl, _⟩ := ScenarioContext.resource_eq_ok_iff.mp huser
  obtain ⟨rfl, _⟩ := ScenarioContext.resource_eq_ok_iff.mp hrole
  rcases runs_bind_iff.mp hrun with
    ⟨body, _, opened, rest, rfl, hawaited, hrun⟩ | ⟨failure, rfl, hawaited⟩
  swap
  · have hreads : Sends Request.IsRead
        (Health.await ctx.harness.table ctx.config.oldVersion (some settings.storeName)) :=
      Conforms.sends (Health.conforms_await (fun _ _ => trivial) fun _ _ hread => hread)
    exact Or.inl ⟨hreads hawaited, by simp⟩
  obtain ⟨opening, hopening, hopens⟩ := Health.exists_exchange_of_runs_await hawaited
  rw [exchanges_append, hopening]
  rcases runs_bind_iff.mp hrun with
    ⟨store, _, looking, rest, rfl, hlooked, hrun⟩ | ⟨failure, rfl, hlooked⟩
  swap
  · obtain ⟨lookup, hlookup, _⟩ := exists_answer_of_runs_concreteStore hlooked
    have hlooks : (lookupRequest settings.storeName).IsRead := rfl
    refine Or.inl ⟨?_, by simp⟩
    rw [hlookup]
    simpa using ⟨hopens, hlooks⟩
  obtain ⟨lookup, hlookup, hstore⟩ := exists_answer_of_runs_concreteStore hlooked
  rw [exchanges_append, hlookup]
  right
  obtain ⟨brought, first, commands, polled, principals, hexchanges, hstretch, hprincipals⟩ :=
    exists_stretch_of_runs_bringAndRenew hrun
  refine ⟨opening, lookup, store, brought, first, commands, polled, principals, ?_, hopens,
    hstore store rfl, hstretch, hprincipals⟩
  rw [hexchanges]
  rfl

/-- A command among the requests of a stretch is the last thing sent before the wait. -/
theorem exists_probe_of_isPost
    {harness : Harness} {store : ResourceRef} {first : Except Failure Response}
    {earlier commands later front back : List Exchange} {command : Exchange}
    (hearlier : ∀ exchange ∈ earlier, ¬IsPost exchange)
    (hlater : ∀ exchange ∈ later, ¬IsPost exchange)
    (hwarranted : commands = [] ∨ Commands harness store first commands)
    (hsplit : front ++ command :: back = earlier ++ (commands ++ later))
    (hpost : IsPost command) :
    ∃ fullName probe,
      front = earlier ++ [⟨userRequest postUser fullName, probe⟩] ∧
      back = later ∧
      Classifies first store .required ∧
      RefusesOutdated probe ∧
      command.request = upgradeRequest harness.upgradePath store := by
  have hprobe : ∀ fullName answer, ¬IsPost ⟨userRequest postUser fullName, answer⟩ := by
    simp [IsPost, userRequest]
  have hamong : command ∈ commands := by
    have hmem : command ∈ earlier ++ (commands ++ later) := by
      rw [← hsplit]
      simp
    rcases List.mem_append.mp hmem with hmem | hmem
    · exact absurd hpost (hearlier command hmem)
    · exact (List.mem_append.mp hmem).resolve_right fun hmem => hlater command hmem hpost
  rcases hwarranted with rfl | hcommands
  · cases hamong
  cases hcommands with
  | probed fullName probe hrequired =>
      obtain rfl := List.mem_singleton.mp hamong
      exact absurd hpost (hprobe fullName probe)
  | migrated fullName probe answer hrequired hrefused =>
      have hfront : ∀ exchange ∈ earlier ++ [⟨userRequest postUser fullName, probe⟩],
          ¬IsPost exchange := by
        intro exchange hmem
        rcases List.mem_append.mp hmem with hmem | hmem
        · exact hearlier exchange hmem
        · obtain rfl := List.mem_singleton.mp hmem
          exact hprobe fullName probe
      have hplace : front ++ command :: back =
          earlier ++ [⟨userRequest postUser fullName, probe⟩] ++
            ⟨upgradeRequest harness.upgradePath store, answer⟩ :: later := by
        rw [hsplit, List.append_assoc]
        rfl
      obtain ⟨rfl, rfl, rfl⟩ := eq_of_only hplace hpost hfront hlater
      exact ⟨fullName, probe, rfl, rfl, hrequired, hrefused, rfl⟩

/-- **The order of requests.**  A migration command is sent at most once, for the store behind the
alias, after the first detection found it required and the service refused a new user because the
store is outdated.  A half that succeeds sends the command exactly when the first detection found
the store required; the last detection leaves nothing to be done; behind it the new user and the new
role are written with success, and behind these all four principals are read back complete. -/
theorem follows_protocol_of_runs_postUpgrade
    (settings : SecurityStoreSettings)
    (ctx : ScenarioContext)
    (before after : Session)
    (events : List Event)
    (result : Except Failure Unit)
    (hrun : ((scenario settings).postUpgrade ctx).Runs before events result after) :
    (∀ front command back,
      exchanges events = front ++ command :: back →
      IsPost command →
      Warranted settings ctx.harness front command ∧ ∀ other ∈ back, ¬IsPost other) ∧
    (result = .ok () → FollowsProtocol settings ctx.harness (exchanges events)) := by
  rcases exists_stretches_of_runs_verify hrun with ⟨hreads, hfailed⟩ |
    ⟨opening, lookup, store, brought, first, commands, polled, principals, hexchanges, hopens,
      hstore, hstretch, hwrites, hresult⟩
  · refine ⟨fun front command back hsplit hpost => ?_, fun hok => absurd hok hfailed⟩
    have hread : command.request.IsRead := hreads command (by rw [hsplit]; simp)
    rw [IsPost, hread] at hpost
    exact absurd hpost (by decide)
  · refine ⟨fun front command back hsplit hpost => ?_, fun hok => ?_⟩
    · have hparts : exchanges events =
          [opening,
           ⟨lookupRequest settings.storeName, lookup⟩,
           ⟨assistanceRequest ctx.harness.assistancePath, first⟩] ++
          (commands ++ (polled ++ principals)) := by
        rw [hexchanges, List.append_assoc]
        rfl
      have hlooks : ∀ exchange ∈
          [opening,
           ⟨lookupRequest settings.storeName, lookup⟩,
           ⟨assistanceRequest ctx.harness.assistancePath, first⟩], ¬IsPost exchange := by
        simpa [IsPost, lookupRequest, assistanceRequest] using not_isPost_of_isRead hopens
      have hrest : ∀ exchange ∈ polled ++ principals, ¬IsPost exchange := by
        intro exchange hmem
        rcases List.mem_append.mp hmem with hmem | hmem
        · exact not_isPost_of_isRead (by rw [hstretch.waits exchange hmem]; rfl)
        · exact hwrites exchange hmem
      obtain ⟨fullName, probe, rfl, rfl, hrequired, hrefused, hcommand⟩ :=
        exists_probe_of_isPost hlooks hrest hstretch.warranted (hsplit.symm.trans hparts) hpost
      exact ⟨⟨opening, lookup, store, first, fullName, probe, rfl, hopens, hstore, hrequired,
        hrefused, hcommand⟩, hrest⟩
    · obtain ⟨rfl, hprincipals⟩ := hresult hok
      exact ⟨opening, lookup, store, first, commands, polled, principals, hexchanges, hopens,
        hstore, hstretch.complete rfl, hstretch.waits, hstretch.settled rfl, hprincipals⟩

/-- The scenario after the upgrade, with the capabilities built in. -/
def standardContext : ScenarioContext where
  config := ⟨.postUpgrade, ⟨6, 3, 2, 99⟩, none⟩
  harness := standardHarness
  declared := (scenario {}).toDeclaration

def userText (user : String) : String :=
  "\x7b\"" ++ user ++ "\":\x7b\"email\":\"" ++ emailOf user ++
    "\",\"full_name\":\"abcde\",\"roles\":[]\x7d\x7d"

def roleText (role : String) : String :=
  "\x7b\"" ++ role ++ "\":\x7b\"run_as\":[],\"cluster\":[],\"indices\":[]\x7d\x7d"

/-- A service whose store is outdated until it is migrated, behind an alias. -/
def outdated : Rehearsal where
  routes :=
    [("GET /_cluster/health/.security", [{ answer := .ok ⟨200, "\x7b\"timed_out\":false\x7d"⟩ }]),
     ("GET /.security/_settings/index.format",
      [{ answer := .ok ⟨200, "\x7b\"s6\":\x7b\x7d\x7d"⟩ }]),
     ("GET /_xpack/migration/assistance",
      [{ answer := .ok ⟨200,
          "\x7b\"indices\":\x7b\"s6\":\x7b\"action_required\":\"upgrade\"\x7d\x7d\x7d"⟩ },
       { answer := .ok ⟨200, "\x7b\"indices\":\x7b\x7d\x7d"⟩ }]),
     ("PUT /_xpack/security/user/postupgrade_user",
      [{ answer := .ok ⟨503, outdatedError⟩ }, { answer := .ok ⟨200, ""⟩ }]),
     ("POST /_xpack/migration/upgrade/s6", [{ answer := .ok ⟨200, "\x7b\"total\":3\x7d"⟩ }]),
     ("PUT /_xpack/security/role/postupgrade_role", [{ answer := .ok ⟨200, ""⟩ }]),
     ("GET /_xpack/security/user/preupgrade_user", [{ answer := .ok ⟨200, userText preUser⟩ }]),
     ("GET /_xpack/security/role/preupgrade_role", [{ answer := .ok ⟨200, roleText preRole⟩ }]),
     ("GET /_xpack/security/user/postupgrade_user", [{ answer := .ok ⟨200, userText postUser⟩ }]),
     ("GET /_xpack/security/role/postupgrade_role", [{ answer := .ok ⟨200, roleText postRole⟩ }])]

theorem follows_protocol_in_outdated :
    ∃ events after front command back,
      ((scenario {}).postUpgrade standardContext).Runs {} events (.ok ()) after ∧
      exchanges events = front ++ command :: back ∧
      IsPost command ∧
      Warranted {} standardContext.harness front command ∧
      FollowsProtocol {} standardContext.harness (exchanges events) := by
  obtain ⟨events, _, after, hrun, htest⟩ :=
    exists_runs_of_succeedsWith outdated {} ((scenario {}).postUpgrade standardContext)
      (fun events _ => (exchanges events).any fun exchange => exchange.request.method == "POST")
      rfl (by decide +kernel)
  obtain ⟨command, hmem, hpost⟩ := List.any_eq_true.mp htest
  obtain ⟨front, back, hsplit⟩ := List.append_of_mem hmem
  have hcommand : IsPost command := by simpa [IsPost] using hpost
  obtain ⟨hposts, hsucceeds⟩ :=
    follows_protocol_of_runs_postUpgrade {} standardContext {} after events (.ok ()) hrun
  exact ⟨events, after, front, command, back, hrun, hsplit, hcommand,
    (hposts front command back hsplit hcommand).1, hsucceeds rfl⟩

end Half

end SecurityStore
end RestartCheck

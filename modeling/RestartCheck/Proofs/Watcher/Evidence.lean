import RestartCheck.Proofs.Effect.Rehearsed
import RestartCheck.Proofs.Migration.Classification
import RestartCheck.Proofs.Watcher.Waits

/-!
# The evidence behind a pass of the watcher scenario

The second half of the watcher scenario chains a wait for the health of the cluster, a migration,
three polls and a dozen checks.  When it ends normally, its exchanges with the service show all that
it is meant to verify, in order.  In particular no value that is missing from an answer is taken
for the expected one.

**Results.**
* `storesSettled_iff`: which entries leave nothing to be migrated.
* `shows_of_runs_migrateStores`: the stores need no migration any more.
* `keepsFields_of_checkFields`, `keepsReport_of_checkReport`: what a stored watch has kept.
* `shows_of_runs_checkRunning`: the checks made while the watcher runs.
* `evidence`: all that the exchanges of a half that passes are shown to contain.
-/

namespace RestartCheck
namespace Watcher

open RestartCheck.Action Trace

/-! ## What the answers say -/

/-- Neither store is reported as required or in progress. -/
def StoresSettled (body : Json.Members) : Prop :=
  ∃ reported,
    OrderedMap.lookup body "indices" = some (.object reported) ∧
    ∀ store ∈ stores, ∃ status,
      Migration.classify ⟨store, "index"⟩ (OrderedMap.lookup reported store) = .ok status ∧
      status ≠ .required ∧
      status ≠ .inProgress

/-- The entry leaves nothing to be migrated: it is missing or null, or the action that it requires
is. -/
inductive Settles : Option Json → Prop
  | missing : Settles none
  | null : Settles (some .null)
  | word
      {members : Json.Members} {word : String}
      (hword : OrderedMap.lookup members "action_required" = some (.string word))
      (hsettled : Text.lower word ∈ ["none", "not_required"]) :
      Settles (some (.object members))
  | action
      {members : Json.Members}
      (hnull : OrderedMap.lookup members "action_required" = some .null) :
      Settles (some (.object members))

/-- What it takes for the stores to be settled. -/
theorem storesSettled_iff
    {body : Json.Members} :
    StoresSettled body ↔
      ∃ reported,
        OrderedMap.lookup body "indices" = some (.object reported) ∧
        ∀ store ∈ stores, Settles (OrderedMap.lookup reported store) := by
  unfold StoresSettled
  simp only [Migration.classify_eq_ok_iff]
  refine exists_congr fun reported => and_congr_right fun _ => forall₂_congr fun store _ => ?_
  generalize OrderedMap.lookup reported store = entry
  constructor
  · rintro ⟨status, (hevidences | hoverlooks), hrequired, hprogress⟩
    · cases hevidences with
      | missing => exact .missing
      | required hword hstatus =>
          cases status with
          | required => exact absurd rfl hrequired
          | inProgress => exact absurd rfl hprogress
          | notRequired => exact .word hword hstatus
          | completed => cases hstatus
    · cases hoverlooks with
      | entry => exact .null
      | action hnull => exact .action hnull
  · rintro (_ | _ | ⟨hword, hsettled⟩ | hnull)
    · exact ⟨.completed, Or.inl .missing, by decide, by decide⟩
    · exact ⟨.completed, Or.inr .entry, by decide, by decide⟩
    · exact ⟨.notRequired, Or.inl (.required hword hsettled), by decide, by decide⟩
    · exact ⟨.notRequired, Or.inr (.action hnull), by decide, by decide⟩

/-- No template of the old watcher is listed. -/
def NoLegacyTemplates (body : Json.Members) : Prop :=
  ∀ template ∈ OrderedMap.keys body,
    template ∉ legacyTemplates ∧ ¬legacyTemplateStart.toList <+: template.toList

/-- A watch was found, and something holds of its source. -/
def FoundWith
    (holds : Json → Prop)
    (body : Json.Members) : Prop :=
  OrderedMap.lookup body "found" = some (.bool true) ∧
  ∃ source, OrderedMap.lookup body "watch" = some (.object source) ∧ holds (.object source)

def KeepsFields
    (fields : List (String × Json))
    (source : Json) : Prop :=
  ∀ field ∈ fields, source.HoldsAt field.1 field.2

/-- The request that fetches the report has its fields, its user, and a password that is not
readable. -/
def KeepsReport (source : Json) : Prop :=
  ∃ attachments attachment request basic password,
    source.find "actions.work.email.attachments" = .ok (some (.object attachments)) ∧
    OrderedMap.lookup attachments reportAttachment = some attachment ∧
    attachment.find "http.request" = .ok (some (.object request)) ∧
    (∀ field ∈ reportFields, ∃ actual,
      OrderedMap.lookup request field.1 = some actual ∧ actual.same field.2 = true) ∧
    (Json.object request).find "auth.basic" = .ok (some (.object basic)) ∧
    OrderedMap.lookup basic "username" = some (.string reportUser) ∧
    OrderedMap.lookup basic "password" = some (.string password) ∧
    (encryptedStart.toList <+: password.toList ∨ password = redactedPassword)

/-- The new watch was stored under the version, and created or not. -/
def StoredAs
    (created : Bool)
    (version : Int)
    (body : Json.Members) : Prop :=
  OrderedMap.lookup body "created" = some (.bool created) ∧
  ∃ actual, OrderedMap.lookup body "_version" = some actual ∧ actual.same (.int version) = true

/-- The action of the new watch has the level and the text with which it was stored. -/
def LogsTest (source : Json) : Prop :=
  ∃ action,
    source.find "actions.awesome.logging" = .ok (some (.object action)) ∧
    OrderedMap.lookup action "level" = some (.string "info") ∧
    OrderedMap.lookup action "text" = some (.string "test")

/-! ## Requests -/

def templatesRequest : Request :=
  { method := "GET", path := "/_template" }

def readRequest
    (watchPath watch : String) : Request :=
  { method := "GET", path := watchPath ++ "/" ++ watch }

/-! ## Stages -/

/-- What the exchanges show when the checks pass that need the watcher running. -/
def runningEvidence
    (minHits : Int)
    (watchPath : String) : List (Exchange → Prop) :=
  [Exchange.Accepted templatesRequest NoLegacyTemplates]
    ++ (storedFields.map fun stored =>
        Exchange.Accepted (readRequest watchPath stored.1) (FoundWith (KeepsFields stored.2)))
    ++ [Exchange.Accepted (readRequest watchPath reportWatchName) (FoundWith KeepsReport),
      Exchange.Accepted (searchRequest historyIndex) (EnoughHits minHits),
      Exchange.Accepted (storeRequest watchPath) (StoredAs true 1),
      Exchange.Accepted (storeRequest watchPath) (StoredAs false 2),
      Exchange.Accepted (readRequest watchPath newWatch) (FoundWith LogsTest)]

/-- What the exchanges of a half show when it passes. -/
def evidence
    (minHits : Int)
    (assistancePath startPath statsPath watchPath stopPath : String) : List (Exchange → Prop) :=
  [Health.Reached healthResources,
    Exchange.Accepted (Migration.assistanceRequest assistancePath) StoresSettled,
    Acknowledged startPath,
    Reports statsPath "started"]
    ++ runningEvidence minHits watchPath
    ++ [Acknowledged stopPath, Reports statsPath "stopped"]

/-! ## Readings -/

section Readings

variable {watch : String} {source : Json}

theorem ne_null_of_mem_storedFields :
    ∀ stored ∈ storedFields, ∀ field ∈ stored.2, field.2 ≠ .null := by
  simp only [storedFields, List.forall_mem_cons, List.not_mem_nil, false_implies, implies_true,
    ne_eq, reduceCtorEq, not_false_eq_true, and_self]

theorem keepsFields_of_checkFields
    {fields : List (String × Json)}
    (hfields : ∀ field ∈ fields, field.2 ≠ .null)
    (hcheck : checkFields watch source fields = .ok ()) :
    KeepsFields fields source := by
  induction fields with
  | nil => simp [KeepsFields]
  | cons field rest ih =>
      obtain ⟨path, expected⟩ := field
      rw [List.forall_mem_cons] at hfields
      obtain ⟨actual, hactual, hcompared⟩ := Json.bind_eq_ok_iff.mp hcheck
      obtain ⟨_, hsame, hrest⟩ := Json.bind_eq_ok_iff.mp hcompared
      refine List.forall_mem_cons.mpr ⟨?_, ih hfields.2 hrest⟩
      exact Json.holdsAt_of_extractOr hactual (check_eq_ok_iff.mp hsame) hfields.1

/-- A member that equals something other than null is there. -/
theorem lookup_of_member_same
    {data actual expected : Json} {name : String}
    (hread : data.member name = .ok actual)
    (hsame : actual.same expected = true)
    (hexpected : expected ≠ .null) :
    ∃ members, data = .object members ∧ OrderedMap.lookup members name = some actual := by
  refine Json.lookup_of_memberOr hread ?_
  rintro rfl
  exact hexpected (Json.same_null_left_iff.mp hsame)

theorem lookup_of_checkRequest
    {request : Json.Members} {fields : List (String × Json)}
    (hfields : ∀ field ∈ fields, field.2 ≠ .null)
    (hcheck : checkRequest watch (.object request) fields = .ok ()) :
    ∀ field ∈ fields, ∃ actual,
      OrderedMap.lookup request field.1 = some actual ∧ actual.same field.2 = true := by
  induction fields with
  | nil => simp
  | cons field rest ih =>
      obtain ⟨name, expected⟩ := field
      rw [List.forall_mem_cons] at hfields
      obtain ⟨actual, hactual, hcompared⟩ := Json.bind_eq_ok_iff.mp hcheck
      obtain ⟨_, hcompare, hrest⟩ := Json.bind_eq_ok_iff.mp hcompared
      have hsame : actual.same expected = true := check_eq_ok_iff.mp hcompare
      obtain ⟨members, hmembers, hlookup⟩ := lookup_of_member_same hactual hsame hfields.1
      cases hmembers
      exact List.forall_mem_cons.mpr ⟨⟨actual, hlookup, hsame⟩, ih hfields.2 hrest⟩

/-- Only a text is shown as a password that is not readable. -/
theorem exists_string_of_isProtected
    {password : Json}
    (hprotected : isProtected password.display = true) :
    ∃ text,
      password = .string text ∧
        (encryptedStart.toList <+: text.toList ∨ text = redactedPassword) := by
  have hcases :
      encryptedStart.toList <+: password.display.toList ∨ password.display = redactedPassword := by
    simpa [isProtected] using hprotected
  have hhead : password.display.toList.head? = some ':' := by
    rcases hcases with hencrypted | hredacted
    · obtain ⟨rest, hrest⟩ := hencrypted
      rw [← hrest]
      rfl
    · rw [hredacted]
      rfl
  obtain ⟨text, rfl⟩ := Json.eq_string_of_colon_head hhead
  exact ⟨text, rfl, hcases⟩

/-- A request that has one of the fields of the report is an object, and it is not empty. -/
theorem exists_members_of_checkRequest
    {request : Json}
    (hcheck : checkRequest watch request reportFields = .ok ()) :
    ∃ members, request = .object members ∧ request ≠ .object [] := by
  obtain ⟨actual, hactual, hcompared⟩ := Json.bind_eq_ok_iff.mp hcheck
  obtain ⟨_, hcompare, _⟩ := Json.bind_eq_ok_iff.mp hcompared
  obtain ⟨members, rfl, hlookup⟩ :=
    lookup_of_member_same hactual (check_eq_ok_iff.mp hcompare) (by simp)
  exact ⟨members, rfl, Json.object_ne_empty_of_lookup hlookup⟩

theorem keepsReport_of_checkReport
    (hcheck : checkReport watch source = .ok ()) :
    KeepsReport source := by
  unfold checkReport at hcheck
  obtain ⟨attachments, hattachments, hcheck⟩ := Json.bind_eq_ok_iff.mp hcheck
  obtain ⟨attachment, hattachment, hcheck⟩ := Json.bind_eq_ok_iff.mp hcheck
  obtain ⟨request, hrequest, hcheck⟩ := Json.bind_eq_ok_iff.mp hcheck
  obtain ⟨_, hfields, hcheck⟩ := Json.bind_eq_ok_iff.mp hcheck
  obtain ⟨basic, hbasic, hcheck⟩ := Json.bind_eq_ok_iff.mp hcheck
  obtain ⟨user, huser, hcheck⟩ := Json.bind_eq_ok_iff.mp hcheck
  obtain ⟨_, hsame, hcheck⟩ := Json.bind_eq_ok_iff.mp hcheck
  obtain ⟨password, hpassword, hprotected⟩ := Json.bind_eq_ok_iff.mp hcheck
  -- Each reading is shown to have found something by what is read from it afterwards.
  obtain ⟨members, rfl, hrequestNonempty⟩ := exists_members_of_checkRequest hfields
  have hrequestFound := Json.find_of_extractOr hrequest hrequestNonempty
  have hattachmentNonempty : attachment ≠ .object [] := by
    rintro rfl
    cases hrequestFound
  obtain ⟨files, rfl, hattachmentFound⟩ := Json.lookup_of_memberOr hattachment hattachmentNonempty
  have hattachmentsFound :=
    Json.find_of_extractOr hattachments (Json.object_ne_empty_of_lookup hattachmentFound)
  obtain ⟨credentials, rfl, huserFound⟩ :=
    lookup_of_member_same huser (check_eq_ok_iff.mp hsame) (by simp)
  obtain rfl := Json.same_string_iff.mp (check_eq_ok_iff.mp hsame)
  have hbasicFound :=
    Json.find_of_extractOr hbasic (Json.object_ne_empty_of_lookup huserFound)
  obtain ⟨text, rfl, hhidden⟩ := exists_string_of_isProtected (check_eq_ok_iff.mp hprotected)
  obtain ⟨_, hobject, hpasswordFound⟩ := Json.lookup_of_memberOr hpassword (by simp)
  cases hobject
  exact ⟨files, attachment, members, credentials, text, hattachmentsFound, hattachmentFound,
    hrequestFound, lookup_of_checkRequest (by simp [reportFields]) hfields, hbasicFound, huserFound,
    hpasswordFound, hhidden⟩

end Readings

/-! ## The checks -/

section Checks

variable {settings : WatcherSettings} {ctx : ScenarioContext} {watchPath : String}
  {before after : Session} {events : List Event}

theorem shows_of_runs_readWatch
    {watch : String} {source : Json} {holds : Json → Prop}
    (hrun : (readWatch watchPath watch).Runs before events (.ok source) after)
    (hholds : holds source) :
    Shows [Exchange.Accepted (readRequest watchPath watch) (FoundWith holds)]
      (exchanges events) := by
  obtain ⟨response, body, rest, rfl, hok, hbody, hchecks⟩ := runs_checked_ok_iff.mp hrun
  obtain ⟨hfound, hsource⟩ := runs_check_bind_ok_iff.mp hchecks
  obtain ⟨hobject, hend⟩ := runs_check_bind_ok_iff.mp hsource
  obtain ⟨_, hresult, _⟩ := runs_pure_iff.mp hend
  cases hresult
  obtain ⟨members, hmembers⟩ := Json.isObject_iff.mp hobject
  rw [hmembers] at hholds
  refine shows_accepted hok hbody ⟨Json.Members.isTrue_getOrNull_iff.mp hfound, members, ?_, hholds⟩
  exact (Json.Members.getOrNull_eq_iff (by simp)).mp hmembers

theorem noLegacyTemplates_of_isEmpty
    {body : Json.Members}
    (hempty :
      (Text.sorted ((OrderedMap.keys body).filter isLegacyTemplate)).isEmpty = true) :
    NoLegacyTemplates body := by
  intro template htemplate
  have hnone : template ∉ Text.sorted ((OrderedMap.keys body).filter isLegacyTemplate) := by
    rw [List.isEmpty_iff.mp hempty]
    exact List.not_mem_nil
  rw [Text.mem_sorted, List.mem_filter] at hnone
  have hmodern : ¬isLegacyTemplate template = true :=
    fun hlegacy => hnone ⟨htemplate, hlegacy⟩
  simpa [isLegacyTemplate] using hmodern

theorem shows_of_runs_checkTemplates
    (hrun : checkTemplates.Runs before events (.ok ()) after) :
    Shows [Exchange.Accepted templatesRequest NoLegacyTemplates] (exchanges events) := by
  obtain ⟨response, body, rest, rfl, hok, hbody, hcheck⟩ := runs_checked_ok_iff.mp hrun
  obtain ⟨_, hempty, _⟩ := runs_check_ok_iff.mp hcheck
  exact shows_accepted hok hbody (noLegacyTemplates_of_isEmpty hempty)

theorem shows_of_runs_checkStored
    (hrun : (checkStored settings ctx watchPath).Runs before events (.ok ()) after) :
    Shows
      ((storedFields.map fun stored =>
          Exchange.Accepted (readRequest watchPath stored.1) (FoundWith (KeepsFields stored.2)))
        ++ [Exchange.Accepted (readRequest watchPath reportWatchName) (FoundWith KeepsReport),
          Exchange.Accepted (searchRequest historyIndex) (EnoughHits settings.minHits)])
      (exchanges events) := by
  obtain ⟨_, middle, front, back, rfl, hstored, hrest⟩ := runs_bind_ok_iff.mp hrun
  obtain ⟨ref, href, hreport⟩ := runs_liftM_bind_ok_iff.mp hrest
  obtain ⟨source, later, reading, checking, rfl, hread, hchecked⟩ := runs_bind_ok_iff.mp hreport
  obtain ⟨_, hcheck, hhits⟩ := runs_liftM_bind_ok_iff.mp hchecked
  obtain ⟨hits, _, searching, rest, rfl, hsearch, hend⟩ := runs_bind_ok_iff.mp hhits
  obtain ⟨rfl, _, _⟩ := runs_pure_iff.mp hend
  obtain ⟨rfl, _⟩ := ScenarioContext.resource_eq_ok_iff.mp href
  rw [exchanges_append, exchanges_append, List.append_nil]
  have hreportShows :=
    (shows_of_runs_readWatch hread (keepsReport_of_checkReport hcheck)).append
      (shows_of_runs_awaitHits hsearch)
  refine Shows.append ?_ hreportShows
  refine shows_of_runs_each ?_ hstored
  rintro ⟨watch, fields⟩ hmem before after events hitem
  have hfields : ∀ field ∈ fields, field.2 ≠ .null := ne_null_of_mem_storedFields _ hmem
  obtain ⟨ref, href, hwatch⟩ := runs_liftM_bind_ok_iff.mp hitem
  obtain ⟨source, _, reading, checking, rfl, hread, hcheck⟩ := runs_bind_ok_iff.mp hwatch
  obtain ⟨rfl, hchecked, _⟩ := runs_liftM_iff.mp hcheck
  obtain ⟨rfl, _⟩ := ScenarioContext.resource_eq_ok_iff.mp href
  rw [List.append_nil]
  exact shows_of_runs_readWatch hread (keepsFields_of_checkFields hfields hchecked.symm)

theorem shows_of_runs_storeNewWatch
    {version : Int} {created : Bool}
    (hrun : (storeNewWatch watchPath version created).Runs before events (.ok ()) after) :
    Shows [Exchange.Accepted (storeRequest watchPath) (StoredAs created version)]
      (exchanges events) := by
  obtain ⟨response, body, rest, rfl, hok, hbody, hchecks⟩ := runs_checked_ok_iff.mp hrun
  obtain ⟨hcreated, hlast⟩ := runs_check_bind_ok_iff.mp hchecks
  obtain ⟨_, hversion, _⟩ := runs_check_ok_iff.mp hlast
  have hbool : body.getOrNull "created" = .bool created := by
    split at hcreated
    · next value hvalue => rw [hvalue, eq_of_beq hcreated]
    · cases hcreated
  refine shows_accepted hok hbody ⟨(Json.Members.getOrNull_eq_iff (by simp)).mp hbool, ?_⟩
  have hpresent : body.getOrNull "_version" ≠ .null := by
    intro hnull
    rw [hnull] at hversion
    cases hversion
  exact ⟨_, (Json.Members.getOrNull_eq_iff hpresent).mp rfl, hversion⟩

theorem logsTest_of_runs_checks
    {source : Json}
    (hrun : Action.Runs (do
        let action ← source.extractOr "actions.awesome.logging" (.object [])
        check ((← action.member "level").same (.string "info"))
          ("unexpected logging level: " ++ action.display)
        check ((← action.member "text").same (.string "test"))
          ("unexpected logging text: " ++ action.display) : Action Unit)
      before events (.ok ()) after) :
    events = [] ∧ LogsTest source := by
  obtain ⟨action, haction, hlevels⟩ := runs_liftM_bind_ok_iff.mp hrun
  obtain ⟨level, hlevel, hlevelCheck⟩ := runs_liftM_bind_ok_iff.mp hlevels
  obtain ⟨hinfo, htexts⟩ := runs_check_bind_ok_iff.mp hlevelCheck
  obtain ⟨text, htext, htextCheck⟩ := runs_liftM_bind_ok_iff.mp htexts
  obtain ⟨rfl, htest, _⟩ := runs_check_ok_iff.mp htextCheck
  obtain ⟨members, rfl, hlevelFound⟩ := lookup_of_member_same hlevel hinfo (by simp)
  obtain ⟨_, hmembers, htextFound⟩ := lookup_of_member_same htext htest (by simp)
  cases hmembers
  obtain rfl := Json.same_string_iff.mp hinfo
  obtain rfl := Json.same_string_iff.mp htest
  have hactionFound :=
    Json.find_of_extractOr haction (Json.object_ne_empty_of_lookup hlevelFound)
  exact ⟨rfl, members, hactionFound, hlevelFound, htextFound⟩

theorem shows_of_runs_checkUpdates
    (hrun : (checkUpdates watchPath).Runs before events (.ok ()) after) :
    Shows
      [Exchange.Accepted (storeRequest watchPath) (StoredAs true 1),
        Exchange.Accepted (storeRequest watchPath) (StoredAs false 2),
        Exchange.Accepted (readRequest watchPath newWatch) (FoundWith LogsTest)]
      (exchanges events) := by
  obtain ⟨_, _, front, _, rfl, hfirst, hrest⟩ := runs_bind_ok_iff.mp hrun
  obtain ⟨_, _, middle, _, rfl, hsecond, hread⟩ := runs_bind_ok_iff.mp hrest
  obtain ⟨source, _, reading, checking, rfl, hsource, hchecks⟩ := runs_bind_ok_iff.mp hread
  obtain ⟨rfl, hlogs⟩ := logsTest_of_runs_checks hchecks
  rw [exchanges_append, exchanges_append, List.append_nil]
  have hshows :=
    (shows_of_runs_storeNewWatch hfirst).append
      ((shows_of_runs_storeNewWatch hsecond).append (shows_of_runs_readWatch hsource hlogs))
  exact hshows

theorem shows_of_runs_checkRunning
    {service : Json.Members}
    (hrun : (checkRunning settings ctx service).Runs before events (.ok ()) after) :
    ∃ watchPath,
      service.textAt "watch_path" = .ok watchPath ∧
      Shows (runningEvidence settings.minHits watchPath) (exchanges events) := by
  obtain ⟨_, _, front, _, rfl, htemplates, hrest⟩ := runs_bind_ok_iff.mp hrun
  obtain ⟨watchPath, hpath, hwatches⟩ := runs_liftM_bind_ok_iff.mp hrest
  obtain ⟨_, _, stored, updated, rfl, hstored, hupdates⟩ := runs_bind_ok_iff.mp hwatches
  refine ⟨watchPath, hpath, ?_⟩
  have hshows :=
    (shows_of_runs_checkTemplates htemplates).append
      ((shows_of_runs_checkStored hstored).append (shows_of_runs_checkUpdates hupdates))
  rw [exchanges_append, exchanges_append]
  simpa [runningEvidence] using hshows

end Checks

/-! ## The half -/

section Half

variable {settings : WatcherSettings} {ctx : ScenarioContext}
  {before after : Session} {events : List Event}

/-- Statuses that leave nothing to report are those of resources that need no migration. -/
theorem not_isPending_of_isEmpty
    {statuses : OrderedMap ResourceRef MigrationStatus} {ref : ResourceRef}
    {status : MigrationStatus}
    (hempty :
      (Text.sorted ((statuses.filter fun entry => entry.2.isPending).map
        fun entry => entry.1.text)).isEmpty = true)
    (hlookup : OrderedMap.lookup statuses ref = some status) :
    status.isPending = false := by
  rw [Bool.eq_false_iff]
  intro hpending
  have hmem : ref.text ∈ Text.sorted ((statuses.filter fun entry => entry.2.isPending).map
      fun entry => entry.1.text) := by
    rw [Text.mem_sorted]
    refine List.mem_map.mpr ⟨(ref, status), ?_, rfl⟩
    exact List.mem_filter.mpr ⟨OrderedMap.mem_of_lookup_eq_some hlookup, hpending⟩
  rw [List.isEmpty_iff.mp hempty] at hmem
  exact List.not_mem_nil hmem

theorem shows_of_runs_migrateStores
    (hrun : (migrateStores settings ctx).Runs before events (.ok ()) after) :
    Shows
      [Exchange.Accepted (Migration.assistanceRequest ctx.harness.assistancePath) StoresSettled]
      (exchanges events) := by
  obtain ⟨refs, _, _, _, rfl, hrefs, hmigrate⟩ := runs_bind_ok_iff.mp hrun
  obtain ⟨outcomes, _, _, _, rfl, _, hnotes⟩ := runs_bind_ok_iff.mp hmigrate
  obtain ⟨_, _, _, _, rfl, _, hdetect⟩ := runs_bind_ok_iff.mp hnotes
  obtain ⟨remaining, _, detecting, checking, rfl, hremaining, hcheck⟩ :=
    runs_bind_ok_iff.mp hdetect
  obtain ⟨_, hempty, _⟩ := runs_check_ok_iff.mp hcheck
  obtain ⟨response, body, reported, hexchange, hok, hbody, hindices, hclassified⟩ :=
    Migration.exists_answer_of_runs_detect hremaining
  obtain rfl := refs_of_runs_forEach hrefs
  have hsettled : StoresSettled body := by
    refine ⟨reported, hindices, ?_⟩
    intro store hstore
    obtain ⟨status, hstatus, hlookup⟩ :=
      hclassified ⟨store, "index"⟩ (List.mem_map.mpr ⟨store, hstore, rfl⟩)
    have hdone := not_isPending_of_isEmpty hempty hlookup
    refine ⟨status, hstatus, ?_, ?_⟩
    · rintro rfl
      cases hdone
    · rintro rfl
      cases hdone
  simp only [exchanges_append, hexchange]
  refine Shows.of_suffix (Shows.of_suffix (Shows.of_suffix (Shows.of_prefix ?_)))
  exact shows_accepted hok hbody hsettled

/-- A command that succeeds was acknowledged, and then every node was in the state. -/
theorem shows_of_runs_command
    {service : Json.Members} {path state attempted message : String}
    (hservice : ctx.serving Capability.watcherService = .ok service)
    (hrun : Action.Runs (do
        let response ← call (commandRequest path)
        let done ← requireOk response attempted
        check ((← done.object).getOrNull "acknowledged").isTrue message
        awaitState settings ctx state) before events (.ok ()) after) :
    ∃ statsPath,
      service.textAt "stats_path" = .ok statsPath ∧
      Shows [Acknowledged path, Reports statsPath state] (exchanges events) := by
  obtain ⟨answer, polled, hexchanges, _, hresult⟩ := exists_answer_of_runs_command hrun
  obtain ⟨hacknowledged, known, statsPath, hknown, hstats, hreports⟩ := hresult.mp rfl
  cases hservice.symm.trans hknown
  refine ⟨statsPath, hstats, ?_⟩
  rw [hexchanges]
  exact Shows.cons hacknowledged (shows_singleton_iff.mpr hreports)

theorem shows_of_runs_checkAndStop
    {service : Json.Members}
    (hservice : ctx.serving Capability.watcherService = .ok service)
    (hrun : (checkAndStop settings ctx service).Runs before events (.ok ()) after) :
    ∃ statsPath watchPath stopPath,
      service.textAt "stats_path" = .ok statsPath ∧
      service.textAt "watch_path" = .ok watchPath ∧
      service.textAt "stop_path" = .ok stopPath ∧
      Shows
        (runningEvidence settings.minHits watchPath
          ++ [Acknowledged stopPath, Reports statsPath "stopped"])
        (exchanges events) := by
  obtain ⟨checked, stopped, middle, checking, stopping,
      hexchanges, hchecking, hstopping, hresult⟩ :=
    exists_stop_of_runs_checkAndStop hrun
  obtain ⟨_, rfl, hstopped⟩ := Json.bind_eq_ok_iff.mp hresult.symm
  rw [hstopped] at hstopping
  obtain ⟨watchPath, hwatch, hshows⟩ := shows_of_runs_checkRunning hchecking
  obtain ⟨stopPath, hstop, hcommand⟩ := runs_liftM_bind_ok_iff.mp hstopping
  obtain ⟨statsPath, hstats, hshowsStop⟩ := shows_of_runs_command hservice hcommand
  refine ⟨statsPath, watchPath, stopPath, hstats, hwatch, hstop, ?_⟩
  rw [hexchanges]
  exact hshows.append hshowsStop

/-- **No false pass.**  When the second half of the watcher scenario ends normally, its exchanges
with the service show, in order, all the evidence for a watcher that has survived the upgrade. -/
theorem shows_evidence_of_runs_postUpgrade
    (settings : WatcherSettings)
    (ctx : ScenarioContext)
    (before after : Session)
    (events : List Event)
    (hrun : ((scenario settings).postUpgrade ctx).Runs before events (.ok ()) after) :
    ∃ service startPath statsPath watchPath stopPath,
      ctx.serving Capability.watcherService = .ok service ∧
      service.textAt "start_path" = .ok startPath ∧
      service.textAt "stats_path" = .ok statsPath ∧
      service.textAt "watch_path" = .ok watchPath ∧
      service.textAt "stop_path" = .ok stopPath ∧
      Shows
        (evidence settings.minHits ctx.harness.assistancePath
          startPath statsPath watchPath stopPath)
        (exchanges events) := by
  obtain ⟨service, hservice, hhealth⟩ := runs_liftM_bind_ok_iff.mp hrun
  obtain ⟨_, _, _, _, rfl, hreached, hmigrate⟩ := runs_bind_ok_iff.mp hhealth
  obtain ⟨_, _, _, _, rfl, hmigrated, hpath⟩ := runs_bind_ok_iff.mp hmigrate
  obtain ⟨startPath, hstartPath, hstart⟩ := runs_liftM_bind_ok_iff.mp hpath
  obtain ⟨_, _, _, _, rfl, hstarted, hchecks⟩ := runs_bind_ok_iff.mp hstart
  obtain ⟨statsPath, hstats, hshowsStart⟩ := shows_of_runs_command hservice hstarted
  obtain ⟨known, watchPath, stopPath, hknown, hwatch, hstop, hshowsChecks⟩ :=
    shows_of_runs_checkAndStop hservice hchecks
  cases hstats.symm.trans hknown
  refine ⟨service, startPath, statsPath, watchPath, stopPath, hservice, hstartPath, hstats, hwatch,
    hstop, ?_⟩
  have hshows :=
    (Health.shows_of_runs_await (by decide) hreached).append
      ((shows_of_runs_migrateStores hmigrated).append (hshowsStart.append hshowsChecks))
  simp only [exchanges_append]
  simpa [evidence] using hshows

end Half

/-! ## A half that passes -/

section Passing

/-- A service that gives one answer on each route, always with success. -/
def answering (routes : List (String × String)) : Rehearsal where
  routes := routes.map fun route => (route.1, [{ answer := .ok ⟨200, route.2⟩ }])

/-- The memory in which both stores are known to need no migration. -/
def settledSession : Session where
  statuses := stores.map fun store => (⟨store, "index"⟩, .completed)

/-- The scenario after the upgrade, with the capabilities built in. -/
def standardContext : ScenarioContext where
  config := ⟨.postUpgrade, ⟨6, 3, 2, 99⟩, none⟩
  harness :=
    ⟨Capability.standard, .string Harness.standardAssistancePath, Harness.standardUpgradePath, 1⟩
  declared := (scenario {}).toDeclaration

/-- The text of an answer that holds a watch. -/
def foundText (source : List Char) : List Char :=
  objectText [("found", "true".toList), ("watch", source)]

def millisText : List Char := "100000".toList

def watchText : List Char :=
  objectText
    [("throttle_period_in_millis", "1000".toList),
     ("input", objectText [("search", objectText [("timeout_in_millis", millisText)])]),
     ("actions", objectText [("index_payload", objectText
       [("transform", objectText [("search", objectText [("timeout_in_millis", millisText)])]),
        ("index", objectText
          [("index", "\"bwc_watch_index\"".toList),
           ("doc_type", "\"bwc_watch_type\"".toList),
           ("timeout_in_millis", millisText)])])])]

def throttleText : List Char :=
  objectText
    [("throttle_period_in_millis", millisText),
     ("actions", objectText [("index_payload", objectText
       [("throttle_period_in_millis", millisText)])])]

def reportText : List Char :=
  objectText [("actions", objectText [("work", objectText [("email", objectText
    [("attachments", objectText [("test_report.pdf", objectText [("http", objectText
      [("request", objectText
        [("read_timeout_millis", millisText),
         ("scheme", "\"https\"".toList),
         ("host", "\"example.com\"".toList),
         ("path", '"' :: reportPath.toList ++ ['"']),
         ("port", "8443".toList),
         ("auth", objectText [("basic", objectText
           [("username", "\"Aladdin\"".toList),
            ("password", "\"::es_redacted::\"".toList)])])])])])])])])])]

def loggingText : List Char :=
  objectText [("actions", objectText [("awesome", objectText [("logging", objectText
    [("level", "\"info\"".toList), ("text", "\"test\"".toList)])])])]

/-- The answer holds a watch whose source passes a check. -/
def foundWatch
    (judge : Json → Except Failure Unit)
    (members : Json.Members) : Bool :=
  (members.getOrNull "found").isTrue && (members.getOrNull "watch").isObject &&
    (judge (members.getOrNull "watch")).isOk

/-- A watch can be read from any text that holds it. -/
theorem canSucceed_readWatch_bind
    {α : Type} {before after : Session} {watchPath watch : String} {rest : Json → Action α}
    (source : List Char)
    (judge : Json → Except Failure Unit)
    (hholds : holdsObject (foundWatch judge) (foundText source) = true)
    (hrest : ∀ watch, judge watch = .ok () → CanSucceed (rest watch) before after) :
    CanSucceed (readWatch watchPath watch >>= rest) before after := by
  obtain ⟨members, hmembers, htest⟩ := exists_object_of_chars 200 _ (List.cons_ne_nil _ _) hholds
  rw [foundWatch, Bool.and_eq_true, Bool.and_eq_true] at htest
  obtain ⟨⟨hfound, hobject⟩, hjudge⟩ := htest
  have hjudged : judge (members.getOrNull "watch") = .ok () := by
    cases hresult : judge (members.getOrNull "watch") with
    | ok value => rfl
    | error failure =>
        rw [hresult] at hjudge
        cases hjudge
  obtain ⟨events, value, hruns⟩ := hrest _ hjudged
  refine ⟨_, value, runs_bind_ok_iff.mpr ⟨members.getOrNull "watch", before, _, events, rfl,
    runs_checked_ok_iff.mpr ⟨_, members, [], rfl, rfl, hmembers, ?_⟩, hruns⟩⟩
  exact runs_check_bind_ok_iff.mpr ⟨hfound, runs_check_bind_ok_iff.mpr
    ⟨hobject, runs_pure_iff.mpr ⟨rfl, rfl, rfl⟩⟩⟩

theorem resource_standardContext
    {watch : String}
    (hdeclared : (⟨watch, "watch"⟩ : ResourceRef) ∈ standardContext.declared.resources) :
    standardContext.resource watch "watch" = .ok ⟨watch, "watch"⟩ :=
  ScenarioContext.resource_eq_ok_iff.mpr ⟨rfl, Or.inl hdeclared⟩

/-- The answer with the state of a single node. -/
def statsText (state : String) : String :=
  "\x7b\"stats\": [\x7b\"watcher_state\": \"" ++ state ++ "\"\x7d]\x7d"

/-- Answers that acknowledge commands, and report the state on a single node. -/
def commanding (state : String) : Rehearsal :=
  answering
    [("POST /_xpack/watcher/_start", "\x7b\"acknowledged\": true\x7d"),
     ("POST /_xpack/watcher/_stop", "\x7b\"acknowledged\": true\x7d"),
     ("GET /_xpack/watcher/stats", statsText state)]

/-- A service that takes the new watch twice and then returns it. -/
def storing : Rehearsal where
  routes :=
    [("PUT /_xpack/watcher/watch/new_watch",
      [{ answer := .ok ⟨200, "\x7b\"created\": true, \"_version\": 1\x7d"⟩ },
       { answer := .ok ⟨200, "\x7b\"created\": false, \"_version\": 2\x7d"⟩ }]),
     ("GET /_xpack/watcher/watch/new_watch",
      [{ answer := .ok ⟨200, String.ofList (foundText loggingText)⟩ }])]

/-- The parts of the half that send few requests can succeed, each by itself. -/
structure PartsSucceed : Prop where
  await : CanSucceed (Health.await standardContext.harness.table
    standardContext.config.oldVersion (some healthResources)) {} {}
  migrateStores : CanSucceed (migrateStores {} standardContext) {} settledSession
  startWatcher : CanSucceed (startWatcher {} standardContext "/_xpack/watcher/_start")
    settledSession settledSession
  checkTemplates : CanSucceed checkTemplates settledSession settledSession
  checkUpdates : CanSucceed (checkUpdates "/_xpack/watcher/watch") settledSession settledSession
  stop : ∀ service, standardContext.serving Capability.watcherService = .ok service →
    CanSucceed (stop {} standardContext service) settledSession settledSession

theorem partsSucceed : PartsSucceed where
  await := canSucceed_of_rehearsal
    (answering [("GET /_cluster/health/.watches,bwc_watch_index,.watcher-history*",
      "\x7b\"timed_out\": false\x7d")])
    (by decide +kernel)
  migrateStores := canSucceed_of_rehearsal
    (answering [("GET /_xpack/migration/assistance", "\x7b\"indices\": \x7b\x7d\x7d")])
    (by decide +kernel)
  startWatcher := canSucceed_of_rehearsal (commanding "started") (by decide +kernel)
  checkTemplates := canSucceed_of_rehearsal (answering [("GET /_template", "")]) (by decide +kernel)
  checkUpdates := canSucceed_of_rehearsal storing (by decide +kernel)
  stop := by
    intro service hservice
    cases hservice
    exact canSucceed_of_rehearsal (commanding "stopped") (by decide +kernel)

theorem canSucceed_checkStored
    (watchPath : String) :
    CanSucceed (checkStored {} standardContext watchPath) settledSession settledSession := by
  refine canSucceed_bind settledSession (canSucceed_bind settledSession ?_ fun _ =>
    canSucceed_bind settledSession ?_ fun _ => canSucceed_pure _) fun _ => ?_
  · exact canSucceed_liftM_bind (resource_standardContext (by decide))
      (canSucceed_readWatch_bind watchText _ (by decide +kernel) fun _ => canSucceed_liftM)
  · exact canSucceed_liftM_bind (resource_standardContext (by decide))
      (canSucceed_readWatch_bind throttleText _ (by decide +kernel) fun _ => canSucceed_liftM)
  · refine canSucceed_liftM_bind (resource_standardContext (by decide))
      (canSucceed_readWatch_bind reportText (checkReport "bwc_funny_timeout") (by decide +kernel)
        fun source hreport => canSucceed_liftM_bind hreport ?_)
    exact canSucceed_of_rehearsal
      (answering [("GET /.watcher-history*/_search", "\x7b\"hits\": \x7b\"total\": 2\x7d\x7d")])
      (by decide +kernel)

theorem canSucceed_checkAndStop
    {service : Json.Members}
    (hservice : standardContext.serving Capability.watcherService = .ok service) :
    CanSucceed (checkAndStop {} standardContext service) settledSession settledSession := by
  have hstop := partsSucceed.stop service hservice
  cases hservice
  refine canSucceed_attempt_bind settledSession (canSucceed_bind settledSession
    partsSucceed.checkTemplates fun _ => canSucceed_liftM_bind rfl (canSucceed_bind settledSession
      (canSucceed_checkStored _) fun _ => partsSucceed.checkUpdates)) fun done => ?_
  cases done
  exact hstop

theorem canSucceed_postUpgrade :
    CanSucceed ((scenario {}).postUpgrade standardContext) {} settledSession := by
  refine canSucceed_liftM_bind rfl (canSucceed_bind {} partsSucceed.await fun _ => ?_)
  refine canSucceed_bind settledSession partsSucceed.migrateStores fun _ => ?_
  refine canSucceed_liftM_bind rfl (canSucceed_bind settledSession partsSucceed.startWatcher
    fun _ => canSucceed_checkAndStop rfl)

theorem shows_evidence_of_passing_run :
    ∃ events,
      ((scenario {}).postUpgrade standardContext).Runs {} events (.ok ())
        settledSession ∧
      ∃ service startPath statsPath watchPath stopPath,
        standardContext.serving Capability.watcherService = .ok service ∧
        service.textAt "start_path" = .ok startPath ∧
        service.textAt "stats_path" = .ok statsPath ∧
        service.textAt "watch_path" = .ok watchPath ∧
        service.textAt "stop_path" = .ok stopPath ∧
        Shows
          (evidence 2 "/_xpack/migration/assistance" startPath statsPath watchPath stopPath)
          (exchanges events) := by
  obtain ⟨events, _, hruns⟩ := canSucceed_postUpgrade
  exact ⟨events, hruns, shows_evidence_of_runs_postUpgrade {} standardContext {} settledSession
    events hruns⟩

end Passing

end Watcher
end RestartCheck

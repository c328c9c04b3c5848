import RestartCheck.Health
import RestartCheck.Migration.Cycle
import RestartCheck.Scenario.Basic
import RestartCheck.Text.Search

/-!
# Upgrade of the security store

Users and roles created before the upgrade must survive it.  If the store is outdated afterwards,
writing a new user must fail with the error that tells to migrate the store, and succeed once the
store is migrated.
-/

namespace RestartCheck.SecurityStore

def name : String := "security_store"

def userPath : String := "/_xpack/security/user"

def rolePath : String := "/_xpack/security/role"

/-- User created before the upgrade. -/
def preUser : String := "preupgrade_user"

/-- Role created before the upgrade. -/
def preRole : String := "preupgrade_role"

/-- User created after the upgrade. -/
def postUser : String := "postupgrade_user"

/-- Role created after the upgrade. -/
def postRole : String := "postupgrade_role"

def outdatedError : String :=
  "Security index is not on the current version. Security features relying "
    ++ "on the index will not be available until the upgrade API is run on the security index"

/-- Letters of full names. -/
def letters : String := "abcdefghijklmnopqrstuvwxyzABCDEFGHIJKLMNOPQRSTUVWXYZ"

/-- E-mail address of a user. -/
def emailOf (user : String) : String := user ++ "@example.com"

def userBody (user fullName : String) : Json :=
  .object
    [("password", .string "j@rV1s"),
     ("roles", .array [.string "admin", .string "other_role1"]),
     ("full_name", .string fullName),
     ("email", .string (emailOf user)),
     ("enabled", .bool true)]

/-- Definition of every role. -/
def roleBody : Json :=
  .object
    [("run_as", .array [.string "abc"]),
     ("cluster", .array [.string "monitor"]),
     ("indices", .array [.object
       [("names", .array [.string "events-*"]),
        ("privileges", .array [.string "read"]),
        ("field_security", .object
          [("grant", .array [.string "category", .string "@timestamp", .string "message"])]),
        ("query",
          .string "\x7b\"match\": \x7b\"category\": \"click\"\x7d\x7d")]])]

/-- Write a user with a full name drawn at random. -/
def createUser (user : String) : Action Response := do
  let fullName ← Action.query (.drawLetters letters 5)
  Action.call
    { method := "PUT", path := userPath ++ "/" ++ user, body := some (userBody user fullName) }

def createRole (role : String) : Action Response :=
  Action.call { method := "PUT", path := rolePath ++ "/" ++ role, body := some roleBody }

/-- The entry of a principal in a decoded answer. -/
def infoOf (kind principal : String) (body : Json.Members) : Except Failure Json.Members :=
  match OrderedMap.lookup body principal with
  | some (.object info) => .ok info
  | _ => .error (.assertion (kind ++ " [" ++ principal ++ "] missing from response"))

def keeps (info : Json.Members) (key : String) : Bool :=
  match OrderedMap.lookup info key with
  | none => false
  | some .null => false
  | some _ => true

/-- Read a user back. -/
def verifyUser (user : String) : Action Unit := do
  let response ← Action.call { method := "GET", path := userPath ++ "/" ++ user }
  let response ← requireOk response ("reading user " ++ user)
  let body ← response.object
  let info ← infoOf "user" user body
  check ((info.getOrNull "email").same (.string (emailOf user)))
    ("user [" ++ user ++ "] lost its email")
  check (keeps info "full_name") ("user [" ++ user ++ "] lost its full name")
  check (keeps info "roles") ("user [" ++ user ++ "] lost its roles")

/-- Read a role back. -/
def verifyRole (role : String) : Action Unit := do
  let response ← Action.call { method := "GET", path := rolePath ++ "/" ++ role }
  let response ← requireOk response ("reading role " ++ role)
  let body ← response.object
  let info ← infoOf "role" role body
  Action.each ["run_as", "cluster", "indices"] fun key =>
    Action.ofExcept (check (keeps info key) ("role [" ++ role ++ "] lost [" ++ key ++ "]"))

/-- The resource behind the alias of the store: the first one that the answer names. -/
def concreteStore (named : ResourceRef) : Action ResourceRef := do
  let response ← Action.call
    { method := "GET", path := "/" ++ named.name ++ "/_settings/index.format" }
  let settings ← if response.ok then Action.ofExcept response.object else pure []
  match settings with
  | [] => return named
  | (concrete, _) :: _ => return ⟨concrete, named.kind⟩

/-- Create the principals and read them back. -/
def create (ctx : ScenarioContext) : Action Unit := do
  let user ← ctx.resource preUser "user"
  let role ← ctx.resource preRole "role"
  let _ ← requireOk (← createUser user.name) ("creating user " ++ user.name)
  let _ ← requireOk (← createRole role.name) ("creating role " ++ role.name)
  verifyUser user.name
  verifyRole role.name

/-- Writing to the outdated store must fail; then migrate it. -/
def migrateOutdated (harness : Harness) (store : ResourceRef) : Action Unit := do
  let response ← createUser postUser
  check (!response.ok) "created a user before the security store was migrated"
  check (Text.contains response.body outdatedError)
    ("expected outdated store error, got status " ++ toString response.status ++ ": "
      ++ response.body)
  let outcome ← Migration.migrate harness.upgradePath store
  Action.note .info "security_store_migrated"
    [("store", .json (.string store.text)), ("outcome", .json (.string outcome.literal))]

/-- Bring the store to the current version. -/
def bringUpToDate (settings : SecurityStoreSettings) (harness : Harness) (store : ResourceRef) :
    Action Unit := do
  let statuses ← Migration.detect harness.assistancePath [store]
  let status := (OrderedMap.lookup statuses store).getD .completed
  Action.note .info "security_store_status"
    [("store", .json (.string store.text)), ("status", .json (.string status.text))]
  if status = .required then
    migrateOutdated harness store
  if status.isPending then
    let _ ← Migration.awaitMigrated harness [store] settings.poll.interval settings.poll.timeout

def verify (settings : SecurityStoreSettings) (ctx : ScenarioContext) : Action Unit := do
  let named ← ctx.resource settings.storeName
  let user ← ctx.resource preUser "user"
  let role ← ctx.resource preRole "role"
  let _ ← Health.await ctx.harness.table ctx.config.oldVersion (some named.name)
  let store ← concreteStore named
  bringUpToDate settings ctx.harness store
  let _ ← requireOk (← createUser postUser) ("creating user " ++ postUser)
  let _ ← requireOk (← createRole postRole) ("creating role " ++ postRole)
  verifyUser user.name
  verifyRole role.name
  verifyUser postUser
  verifyRole postRole

def scenario (settings : SecurityStoreSettings) : Scenario where
  name := name
  resources := [{ name := settings.storeName }, ⟨preUser, "user"⟩, ⟨preRole, "role"⟩]
  preUpgrade := create
  postUpgrade := verify settings

end RestartCheck.SecurityStore

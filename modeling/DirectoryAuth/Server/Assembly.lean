import DirectoryAuth.Discovery
import DirectoryAuth.Server

/-!
# Assembling servers from settings

One server is read from the settings below `ldap`, or several from the settings below a root of
their own each, in the order of a list of keys. A server without URLs is looked for in the name
service. Advice on older settings is logged as a warning.
-/

namespace DirectoryAuth

namespace Server

/-- A key that occurs a second time. -/
def repeated? (keys : List String) : Option String :=
  (keys.zipIdx.find? fun (key, index) => (keys.take index).contains key).map (·.1)

/-- The keys of the configured servers, in order. -/
def keys (settings : Settings) : Except SettingError (List String) :=
  match (View.mk settings settingsRoot).text? "servers" with
  | none => .ok [defaultKey]
  | some text =>
    let keys := (text.splitOn ",").map Text.trim
    if keys.any (·.isEmpty) then .error (.emptyServerKey text)
    else
      match repeated? keys with
      | some key => .error (.repeatedServerKey key)
      | none => .ok keys

/-- The seconds that opening a connection may take, where nothing else is set. -/
def defaultConnectTimeout : Decimal.Binary64 := .ofNat 10

/-- The seconds that an answer may take, where nothing else is set. -/
def defaultReadTimeout : Decimal.Binary64 := .ofNat 30

/-- A server with the given URLs and mappings, the rest from its settings. -/
def ofView (v : View) (key : String) (urls : List String) (users : UserMapping)
    (groups : Option GroupMapping) : Except SettingError Server := do
  let startTls ← v.truth "StartTLS" false
  let connectTimeout ← v.number "connectTimeout" defaultConnectTimeout
  let readTimeout ← v.number "readTimeout" defaultReadTimeout
  let size ← v.integer "sizeLimit" 0
  let time ← v.integer "timeLimit" 0
  let page ← v.integer "pageSize" 0
  let followReferrals ← v.truth "followReferrals" true
  let verify ← v.truth "tls.verify" true
  return {
    key := key
    urls := urls
    users := users
    groups := groups
    realm := v.text? "realm"
    mechanism := .ofText (v.text? "authentication")
    bindName := v.text? "bindDn"
    bindPassword := v.text? "bindPassword"
    startTls := startTls
    connectTimeout := connectTimeout
    readTimeout := readTimeout
    limits := ⟨size, time, page⟩
    followReferrals := followReferrals
    tls := ⟨verify, v.text? "tls.caCertsFile"⟩ }

variable {σ : Type}

/-- Ends with the outcome of reading settings. -/
def reading {α : Type} (outcome : Except SettingError α) : Operation σ α :=
  Operation.ofOutcome (outcome.mapError .setting)

/-- The URLs that the realm of a server announces. -/
def discoverUrls (v : View) : Operation σ (List String) := do
  match v.text? "realm" with
  | none => throw (.setting (.noUrl (v.name "url") (v.name "realm")))
  | some realm =>
    let urls ← Discovery.discover realm
    if urls.isEmpty then throw (.setting (.nothingDiscovered (v.name "url") realm))
    Operation.log .info .settings
      (s!"Discovered LDAP servers for realm {realm}: " ++ String.intercalate " " urls)
    pure urls

/-- The URLs of a server, as configured or discovered. -/
def findUrls (v : View) : Operation σ (List String) :=
  match v.text? "url" with
  | some text => pure (Text.words text)
  | none => discoverUrls v

/-- Logs advice, where there is some. -/
def advise (component : Component) (advice : Option String) : Operation σ Unit :=
  match advice with
  | some text => Operation.log .warning component text
  | none => pure ()

/-- How users are found in a server. -/
def usersOf (v : View) : Operation σ UserMapping := do
  let users ← reading (UserMapping.ofView v)
  advise .users (UserMapping.advice? v)
  pure users

/-- How groups are found in a server, if they are. -/
def groupsOf (v : View) : Operation σ (Option GroupMapping) := do
  advise .groups (GroupMapping.advice? v)
  reading (GroupMapping.ofView v)

/-- The server of a key. -/
def assemble (settings : Settings) (key : String) : Operation σ Server := do
  let v : View := ⟨settings, rootOf key⟩
  let urls ← findUrls v
  let users ← usersOf v
  let groups ← groupsOf v
  let server ← reading (ofView v key urls users groups)
  Operation.log .debug .settings s!"LDAP server {key}: {server.shown}"
  pure server

/-- The configured servers, in order. -/
def assembleAll (settings : Settings) : Operation σ (List Server) := do
  (← reading (keys settings)).mapM (assemble settings)

end Server

/-- Settings with the servers that were assembled from them. Later changes of the settings do not
change servers that are there. -/
structure Roster where
  settings : Settings
  assembled : Option (List Server)

namespace Roster

variable {σ : Type}

def ofSettings (settings : Settings) : Roster := ⟨settings, none⟩

/-- Puts settings over those of a roster. -/
def update (r : Roster) (settings : Settings) : Roster :=
  { r with settings := r.settings.update settings }

/-- The servers of a roster, assembled unless they are there. -/
def servers (r : Roster) : Operation σ (List Server) :=
  match r.assembled with
  | some servers => pure servers
  | none => Server.assembleAll r.settings

/-- The roster that keeps the servers it was found to have. -/
def keeping (r : Roster) (servers : List Server) : Roster := { r with assembled := some servers }

end Roster

end DirectoryAuth

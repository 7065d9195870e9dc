import DirectoryAuth.Server.Assembly

/-!
# What is read of settings

A server is assembled from the settings below its own root, and of these from the ones with certain
keys. Nothing else of the settings is looked at: where two views have the same root and the same
texts under these keys, the same is made of both of them.
-/

namespace DirectoryAuth

namespace View

/-- The views have the same root, and the same texts under some keys. -/
structure SameAt (keys : List String) (v w : View) : Prop where
  root : v.root = w.root
  texts : ∀ key ∈ keys, v.text? key = w.text? key

namespace SameAt

variable {keys fewer : List String} {v w : View}

theorem mono (same : SameAt keys v w) (within : fewer ⊆ keys) : SameAt fewer v w :=
  ⟨same.root, fun key member => same.texts key (within member)⟩

theorem name (same : SameAt keys v w) (key : String) : v.name key = w.name key := by
  rw [View.name, View.name, same.root]

theorem replacementAdvice (same : SameAt keys v w) (first second newer value : String) :
    v.replacementAdvice first second newer value =
      w.replacementAdvice first second newer value := by
  obtain ⟨settings, root⟩ := v
  obtain ⟨settings', root'⟩ := w
  obtain rfl : root = root' := same.root
  rfl

variable {key : String}

theorem text (same : SameAt keys v w) (member : key ∈ keys) (default : String) :
    v.text key default = w.text key default := by
  rw [View.text, View.text, same.texts key member]

theorem read? {α : Type} (same : SameAt keys v w) (member : key ∈ keys)
    (read : String → Option α) (error : String → String → SettingError) :
    v.read? key read error = w.read? key read error := by
  rw [View.read?, View.read?, same.texts key member, same.name]

theorem truth (same : SameAt keys v w) (member : key ∈ keys) (default : Bool) :
    v.truth key default = w.truth key default := by
  rw [View.truth, View.truth, truth?, truth?, same.read? member]

theorem integer (same : SameAt keys v w) (member : key ∈ keys) (default : Int) :
    v.integer key default = w.integer key default := by
  rw [View.integer, View.integer, integer?, integer?, same.read? member]

theorem number (same : SameAt keys v w) (member : key ∈ keys) (default : Decimal.Binary64) :
    v.number key default = w.number key default := by
  rw [View.number, View.number, number?, number?, same.read? member]

end SameAt

end View

/-! ## Mappings -/

namespace UserMapping

variable {v w : View}

def settingKeys : List String :=
  ["user.baseDn", "realm", "user.objectClass", "user.loginAttribute", "user.request",
    "user.realNameAttribute", "user.emailAttribute"]

theorem olderRequest?_eq (same : v.SameAt settingKeys w) : olderRequest? v = olderRequest? w := by
  rw [olderRequest?, olderRequest?, same.texts "user.objectClass" (by decide),
    same.texts "user.loginAttribute" (by decide)]

theorem ofView_eq (same : v.SameAt settingKeys w) : ofView v = ofView w := by
  have base : base? v = base? w := by
    rw [base?, base?, same.texts "user.baseDn" (by decide), same.texts "realm" (by decide)]
  have request (default : String) : v.text "user.request" default = w.text "user.request" default :=
    same.text (by decide) default
  have name (default : String) :
      v.text "user.realNameAttribute" default = w.text "user.realNameAttribute" default :=
    same.text (by decide) default
  have email (default : String) :
      v.text "user.emailAttribute" default = w.text "user.emailAttribute" default :=
    same.text (by decide) default
  simp only [ofView, base, olderRequest?_eq same, request, name, email, same.name]

theorem advice?_eq (same : v.SameAt settingKeys w) : advice? v = advice? w := by
  simp only [advice?, olderRequest?_eq same, same.replacementAdvice]

end UserMapping

namespace GroupMapping

variable {v w : View}

def settingKeys : List String :=
  ["group.baseDn", "group.memberOfAttribute", "group.objectClass", "group.memberAttribute",
    "group.request", "group.idAttribute", "group.nested"]

theorem olderRequest?_eq (same : v.SameAt settingKeys w) : olderRequest? v = olderRequest? w := by
  rw [olderRequest?, olderRequest?, same.texts "group.objectClass" (by decide),
    same.texts "group.memberAttribute" (by decide)]

theorem ofView_eq (same : v.SameAt settingKeys w) : ofView v = ofView w := by
  have listing : listing? v = listing? w := by
    rw [listing?, listing?, same.texts "group.baseDn" (by decide), olderRequest?_eq same,
      same.text (by decide : "group.request" ∈ settingKeys)]
  have id (default : String) :
      v.text "group.idAttribute" default = w.text "group.idAttribute" default :=
    same.text (by decide) default
  have nested (default : Bool) : v.truth "group.nested" default = w.truth "group.nested" default :=
    same.truth (by decide) default
  simp only [ofView, listing, same.texts "group.memberOfAttribute" (by decide), id, nested]

theorem advice?_eq (same : v.SameAt settingKeys w) : advice? v = advice? w := by
  simp only [advice?, same.texts "group.baseDn" (by decide), olderRequest?_eq same,
    same.replacementAdvice]

end GroupMapping

/-! ## Servers -/

namespace Server

variable {v w : View}

def addressKeys : List String := ["url", "realm"]

/-- The keys of the settings of a server that belong to neither of its mappings. -/
def ownKeys : List String :=
  addressKeys ++ ["authentication", "bindDn", "bindPassword", "StartTLS", "connectTimeout",
    "readTimeout", "sizeLimit", "timeLimit", "pageSize", "followReferrals", "tls.verify",
    "tls.caCertsFile"]

def settingKeys : List String := ownKeys ++ UserMapping.settingKeys ++ GroupMapping.settingKeys

theorem ofView_eq (same : v.SameAt ownKeys w) (key : String) (urls : List String)
    (users : UserMapping) (groups : Option GroupMapping) :
    ofView v key urls users groups = ofView w key urls users groups := by
  have text (key : String) (member : key ∈ ownKeys) : v.text? key = w.text? key :=
    same.texts key member
  have truth (key : String) (member : key ∈ ownKeys) (default : Bool) :
      v.truth key default = w.truth key default := same.truth member default
  have integer (key : String) (member : key ∈ ownKeys) (default : Int) :
      v.integer key default = w.integer key default := same.integer member default
  have number (key : String) (member : key ∈ ownKeys) (default : Decimal.Binary64) :
      v.number key default = w.number key default := same.number member default
  rw [ofView, ofView, truth "StartTLS" (by decide), number "connectTimeout" (by decide),
    number "readTimeout" (by decide), integer "sizeLimit" (by decide),
    integer "timeLimit" (by decide), integer "pageSize" (by decide),
    truth "followReferrals" (by decide), truth "tls.verify" (by decide),
    text "realm" (by decide), text "authentication" (by decide), text "bindDn" (by decide),
    text "bindPassword" (by decide), text "tls.caCertsFile" (by decide)]

variable {σ : Type}

theorem findUrls_eq (same : v.SameAt addressKeys w) :
    (findUrls v : Operation σ (List String)) = findUrls w := by
  simp only [findUrls, discoverUrls, same.texts "url" (by decide), same.texts "realm" (by decide),
    same.name]

theorem usersOf_eq (same : v.SameAt UserMapping.settingKeys w) :
    (usersOf v : Operation σ UserMapping) = usersOf w := by
  rw [usersOf, usersOf, UserMapping.ofView_eq same, UserMapping.advice?_eq same]

theorem groupsOf_eq (same : v.SameAt GroupMapping.settingKeys w) :
    (groupsOf v : Operation σ (Option GroupMapping)) = groupsOf w := by
  rw [groupsOf, groupsOf, GroupMapping.ofView_eq same, GroupMapping.advice?_eq same]

/-- A server is assembled in the same way from settings that are the same under its keys. -/
theorem assemble_eq {s s' : Settings} {key : String}
    (same : View.SameAt settingKeys ⟨s, rootOf key⟩ ⟨s', rootOf key⟩) :
    (assemble s key : Operation σ Server) = assemble s' key := by
  have own : View.SameAt ownKeys ⟨s, rootOf key⟩ ⟨s', rootOf key⟩ :=
    same.mono (by simp [settingKeys])
  have address : View.SameAt addressKeys ⟨s, rootOf key⟩ ⟨s', rootOf key⟩ :=
    own.mono (by simp [ownKeys])
  have users : View.SameAt UserMapping.settingKeys ⟨s, rootOf key⟩ ⟨s', rootOf key⟩ :=
    same.mono (by simp [settingKeys])
  have groups : View.SameAt GroupMapping.settingKeys ⟨s, rootOf key⟩ ⟨s', rootOf key⟩ :=
    same.mono (by simp [settingKeys])
  simp only [assemble, findUrls_eq address, usersOf_eq users, groupsOf_eq groups, ofView_eq own]

end Server

end DirectoryAuth

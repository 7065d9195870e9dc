import DirectoryAuth.Proofs.Secrecy.Sessions
import DirectoryAuth.Proofs.Settings.Isolation

/-!
# Secrets of settings

Each server may have a password among its settings. Servers are assembled from settings alike
whatever the passwords are: the setting of a password is read for the password only, and no other
setting has a name that could be taken for it.
-/

namespace DirectoryAuth

open Operation

variable {σ α β γ : Type} {network : Network σ}

/-! ## Names -/

namespace View

def secretKey : String := "bindPassword"

/-- No setting that is read by the key has a name that a password could have. -/
def IsPublic (key : String) : Prop :=
  ¬ ending key <:+ ending secretKey ∧ ¬ ending secretKey <:+ ending key

instance (key : String) : Decidable (IsPublic key) := inferInstanceAs (Decidable (_ ∧ _))

end View

/-! ## Masked settings -/

namespace Settings

def IsSecret (name : String) : Prop := View.ending View.secretKey <:+ name.toList

instance (name : String) : Decidable (IsSecret name) := inferInstanceAs (Decidable (_ <:+ _))

/-- The text of a value; a blank one has none. -/
def textOf? : Scalar → Option String
  | .nothing => none
  | value => if (Text.trim value.written).isEmpty then none else some (Text.trim value.written)

theorem text?_eq (s : Settings) (name : String) : s.text? name = (s.get? name).bind textOf? := by
  rw [text?]
  cases s.get? name with
  | none => rfl
  | some value => cases value <;> simp only [textOf?, Option.bind_some]

theorem ne_empty_of_textOf? {value : Scalar} {text : String} (given : textOf? value = some text) :
    text ≠ "" := by
  rw [textOf?.eq_def] at given
  split at given
  · cases given
  · split at given
    · cases given
    · cases given
      exact fun empty => ‹¬ _› (String.isEmpty_iff.mpr empty)

/-- A value with its text blotted out, if there is one. -/
def blottedValue (value : Scalar) : Scalar :=
  if (textOf? value).isSome then .text "*" else value

def masked (s : Settings) : Settings :=
  ⟨s.entries.map fun (name, value) => (name, if IsSecret name then blottedValue value else value)⟩

theorem get?_masked (s : Settings) (name : String) :
    s.masked.get? name =
      (s.get? name).map fun value => if IsSecret name then blottedValue value else value := by
  obtain ⟨entries⟩ := s
  induction entries with
  | nil => rfl
  | cons entry entries ih =>
    obtain ⟨other, value⟩ := entry
    change List.lookup name ((other, _) :: _) = (List.lookup name ((other, value) :: entries)).map _
    by_cases here : name = other
    · rw [here, List.lookup_cons_self, List.lookup_cons_self, Option.map_some]
    · have beyond : (name == other) = false := beq_eq_false_iff_ne.mpr here
      rw [List.lookup_cons, List.lookup_cons, beyond]
      exact ih

theorem text?_masked_blotted (s : Settings) (name : String) :
    (s.masked.text? name).map blottedText = (s.text? name).map blottedText := by
  rw [text?_eq, text?_eq, get?_masked]
  cases s.get? name with
  | none => rfl
  | some value =>
    change (textOf? (if IsSecret name then blottedValue value else value)).map blottedText =
      (textOf? value).map blottedText
    by_cases secret : IsSecret name
    · rw [if_pos secret, blottedValue]
      cases given : textOf? value with
      | none => rw [Option.isSome_none, if_neg Bool.false_ne_true, given]
      | some text =>
        have starred : textOf? (.text "*") = some "*" := by decide +kernel
        rw [Option.isSome_some, if_pos rfl, starred]
        exact congrArg some (blottedText_eq_of_ne (by decide) (ne_empty_of_textOf? given))
    · rw [if_neg secret]

/-- Passwords are both missing, or both there and not empty. -/
theorem secret_alike {s s' : Settings} (same : s.masked = s'.masked) (name : String) :
    (s.text? name).map blottedText = (s'.text? name).map blottedText := by
  rw [← text?_masked_blotted, same, text?_masked_blotted]

end Settings

/-! ## Reading -/

namespace View

variable {s s' : Settings} {key : String}

/-- A setting that is no password is the same in both. -/
theorem text?_alike (same : s.masked = s'.masked) (root : String) (plain : IsPublic key) :
    (mk s root).text? key = (mk s' root).text? key := by
  have told : ¬ Settings.IsSecret ((mk s root).name key) := by
    intro secret
    rcases List.suffix_or_suffix_of_suffix (ending_suffix ⟨s, root⟩ key) secret with within | longer
    · exact plain.1 within
    · exact plain.2 longer
  have value (settings : Settings) :
      settings.masked.text? ((mk s root).name key) = settings.text? ((mk s root).name key) := by
    simp only [Settings.text?_eq, Settings.get?_masked, if_neg told, Option.map_id']
  change s.text? ((mk s root).name key) = s'.text? ((mk s root).name key)
  rw [← value, same, value]

/-- Nothing differs that is read of keys without secrets. -/
theorem sameAt_of_masked (same : s.masked = s'.masked) (root : String) {keys : List String}
    (plain : ∀ key ∈ keys, IsPublic key) : SameAt keys ⟨s, root⟩ ⟨s', root⟩ :=
  ⟨rfl, fun key member => text?_alike same root (plain key member)⟩

end View

/-! ## Parts without secrets -/

theorem Discovery.discover_alike (realm : String) :
    Alike network id (discover realm) (discover realm) := by
  have asked : Alike network id (perform (.lookUpService (serviceName realm)))
      (perform (.lookUpService (serviceName realm))) := .perform_same (.lookUpService _)
  refine asked.attempt_bind_same fun outcome => ?_
  match outcome with
  | .ok records => exact .logged (.pure rfl)
  | .error failure =>
    cases failure with
    | outside fault =>
      cases fault with
      | nameService message => exact .logged (.pure rfl)
      | _ => exact .throw _
    | _ => exact .throw _

namespace Server

variable {view : α → β}

theorem advise_alike (component : Component) (advice : Option String) :
    Alike network id (advise component advice) (advise component advice) := by
  cases advice with
  | some text => exact .log _ _ _
  | none => exact .pure rfl

/-- What is shown of a server has no secrets in it. -/
theorem shown_alike {server server' : Server} (same : server.masked = server'.masked) :
    server.shown = server'.shown := by
  change server.masked.shown = server'.masked.shown
  rw [same]

/-- Something made of outcomes step by step looks the same, if what is made of each value does. -/
theorem map_bind_congr {outcome : Except SettingError γ}
    {f f' : γ → Except SettingError α} (same : ∀ a, (f a).map view = (f' a).map view) :
    (outcome >>= f).map view = (outcome >>= f').map view := by
  cases outcome with
  | ok a => exact same a
  | error error => rfl

/-- Servers that are read alike are assembled alike, or their settings are wrong alike. -/
theorem reading_alike {outcome outcome' : Except SettingError α}
    (same : outcome.map view = outcome'.map view) :
    Alike network view (reading outcome) (reading outcome') := by
  rcases outcomes_alike same with ⟨a, a', rfl, rfl, values⟩ | ⟨error, rfl, rfl⟩
  · exact .pure values
  · exact .throw _

end Server

/-! ## Servers -/

namespace Server

def publicKeys : List String := ownKeys.erase View.secretKey

section

variable {s s' : Settings} (same : s.masked = s'.masked) (root : String)

include same

theorem keys_alike : keys s = keys s' := by
  rw [keys, keys, View.text?_alike same settingsRoot (by decide : View.IsPublic "servers")]

/-- The password of the service account is the one thing in which servers come to differ. -/
theorem ofView_alike (key : String) (urls : List String) (users : UserMapping)
    (groups : Option GroupMapping) :
    (ofView ⟨s, root⟩ key urls users groups).map masked =
      (ofView ⟨s', root⟩ key urls users groups).map masked := by
  have told : View.SameAt publicKeys ⟨s, root⟩ ⟨s', root⟩ :=
    View.sameAt_of_masked same root (by decide)
  have secret : ((View.mk s root).text? "bindPassword").map blottedText =
      ((View.mk s' root).text? "bindPassword").map blottedText := Settings.secret_alike same _
  rw [ofView, ofView, told.truth (by decide : "StartTLS" ∈ publicKeys),
    told.number (by decide : "connectTimeout" ∈ publicKeys),
    told.number (by decide : "readTimeout" ∈ publicKeys),
    told.integer (by decide : "sizeLimit" ∈ publicKeys),
    told.integer (by decide : "timeLimit" ∈ publicKeys),
    told.integer (by decide : "pageSize" ∈ publicKeys),
    told.truth (by decide : "followReferrals" ∈ publicKeys),
    told.truth (by decide : "tls.verify" ∈ publicKeys), told.texts "realm" (by decide),
    told.texts "authentication" (by decide), told.texts "bindDn" (by decide),
    told.texts "tls.caCertsFile" (by decide)]
  refine map_bind_congr fun startTls => map_bind_congr fun connectTimeout => ?_
  refine map_bind_congr fun readTimeout => map_bind_congr fun size => ?_
  refine map_bind_congr fun time => map_bind_congr fun page => ?_
  refine map_bind_congr fun followReferrals => map_bind_congr fun verify => ?_
  simp only [pure, Except.pure, Except.map, masked, secret]

end

/-! ## Assembly -/

section

variable {s s' : Settings}

theorem findUrls_alike (v : View) : Alike network id (findUrls v) (findUrls v) := by
  rw [findUrls]
  cases v.text? "url" with
  | some text => exact .pure rfl
  | none =>
    rw [discoverUrls]
    cases v.text? "realm" with
    | none => exact .throw _
    | some realm =>
      refine (Discovery.discover_alike realm).bind_same fun urls => .ite (.throw _) ?_
      exact .logged (.pure rfl)

theorem usersOf_alike (v : View) : Alike network id (usersOf v) (usersOf v) := by
  refine .bind_same (.ofOutcome rfl) fun users => ?_
  exact (advise_alike _ _).bind_same fun _ => .pure rfl

theorem groupsOf_alike (v : View) : Alike network id (groupsOf v) (groupsOf v) :=
  (advise_alike _ _).bind_same fun _ => .ofOutcome rfl

theorem assemble_alike (same : s.masked = s'.masked) (key : String) :
    Alike network masked (assemble s key) (assemble s' key) := by
  have told {keys : List String} (plain : ∀ key ∈ keys, View.IsPublic key) :
      View.SameAt keys ⟨s, rootOf key⟩ ⟨s', rootOf key⟩ :=
    View.sameAt_of_masked same (rootOf key) plain
  rw [assemble, assemble, findUrls_eq (told (by decide)), usersOf_eq (told (by decide)),
    groupsOf_eq (told (by decide))]
  refine (findUrls_alike _).bind_same fun urls => ?_
  refine (usersOf_alike _).bind_same fun users => ?_
  refine (groupsOf_alike _).bind_same fun groups => ?_
  refine (reading_alike (ofView_alike same _ key urls users groups)).bind ?_
  intro server server' same
  rw [shown_alike same]
  exact .logged (.pure same)

/-- Servers are assembled alike whatever the passwords are. -/
theorem assembleAll_alike (same : s.masked = s'.masked) :
    Alike network (List.map masked) (assembleAll s) (assembleAll s') := by
  rw [assembleAll, assembleAll, keys_alike same]
  exact .bind_same (.ofOutcome rfl) fun keys => .mapM_same (assemble_alike same)

end

end Server

end DirectoryAuth

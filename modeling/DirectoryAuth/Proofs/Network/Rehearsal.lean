import DirectoryAuth.Entry
import DirectoryAuth.Network.Script
import DirectoryAuth.Proofs.Network.Static

/-!
# Rehearsals

A script answers every call in the same way each time, as long as no file is written. A small
server is enough to rehearse what may happen to a login; what its directory says is prepared by
each rehearsal for itself.
-/

namespace DirectoryAuth

namespace Script

/-- No call but the writing of a file changes a script. -/
theorem answer_state {call : Call} (reads : ∀ path text, call ≠ .writeFile path text)
    (script : Script) : (answer call script).2 = script := by
  cases call with
  | writeFile path text => exact absurd rfl (reads path text)
  | _ => rfl

/-- Calls that write nothing leave a script as it is. -/
theorem later_eq {kind : Call → Prop} (reads : ∀ path text, ¬ kind (.writeFile path text))
    {script later : Script} (steps : network.Later kind script later) : later = script := by
  induction steps with
  | refl => rfl
  | tail _ step ih =>
    obtain ⟨call, may, rfl⟩ := step
    rw [ih]
    apply answer_state
    rintro path text rfl
    exact reads path text may

/-- No call changes the services of a script: nothing but its files is ever another. -/
theorem later_unchanged {kind : Call → Prop} {script later : Script}
    (steps : network.Later kind script later) : later = { script with files := later.files } := by
  induction steps with
  | refl => rfl
  | @tail between _ _ step ih =>
    obtain ⟨call, -, rfl⟩ := step
    have kept : (answer call between).2 =
        { between with files := (answer call between).2.files } := by
      cases call with
      | writeFile path text =>
        change (written _ path text).2 = { between with files := (written _ path text).2.files }
        rw [written]
        split
        · rfl
        · rfl
      | _ => rfl
    change (answer call between).2 = { script with files := (answer call between).2.files }
    rw [kept, ih]

/-- No call changes how many names the answers of a script may hold. -/
theorem size_later {kind : Call → Prop} {script later : Script}
    (steps : network.Later kind script later) : later.size = script.size := by
  rw [later_unchanged steps]
  rfl

/-- Scripts are steady in all that is not written. -/
theorem network_steady {kind : Call → Prop} (reads : ∀ path text, ¬ kind (.writeFile path text))
    (script : Script) : network.Steady kind script := by
  intro later steps call _
  rw [later_eq reads steps]

/-- Scripts answer searches by what is searched for, and everything else in a session by its
terms. -/
theorem network_static (script : Script) : network.Static script := by
  intro later steps call session
  rw [later_unchanged steps]
  cases call with
  | prepareTicket | acquireTicket | connect | openSocket | startTls | bind | unbind | search
  | pagedSearch =>
    exact HEq.rfl
  | _ => exact session.elim

/-- What scripts answer is fixed, but for what is read from files and written to them. -/
theorem network_fixed {kind : Call → Prop} (reads : ∀ path, ¬ kind (.readFile path))
    (writes : ∀ path text, ¬ kind (.writeFile path text)) (script : Script) :
    network.Fixed kind script := by
  intro later steps call may
  rw [later_unchanged steps]
  cases call with
  | readFile path => exact absurd may (reads path)
  | writeFile path text => exact absurd may (writes path text)
  | _ => exact HEq.rfl

end Script

namespace Rehearsal

/-- A server with anonymous service sessions, of a mechanism and with limits on searches. -/
def server (mechanism : Mechanism) (limits : Limits) (groups : Option GroupMapping) : Server where
  key := Server.defaultKey
  urls := ["ldap://h"]
  users := ⟨"dc=x", "(uid=\x7b0\x7d)", UserMapping.defaultNameAttribute,
    UserMapping.defaultEmailAttribute⟩
  groups := groups
  realm := none
  mechanism := mechanism
  bindName := none
  bindPassword := none
  startTls := false
  connectTimeout := .ofNat 10
  readTimeout := .ofNat 30
  limits := limits
  followReferrals := true
  tls := ⟨true, none⟩

def script (directory : Script.Directory) : Script :=
  { Script.empty with directories := [("ldap://h", directory)] }

def session (server : Server) : Session :=
  ⟨⟨0, server.address, ⟨server.followReferrals, server.readTimeout, .anonymous⟩⟩, server.key⟩

/-- An entry as it arrives, with one value for each attribute. -/
def item (name : Option String) (attributes : List (String × String)) : Item :=
  ⟨some Item.entryKind, name, attributes.map fun (name, value) => (name, [.plain (.text value)])⟩

end Rehearsal

end DirectoryAuth

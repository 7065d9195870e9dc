import DirectoryAuth.Proofs.Console.Verdicts
import DirectoryAuth.Proofs.Settings.Sections

/-!
# Files that cannot be loaded

A file that the operating system does not give is a failure that is foreseen, and the program ends
with the code 1 and a line of error. A file that it does give but that is not laid out properly, or
that is not UTF-8, fails in a way that nobody foresees, and so does a path that the operating system
is not even asked for: such a failure ends the program.
-/

namespace DirectoryAuth

open Operation Settings Text

variable {σ : Type} {network : Network σ} {a b c : World σ} {path : String}

/-! ## Loading -/

namespace Settings

/-- How loading a file ends, by the answer of the operating system. -/
inductive LoadsTo (path : String) : Except Fault (List UInt8) → Except Failure Settings → Prop
  | loaded {bytes : List UInt8} {l : Document.Layout} (laidOut : IsLaidOut bytes l) :
    LoadsTo path (.ok bytes) (.ok (ofDocument l.document))
  | malformed {bytes : List UInt8} (e : FileError) (formless : ∀ l, ¬ IsLaidOut bytes l) :
    LoadsTo path (.ok bytes) (.error (.file e))
  | unreadable {fault : Fault} (system : fault.isSystem = true) :
    LoadsTo path (.error fault) (.error (.setting (.unreadableFile path)))
  | unforeseen {fault : Fault} (other : fault.isSystem = false) :
    LoadsTo path (.error fault) (.error (.outside fault))

theorem loadsTo_loaded (path : String) (answer : Except Fault (List UInt8)) :
    LoadsTo path answer (loaded path answer) := by
  cases answer with
  | ok bytes =>
    rw [loaded]
    cases read : ofBytes path bytes with
    | ok s =>
      obtain ⟨l, laidOut, rfl⟩ := ofBytes_eq_ok_iff.mp read
      exact .loaded laidOut
    | error e =>
      refine .malformed e fun l laidOut => ?_
      cases read.symm.trans (ofBytes_eq_ok_iff.mpr ⟨l, laidOut, rfl⟩)
  | error fault =>
    rw [loaded]
    cases system : fault.isSystem with
    | true => exact .unreadable system
    | false => exact .unforeseen system

end Settings

namespace Console

variable {colours : Bool} {i : Invocation} {command : Command} {word : String} {failure : Failure}

def Command.loadsSettings : Command → Bool
  | .testConnection | .authenticate _ _ _ | .userDetails _ _ | .groups _ _ => true
  | .discover _ | .generateConfig _ => false

/-- What a command asks for in front of its settings: a password, where it needs one and has none. -/
def ask : Command → Operation σ String
  | .authenticate login given _ => password login given
  | _ => pure ""

theorem settings_failed (given : i.config = some path) (filled : path ≠ "")
    (failed : (load path).run network b = (.error failure, c)) :
    (settings colours i).run network b = (.error failure, c) := by
  have named : i.config.filter (· ≠ "") = some path := by simp [given, filled]
  rw [settings, named]
  exact run_bind_of_error failed

theorem readyRealm_failed (failed : (settings colours i).run network b = (.error failure, c)) :
    (readyRealm colours i).run network b = (.error failure, c) :=
  run_bind_of_error failed

/-- A command that cannot load its settings does nothing more. -/
theorem runCommand_failed (loads : command.loadsSettings = true)
    (asked : (ask command).run network a = (.ok word, b))
    (failed : (settings colours i).run network b = (.error failure, c)) :
    (runCommand colours i command).run network a = (.error failure, c) := by
  cases command with
  | testConnection =>
    cases asked
    exact run_bind_of_error failed
  | authenticate login given json =>
    exact (run_bind_of_ok asked).trans (run_bind_of_error (readyRealm_failed failed))
  | userDetails login json =>
    cases asked
    exact run_bind_of_error (readyRealm_failed failed)
  | groups login json =>
    cases asked
    exact run_bind_of_error (readyRealm_failed failed)
  | discover realm => cases loads
  | generateConfig output => cases loads

/-- The program tells of a failure of a command that is foreseen; any other one ends the program. -/
theorem run_failed {arguments : List String} (read : Invocation.read arguments = .ok i)
    (named : i.command = some command)
    (failed : (runCommand colours i command).run network a = (.error failure, c)) :
    (run colours arguments).run network a =
      if failure.isForeseen then
        (.ok (.code 1), c.noted (.printed .error (paint colours .red s!"[!] {failure.message}" ++ "\n")))
      else (.error failure, c) := by
  rw [run_of_command read named, run_bind_pure, runReporting, run_attempt_bind, failed]
  dsimp only
  split
  · rfl
  · rfl

/-- How the program ends where a file is not loaded, by the answer of the operating system; `c` is
the world behind that answer. -/
inductive Unloaded (path : String) (colours : Bool) (c : World σ) :
    Except Fault (List UInt8) → Except Failure Exit × World σ → Prop
  | told {fault : Fault} (system : fault.isSystem = true) :
    Unloaded path colours c (.error fault) (.ok (.code 1), c.noted (.printed .error
      (paint colours .red s!"[!] {(SettingError.unreadableFile path).message}" ++ "\n")))
  | unforeseen {fault : Fault} (other : fault.isSystem = false) :
    Unloaded path colours c (.error fault) (.error (.outside fault), c)
  | malformed {bytes : List UInt8} (e : FileError) (formless : ∀ l, ¬ IsLaidOut bytes l) :
    Unloaded path colours c (.ok bytes) (.error (.file e), c)

/-- A file is loaded where the operating system gives it and it is laid out properly. Otherwise the
program ends with the code 1 and a line of error only where the operating system does not give the
file; what is wrong with a file that it gives ends the program without being told of. -/
theorem run_unloaded (network : Network σ) (path : String) :
    (∀ b : World σ, ∃ outcome,
      (load path).run network b = (outcome, b.called network (.readFile path)) ∧
        LoadsTo path (network.answer (.readFile path) b.network).1 outcome) ∧
      ∀ (colours : Bool) (arguments : List String) (i : Invocation) (command : Command)
        (a b : World σ) (word : String),
        Invocation.read arguments = .ok i → i.command = some command →
          command.loadsSettings = true → i.config = some path → path ≠ "" →
            (ask command).run network a = (.ok word, b) →
              (∀ s, ((load path).run network b).1 ≠ .ok s) →
                Unloaded path colours (b.called network (.readFile path))
                  (network.answer (.readFile path) b.network).1
                  ((run colours arguments).run network a) := by
  have loading (b : World σ) : ∃ outcome,
      (load path).run network b = (outcome, b.called network (.readFile path)) ∧
        LoadsTo path (network.answer (.readFile path) b.network).1 outcome :=
    ⟨_, run_load path, loadsTo_loaded path _⟩
  refine ⟨loading, ?_⟩
  intro colours arguments i command a b word read named loads given filled asked unloaded
  obtain ⟨outcome, ran, ends⟩ := loading b
  rw [ran] at unloaded
  have exits {failure : Failure} (failed : outcome = .error failure) :
      (run colours arguments).run network a = _ :=
    run_failed read named (runCommand_failed loads asked
      (settings_failed given filled (ran.trans (by rw [failed]))))
  generalize (network.answer (.readFile path) b.network).1 = answer at ends ⊢
  cases ends with
  | loaded laidOut => exact absurd rfl (unloaded _)
  | malformed e formless =>
    rw [exits rfl]
    exact .malformed e formless
  | unreadable system =>
    rw [exits rfl]
    exact .told system
  | unforeseen other =>
    rw [exits rfl]
    exact .unforeseen other

/-- The operating system does not find the file. -/
theorem run_unloaded_absent :
    let network := Rehearsal.onlyFile (.error (.noSuchFile "ldap.ini"))
    ∃ c, (run false ["-c", "ldap.ini", "test-connection"]).run network (.start ()) =
      (.ok (.code 1), c) ∧ ((load "ldap.ini").run network (.start ())).1 =
        .error (.setting (.unreadableFile "ldap.ini")) := by
  intro network
  have failed : ((load "ldap.ini").run network (.start ())).1 =
      .error (.setting (.unreadableFile "ldap.ini")) := rfl
  have told := (run_unloaded network "ldap.ini").2 false ["-c", "ldap.ini", "test-connection"]
    ⟨some "ldap.ini", [], 0, some .testConnection⟩ .testConnection (.start ()) (.start ()) ""
    (eq_ok_of_toOption (by decide +kernel)) rfl rfl rfl (by decide) rfl
    (fun s loaded => nomatch failed.symm.trans loaded)
  change Unloaded _ _ _ (.error (.noSuchFile "ldap.ini")) _ at told
  generalize (run false ["-c", "ldap.ini", "test-connection"]).run network (.start ()) =
    ended at told
  cases told with
  | told system => exact ⟨_, rfl, failed⟩
  | unforeseen other => cases other

/-- A file with an option in front of all sections is given, and ends the program. -/
theorem run_unloaded_headless :
    let network := Rehearsal.onlyFile (.ok (utf8 "key = 1\n".toList))
    let e := FileError.noSection "ldap.ini" 1 "key = 1\n"
    ((load "ldap.ini").run network (.start ())).1 = .error (.file e) ∧
      ((run false ["-c", "ldap.ini", "test-connection"]).run network (.start ())).1 =
        .error (.file e) ∧ (Failure.file e).isForeseen = false := by
  intro network e
  have read : Document.read "ldap.ini" (Lines.split "key = 1\n".toList) none = .error e := by
    decide +kernel
  have failed : (load "ldap.ini").run network (.start ()) =
      (.error (.file e), (World.start ()).called network (.readFile "ldap.ini")) := by
    have answer : (network.answer (.readFile "ldap.ini") ()).1 = .ok (utf8 "key = 1\n".toList) := rfl
    rw [run_load]
    change (loaded "ldap.ini" (network.answer (.readFile "ldap.ini") ()).1, _) = _
    rw [answer, loaded, ofBytes_utf8, read]
    rfl
  have arguments : Invocation.read ["-c", "ldap.ini", "test-connection"] =
      .ok ⟨some "ldap.ini", [], 0, some .testConnection⟩ :=
    eq_ok_of_toOption (by decide +kernel)
  have ended : (run false ["-c", "ldap.ini", "test-connection"]).run network (.start ()) = _ :=
    run_failed arguments rfl (runCommand_failed rfl rfl (settings_failed rfl (by decide) failed))
  exact ⟨by rw [failed], by rw [ended]; rfl, rfl⟩

end Console

end DirectoryAuth

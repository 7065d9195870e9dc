import DirectoryAuth.Console.Run
import DirectoryAuth.Proofs.Failures.Failover
import DirectoryAuth.Proofs.Realm.Preparation

/-!
# Commands and realms

A host application asks a realm, and a user asks the program. In a fixed network, where whatever
fails does so in a way that is foreseen, both are given the same answers: the program tests the
servers one by one and goes on after a failure, and still it says yes exactly where a realm with the
same settings comes to be ready; and it accepts a login exactly where the realm does.
-/

namespace DirectoryAuth

open Operation World

variable {σ α : Type} {network : Network σ} {state : σ} {a b c d : World σ} {s : Settings}
variable {servers : List Server} {login word : String}

namespace Console

variable {colours : Bool} {i : Invocation}

/-! ## What does not matter to sessions -/

theorem tell_course {visited : Connector → Prop} (colours : Bool) (colour : Colour)
    (text : String) : Keeps network (Course network visited) (tell colours colour text) :=
  CallsOnly.course (.record rfl (Event.within_of_silent rfl id))

theorem settings_course {visited : Connector → Prop} (colours : Bool) (i : Invocation) :
    Keeps network (Course network visited) (settings colours i) := by
  have overriding (loaded : Settings) : Keeps network (Course network visited)
      (ofOutcome (overridden loaded i.overrides)) := .ofOutcome _
  rw [settings]
  cases i.config.filter (· ≠ "") with
  | none => exact overriding _
  | some path =>
    refine .bind ?_ fun loaded => .bind (tell_course _ _ _) fun _ => overriding _
    have read : CallsOnly network Call.IsAside (perform (.readFile path)) := .perform rfl
    refine .bind (.attempt read.course) fun outcome => ?_
    match outcome with
    | .ok bytes => exact .ofOutcome _
    | .error failure => cases failure <;> exact .throw _

theorem password_course {visited : Connector → Prop} (login : String) (given : Option String) :
    Keeps network (Course network visited) (password login given) := by
  cases given with
  | some text => exact .pure _
  | none =>
    have asked : CallsOnly network Call.IsAside
        (perform (.askPassword s!"Password for {login}: ")) := .perform rfl
    exact asked.course

theorem testOne_course {visited : Connector → Prop} {c : Connector} (known : visited c) :
    Keeps network (Course network visited) (testOne colours c) := by
  refine .bind (.attempt (c.test_course known)) fun outcome => ?_
  cases outcome with
  | ok _ => exact .bind (tell_course _ _ _) fun _ => .pure _
  | error failure => exact .ite (.bind (tell_course _ _ _) fun _ => .pure _) (.throw _)

/-! ## Answers -/

/-- How a command answers a question: with the code 0 for yes, and for no with the code 1 or with a
failure that is foreseen. -/
inductive Answers (question : Prop) : Except Failure Nat → Prop
  | yes (holds : question) : Answers question (.ok 0)
  | no (fails : ¬ question) : Answers question (.ok 1)
  | failed {failure : Failure} (fails : ¬ question) (foreseen : failure.isForeseen = true) :
      Answers question (.error failure)

/-- The program runs the command that its arguments name. -/
theorem run_of_command {arguments : List String} {command : Command}
    (read : Invocation.read arguments = .ok i) (named : i.command = some command) :
    (run colours arguments : Operation σ Exit) =
      (runReporting colours i command >>= fun code => pure (.code code)) := by
  rw [run, read]
  dsimp only
  rw [named]

/-- The program ends with the code of the answer. -/
theorem run_answers {arguments : List String} {command : Command} {question : Prop}
    (read : Invocation.read arguments = .ok i) (named : i.command = some command)
    (answers : Answers question ((runCommand colours i command).run network a).1) :
    (((run colours arguments).run network a).1 = .ok (.code 0) ↔ question) ∧
      (¬ question → ((run colours arguments).run network a).1 = .ok (.code 1)) := by
  rcases ran : (runCommand colours i command).run network a with ⟨outcome, b⟩
  rw [ran] at answers
  rw [run_of_command read named, run_bind_pure, runReporting, run_attempt_bind, ran]
  cases answers with
  | yes holds => exact ⟨iff_of_true rfl holds, fun fails => absurd holds fails⟩
  | no fails => exact ⟨iff_of_false nofun fails, fun _ => rfl⟩
  | failed fails foreseen =>
    dsimp only
    rw [if_pos foreseen]
    exact ⟨iff_of_false nofun fails, fun _ => rfl⟩

/-! ## Testing servers -/

theorem testOne_outcome (colours : Bool) (fixed : network.Fixed Call.IsOfRealm state)
    (settled : Settled network state a) (c : Connector)
    (foreseen : ∀ failure, c.test.atFirst network state = .error failure →
      failure.isForeseen = true) :
    ((testOne colours c).run network a).1 = .ok (c.test.atFirst network state).isOk := by
  have tested := Agree.outcome (fun _ _ => c.test_agree fixed.sessions) settled
  rw [testOne, run_attempt_bind, tested]
  cases first : c.test.atFirst network state with
  | ok _ => rfl
  | error failure =>
    dsimp only
    rw [if_pos (foreseen failure first)]
    rfl

/-- Every server is tested, also after failures. -/
theorem mapM_testOne (fixed : network.Fixed Call.IsOfRealm state)
    (settled : Settled network state a) (connectors : List Connector)
    (foreseen : ∀ c ∈ connectors, ∀ failure, c.test.atFirst network state = .error failure →
      failure.isForeseen = true) :
    ((connectors.mapM (testOne colours)).run network a).1 =
      .ok (connectors.map fun c => (c.test.atFirst network state).isOk) := by
  induction connectors generalizing a with
  | nil => rfl
  | cons c rest ih =>
    have first := testOne_outcome colours fixed settled c (foreseen c List.mem_cons_self)
    rcases ran : (testOne colours c).run network a with ⟨outcome, b⟩
    rw [ran] at first
    dsimp only at first
    subst first
    have kept := settled.kept (testOne_course trivial) ran
    rw [List.mapM_cons, run_bind_of_ok ran, run_bind_pure,
      ih kept fun c member => foreseen c (List.mem_cons_of_mem _ member)]
    rfl

/-- What is left of testing the servers once the settings are loaded. -/
theorem testConnection_loaded (loaded : (settings colours i).run network a = (.ok s, b)) :
    (testConnection colours i).run network a =
      (do
        let connectors ← Realm.connectAll (← Server.assembleAll s)
        let results ← connectors.mapM (testOne colours)
        pure (if results.all id then 0 else 1) : Operation σ Nat).run network b := by
  rw [testConnection, run_bind_of_ok loaded]
  rfl

/-- The program says yes of servers that were assembled and connected to exactly where each passes
its test. -/
theorem testConnection_of_connected (fixed : network.Fixed Call.IsOfRealm state)
    (settled : Settled network state b) (foreseen : s.Foreseen network state)
    (loaded : (settings colours i).run network a = (.ok s, b))
    (assembled : (Server.assembleAll s).atFirst network state = .ok servers)
    (connected : (Realm.connectAll servers).atFirst network state =
      .ok (servers.map Connector.mk)) :
    ((testConnection colours i).run network a).1 =
      .ok (if (servers.map Connector.mk).all fun c => (c.test.atFirst network state).isOk
        then 0 else 1) := by
  obtain ⟨c, ran, kept⟩ := Server.assembleAll_run fixed settled assembled
  obtain ⟨d, made, kept⟩ := Realm.connectAll_run fixed kept connected
  have listed : ∀ c ∈ servers.map Connector.mk, ∀ failure,
      c.test.atFirst network state = .error failure → failure.isForeseen = true := by
    intro c member
    obtain ⟨server, known, rfl⟩ := List.mem_map.mp member
    exact foreseen.tests servers assembled server known
  rw [testConnection_loaded loaded, run_bind_of_ok ran, run_bind_of_ok made, run_bind_pure,
    mapM_testOne fixed kept _ listed]
  simp [Except.map, List.all_map]

/-- The program tests the servers with success exactly where the settings prepare a realm. -/
theorem testConnection_answers (fixed : network.Fixed Call.IsOfRealm state)
    (settled : Settled network state b) (foreseen : s.Foreseen network state)
    (loaded : (settings colours i).run network a = (.ok s, b)) {question : Prop}
    {outcome : Except Failure (List Server)} (prepares : s.Prepares network state outcome)
    (asked : question ↔ ∃ servers, outcome = .ok servers) :
    Answers question ((testConnection colours i).run network a).1 := by
  have unprepared {failure : Failure} :
      ¬ ∃ servers, (.error failure : Except Failure (List Server)) = .ok servers := by
    rintro ⟨servers, same⟩
    cases same
  cases prepares with
  | @unassembled failure failed =>
    obtain ⟨c, ran, -⟩ := Server.assembleAll_run fixed settled failed
    rw [testConnection_loaded loaded, run_bind_of_error ran]
    exact .failed (asked.not.mpr unprepared) (foreseen.servers failure failed)
  | @unconnected servers failure assembled failed =>
    obtain ⟨c, ran, kept⟩ := Server.assembleAll_run fixed settled assembled
    obtain ⟨d, made, -⟩ := Realm.connectAll_run fixed kept failed
    rw [testConnection_loaded loaded, run_bind_of_ok ran, run_bind_of_error made]
    exact .failed (asked.not.mpr unprepared)
      (foreseen.connectors servers assembled failure failed)
  | @untested servers server failure assembled connected member failed =>
    rw [testConnection_of_connected fixed settled foreseen loaded assembled connected, if_neg]
    · exact .no (asked.not.mpr unprepared)
    · intro passed
      have other := List.all_eq_true.mp passed _ (List.mem_map_of_mem member)
      rw [failed] at other
      cases other
  | @tested servers assembled connected passed =>
    rw [testConnection_of_connected fixed settled foreseen loaded assembled connected, if_pos]
    · exact .yes (asked.mpr ⟨servers, rfl⟩)
    · rw [List.all_map, List.all_eq_true]
      intro server member
      rw [Function.comp_apply, passed server member]
      rfl

/-! ## Checking logins -/

theorem forM_tellAttempt (v : Verdict) (attempts : List Attempt) :
    ((attempts.forM (tellAttempt colours v)).run network a).1 = .ok () := by
  induction attempts generalizing a with
  | nil => rfl
  | cons attempt rest ih =>
    have both : (attempt :: rest).forM (tellAttempt colours v) =
        (tellAttempt colours v attempt >>= fun _ => rest.forM (tellAttempt colours v) :
          Operation σ _) := rfl
    rw [both, run_bind]
    exact ih

def conclude (colours json : Bool) (login : String) (v : Verdict) : Operation σ Nat := do
  if json then say (verdictJson v).write
  v.attempts.forM (tellAttempt colours v)
  match v.server? with
  | some server =>
    tell colours .green s!"[+] {login} authenticated by {server}"
    pure 0
  | none =>
    tell colours .red s!"[!] Authentication failed for {login}"
    pure 1

/-- A verdict names a server exactly where it is one of success. -/
theorem server?_isSome (v : Verdict) : v.server?.isSome = v.isSuccess := by
  rw [Verdict.server?, Verdict.isSuccess, Option.isSome_map, List.isSome_find?]

theorem conclude_outcome (json : Bool) (login : String) (v : Verdict) :
    ((conclude colours json login v).run network a).1 = .ok (if v.isSuccess then 0 else 1) := by
  have told : ∀ a : World σ, ((do
      v.attempts.forM (tellAttempt colours v)
      match v.server? with
      | some server =>
        tell colours .green s!"[+] {login} authenticated by {server}"
        pure 0
      | none =>
        tell colours .red s!"[!] Authentication failed for {login}"
        pure 1 : Operation σ Nat).run network a).1 = .ok (if v.isSuccess then 0 else 1) := by
    intro a
    rw [run_bind_of_ok (Prod.ext (forM_tellAttempt v v.attempts) rfl), ← server?_isSome]
    cases v.server? with
    | some server => rfl
    | none => rfl
  cases json with
  | false => exact told a
  | true => exact told _

theorem attempts_failed (fixed : network.Fixed Call.IsSession state)
    (settled : Settled network state a) {connectors : List Connector} {failure : Failure}
    (ended : ((Login.attempts login word connectors).run network a).1 = .error failure) :
    ∃ c ∈ connectors, (Login.check c login word).atFirst network state = .error failure := by
  induction connectors generalizing a with
  | nil => cases ended
  | cons c rest ih =>
    obtain ⟨b, ran, kept⟩ := Agree.run_settled (fun _ _ => Login.check_agree fixed c login word)
      (Login.check_course trivial login word) settled rfl
    rw [Login.attempts] at ended
    cases first : (Login.check c login word).atFirst network state with
    | error other =>
      rw [first] at ran
      rw [run_bind_of_error ran] at ended
      cases ended
      exact ⟨c, List.mem_cons_self, first⟩
    | ok attempt =>
      rw [first] at ran
      rw [run_bind_of_ok ran] at ended
      split at ended
      · cases ended
      · rw [run_bind_pure] at ended
        cases failed : ((Login.attempts login word rest).run network b).1 with
        | ok others =>
          rw [failed] at ended
          cases ended
        | error other =>
          rw [failed] at ended
          cases ended
          obtain ⟨c, member, failed⟩ := ih kept failed
          exact ⟨c, List.mem_cons_of_mem _ member, failed⟩

/-- Where a verdict fails, checking the login with some server of the realm does. -/
theorem verdict_failed (fixed : network.Fixed Call.IsSession state)
    (settled : Settled network state a) {r : Realm} (ready : r.state = .ready)
    {failure : Failure} (ended : ((r.verdict login word).run network a).1 = .error failure) :
    ∃ c ∈ r.connectors, (Login.check c login word).atFirst network state = .error failure := by
  rw [Realm.verdict, Realm.run_when_ready ready, Login.authenticate] at ended
  split at ended
  · cases ended
  · rw [run_bind_pure] at ended
    cases failed : ((Login.attempts login word r.connectors).run network a).1 with
    | ok attempts =>
      rw [failed] at ended
      cases ended
    | error other =>
      rw [failed] at ended
      cases ended
      exact attempts_failed fixed settled failed

/-- A realm accepts a login where its verdict is one of success, and nowhere else. -/
theorem authenticate_run (r : Realm) :
    (∃ b, (r.authenticate login word).run network a = (.ok true, b)) ↔
      ∃ v, ((r.verdict login word).run network a).1 = .ok v ∧ v.isSuccess = true := by
  rw [Realm.authenticate]
  rcases ran : (r.verdict login word).run network a with ⟨outcome, b⟩
  cases outcome with
  | error failure =>
    rw [run_bind_of_error ran]
    simp
  | ok v =>
    rw [run_bind_of_ok ran]
    by_cases success : v.isSuccess = true
    · rw [if_pos success]
      exact iff_of_true ⟨b, rfl⟩ ⟨v, rfl, success⟩
    · rw [if_neg success]
      refine iff_of_false ?_ ?_
      · rintro ⟨d, told⟩
        split at told
        · cases told
        · cases told
      · rintro ⟨_, same, other⟩
        cases same
        exact success other

/-- A host sets up a realm with the settings, and the realm accepts the login. -/
def Accepts (network : Network σ) (a : World σ) (s : Settings) (login word : String) : Prop :=
  ∃ r b, (Realm.ofSettings s).setUp.run network a = (.ok (r, .ok ()), b) ∧
    ∃ c, (r.authenticate login word).run network b = (.ok true, c)

theorem authenticate_answers (fixed : network.Fixed Call.IsOfRealm state)
    (settled : Settled network state c) (settled' : Settled network state d)
    (foreseen : s.Foreseen network state)
    (foreseenLogin : s.ForeseenLogin network state login word) {given : Option String}
    (typed : (password login given).run network a = (.ok word, b))
    (loaded : (settings colours i).run network b = (.ok s, c)) (json : Bool) :
    Answers (Accepts network d s login word)
      ((authenticate colours i login given json).run network a).1 := by
  obtain ⟨r, outcome, e, ran, ways⟩ := Realm.setUp_prepares fixed settled' s
  obtain ⟨same, abreast⟩ := Realm.setUp_agree fixed (.ofSettings s) c d (settled.abreast settled')
  rcases here : (Realm.ofSettings s).setUp.run network c with ⟨found, f⟩
  rw [ran, here] at same abreast
  have found := same.eq
  dsimp only at found
  subst found
  have prepared : (readyRealm colours i).run network b =
      (do ofOutcome outcome; pure r : Operation σ Realm).run network f := by
    rw [readyRealm, run_bind_of_ok loaded, run_bind_of_ok here]
  rw [authenticate, run_bind_of_ok typed]
  rcases ways with ⟨servers, prepares, rfl, ready, connected⟩ | ⟨failure, prepares, rfl, -⟩
  · -- Both realms are ready and abreast, so they come to the same verdict.
    have kept : Settled network state e := by
      have course : Course network (fun _ => True) d
          ((Realm.ofSettings s).setUp.run network d).2 :=
        Realm.setUp_course fun _ _ _ _ => trivial
      rw [ran] at course
      exact settled'.course course
    have accepted : Accepts network d s login word ↔
        ∃ v, ((r.verdict login word).run network e).1 = .ok v ∧ v.isSuccess = true := by
      rw [← authenticate_run]
      refine ⟨?_, fun accepted => ⟨r, e, ran, accepted⟩⟩
      rintro ⟨other, g, ready, accepted⟩
      cases ran.symm.trans ready
      exact accepted
    have judged := (Realm.verdict_agree fixed.sessions r login word f e abreast).1.eq
    rw [run_bind_of_ok prepared]
    change Answers _ ((r.verdict login word >>= conclude colours json login).run network f).1
    cases told : ((r.verdict login word).run network e).1 with
    | error failure =>
      rw [told] at judged accepted
      obtain ⟨c, member, failed⟩ := verdict_failed fixed.sessions kept ready told
      rw [run_bind_of_error (Prod.ext judged rfl)]
      rw [connected] at member
      obtain ⟨server, known, rfl⟩ := List.mem_map.mp member
      refine .failed (accepted.not.mpr ?_) ?_
      · rintro ⟨v, same, -⟩
        cases same
      · cases prepares with
        | tested assembled _ _ => exact foreseenLogin servers assembled server known failure failed
    | ok v =>
      rw [told] at judged accepted
      rw [run_bind_of_ok (Prod.ext judged rfl), conclude_outcome]
      split
      · next success => exact .yes (accepted.mpr ⟨v, rfl, success⟩)
      · next rejected =>
        refine .no (accepted.not.mpr ?_)
        rintro ⟨other, same, success⟩
        cases same
        exact rejected success
  · have refused : ¬ Accepts network d s login word := by
      rintro ⟨other, g, ready, -⟩
      cases ran.symm.trans ready
    rw [run_bind_of_error prepared]
    exact .failed refused (foreseen.isForeseen prepares)

/-! ## The program and the realm -/

def Readies (network : Network σ) (a : World σ) (s : Settings) : Prop :=
  ∃ r outcome b, (Realm.ofSettings s).setUp.run network a = (.ok (r, outcome), b) ∧
    r.state = .ready

/-- The program answers as a realm with the same settings does, in whichever worlds of a fixed
network they are asked, as long as whatever fails does so in a way that is foreseen. Testing all
servers ends with the code 0 where such a realm comes to be ready, and with the code 1 otherwise.
Checking a login, with a password that is given or typed, ends with the code 0 where the realm comes
to be ready and accepts the login, and otherwise with the code 1. -/
theorem answers_as_realm (fixed : network.Fixed Call.IsOfRealm state)
    (settled : Settled network state a) (settled' : Settled network state b)
    (foreseen : s.Foreseen network state) (colours : Bool) (arguments : List String)
    (i : Invocation) (read : Invocation.read arguments = .ok i) :
    let exit := ((run colours arguments).run network a).1
    (i.command = some .testConnection → ((settings colours i).run network a).1 = .ok s →
      (exit = .ok (.code 0) ↔ Readies network b s) ∧
        (¬ Readies network b s → exit = .ok (.code 1))) ∧
    ∀ login given json word c, i.command = some (.authenticate login given json) →
      (password login given).run network a = (.ok word, c) →
      ((settings colours i).run network c).1 = .ok s →
      s.ForeseenLogin network state login word →
        (exit = .ok (.code 0) ↔ Accepts network b s login word) ∧
          (¬ Accepts network b s login word → exit = .ok (.code 1)) := by
  intro exit
  refine ⟨fun named loaded => ?_, fun login given json word c named typed loaded judged => ?_⟩
  · have loaded : (settings colours i).run network a = (.ok s, _) := Prod.ext loaded rfl
    have kept := settled.kept (settings_course colours i) loaded
    obtain ⟨r, outcome, d, ran, ways⟩ := Realm.setUp_prepares fixed settled' s
    refine run_answers read named ?_
    rcases ways with ⟨servers, prepares, -, ready, -⟩ | ⟨failure, prepares, -, unready⟩
    · refine testConnection_answers fixed kept foreseen loaded prepares ?_
      exact iff_of_true ⟨r, outcome, d, ran, ready⟩ ⟨servers, rfl⟩
    · refine testConnection_answers fixed kept foreseen loaded prepares (iff_of_false ?_ ?_)
      · rintro ⟨other, _, _, again, ready⟩
        cases ran.symm.trans again
        exact unready ready
      · rintro ⟨servers, same⟩
        cases same
  · have loaded : (settings colours i).run network c = (.ok s, _) := Prod.ext loaded rfl
    have kept := (settled.kept (password_course login given) typed).kept
      (settings_course colours i) loaded
    refine run_answers read named ?_
    exact authenticate_answers fixed kept settled' foreseen judged typed loaded json

end Console

namespace Rehearsal

def plainSettings : Settings :=
  ⟨[("ldap.url", .text "ldap://h"), ("ldap.user.baseDn", .text "dc=x"),
    ("ldap.user.request", .text "(uid=\x7b0\x7d)")]⟩

def options : List String :=
  ["-s", "ldap.url=ldap://h", "-s", "ldap.user.baseDn=dc=x", "-s",
    "ldap.user.request=(uid=\x7b0\x7d)"]

def invocation (command : Console.Command) : Console.Invocation :=
  ⟨none, [some "ldap.url=ldap://h", some "ldap.user.baseDn=dc=x",
    some "ldap.user.request=(uid=\x7b0\x7d)"], 0, some command⟩

theorem plainSettings_loaded (command : Console.Command) :
    ((Console.settings false (invocation command)).run Script.network (.start accounting)).1 =
      .ok plainSettings := by
  -- Which command it is does not matter to the settings.
  have same : Console.settings (σ := Script) false (invocation command) =
      Console.settings false (invocation .testConnection) := rfl
  rw [same]
  exact eq_ok_of_toOption (by decide +kernel)

theorem plainSettings_assembled :
    (Server.assembleAll plainSettings).atFirst Script.network accounting =
      .ok [server .simple .none none] :=
  eq_ok_of_toOption (by decide +kernel)

/-- The settings prepare a realm where the user has an account. -/
theorem plainSettings_prepares :
    plainSettings.Prepares Script.network accounting (.ok [server .simple .none none]) := by
  refine .tested plainSettings_assembled ?_ (List.forall_mem_singleton.mpr ?_)
  · exact eq_ok_of_toOption (by decide +kernel)
  · exact eq_ok_of_toOption (by decide +kernel)

theorem plainSettings_foreseenLogin {login word : String}
    (checked : ((Login.check ⟨server .simple .none none⟩ login word).atFirst Script.network
      accounting).toOption.isSome = true) :
    plainSettings.ForeseenLogin Script.network accounting login word := by
  intro servers same server member failure failed
  cases plainSettings_assembled.symm.trans same
  cases List.mem_singleton.mp member
  rw [failed] at checked
  cases checked

end Rehearsal

namespace Console

open Rehearsal in
/-- The one directory of a rehearsal passes its test, and the user has one password there. -/
theorem answers_as_realm_accounting :
    let exit (command : List String) :=
      ((run false (options ++ command)).run Script.network (.start accounting)).1
    let accepts := Accepts Script.network (.start accounting) plainSettings "jdoe"
    Script.network.Fixed Call.IsOfRealm accounting ∧
      plainSettings.Foreseen Script.network accounting ∧
      Readies Script.network (.start accounting) plainSettings ∧
      exit ["test-connection"] = .ok (.code 0) ∧
      accepts "secret" ∧ exit ["authenticate", "jdoe", "-p", "secret"] = .ok (.code 0) ∧
      ¬ accepts "guess" ∧ exit ["authenticate", "jdoe", "-p", "guess"] = .ok (.code 1) := by
  intro exit accepts
  have fixed : Script.network.Fixed Call.IsOfRealm accounting :=
    Script.network_fixed (fun _ => id) (fun _ _ => id) accounting
  have settled := Settled.start Script.network accounting
  have foreseen := plainSettings_prepares.foreseen
  have tested : exit ["test-connection"] = .ok (.code 0) := eq_ok_of_toOption (by decide +kernel)
  have accepted : exit ["authenticate", "jdoe", "-p", "secret"] = .ok (.code 0) :=
    eq_ok_of_toOption (by decide +kernel)
  have rejected : exit ["authenticate", "jdoe", "-p", "guess"] = .ok (.code 1) :=
    eq_ok_of_toOption (by decide +kernel)
  have ready := (answers_as_realm fixed settled settled foreseen false
    (options ++ ["test-connection"]) (invocation .testConnection)
    (eq_ok_of_toOption (by decide +kernel))).1 rfl (plainSettings_loaded _)
  have secret := (answers_as_realm fixed settled settled foreseen false
    (options ++ ["authenticate", "jdoe", "-p", "secret"])
    (invocation (.authenticate "jdoe" (some "secret") false))
    (eq_ok_of_toOption (by decide +kernel))).2 _ _ _ _ _ rfl rfl (plainSettings_loaded _)
    (plainSettings_foreseenLogin (by decide +kernel))
  have guess := (answers_as_realm fixed settled settled foreseen false
    (options ++ ["authenticate", "jdoe", "-p", "guess"])
    (invocation (.authenticate "jdoe" (some "guess") false))
    (eq_ok_of_toOption (by decide +kernel))).2 _ _ _ _ _ rfl rfl (plainSettings_loaded _)
    (plainSettings_foreseenLogin (by decide +kernel))
  refine ⟨fixed, foreseen, ready.1.mp tested, tested, secret.1.mp accepted, accepted, ?_, rejected⟩
  intro taken
  cases rejected.symm.trans (guess.1.mpr taken)

end Console

end DirectoryAuth

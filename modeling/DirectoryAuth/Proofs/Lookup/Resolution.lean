import DirectoryAuth.Proofs.Failures.Failover
import DirectoryAuth.Proofs.Lookup.Answers

/-!
# The server that answers for a login

A lookup passes over servers that no session can be had with, that cannot be searched and that do
not know the login. The first server that knows it answers for it, well or badly, and the servers
behind it might as well not be there. Where no server knows the login, each was asked once, in
order, and the last failure on the way is told.

All this counts on sessions that close: a fault of an unbind that closing does not expect ends a
lookup in the place of whatever the server said.
-/

namespace DirectoryAuth

open Operation World

variable {σ α : Type} {network : Network σ} {a b m n : World σ}

/-! ## Sessions that close -/

/-- The fault is one that closing a session expects of an unbind. -/
def Fault.IsExpected (fault : Fault) : Prop := (fault.isDirectory || fault.isSystem) = true

/-- Nothing fails in closing a session but what closing does not expect. -/
theorem Session.close_ok {s : Session}
    (expected : s.IsOpen a → ∀ fault,
      (network.answer (.unbind s.connection) a.network).1 = .error fault → fault.IsExpected) :
    (s.close.run network a).1 = .ok () := by
  by_cases isOpen : s.IsOpen a
  · rw [run_close_of_open isOpen, release, run_attempt_bind, run_perform]
    dsimp only
    cases answered : (network.answer (.unbind s.connection) a.network).1 with
    | ok _ => rfl
    | error fault =>
      have told : (fault.isDirectory || fault.isSystem) = true := expected isOpen fault answered
      dsimp only [Except.mapError]
      rw [if_pos told]
      rfl
  · rw [run_close_of_closed isOpen]

namespace Lookup

variable {login : String} {attributes : List String} {action : Session → Entry → Operation σ α}
variable {c : Connector}

/-! ## What a server comes to -/

def absence (c : Connector) (login : String) : Event :=
  .logged ⟨.debug, .users, s!"User {login} not found in {c.key}"⟩

def lapse (c : Connector) (login : String) (failure : Failure) : Event :=
  .logged ⟨.debug, .users, s!"Lookup of user {login} failed in {c.key}: {failure.message}"⟩

/-- From one world to the next, a server is passed over, with its failure if it had one. -/
inductive Passes (network : Network σ) (login : String) (attributes : List String) (c : Connector)
    (a : World σ) : Option Failure → World σ → Prop
  | unreached {error : ConnectionError} {m : World σ}
      (refused : c.openService.run network a = (.error (.connection error), m)) :
      Passes network login attributes c a (some (.connection error))
        (m.noted (lapse c login (.connection error)))
  | unsearched {s : Session} {error : SearchError} {m n b : World σ}
      (opened : c.openService.run network a = (.ok s, m))
      (failed : (findUser c s login attributes).run network m = (.error (.search error), n))
      (closed : s.close.run network (n.noted (lapse c login (.search error))) = (.ok (), b)) :
      Passes network login attributes c a (some (.search error)) b
  | absent {s : Session} {m n b : World σ}
      (opened : c.openService.run network a = (.ok s, m))
      (unknown : (findUser c s login attributes).run network m = (.ok none, n))
      (closed : s.close.run network (n.noted (absence c login)) = (.ok (), b)) :
      Passes network login attributes c a none b

/-- From one world to the next, a server knows a login, and acting on its entry has an outcome. -/
inductive Resolves (network : Network σ) (login : String) (attributes : List String)
    (action : Session → Entry → Operation σ α) (c : Connector) (a : World σ) :
    Except Failure α → World σ → Prop
  | found {s : Session} {entry : Entry} {outcome : Except Failure α} {m n d b : World σ}
      (opened : c.openService.run network a = (.ok s, m))
      (known : (findUser c s login attributes).run network m = (.ok (some entry), n))
      (acted : (action s entry).run network n = (outcome, d))
      (met : ∀ failure, outcome = .error failure → failure.OfAction never)
      (closed : s.close.run network ((act c login (action s entry)).run network n).2 = (.ok (), b)) :
      Resolves network login attributes action c a outcome b

/-- What lookups expect of a session. -/
structure ExpectedIn (network : Network σ) (login : String) (attributes : List String)
    (action : Session → Entry → Operation σ α) (c : Connector) (s : Session) (m : World σ) :
    Prop where
  finding : ∀ failure n, (findUser c s login attributes).run network m = (.error failure, n) →
    ∃ error, failure = .search error
  acting : ∀ entry n failure d,
    (findUser c s login attributes).run network m = (.ok (some entry), n) →
    (action s entry).run network n = (.error failure, d) → failure.OfAction never
  closing : let done := ((within c s login attributes action).run network m).2
    s.IsOpen done → ∀ fault,
      (network.answer (.unbind s.connection) done.network).1 = .error fault → fault.IsExpected

/-- What lookups expect of a server, as things are when they come to it. -/
structure Expected (network : Network σ) (login : String) (attributes : List String)
    (action : Session → Entry → Operation σ α) (c : Connector) (a : World σ) : Prop where
  opening : ∀ failure m, c.openService.run network a = (.error failure, m) →
    ∃ error, failure = .connection error
  session : ∀ s m, c.openService.run network a = (.ok s, m) →
    ExpectedIn network login attributes action c s m

/-! ## Within a session -/

theorem run_within_of_none {s : Session}
    (unknown : (findUser c s login attributes).run network m = (.ok none, n)) :
    (within c s login attributes action).run network m =
      (.ok .absent, n.noted (absence c login)) := by
  rw [within, run_attempt_bind, unknown]
  rfl

theorem run_within_of_search {s : Session} {error : SearchError}
    (failed : (findUser c s login attributes).run network m = (.error (.search error), n)) :
    (within c s login attributes action).run network m =
      (.ok (.failed (.search error)), n.noted (lapse c login (.search error))) := by
  rw [within, run_attempt_bind, failed]
  rfl

/-- A failure that lookups meet is told as one of retrieving what was asked for. -/
theorem act_outcome {x : Operation σ α} {outcome : Except Failure α} {d : World σ}
    (acted : x.run network n = (outcome, d))
    (met : ∀ failure, outcome = .error failure → failure.OfAction never) :
    ((act c login x).run network n).1 = outcome.mapError (.retrieval login c.key) := by
  rw [act, run_attempt_bind, acted]
  cases outcome with
  | ok value => rfl
  | error failure =>
    have met := met failure rfl
    cases failure with
    | connection error => rfl
    | search error => rfl
    | _ => exact met.elim

/-! ## One server -/

theorem run_ask_of_opened {s : Session} {answer : Except Failure (Answer α)}
    (opened : c.openService.run network a = (.ok s, m))
    (asked : (within c s login attributes action).run network m = (answer, n))
    (closed : s.close.run network n = (.ok (), b)) :
    (ask c login attributes action).run network a = (answer, b) := by
  rw [ask, run_attempt_bind, opened]
  dsimp only [Session.during]
  rw [run_andFinally, asked, closed]

def heard : Option Failure → Answer α
  | some failure => .failed failure
  | none => .absent

theorem Passes.run_ask {failed : Option Failure}
    (passes : Passes network login attributes c a failed b) :
    (ask c login attributes action).run network a = (.ok (heard failed), b) := by
  cases passes with
  | unreached refused =>
    rw [ask, run_attempt_bind, refused]
    rfl
  | unsearched opened failed closed =>
    exact run_ask_of_opened opened (run_within_of_search failed) closed
  | absent opened unknown closed =>
    exact run_ask_of_opened opened (run_within_of_none unknown) closed

theorem Resolves.run_ask {outcome : Except Failure α}
    (resolves : Resolves network login attributes action c a outcome b) :
    (ask c login attributes action).run network a =
      ((outcome.mapError (.retrieval login c.key)).map .found, b) := by
  cases resolves with
  | found opened known acted met closed =>
    refine run_ask_of_opened opened ?_ closed
    rw [within_found known]
    dsimp only
    rw [act_outcome acted met]

/-- A server that does what is expected is passed over, or it knows the login. -/
theorem Expected.cases (expected : Expected network login attributes action c a) :
    (∃ failed b, Passes network login attributes c a failed b) ∨
      ∃ outcome b, Resolves network login attributes action c a outcome b := by
  rcases opened : c.openService.run network a with ⟨outcome, m⟩
  cases outcome with
  | error failure =>
    obtain ⟨error, rfl⟩ := expected.opening failure m opened
    exact .inl ⟨_, _, .unreached opened⟩
  | ok s =>
    have here := expected.session s m opened
    have closes := Session.close_ok here.closing
    rcases found : (findUser c s login attributes).run network m with ⟨outcome, n⟩
    match outcome with
    | .error failure =>
      obtain ⟨error, rfl⟩ := here.finding failure n found
      rw [run_within_of_search found] at closes
      exact .inl ⟨_, _, .unsearched opened found (Prod.ext closes rfl)⟩
    | .ok none =>
      rw [run_within_of_none found] at closes
      exact .inl ⟨_, _, .absent opened found (Prod.ext closes rfl)⟩
    | .ok (some entry) =>
      rw [within_found found] at closes
      rcases acted : (action s entry).run network n with ⟨outcome, d⟩
      have met : ∀ failure, outcome = .error failure → failure.OfAction never := by
        rintro failure rfl
        exact here.acting entry n failure d found acted
      exact .inr ⟨_, _, .found opened found acted met (Prod.ext closes rfl)⟩

/-- What becomes of a server is settled by the world in which a lookup comes to it. -/
theorem Passes.settled {failed failed' : Option Failure} {b' : World σ}
    (passes : Passes network login attributes c a failed b)
    (passes' : Passes network login attributes c a failed' b') : failed = failed' ∧ b = b' := by
  let action : Session → Entry → Operation σ Unit := fun _ _ => pure ()
  have asked : (ask c login attributes action).run network a = _ := passes.run_ask
  rw [passes'.run_ask] at asked
  obtain ⟨answers, worlds⟩ := Prod.mk.inj asked
  refine ⟨?_, worlds.symm⟩
  cases failed <;> cases failed' <;> cases answers <;> rfl

/-! ## Servers in order -/

/-- From one world to the next, servers are passed over in order, each with its failure if it had
one. -/
inductive PassesAll (network : Network σ) (login : String) (attributes : Connector → List String) :
    List (Connector × Option Failure) → World σ → World σ → Prop
  | nil {a : World σ} : PassesAll network login attributes [] a a
  | cons {c : Connector} {failed : Option Failure} {passed : List (Connector × Option Failure)}
      {a m b : World σ} (first : Passes network login (attributes c) c a failed m)
      (later : PassesAll network login attributes passed m b) :
      PassesAll network login attributes ((c, failed) :: passed) a b

def servers (passed : List (Connector × Option Failure)) : List Connector := passed.map (·.1)

def lastFailure (passed : List (Connector × Option Failure)) : Option (String × Failure) :=
  (passed.filterMap fun (c, failed) => failed.map (c.key, ·)).getLast?

theorem lastFailure_cons (c : Connector) (failed : Option Failure)
    (passed : List (Connector × Option Failure)) :
    lastFailure ((c, failed) :: passed) = (lastFailure passed).or (failed.map (c.key, ·)) := by
  cases failed with
  | none => exact (Option.or_none ..).symm
  | some failure =>
    simp only [lastFailure, List.filterMap_cons, Option.map_some, List.getLast?_cons]
    cases (passed.filterMap fun (c, failed) => failed.map (c.key, ·)).getLast? <;> rfl

variable {attributes : Connector → List String}
variable {action : Connector → Session → Entry → Operation σ α}
variable {passed : List (Connector × Option Failure)} {connectors : List Connector}

/-- Servers that are passed over leave nothing behind but the last of their failures. -/
theorem PassesAll.run_lookUpFrom (passes : PassesAll network login attributes passed a b)
    (failed : Option (String × Failure)) (rest : List Connector) :
    (lookUpFrom login attributes action failed (servers passed ++ rest)).run network a =
      (lookUpFrom login attributes action ((lastFailure passed).or failed) rest).run network b := by
  induction passes generalizing failed with
  | nil => rfl
  | @cons c failure passed a m b first later ih =>
    rw [lastFailure_cons]
    change (lookUpFrom login attributes action failed (c :: (servers passed ++ rest))).run _ _ = _
    rw [lookUpFrom, run_bind_of_ok first.run_ask]
    cases failure with
    | none =>
      rw [Option.map_none, Option.or_none]
      exact ih failed
    | some failure =>
      rw [Option.map_some, Option.or_assoc, Option.some_or]
      exact ih (some (c.key, failure))

/-- The first server that knows a login answers for it, whatever servers stand behind it. -/
theorem Resolves.run_lookUp {outcome : Except Failure α} {d : World σ}
    (passes : PassesAll network login attributes passed a b)
    (resolves : Resolves network login (attributes c) (action c) c b outcome d)
    (others : List Connector) :
    (lookUp (servers passed ++ c :: others) login attributes action).run network a =
      (outcome.mapError (.retrieval login c.key), d) := by
  rw [lookUp, passes.run_lookUpFrom, lookUpFrom]
  have asked := resolves.run_ask
  cases outcome with
  | ok value => rw [run_bind_of_ok asked]; rfl
  | error failure => rw [run_bind_of_error asked]; rfl

/-- Where each server that a lookup comes to does what is expected of it, all are passed over, or
some are and the next one knows the login. -/
theorem passes_or_resolves
    (expected : ∀ passed c rest b, connectors = servers passed ++ c :: rest →
      PassesAll network login attributes passed a b →
      Expected network login (attributes c) (action c) c b) :
    (∃ passed c rest outcome b d, connectors = servers passed ++ c :: rest ∧
      PassesAll network login attributes passed a b ∧
      Resolves network login (attributes c) (action c) c b outcome d) ∨
    ∃ passed b, connectors = servers passed ∧ PassesAll network login attributes passed a b := by
  induction connectors generalizing a with
  | nil => exact .inr ⟨[], a, rfl, .nil⟩
  | cons c rest ih =>
    rcases (expected [] c rest a rfl .nil).cases with ⟨failed, m, first⟩ | ⟨outcome, d, resolves⟩
    · have later := ih fun passed c' rest' b listed passes =>
        expected ((c, failed) :: passed) c' rest' b (congrArg (c :: ·) listed) (.cons first passes)
      rcases later with ⟨passed, c', rest', outcome, b, d, listed, passes, resolves⟩ |
        ⟨passed, b, listed, passes⟩
      · exact .inl ⟨(c, failed) :: passed, c', rest', outcome, b, d,
          congrArg (c :: ·) listed, .cons first passes, resolves⟩
      · exact .inr ⟨(c, failed) :: passed, b, congrArg (c :: ·) listed, .cons first passes⟩
    · exact .inl ⟨[], c, rest, outcome, a, d, rfl, .nil, resolves⟩

/-- A lookup ends with what the first server that knows the login makes of it, the same whatever
servers stand behind that one, and visits none of them; or each server was passed over, once and in
order, and it ends with the last of their failures, or with nobody known where there was none. -/
theorem lookUp_answered_by_first
    (expected : ∀ passed c rest b, connectors = servers passed ++ c :: rest →
      PassesAll network login attributes passed a b →
      Expected network login (attributes c) (action c) c b) :
    (∃ passed c rest outcome b d, connectors = servers passed ++ c :: rest ∧
      PassesAll network login attributes passed a b ∧
      Resolves network login (attributes c) (action c) c b outcome d ∧
      (∀ others, (lookUp (servers passed ++ c :: others) login attributes action).run network a =
        (outcome.mapError (.retrieval login c.key), d)) ∧
      ((∀ c session entry, Keeps network (Searched network session.connection)
          (action c session entry)) →
        Course network (· ∈ servers passed ++ [c]) a d)) ∨
    ∃ passed b, connectors = servers passed ∧
      PassesAll network login attributes passed a b ∧
      (lookUp connectors login attributes action).run network a =
        (.error (match lastFailure passed with
          | some (server, cause) => .retrieval login server cause
          | none => .notFound login), b) := by
  rcases passes_or_resolves expected with ⟨passed, c, rest, outcome, b, d, listed, passes, resolves⟩ |
    ⟨passed, b, listed, passes⟩
  · have answered := resolves.run_lookUp passes
    refine .inl ⟨passed, c, rest, outcome, b, d, listed, passes, resolves, answered, ?_⟩
    intro searches
    have visits : Keeps network (Course network (· ∈ servers passed ++ [c]))
        (lookUp (servers passed ++ [c]) login attributes action) :=
      lookUp_course (fun _ => id) searches
    have course := visits a
    rw [answered []] at course
    exact course
  · refine .inr ⟨passed, b, listed, passes, ?_⟩
    rw [lookUp, listed, ← List.append_nil (servers passed), passes.run_lookUpFrom, Option.or_none,
      lookUpFrom]
    cases lastFailure passed <;> rfl

open Rehearsal

def detailing (c : Connector) (_ : Session) (entry : Entry) : Operation σ Details :=
  pure (Details.ofEntry c.server.users entry)

/-- Of a server with which no session can be had nothing more is expected. -/
theorem Expected.of_refused {action : Session → Entry → Operation σ α} {attributes : List String}
    {error : ConnectionError}
    (refused : c.openService.run network a = (.error (.connection error), m)) :
    Expected network login attributes action c a := by
  refine ⟨fun failure n ran => ?_, fun s n ran => ?_⟩
  · rw [refused] at ran
    cases ran
    exact ⟨error, rfl⟩
  · rw [refused] at ran
    cases ran

/-- With a session that is had, the session counts. -/
theorem Expected.of_opened {action : Session → Entry → Operation σ α} {attributes : List String}
    {s : Session} (opened : c.openService.run network a = (.ok s, m))
    (session : ExpectedIn network login attributes action c s m) :
    Expected network login attributes action c a := by
  refine ⟨fun failure n ran => ?_, fun s n ran => ?_⟩
  · rw [opened] at ran
    cases ran
  · rw [opened] at ran
    cases ran
    exact session

/-- A server that cannot be reached is passed over, and the next one answers. -/
theorem answered_by_second :
    let start := World.start accounting
    let second : Connector := ⟨server .simple .none none⟩
    (∀ passed c rest b, [absent, second] = servers passed ++ c :: rest →
      PassesAll Script.network "jdoe" (fun _ => []) passed start b →
      Expected Script.network "jdoe" [] (detailing c) c b) ∧
    ∃ passed c rest b d, [absent, second] = servers passed ++ c :: rest ∧
      PassesAll Script.network "jdoe" (fun _ => []) passed start b ∧
      Resolves Script.network "jdoe" [] (detailing c) c b (.ok ⟨"", ""⟩) d := by
  intro start second
  let error : Failure := .connection (.notOpened "ldap://absent"
    (.directory "no directory at ldap://absent"))
  let next := (absent.openService.run Script.network start).2.noted (lapse absent "jdoe" error)
  let s : Session := ⟨⟨1, "ldap://h", ⟨true, .ofNat 30, .anonymous⟩⟩, "default"⟩
  let served := (second.openService.run Script.network next).2
  have refused : absent.openService.run Script.network start = (.error error, _) :=
    Prod.ext (eq_error_of_failure? (by decide +kernel)) rfl
  have first : Passes Script.network "jdoe" [] absent start (some error) next :=
    .unreached refused
  have opened : second.openService.run Script.network next = (.ok s, served) :=
    run_eq_of_toOption (by decide +kernel)
  have found : failure? ((findUser second s "jdoe" []).run Script.network served).1 = none := by
    decide +kernel
  have expected : ∀ passed c rest b, [absent, second] = servers passed ++ c :: rest →
      PassesAll Script.network "jdoe" (fun _ => []) passed start b →
      Expected Script.network "jdoe" [] (detailing c) c b := by
    intro passed c rest b listed passes
    cases passes with
    | nil =>
      cases listed
      exact .of_refused refused
    | cons passes later =>
      obtain ⟨same, listed⟩ := List.cons.inj listed
      subst same
      obtain ⟨rfl, rfl⟩ := first.settled passes
      cases later with
      | cons _ _ => simp [servers] at listed
      | nil =>
        cases listed
        refine .of_opened opened ⟨?_, ?_, ?_⟩
        · intro failure n ran
          rw [ran] at found
          cases found
        · intro entry n failure d found ran
          cases ran
        · intro done isOpen fault answered
          have unbound : (Script.network.answer (.unbind s.connection) done.network).1.toOption =
            some () := by decide +kernel
          rw [answered] at unbound
          cases unbound
  refine ⟨expected, ?_⟩
  have ended : ((lookUp [absent, second] "jdoe" (fun _ => []) detailing).run Script.network
    start).1 = .ok ⟨"", ""⟩ := eq_ok_of_toOption (by decide +kernel)
  rcases lookUp_answered_by_first expected with
    ⟨passed, c, rest, outcome, b, d, listed, passes, resolves, answered, -⟩ |
    ⟨passed, b, listed, passes, failed⟩
  · rw [listed, answered] at ended
    cases outcome with
    | ok details =>
      cases ended
      exact ⟨passed, c, rest, b, d, listed, passes, resolves⟩
    | error failure => cases ended
  · rw [failed] at ended
    cases ended

def clinging (fault : Fault) : Script :=
  script { Script.Directory.empty with
    otherwise := { Script.Rule.empty with items := [item (some "uid=jdoe,dc=x") []] }
    closing := some fault }

/-- A fault that closing does not expect takes the place of an answer: the session was had, the
login was known and its details were there. -/
theorem answer_lost_in_closing :
    let start := World.start (clinging (.internal "unbind failed"))
    let c : Connector := ⟨server .simple .none none⟩
    ∃ s m entry n, c.openService.run Script.network start = (.ok s, m) ∧
      (findUser c s "jdoe" []).run Script.network m = (.ok (some entry), n) ∧
      (detailing c s entry).run Script.network n = (.ok ⟨"", ""⟩, n) ∧
      ((lookUp [c] "jdoe" (fun _ => []) detailing).run Script.network start).1 =
        .error (.outside (.internal "unbind failed")) := by
  intro start c
  have opened : c.openService.run Script.network start = (.ok (session c.server), _) :=
    run_eq_of_toOption (by decide +kernel)
  have found : (findUser c (session c.server) "jdoe" []).run Script.network
      (c.openService.run Script.network start).2 =
        (.ok (some (Item.entry (item (some "uid=jdoe,dc=x") []))), _) :=
    run_eq_of_toOption (by decide +kernel)
  exact ⟨_, _, _, _, opened, found, rfl, eq_error_of_failure? (by decide +kernel)⟩

end Lookup

end DirectoryAuth

import DirectoryAuth.Proofs.Failures.Kinds
import DirectoryAuth.Proofs.Lookup.Saying

/-!
# How lookups end

In a static network, what the servers say of a login decides how a lookup of it ends. A server that
does not know the login is passed over, and so is one that cannot be reached or searched; at the end
the last of these failures counts, if there was any. The first server that knows the login ends the
lookup with whatever is done with its entry, and a failure that lookups do not meet ends it as well.
-/

namespace DirectoryAuth.Lookup

open Operation World

variable {σ α : Type} {network : Network σ} {state : σ} {a b : World σ}

/-! ## Closing -/

/-- In a static network it does not matter what was searched for before a session is closed. -/
theorem close_outcome (static : network.Static state)
    (later : network.Later (fun _ => True) state a.network) {s : Session}
    (searched : Searched network s.connection a b) :
    (s.close.run network b).1 = (s.close.run network a).1 := by
  have steps := searched.steps
  have reached : network.Later (fun _ => True) state b.network :=
    later.trans (steps.mono fun _ _ => trivial).later
  have abreast : Abreast network state 0 0 b a := by
    refine ⟨reached, later, ⟨a.connections, ?_, ?_⟩, fun i => ?_⟩
    · rw [steps.connections_eq fun _ => id, Nat.zero_add]
    · rw [Nat.zero_add]
    · rw [steps.closed_eq fun _ => id]
  have same : Session.Abreast 0 0 s s :=
    ⟨rfl, rfl, s.connection.number, (Nat.zero_add _).symm, (Nat.zero_add _).symm⟩
  exact (Session.close_agree static.fixed same b a abreast).1.eq

/-! ## Single servers -/

def act (c : Connector) (login : String) (action : Operation σ α) : Operation σ α := do
  match ← action.attempt with
  | .ok value => pure value
  | .error failure => throw (← retrievalFailure c login failure)

/-- What a server answers, by what it says of the login. Of an entry that it knows it answers what
is `found` out. -/
inductive Answers (found : Entry → Except Failure α → Prop) :
    Except Failure (Option Entry) → Except Failure (Answer α) → Prop
  | absent : Answers found (.ok none) (.ok .absent)
  | failed {failure : Failure} (met : failure.OfAction never) :
      Answers found (.error failure) (.ok (.failed failure))
  | stopped {failure : Failure} (unmet : ¬ failure.OfAction never) :
      Answers found (.error failure) (.error failure)
  | found {entry : Entry} {outcome : Except Failure α} (known : found entry outcome) :
      Answers found (.ok (some entry)) (outcome.map .found)

variable {c : Connector} {login : String} {attributes : List String}
variable {action : Session → Entry → Operation σ α} {found : Entry → Except Failure α → Prop}

theorem within_found {session : Session} {entry : Entry}
    (located : (findUser c session login attributes).run network a = (.ok (some entry), b)) :
    (within c session login attributes action).run network a =
      let acted := (act c login (action session entry)).run network b
      (acted.1.map .found, acted.2) := by
  rw [within, run_attempt_bind, located, act]
  dsimp only
  rw [run_attempt_bind, run_attempt_bind]
  cases ((action session entry).run network b).1 with
  | ok value => rfl
  | error failure =>
    dsimp only
    rw [run_bind, run_bind]
    rcases (retrievalFailure c login failure).run network _ with ⟨outcome, after⟩
    cases outcome <;> rfl

theorem within_answers (session : Session)
    (acts : ∀ entry n, found entry ((act c login (action session entry)).run network n).1) :
    Answers found ((findUser c session login attributes).run network a).1
      ((within c session login attributes action).run network a).1 := by
  have reading : Raises network Failure.OfReading (findUser c session login attributes) :=
    SearchRequest.unique_raises _ session
  rcases located : (findUser c session login attributes).run network a with ⟨outcome, b⟩
  match outcome with
  | .ok (some entry) =>
    rw [within_found located]
    exact .found (acts entry b)
  | .ok none =>
    rw [within, run_attempt_bind, located]
    exact .absent
  | .error failure =>
    have known := reading a failure (congrArg Prod.fst located)
    rw [within, run_attempt_bind, located]
    cases failure with
    | search error => exact .failed trivial
    | connection error => exact known.elim
    | _ => exact .stopped id

/-- A server answers a lookup by what it says of the login where no lookup is about. -/
theorem ask_answers (static : network.Static state)
    (later : network.Later (fun _ => True) state a.network)
    (searches : ∀ session entry, Keeps network (Searched network session.connection)
      (action session entry))
    (acts : ∀ session entry n, found entry ((act c login (action session entry)).run network n).1) :
    Answers found ((locate c login attributes).run network a).1
      ((ask c login attributes action).run network a).1 := by
  have opens : Raises network Failure.OfSession c.openService := c.openSession_raises _ _ _
  have calls : CallsOnly network Call.IsOpening c.openService := c.openSession_callsOnly _ _ _
  rcases opened : c.openService.run network a with ⟨outcome, m⟩
  rw [ask, run_attempt_bind, opened]
  cases outcome with
  | error failure =>
    have known := opens a failure (congrArg Prod.fst opened)
    rw [locate, run_bind_of_error opened]
    cases failure with
    | connection error => exact .failed trivial
    | search error => exact known.elim
    | _ => exact .stopped id
  | ok s =>
    have reached : network.Later (fun _ => True) state m.network :=
      later.trans ((calls.steps opened).mono fun _ _ => trivial).later
    rw [locate, run_bind_of_ok opened]
    dsimp only [Session.during]
    rw [run_andFinally_bind, run_andFinally_bind]
    dsimp only
    rw [close_outcome static reached (findUser_searched c s login attributes m),
      close_outcome static reached (within_searched (searches s) m)]
    cases closing : (s.close.run network m).1 with
    | ok _ => exact within_answers s (acts s)
    | error failure =>
      obtain ⟨fault, rfl⟩ := s.close_raises m failure closing
      exact .stopped id

/-! ## Servers in order -/

/-- How a lookup over some servers ends, by what they say; `failed` is the last failure so far. -/
inductive Follows (login : String) (said : Connector → Except Failure (Option Entry))
    (found : Connector → Entry → Except Failure α → Prop) :
    Option (String × Failure) → List Connector → Except Failure α → Prop
  | unknown {failed : Option (String × Failure)} :
      Follows login said found failed [] (.error (unknown login failed))
  | absent {failed : Option (String × Failure)} {c : Connector} {rest : List Connector}
      {outcome : Except Failure α} (told : said c = .ok none)
      (later : Follows login said found failed rest outcome) :
      Follows login said found failed (c :: rest) outcome
  | failed {failed : Option (String × Failure)} {c : Connector} {rest : List Connector}
      {failure : Failure} {outcome : Except Failure α} (told : said c = .error failure)
      (met : failure.OfAction never)
      (later : Follows login said found (some (c.key, failure)) rest outcome) :
      Follows login said found failed (c :: rest) outcome
  | stopped {failed : Option (String × Failure)} {c : Connector} {rest : List Connector}
      {failure : Failure} (told : said c = .error failure) (unmet : ¬ failure.OfAction never) :
      Follows login said found failed (c :: rest) (.error failure)
  | found {failed : Option (String × Failure)} {c : Connector} {rest : List Connector}
      {entry : Entry} {outcome : Except Failure α} (told : said c = .ok (some entry))
      (known : found c entry outcome) : Follows login said found failed (c :: rest) outcome

/-- In a static network a lookup ends as the servers say, whenever it is made. -/
theorem lookUpFrom_follows {attributes : Connector → List String}
    {action : Connector → Session → Entry → Operation σ α}
    {found : Connector → Entry → Except Failure α → Prop} (static : network.Static state)
    (searches : ∀ c session entry, Keeps network (Searched network session.connection)
      (action c session entry))
    (acts : ∀ c session entry n,
      found c entry ((act c login (action c session entry)).run network n).1)
    (settled : Settled network state a) (failed : Option (String × Failure))
    (connectors : List Connector) :
    Follows login (said network state login) found failed connectors
      ((lookUpFrom login attributes action failed connectors).run network a).1 := by
  induction connectors generalizing a failed with
  | nil => exact .unknown
  | cons c rest ih =>
    have answers : Answers (found c) ((locate c login (attributes c)).run network a).1
        ((ask c login (attributes c) (action c)).run network a).1 :=
      ask_answers static settled.later (searches c) (acts c)
    have visits : Keeps network (Course network fun _ => True)
        (ask c login (attributes c) (action c)) := ask_course trivial (searches c)
    have course := visits a
    rw [locate_said static settled] at answers
    rcases asked : (ask c login (attributes c) (action c)).run network a with ⟨outcome, b⟩
    rw [asked] at answers course
    have next : Settled network state b := settled.course course
    generalize told : said network state login c = saying at answers
    cases answers with
    | absent =>
      rw [lookUpFrom, run_bind_of_ok asked]
      exact .absent told (ih next failed)
    | failed met =>
      rw [lookUpFrom, run_bind_of_ok asked]
      exact .failed told met (ih next _)
    | stopped unmet =>
      rw [lookUpFrom, run_bind_of_error asked]
      exact .stopped told unmet
    | @found entry outcome known =>
      refine .found told ?_
      cases outcome with
      | ok value =>
        rw [lookUpFrom, run_bind_of_ok asked]
        exact known
      | error failure =>
        rw [lookUpFrom, run_bind_of_error asked]
        exact known

/-! ## Logins that nobody knows -/

/-- Looking for an entry fails as opening a session does, or as reading entries does. -/
theorem locate_raises (c : Connector) (login : String) (attributes : List String) :
    Raises network (fun failure => failure.OfSession ∨ failure.OfReading)
      (locate c login attributes) := by
  have opens : Raises network Failure.OfSession c.openService := c.openSession_raises _ _ _
  refine .bind (opens.widen fun _ => .inl) fun s => ?_
  refine .andFinally ((SearchRequest.unique_raises _ s).widen fun _ => .inr) ?_
  exact s.close_raises.widen fun _ isFault => .inl isFault.ofSession

theorem said_ne_notFound (c : Connector) (other : String) :
    said network state login c ≠ .error (.notFound other) := by
  intro told
  rcases locate_raises c login [] _ _ told with session | reading
  · exact session
  · exact reading

namespace Follows

variable {said : Connector → Except Failure (Option Entry)}
variable {found : Connector → Entry → Except Failure α → Prop}
variable {failed : Option (String × Failure)} {connectors : List Connector}
variable {outcome : Except Failure α}

/-- A lookup ends with nobody known exactly where each of the servers says that it knows nobody. -/
theorem notFound_iff (spares : ∀ c other, said c ≠ .error (.notFound other))
    (knows : ∀ c entry outcome, found c entry outcome → ∀ other, outcome ≠ .error (.notFound other))
    (follows : Follows login said found failed connectors outcome) (other : String) :
    outcome = .error (.notFound other) ↔
      other = login ∧ failed = none ∧ ∀ c ∈ connectors, said c = .ok none := by
  induction follows with
  | @unknown failed =>
    cases failed with
    | none => simp [Lookup.unknown, eq_comm]
    | some last => simp [Lookup.unknown]
  | absent told later ih => simp [ih, told]
  | failed told met later ih => simp [ih, told]
  | @stopped failed c rest failure told unmet =>
    have spared : failure ≠ .notFound other := fun same => spares c other (same ▸ told)
    simp [told, spared]
  | @found failed c rest entry outcome told known => simp [told, knows c entry outcome known other]

end Follows

end DirectoryAuth.Lookup

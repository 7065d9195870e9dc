import DirectoryAuth.Proofs.Session.Agreement

/-!
# What servers say of a login

The entry of a login is looked for in a session that is opened for it and closed again. In a static
network a server says the same of a login whenever it is asked: it does not matter what was done
before, nor which attributes are asked for.
-/

namespace DirectoryAuth

open Operation World

variable {σ : Type} {network : Network σ} {state : σ} {p q : Nat} {a b : World σ}

/-! ## One entry -/

/-- The same findings are made of one answer, whatever attributes were asked for. -/
theorem Query.wholeFindings_attributes (q : Query) (attributes : Option (List String)) :
    { q with attributes := attributes }.wholeFindings = q.wholeFindings := by
  funext answer
  cases answer <;> rfl

theorem Query.pagedFindings_attributes (q : Query) (attributes : Option (List String)) :
    { q with attributes := attributes }.pagedFindings = q.pagedFindings := by
  funext answer
  cases answer <;> rfl

/-- An operation that makes no connections and gives none up agrees with another such one wherever
their outcomes do. -/
theorem Operation.Agree.of_settled {α β : Type} {view : α → β → Prop} {x : Operation σ α}
    {y : Operation σ β} (calls : CallsOnly network Call.IsSettled x)
    (calls' : CallsOnly network Call.IsSettled y)
    (concur : ∀ a b, Abreast network state p q a b →
      Concur view (x.run network a).1 (y.run network b).1) :
    Agree network state p q view x y := by
  intro a b abreast
  have left := calls a
  have right := calls' b
  refine ⟨concur a b abreast, ?_, ?_, ?_, ?_⟩
  · exact abreast.left.trans (left.mono fun _ _ => trivial).later
  · exact abreast.right.trans (right.mono fun _ _ => trivial).later
  · rw [left.connections_eq fun _ => id, right.connections_eq fun _ => id]
    exact abreast.connections
  · rw [left.closed_eq fun _ => id, right.closed_eq fun _ => id]
    exact abreast.closed

/-- What is left to find on sessions that are abreast is the same where searches are answered alike
with the one attributes and with the other. -/
theorem Cursor.left_agree {attributes attributes' : Option (List String)}
    (overlooks : network.Overlooks state attributes attributes')
    (abreast : Abreast network state p q a b) {s s' : Session}
    (sessions : Session.Abreast p q s s') (query : Query) (size : Int) :
    left ⟨s, { query with attributes := attributes }, size, .idle⟩ network a =
      left ⟨s', { query with attributes := attributes' }, size, .idle⟩ network b := by
  have closed : a.closed.contains s.connection.number = b.closed.contains s'.connection.number :=
    Except.ok.inj (Session.isClosed_agree sessions a b abreast).1.eq
  have whole := overlooks.whole _ _ abreast.left abreast.right _ _ sessions.plain query
  have paged := overlooks.paged _ _ abreast.left abreast.right _ _ sessions.plain query size
  simp only [left]
  rw [closed, sessions.server, whole, paged]
  simp only [Query.wholeFindings_attributes, Query.pagedFindings_attributes]

def Lookup.asking (attributes : List String) : Option (List String) :=
  if attributes.isEmpty then none else some attributes

namespace SearchRequest

variable {attributes attributes' : List String} {s s' : Session}

/-- So are the findings of requests that differ in these attributes only. -/
theorem findings_agree
    (overlooks : network.Overlooks state (Lookup.asking attributes) (Lookup.asking attributes'))
    (abreast : Abreast network state p q a b) (sessions : Session.Abreast p q s s')
    (r : SearchRequest) :
    { r with attributes := attributes }.findings s network a =
      { r with attributes := attributes' }.findings s' network b := by
  have same : { r with attributes := attributes }.filter =
      { r with attributes := attributes' }.filter := rfl
  rw [findings, findings, same]
  cases { r with attributes := attributes' }.filter with
  | error failure => rfl
  | ok filter => exact Cursor.left_agree overlooks abreast sessions (r.query filter) _

theorem all_agree
    (overlooks : network.Overlooks state (Lookup.asking attributes) (Lookup.asking attributes'))
    (sessions : Session.Abreast p q s s') (r : SearchRequest) :
    Agree network state p q Eq ({ r with attributes := attributes }.all s)
      ({ r with attributes := attributes' }.all s') := by
  refine .of_settled ?_ ?_ fun a b abreast => ?_
  · exact (all_callsOnly _ s).widen Call.IsSearchOn.isSettled
  · exact (all_callsOnly _ s').widen Call.IsSearchOn.isSettled
  · apply Concur.of_eq
    rw [all_outcome, all_outcome, findings_agree overlooks abreast sessions r]

theorem unique_agree
    (overlooks : network.Overlooks state (Lookup.asking attributes) (Lookup.asking attributes'))
    (sessions : Session.Abreast p q s s') (r : SearchRequest) :
    Agree network state p q Eq ({ r with attributes := attributes }.unique s)
      ({ r with attributes := attributes' }.unique s') := by
  refine .of_settled ?_ ?_ fun a b abreast => ?_
  · exact (unique_callsOnly _ s).widen Call.IsSearchOn.isSettled
  · exact (unique_callsOnly _ s').widen Call.IsSearchOn.isSettled
  · apply Concur.of_eq
    rw [unique_outcome, unique_outcome, findings_agree overlooks abreast sessions r]
    rfl

theorem readEntry_agree
    (overlooks : network.Overlooks state (Lookup.asking attributes) (Lookup.asking attributes'))
    (sessions : Session.Abreast p q s s') (name : String) :
    Agree network state p q Eq (readEntry s name attributes) (readEntry s' name attributes') := by
  have unique := unique_agree overlooks sessions (ofName name attributes)
  refine unique.attempt_bind (fun _ _ same => .pure same) fun failure => ?_
  cases failure with
  | search error => exact .ite ((Agree.log _ _ _ _).bind_same fun _ => .pure rfl) (.throw _)
  | _ => exact .throw _

end SearchRequest

namespace Lookup

/-! ## Users -/

variable {attributes attributes' : List String}

theorem findUser_agree
    (overlooks : network.Overlooks state (asking attributes) (asking attributes'))
    {s s' : Session} (sessions : Session.Abreast p q s s') (c : Connector) (login : String) :
    Agree network state p q Eq (findUser c s login attributes)
      (findUser c s' login attributes') :=
  SearchRequest.unique_agree overlooks sessions (request c login attributes)

def locate (c : Connector) (login : String) (attributes : List String) :
    Operation σ (Option Entry) := do
  let session ← c.openService
  session.during (findUser c session login attributes)

theorem locate_agree (fixed : network.Fixed Call.IsSession state)
    (overlooks : network.Overlooks state (asking attributes) (asking attributes'))
    (c : Connector) (login : String) :
    Agree network state p q Eq (locate c login attributes) (locate c login attributes') := by
  refine (c.openSession_agree fixed _ _ _).bind fun s s' sessions => ?_
  have found := findUser_agree overlooks sessions c login
  exact found.andFinally (Session.close_agree fixed sessions)

end Lookup

/-! ## At any time -/

/-- The world came from a state of the network by whatever was done in it, and its sessions have
sound numbers. -/
structure World.Settled (network : Network σ) (state : σ) (a : World σ) : Prop where
  later : network.Later (fun _ => True) state a.network
  numbered : a.Numbered

theorem World.Settled.start (network : Network σ) (state : σ) :
    Settled network state (.start state) :=
  ⟨.refl, World.start_numbered state⟩

/-- Connections that are still to come were given up in neither world, so they keep abreast. -/
theorem World.Settled.abreast (settled : Settled network state a)
    (settled' : Settled network state b) :
    Abreast network state a.connections b.connections a b := by
  refine ⟨settled.later, settled'.later, ⟨0, rfl, rfl⟩, fun i => iff_of_false ?_ ?_⟩
  · intro member
    have numbered := settled.numbered _ member
    omega
  · intro member
    have numbered := settled'.numbered _ member
    omega

theorem World.Settled.course {visited : Connector → Prop} (settled : Settled network state a)
    (course : Course network visited a b) : Settled network state b :=
  ⟨settled.later.trans course.steps.later, (course.tidies.tidy settled.numbered).numbered⟩

theorem World.Settled.noted (settled : Settled network state a) (event : Event) :
    Settled network state (a.noted event) :=
  ⟨settled.later, settled.numbered⟩

/-- Worlds of a host application are settled. -/
theorem Task.afterAll_settled (network : Network σ) (state : σ) (tasks : List Task) :
    World.Settled network state (afterAll network state tasks) := by
  have steps : World.Steps network (fun _ => True) (.start state) (afterAll network state tasks) :=
    afterAll_keeps (fun world task => (after_course network world task).steps) state tasks
  exact ⟨steps.later, (afterAll_tidy network state tasks).numbered⟩

namespace Lookup

/-- What a server says of a login when it is the first to be asked anything. -/
def said (network : Network σ) (state : σ) (login : String) (c : Connector) :
    Except Failure (Option Entry) :=
  ((locate c login []).run network (.start state)).1

/-- It says the same at any time, whichever attributes are asked for. -/
theorem locate_said (static : network.Static state) (settled : Settled network state a)
    (c : Connector) (login : String) (attributes : List String) :
    ((locate c login attributes).run network a).1 = said network state login c :=
  have agree : Agree network state a.connections 0 Eq (locate c login attributes)
      (locate c login []) := locate_agree static.fixed (static.overlooks _ _) c login
  (agree _ _ (settled.abreast (.start network state))).1.eq

end Lookup

end DirectoryAuth

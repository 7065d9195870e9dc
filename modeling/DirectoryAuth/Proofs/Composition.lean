import DirectoryAuth.Proofs.Search.Latest
import DirectoryAuth.Realm

/-!
# What operations are composed of

All operations are composed of a few kinds of steps: they make calls, write events that are no
calls, keep the numbers of the world, and give up the connections of sessions. They look at nothing
else of the world and of the network: what a search takes from its connection is what its own call
has just left there. So what holds of each kind of step, and of an operation whenever it holds of
its parts, holds of every operation.
-/

namespace DirectoryAuth

variable {σ α β : Type}

/-- The numbers that a world keeps, apart from its history. -/
structure World.Numbers where
  closed : List Nat
  connections : Nat
  pagedSearches : Nat

namespace World

def numbers (world : World σ) : Numbers :=
  ⟨world.closed, world.connections, world.pagedSearches⟩

def renumbered (world : World σ) (numbers : Numbers) : World σ :=
  { world with
    closed := numbers.closed
    connections := numbers.connections
    pagedSearches := numbers.pagedSearches }

end World

def Call.IsUnbind : Call → Prop
  | .unbind _ => True
  | _ => False

namespace Operation

/-- Reads the numbers of the world and the bound of the network, and sets the numbers. -/
def numbering (step : Nat → World.Numbers → α × World.Numbers) : Operation σ α :=
  fun network world =>
    let (a, numbers) := step (network.bound world.network) world.numbers
    (.ok a, world.renumbered numbers)

/-- How operations are composed. -/
inductive Composed : {α : Type} → Operation σ α → Prop
  | ofOutcome {α : Type} (outcome : Except Failure α) : Composed (ofOutcome outcome)
  | record {event : Event} (quiet : event.call? = none) : Composed (record event)
  | perform {call : Call} (kept : ¬ call.IsUnbind) : Composed (perform call)
  | numbering {α : Type} (step : Nat → World.Numbers → α × World.Numbers) :
      Composed (numbering step)
  | release (s : Session) : Composed s.release
  | attempt {α : Type} {x : Operation σ α} (hx : Composed x) : Composed x.attempt
  | bind {α β : Type} {x : Operation σ α} {f : α → Operation σ β} (hx : Composed x)
      (hf : ∀ a, Composed (f a)) : Composed (x >>= f)

namespace Composed

theorem pure (a : α) : Composed (Pure.pure a : Operation σ α) := ofOutcome (.ok a)

theorem throw (failure : Failure) : Composed (MonadExcept.throw failure : Operation σ α) :=
  ofOutcome (.error failure)

theorem log (level : Level) (component : Component) (message : String) :
    Composed (Operation.log level component message : Operation σ Unit) := record rfl

theorem ite {condition : Prop} [Decidable condition] {x y : Operation σ α}
    (hx : Composed x) (hy : Composed y) : Composed (if condition then x else y) := by
  split
  · exact hx
  · exact hy

theorem map {x : Operation σ α} {f : α → β} (hx : Composed x) :
    Composed (do return f (← x)) := hx.bind fun _ => pure _

/-- A record is written first. -/
theorem logged {level : Level} {component : Component} {message : String} {x : Operation σ α}
    (hx : Composed x) : Composed (do Operation.log level component message; x) :=
  (log level component message).bind fun _ => hx

theorem andFinally {x : Operation σ α} {last : Operation σ Unit} (hx : Composed x)
    (hlast : Composed last) : Composed (x.andFinally last) :=
  hx.attempt.bind fun _ => hlast.bind fun _ => ofOutcome _

theorem translating {x : Operation σ α} {translate : Fault → Failure} (hx : Composed x) :
    Composed (x.translating translate) := by
  refine hx.attempt.bind fun outcome => ?_
  cases outcome with
  | ok value => exact pure _
  | error failure => cases failure <;> exact throw _

theorem mapM {f : α → Operation σ β} {items : List α} (hf : ∀ a, Composed (f a)) :
    Composed (items.mapM f) := by
  induction items with
  | nil => exact pure _
  | cons a rest ih =>
    rw [List.mapM_cons]
    exact (hf a).bind fun _ => ih.bind fun _ => pure _

theorem forM {f : α → Operation σ PUnit} {items : List α} (hf : ∀ a, Composed (f a)) :
    Composed (items.forM f) := by
  induction items with
  | nil => exact pure _
  | cons a rest ih => exact (hf a).bind fun _ => ih

end Composed

end Operation

open Operation

/-! ## Sessions -/

namespace Session

theorem isClosed_composed (s : Session) : Composed (s.isClosed : Operation σ Bool) :=
  .numbering fun _ numbers => (numbers.closed.contains s.connection.number, numbers)

theorem markClosed_composed (s : Session) : Composed (s.markClosed : Operation σ Unit) :=
  .numbering fun _ numbers =>
    ((), { numbers with closed := s.connection.number :: numbers.closed })

theorem close_composed (s : Session) : Composed (s.close : Operation σ Unit) :=
  s.isClosed_composed.bind fun _ =>
    .ite (.pure _) (s.markClosed_composed.bind fun _ => .release s)

theorem during_composed {s : Session} {body : Operation σ α} (within : Composed body) :
    Composed (s.during body) :=
  within.andFinally s.close_composed

end Session

namespace Connector

theorem askTickets_composed {principal : String} {call : Call} (kept : ¬ call.IsUnbind) :
    Composed (askTickets principal call : Operation σ call.Reply) := by
  refine Composed.bind (.attempt (.perform kept)) fun outcome => ?_
  cases outcome with
  | ok reply => exact .pure _
  | error failure => cases failure <;> exact .throw _

theorem sentText_composed (password : Password) :
    Composed (sentText password : Operation σ String) := by
  rw [sentText]
  cases password.text? with
  | some text => exact .pure _
  | none => exact .throw _

theorem acquireTicket_composed (principal : String) (password : Option Password) :
    Composed (acquireTicket principal password : Operation σ String) := by
  rw [acquireTicket]
  cases password.filter (· ≠ .blank) with
  | none => exact .throw _
  | some password =>
    refine (askTickets_composed id).bind fun _ => ?_
    exact (sentText_composed _).bind fun _ => askTickets_composed id

theorem ticketFor_composed (c : Connector) (purpose : Purpose) (account : String)
    (password : Option Password) :
    Composed (c.ticketFor purpose account password : Operation σ String) := by
  refine (acquireTicket_composed _ _).attempt.bind fun outcome => ?_
  match purpose, outcome with
  | .user, outcome => exact .ofOutcome _
  | .service, .ok ticket => exact .ofOutcome _
  | .service, .error failure =>
    cases failure with
    | credentials cause => exact .throw _
    | _ => exact .ofOutcome _

theorem ticket?_composed (c : Connector) (purpose : Purpose) (account : Option String)
    (password : Option Password) :
    Composed (c.ticket? purpose account password : Operation σ (Option String)) := by
  unfold ticket?
  refine .ite ?_ (.pure _)
  match account.filter (· ≠ ""), purpose with
  | some account, purpose => exact (c.ticketFor_composed _ _ _).map
  | none, .user => exact .throw _
  | none, .service => exact .pure _

theorem terms_composed (c : Connector) (account : Option String) (password : Option Password)
    (ticket : Option String) :
    Composed (c.terms account password ticket : Operation σ Terms) :=
  .logged (.pure _)

theorem nextNumber_composed : Composed (nextNumber : Operation σ Nat) :=
  .numbering fun _ numbers =>
    (numbers.connections, { numbers with connections := numbers.connections + 1 })

theorem connect_composed (c : Connector) (terms : Terms) :
    Composed (c.connect terms : Operation σ Session) :=
  nextNumber_composed.bind fun _ => .bind (.perform id) fun _ => .pure _

theorem openSocket_composed (c : Connector) (s : Session) :
    Composed (c.openSocket s : Operation σ Unit) := by
  refine .bind (.translating (.perform id)) fun _ => .ite ?_ (.pure _)
  exact .bind (.translating (.perform id)) fun _ => .ite (.throw _) (.pure _)

theorem bindAs_composed (c : Connector) (purpose : Purpose) (account : Option String)
    (s : Session) : Composed (c.bindAs purpose account s : Operation σ Unit) :=
  .bind (.translating (.perform id)) fun _ => .ite (.throw _) (.pure _)

theorem openSession_composed (c : Connector) (purpose : Purpose)
    (account : Option String) (password : Option Password) :
    Composed (c.openSession purpose account password : Operation σ Session) := by
  refine (c.ticket?_composed _ _ _).bind fun ticket => ?_
  refine (c.terms_composed _ _ _).bind fun terms => ?_
  refine (c.connect_composed _).bind fun s => ?_
  refine .bind (.attempt ?_) fun outcome => ?_
  · exact (c.openSocket_composed s).bind fun _ => c.bindAs_composed _ _ s
  · cases outcome with
    | ok _ => exact .pure _
    | error failure => exact s.close_composed.bind fun _ => .throw _

theorem openService_composed (c : Connector) : Composed (c.openService : Operation σ Session) :=
  c.openSession_composed _ _ _

theorem test_composed (c : Connector) : Composed (c.test : Operation σ Unit) := by
  refine .ite (.throw _) (.bind (.attempt ?_) fun outcome => ?_)
  · exact c.openService_composed.bind fun s => s.close_composed
  · match outcome with
    | .ok () => exact .log _ _ _
    | .error failure =>
      cases failure with
      | connection error => exact .logged (.throw _)
      | _ => exact .throw _

theorem ofServer_composed (server : Server) :
    Composed (ofServer server : Operation σ Connector) := by
  rw [ofServer]
  cases mechanismError? server with
  | some error => exact .throw _
  | none =>
    refine .bind ?_ fun _ => .pure _
    exact .bind (.forM fun _ => .perform id) fun _ => .ite (.perform id) (.pure _)

end Connector

/-! ## Searches -/

namespace Cursor

theorem checkOpen_composed (c : Cursor) : Composed (c.checkOpen : Operation σ Unit) :=
  c.session.isClosed_composed.bind fun _ => .ite (.throw _) (.pure _)

theorem askWhole_composed (c : Cursor) : Composed (c.askWhole : Operation σ Progress) := by
  rw [askWhole_eq]
  refine .bind (.translating (.perform id)) fun reply => ?_
  rw [take]
  cases c.query.refusal? reply.report with
  | some error => exact .throw _
  | none =>
    dsimp only
    split
    · exact .logged (.pure _)
    · exact .pure _

theorem nextPagedSearch_composed : Composed (nextPagedSearch : Operation σ Nat) :=
  .numbering fun _ numbers =>
    (numbers.pagedSearches, { numbers with pagedSearches := numbers.pagedSearches + 1 })

theorem askPaged_composed (c : Cursor) : Composed (c.askPaged : Operation σ Progress) :=
  .bind (.perform id) fun _ => nextPagedSearch_composed.map

theorem started_composed (c : Cursor) : Composed (c.started : Operation σ Cursor) := by
  rw [started]
  cases c.progress with
  | idle =>
    refine c.checkOpen_composed.bind fun _ => ?_
    exact .ite c.askWhole_composed.map c.askPaged_composed.map
  | reading items => exact .pure _
  | paging search position items fault => exact .pure _

theorem nextRead_composed (c : Cursor) (items : List Item) :
    Composed (c.nextRead items : Operation σ (Option (Entry × List Item))) := by
  induction items with
  | nil => exact .pure _
  | cons item items ih => exact c.checkOpen_composed.bind fun _ => .ite (.pure _) ih

theorem nextPaged_composed (c : Cursor) (search : Nat) (fault : Option Fault) (position : Nat)
    (items : List Item) :
    Composed (c.nextPaged search fault position items :
      Operation σ (Option (Entry × Nat × List Item))) := by
  induction items generalizing position with
  | nil =>
    cases fault with
    | some fault => exact .bind (.record rfl) fun _ => .throw _
    | none => exact .bind (.record rfl) fun _ => .pure _
  | cons item items ih =>
    refine .bind (.record rfl) fun _ => c.checkOpen_composed.bind fun _ => ?_
    exact .ite (.pure _) (ih _)

theorem next_composed (c : Cursor) : Composed (c.next : Operation σ (Option (Entry × Cursor))) := by
  refine c.started_composed.bind fun c => ?_
  cases c.progress with
  | idle => exact .pure _
  | reading items => exact (c.nextRead_composed items).map
  | paging search position items fault =>
    refine (c.nextPaged_composed _ _ _ _).attempt.bind fun outcome => ?_
    match outcome with
    | .ok (some _) => exact .pure _
    | .ok none => exact .bind (.record rfl) fun _ => .pure _
    | .error failure => exact .bind (.record rfl) fun _ => .throw _

theorem stop_composed (c : Cursor) : Composed (c.stop : Operation σ Unit) := by
  rw [stop]
  cases c.progress with
  | idle => exact .pure _
  | reading items => exact .pure _
  | paging search position items fault => exact .record rfl

theorem drain_composed (c : Cursor) : Composed (c.drain : Operation σ (List Entry)) := by
  refine c.started_composed.bind fun c => ?_
  generalize c.unread + 1 = limit
  induction limit generalizing c with
  | zero => exact .pure _
  | succ limit ih =>
    refine c.next_composed.bind fun found => ?_
    match found with
    | none => exact .pure _
    | some (entry, rest) => exact (ih rest).map

end Cursor

namespace SearchRequest

theorem start_composed (r : SearchRequest) (s : Session) :
    Composed (r.start s : Operation σ Cursor) :=
  .bind (.ofOutcome _) fun _ => .logged (.pure _)

theorem all_composed (r : SearchRequest) (s : Session) :
    Composed (r.all s : Operation σ (List Entry)) :=
  (r.start_composed s).bind fun c => c.drain_composed

theorem unique_composed (r : SearchRequest) (s : Session) :
    Composed (r.unique s : Operation σ (Option Entry)) := by
  refine (r.start_composed s).bind fun c => c.next_composed.bind fun found => ?_
  match found with
  | none => exact .pure _
  | some (entry, rest) =>
    refine rest.next_composed.bind fun second => ?_
    match second with
    | none => exact .pure _
    | some (_, last) =>
      refine last.stop_composed.bind fun _ => ?_
      cases r.filter with
      | ok filter => exact .throw _
      | error failure => exact .throw _

theorem readEntry_composed (s : Session) (name : String) (attributes : List String) :
    Composed (readEntry s name attributes : Operation σ (Option Entry)) := by
  refine (unique_composed _ s).attempt.bind fun outcome => ?_
  match outcome with
  | .ok entry => exact .pure _
  | .error failure =>
    cases failure with
    | search error => exact .ite (.logged (.pure _)) (.throw _)
    | _ => exact .throw _

end SearchRequest

/-! ## Lookups -/

namespace Lookup

theorem retrievalFailure_composed (c : Connector) (login : String) (failure : Failure) :
    Composed (retrievalFailure c login failure : Operation σ Failure) := by
  cases failure with
  | connection error => exact .logged (.pure _)
  | search error => exact .logged (.pure _)
  | _ => exact .pure _

theorem within_composed {c : Connector} {s : Session} {login : String} {attributes : List String}
    {action : Session → Entry → Operation σ α} (acts : ∀ s entry, Composed (action s entry)) :
    Composed (within c s login attributes action) := by
  refine ((request c login attributes).unique_composed s).attempt.bind fun outcome => ?_
  match outcome with
  | .ok none => exact .logged (.pure _)
  | .ok (some entry) =>
    refine (acts s entry).attempt.bind fun outcome => ?_
    cases outcome with
    | ok value => exact .pure _
    | error failure => exact (retrievalFailure_composed c login failure).bind fun _ => .throw _
  | .error failure =>
    cases failure with
    | search error => exact .logged (.pure _)
    | _ => exact .throw _

theorem ask_composed {c : Connector} {login : String} {attributes : List String}
    {action : Session → Entry → Operation σ α} (acts : ∀ s entry, Composed (action s entry)) :
    Composed (ask c login attributes action) := by
  refine c.openService_composed.attempt.bind fun outcome => ?_
  cases outcome with
  | ok s => exact Session.during_composed (within_composed acts)
  | error failure =>
    cases failure with
    | connection error => exact .logged (.pure _)
    | _ => exact .throw _

theorem lookUp_composed {connectors : List Connector} {login : String}
    {attributes : Connector → List String} {action : Connector → Session → Entry → Operation σ α}
    (acts : ∀ c s entry, Composed (action c s entry)) :
    Composed (lookUp connectors login attributes action) := by
  rw [lookUp]
  generalize none = failed
  induction connectors generalizing failed with
  | nil => exact .throw _
  | cons c rest ih =>
    refine (ask_composed (acts c)).bind fun answer => ?_
    cases answer with
    | found value => exact .pure _
    | absent => exact ih _
    | failed failure => exact ih _

end Lookup

theorem Details.fetch_composed (connectors : List Connector) (login : String) :
    Composed (Details.fetch connectors login : Operation σ Details) :=
  .logged (Lookup.lookUp_composed fun _ _ _ => .pure _)

namespace Groups

theorem listing_composed (c : Connector) (m : GroupMapping) (search : MemberSearch) (s : Session)
    (member : Entry) : Composed (listing c m search s member : Operation σ (List Entry)) := by
  have parameters : Composed (parameters search.names member : Operation σ _) := by
    rw [Groups.parameters]
    cases search.names.mapM (parameter member) with
    | ok values => exact .pure _
    | error name => exact .logged (.pure _)
  refine parameters.bind fun values => ?_
  cases values with
  | none => exact .pure _
  | some values => exact SearchRequest.all_composed _ s

theorem listedBy_composed (m : GroupMapping) (s : Session) (member : Entry) :
    Composed (listedBy m s member : Operation σ (List Entry)) := by
  rw [listedBy]
  cases m.memberOf with
  | none => exact .pure _
  | some name => exact .mapM fun _ => (SearchRequest.readEntry_composed s _ _).map

theorem direct_composed (c : Connector) (m : GroupMapping) (s : Session) (member : Entry) :
    Composed (direct c m s member : Operation σ (List Entry)) := by
  have listed (listing : List Entry) : Composed (do
      return listing ++ (← listedBy m s member) : Operation σ (List Entry)) :=
    (listedBy_composed m s member).map
  rw [direct]
  cases m.listing with
  | none => exact .bind (.pure _) listed
  | some search => exact (listing_composed c m search s member).bind listed

theorem finish_composed {m : GroupMapping} {direct : Entry → Operation σ (List Entry)}
    (asks : ∀ member, Composed (direct member)) (limit : Nat) (w : Walk) :
    Composed (w.finish m direct limit) := by
  induction limit generalizing w with
  | zero =>
    obtain ⟨seen, ids, queue⟩ := w
    cases queue with
    | nil => exact .pure _
    | cons member queue => exact .throw _
  | succ limit ih =>
    obtain ⟨seen, ids, queue⟩ := w
    cases queue with
    | nil => exact .pure _
    | cons member queue => exact (asks member).bind fun _ => ih _

theorem resolve_composed (c : Connector) (m : GroupMapping) (s : Session) (user : Entry) :
    Composed (resolve c m s user : Operation σ (List String)) := by
  have limit : Composed (limit m user : Operation σ Nat) := .numbering fun bound numbers =>
    (bound + ((m.memberOf.map user.values).getD []).length + 1, numbers)
  exact limit.bind fun _ => finish_composed (direct_composed c m s) _ _

theorem fetch_composed (connectors : List Connector) (login : String) :
    Composed (fetch connectors login : Operation σ (List String)) := by
  refine .logged (.ite (.pure _) (.bind ?_ fun _ => .logged (.pure _)))
  refine Lookup.lookUp_composed fun c s entry => ?_
  cases c.server.groups with
  | some m => exact resolve_composed c m s entry
  | none => exact .pure _

end Groups

/-! ## Logins -/

namespace Login

theorem unconnected_composed (c : Connector) (login : String) (error : ConnectionError) :
    Composed (unconnected c login error : Operation σ Attempt) :=
  .ite (.logged (.pure _)) (.logged (.pure _))

theorem resolve_composed (c : Connector) (login : String) :
    Composed (resolve c login : Operation σ (Option Entry)) :=
  c.openService_composed.bind fun s =>
    Session.during_composed ((Lookup.request c login []).unique_composed s)

theorem checkPassword_composed (c : Connector) (login : String) (password : Password)
    (entry : Entry) :
    Composed (checkPassword c login password entry : Operation σ Attempt) := by
  refine .bind (.attempt ?_) fun outcome => ?_
  · exact (c.openSession_composed _ _ _).bind fun s => s.close_composed
  · match outcome with
    | .ok () => exact .logged (.pure _)
    | .error failure =>
      cases failure with
      | credentials error => exact .logged (.pure _)
      | connection error => exact unconnected_composed c login error
      | _ => exact .throw _

theorem check_composed (c : Connector) (login : String) (password : Password) :
    Composed (check c login password : Operation σ Attempt) := by
  refine (resolve_composed c login).attempt.bind fun outcome => ?_
  match outcome with
  | .ok none => exact .logged (.pure _)
  | .ok (some entry) => exact checkPassword_composed c login password entry
  | .error failure =>
    cases failure with
    | connection error => exact unconnected_composed c login error
    | search error => exact .logged (.pure _)
    | _ => exact .throw _

theorem attempts_composed (login : String) (password : Password) (connectors : List Connector) :
    Composed (attempts login password connectors : Operation σ (List Attempt)) := by
  induction connectors with
  | nil => exact .pure _
  | cons c rest ih =>
    exact (check_composed c login password).bind fun _ => .ite (.pure _) ih.map

theorem authenticate_composed (connectors : List Connector) (login : String) (password : Password) :
    Composed (authenticate connectors login password : Operation σ Verdict) :=
  .ite (.logged (.pure _)) (attempts_composed login password connectors).map

end Login

/-! ## Servers -/

theorem Discovery.discover_composed (realm : String) :
    Composed (discover realm : Operation σ (List String)) := by
  refine Composed.bind (.attempt (.perform id)) fun outcome => ?_
  cases outcome with
  | ok records => exact .logged (.pure _)
  | error failure =>
    cases failure with
    | outside fault =>
      cases fault with
      | nameService message => exact .logged (.pure _)
      | _ => exact .throw _
    | _ => exact .throw _

namespace Server

theorem reading_composed (outcome : Except SettingError α) :
    Composed (reading outcome : Operation σ α) :=
  .ofOutcome _

theorem advise_composed (component : Component) (advice : Option String) :
    Composed (advise component advice : Operation σ Unit) := by
  cases advice with
  | some text => exact .log _ _ _
  | none => exact .pure _

theorem findUrls_composed (v : View) : Composed (findUrls v : Operation σ (List String)) := by
  rw [findUrls]
  cases v.text? "url" with
  | some text => exact .pure _
  | none =>
    rw [discoverUrls]
    cases v.text? "realm" with
    | none => exact .throw _
    | some realm =>
      refine (Discovery.discover_composed realm).bind fun urls => ?_
      exact .ite (.throw _) (.logged (.pure _))

theorem assemble_composed (settings : Settings) (key : String) :
    Composed (assemble settings key : Operation σ Server) := by
  refine (findUrls_composed _).bind fun urls => .bind ?_ fun users => .bind ?_ fun groups => ?_
  · exact (reading_composed _).bind fun _ => (advise_composed _ _).bind fun _ => .pure _
  · exact (advise_composed _ _).bind fun _ => reading_composed _
  · exact (reading_composed _).bind fun _ => .logged (.pure _)

theorem assembleAll_composed (settings : Settings) :
    Composed (assembleAll settings : Operation σ (List Server)) :=
  (reading_composed _).bind fun _ => .mapM (assemble_composed settings)

end Server

/-! ## Realms -/

namespace Realm

theorem checkReady_composed (r : Realm) : Composed (r.checkReady : Operation σ Unit) :=
  .ite (.pure _) (.throw _)

theorem setUp_composed (r : Realm) :
    Composed (r.setUp : Operation σ (Realm × Except Failure Unit)) := by
  have failed (r : Realm) (failure : Failure) :
      Composed (r.afterFailure failure : Operation σ Realm) :=
    .ite (.logged (.pure _)) (.pure _)
  have assembled : Composed (r.roster.servers : Operation σ (List Server)) := by
    rw [Roster.servers]
    cases r.roster.assembled with
    | some servers => exact .pure _
    | none => exact Server.assembleAll_composed _
  refine assembled.attempt.bind fun outcome => ?_
  cases outcome with
  | error failure => exact (failed _ _).map
  | ok servers =>
    refine Composed.bind (.attempt ?_) fun outcome => ?_
    · refine Composed.bind (.mapM Connector.ofServer_composed) fun connectors => ?_
      exact .bind (.forM Connector.test_composed) fun _ => .pure _
    · cases outcome with
      | error failure => exact (failed _ _).map
      | ok connectors => exact .map (.logged (.pure _))

theorem authenticate_composed (r : Realm) (login : String) (password : Password) :
    Composed (r.authenticate login password : Operation σ Bool) := by
  refine .bind ?_ fun verdict => .ite (.pure _) (.ite (.throw _) (.pure _))
  exact r.checkReady_composed.bind fun _ => Login.authenticate_composed _ _ _

theorem fetchDetails_composed (r : Realm) (login : String) :
    Composed (r.fetchDetails login : Operation σ Details) :=
  r.checkReady_composed.bind fun _ => Details.fetch_composed _ _

theorem fetchGroups_composed (r : Realm) (login : String) :
    Composed (r.fetchGroups login : Operation σ (List String)) := by
  refine r.checkReady_composed.bind fun _ => ?_
  cases r.groups with
  | none => exact .pure _
  | some connectors => exact Groups.fetch_composed connectors login

end Realm

end DirectoryAuth

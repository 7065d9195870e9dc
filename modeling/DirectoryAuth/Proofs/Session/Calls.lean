import DirectoryAuth.Proofs.Search.Pages
import DirectoryAuth.Realm

/-!
# The calls around sessions

Only sessions make connections and give them up. All else leaves the connections as they are:
getting a ticket, working out terms, opening, upgrading and binding a connection that is there,
searching on it, resolving groups, and assembling servers from settings.
-/

namespace DirectoryAuth

/-- The call neither makes a connection nor gives one up. -/
def Call.IsSettled : Call → Prop
  | .connect _ | .unbind _ => False
  | _ => True

def Call.IsAside (call : Call) : Prop := call.connection? = none

/-- The call is one of those that a ticket takes. -/
def Call.IsTicket : Call → Prop
  | .prepareTicket _ | .acquireTicket _ _ => True
  | _ => False

/-- The call makes a connection that is there into one that may be used. -/
def Call.IsEstablishing : Call → Prop
  | .openSocket _ | .startTls _ | .bind _ => True
  | _ => False

def Call.IsUnbinding : Call → Prop
  | .unbind _ => True
  | _ => False

/-- The call is one of those that a session begins and ends with. -/
def Call.IsOpening : Call → Prop
  | .prepareTicket _ | .acquireTicket _ _ | .connect _ | .openSocket _ | .startTls _ | .bind _
  | .unbind _ => True
  | _ => False

theorem Call.IsAside.isSettled : ∀ call : Call, call.IsAside → call.IsSettled := by
  intro call aside
  cases call with
  | connect | unbind => exact nomatch aside
  | _ => trivial

theorem Call.IsTicket.isAside : ∀ call : Call, call.IsTicket → call.IsAside := by
  intro call ticket
  cases call with
  | prepareTicket | acquireTicket => rfl
  | _ => exact absurd ticket id

theorem Call.IsTicket.isOpening : ∀ call : Call, call.IsTicket → call.IsOpening := by
  intro call ticket
  cases call with
  | prepareTicket | acquireTicket => trivial
  | _ => exact absurd ticket id

theorem Call.IsEstablishing.isSettled :
    ∀ call : Call, call.IsEstablishing → call.IsSettled := by
  intro call establishing
  cases call with
  | openSocket | startTls | bind => trivial
  | _ => exact absurd establishing id

theorem Call.IsEstablishing.isOpening :
    ∀ call : Call, call.IsEstablishing → call.IsOpening := by
  intro call establishing
  cases call with
  | openSocket | startTls | bind => trivial
  | _ => exact absurd establishing id

theorem Call.IsUnbinding.isOpening :
    ∀ call : Call, call.IsUnbinding → call.IsOpening := by
  intro call unbinding
  cases call with
  | unbind connection => trivial
  | _ => exact absurd unbinding id

theorem Call.IsSearchOn.isSettled {connection : Connection} :
    ∀ call : Call, call.IsSearchOn connection → call.IsSettled := by
  intro call search
  cases call with
  | search on query => trivial
  | pagedSearch on query size => trivial
  | _ => exact absurd search id

open Operation World

variable {σ α : Type} {network : Network σ} {allowed : Call → Prop}

/-! ## Before a session -/

namespace Connector

theorem ofServer_callsOnly (server : Server) :
    CallsOnly network Call.IsAside (ofServer server) := by
  rw [ofServer]
  cases mechanismError? server with
  | some error => exact .throw _
  | none =>
    refine .bind (.bind (.forM fun url _ => .perform rfl) fun _ => ?_) fun _ => .pure _
    exact .ite (.perform rfl) (.pure _)

theorem askTickets_callsOnly {principal : String} {call : Call} (may : allowed call) :
    CallsOnly network allowed (askTickets principal call) := by
  refine .bind (.attempt (.perform may)) fun outcome => ?_
  match outcome with
  | .ok reply => exact .pure _
  | .error failure => cases failure <;> exact .throw _

theorem sentText_callsOnly (password : Password) :
    CallsOnly network allowed (sentText password) := by
  rw [sentText]
  cases password.text? with
  | some text => exact .pure _
  | none => exact .throw _

theorem acquireTicket_callsOnly (principal : String) (password : Option Password) :
    CallsOnly network Call.IsTicket (acquireTicket principal password) := by
  rw [acquireTicket]
  cases password.filter (· ≠ .blank) with
  | none => exact .throw _
  | some password =>
    refine .bind (askTickets_callsOnly trivial) fun _ => ?_
    exact .bind (sentText_callsOnly _) fun _ => askTickets_callsOnly trivial

theorem ticketFor_callsOnly (c : Connector) (purpose : Purpose) (account : String)
    (password : Option Password) :
    CallsOnly network Call.IsTicket (c.ticketFor purpose account password) := by
  refine .bind (.attempt (acquireTicket_callsOnly _ _)) fun outcome => ?_
  match purpose, outcome with
  | .user, outcome => exact .ofOutcome _
  | .service, .ok ticket => exact .ofOutcome _
  | .service, .error failure =>
    cases failure with
    | credentials cause => exact .throw _
    | _ => exact .ofOutcome _

theorem ticket?_callsOnly (c : Connector) (purpose : Purpose) (account : Option String)
    (password : Option Password) :
    CallsOnly network Call.IsTicket (c.ticket? purpose account password) := by
  unfold ticket?
  refine .ite ?_ (.pure _)
  match account.filter (· ≠ ""), purpose with
  | some account, purpose => exact .bind (c.ticketFor_callsOnly _ _ _) fun _ => .pure _
  | none, .user => exact .throw _
  | none, .service => exact .pure _

theorem terms_callsOnly (c : Connector) (account : Option String) (password : Option Password)
    (ticket : Option String) :
    CallsOnly network allowed (c.terms account password ticket) :=
  .bind (.log _ _ _) fun _ => .pure _

/-! ## Within a session -/

theorem openSocket_callsOnly (c : Connector) (s : Session) :
    CallsOnly network Call.IsEstablishing (c.openSocket s) := by
  refine .bind (.translating (.perform trivial)) fun _ => .ite ?_ (.pure _)
  exact .bind (.translating (.perform trivial)) fun _ => .ite (.throw _) (.pure _)

theorem bindAs_callsOnly (c : Connector) (purpose : Purpose) (account : Option String)
    (s : Session) : CallsOnly network Call.IsEstablishing (c.bindAs purpose account s) :=
  .bind (.translating (.perform trivial)) fun _ => .ite (.throw _) (.pure _)

end Connector

/-! ## Sessions -/

/-- Closing a session is nothing but giving up its connection. -/
theorem Session.close_unbinds (s : Session) : CallsOnly network Call.IsUnbinding s.close := by
  refine .bind (fun world => .refl world) fun closed => .ite (.pure _) ?_
  have may : Call.IsUnbinding (.unbind s.connection) := trivial
  refine .bind (fun _ => .single (.mark may)) fun _ => ?_
  refine .bind (.attempt (.perform trivial)) fun outcome => ?_
  match outcome with
  | .ok () => exact .pure _
  | .error failure =>
    cases failure with
    | outside fault => exact .ite (.log _ _ _) (.throw _)
    | _ => exact .throw _

theorem Session.close_callsOnly (s : Session) : CallsOnly network Call.IsOpening s.close :=
  s.close_unbinds.widen Call.IsUnbinding.isOpening

theorem Connector.connect_callsOnly (c : Connector) (terms : Terms) :
    CallsOnly network Call.IsOpening (c.connect terms) := by
  have may : Call.IsOpening (.connect ⟨0, c.address, terms⟩) := trivial
  refine .bind (fun _ => .single (.number may)) ?_
  exact fun _ => .bind (.perform trivial) fun _ => .pure _

theorem Connector.openSession_callsOnly (c : Connector) (purpose : Purpose)
    (account : Option String) (password : Option Password) :
    CallsOnly network Call.IsOpening (c.openSession purpose account password) := by
  refine .bind ((c.ticket?_callsOnly _ _ _).widen Call.IsTicket.isOpening) fun ticket => ?_
  refine .bind (c.terms_callsOnly _ _ _) fun terms => ?_
  refine .bind (c.connect_callsOnly terms) fun s => ?_
  have establish : CallsOnly network Call.IsEstablishing
      (do c.openSocket s; c.bindAs purpose account s) :=
    .bind (c.openSocket_callsOnly s) fun _ => c.bindAs_callsOnly _ _ _
  refine .bind (.attempt (establish.widen Call.IsEstablishing.isOpening)) fun outcome => ?_
  match outcome with
  | .ok () => exact .pure _
  | .error failure => exact .bind s.close_callsOnly fun _ => .throw _

/-! ## Lookups -/

theorem Lookup.findUser_searched (c : Connector) (session : Session) (login : String)
    (attributes : List String) :
    Keeps network (Searched network session.connection) (findUser c session login attributes) :=
  SearchRequest.unique_searched session _

theorem Lookup.retrievalFailure_searched (c : Connector) (connection : Connection) (login : String)
    (failure : Failure) :
    Keeps network (Searched network connection) (retrievalFailure c login failure) := by
  unfold retrievalFailure
  cases failure with
  | connection error => exact .bind (log_searched _ _ _) fun _ => .pure _
  | search error => exact .bind (log_searched _ _ _) fun _ => .pure _
  | _ => exact .pure _

/-- Looking up within a session takes searches on it, if acting on the entry takes no more. -/
theorem Lookup.within_searched {c : Connector} {session : Session} {login : String}
    {attributes : List String} {action : Session → Entry → Operation σ α}
    (acts : ∀ entry, Keeps network (Searched network session.connection) (action session entry)) :
    Keeps network (Searched network session.connection)
      (within c session login attributes action) := by
  refine .bind (.attempt (findUser_searched _ _ _ _)) fun outcome => ?_
  match outcome with
  | .ok none => exact .bind (log_searched _ _ _) fun _ => .pure _
  | .ok (some entry) =>
    refine .bind (.attempt (acts entry)) fun outcome => ?_
    match outcome with
    | .ok value => exact .pure _
    | .error failure => exact .bind (retrievalFailure_searched _ _ _ _) fun _ => .throw _
  | .error failure =>
    cases failure with
    | search error => exact .bind (log_searched _ _ _) fun _ => .pure _
    | _ => exact .throw _

/-! ## Groups -/

namespace Groups

theorem parameters_searched (connection : Connection) (names : List String) (member : Entry) :
    Keeps network (Searched network connection) (parameters names member) := by
  rw [parameters]
  cases names.mapM (parameter member) with
  | ok values => exact .pure _
  | error name => exact .bind (log_searched _ _ _) fun _ => .pure _

theorem listing_searched (c : Connector) (m : GroupMapping) (search : MemberSearch)
    (session : Session) (member : Entry) :
    Keeps network (Searched network session.connection)
      (listing c m search session member) := by
  refine .bind (parameters_searched _ _ _) fun values => ?_
  cases values with
  | none => exact .pure _
  | some values => exact SearchRequest.all_searched session _

theorem named_searched (m : GroupMapping) (session : Session) (name : String) :
    Keeps network (Searched network session.connection) (named m session name) :=
  .bind (SearchRequest.readEntry_searched session _ _) fun _ => .pure _

theorem listedBy_searched (m : GroupMapping) (session : Session) (member : Entry) :
    Keeps network (Searched network session.connection) (listedBy m session member) := by
  rw [listedBy]
  cases m.memberOf with
  | none => exact .pure _
  | some name => exact .mapM (named_searched m session)

theorem direct_searched (c : Connector) (m : GroupMapping) (session : Session) (member : Entry) :
    Keeps network (Searched network session.connection) (direct c m session member) := by
  have listedBy : Keeps network (Searched network session.connection)
      (listedBy m session member) := listedBy_searched m session member
  rw [direct]
  cases m.listing with
  | none => exact .bind (.pure _) fun _ => .bind listedBy fun _ => .pure _
  | some search =>
    exact .bind (listing_searched c m search session member) fun _ =>
      .bind listedBy fun _ => .pure _

theorem direct_callsOnly (c : Connector) (m : GroupMapping) (session : Session) (member : Entry) :
    CallsOnly network (Call.IsSearchOn session.connection) (direct c m session member) :=
  (direct_searched c m session member).callsOnly

theorem finish_keeps {R : World σ → World σ → Prop} [IsPreorder (World σ) R] {m : GroupMapping}
    {direct : Entry → Operation σ (List Entry)} (asks : ∀ member, Keeps network R (direct member))
    (limit : Nat) (w : Walk) : Keeps network R (w.finish m direct limit) := by
  induction limit generalizing w with
  | zero =>
    obtain ⟨seen, ids, queue⟩ := w
    cases queue with
    | nil => exact .pure _
    | cons member queue => exact .throw _
  | succ limit ih =>
    obtain ⟨seen, ids, queue⟩ := w
    cases queue with
    | nil => exact .pure _
    | cons member queue => exact .bind (asks member) fun _ => ih _

/-- Resolving groups takes searches on the session only. -/
theorem resolve_searched (c : Connector) (m : GroupMapping) (session : Session) (user : Entry) :
    Keeps network (Searched network session.connection) (resolve c m session user) :=
  .bind (fun world => refl world) fun _ => finish_keeps (direct_searched c m session) _ _

end Groups

/-! ## Settings -/

namespace Server

theorem findUrls_callsOnly (v : View) : CallsOnly network Call.IsAside (findUrls v) := by
  rw [findUrls]
  cases v.text? "url" with
  | some text => exact .pure _
  | none =>
    rw [discoverUrls]
    dsimp only
    cases v.text? "realm" with
    | none => exact .throw _
    | some realm =>
      refine .bind ?_ fun urls => ?_
      · refine .bind (.attempt (.perform rfl)) fun outcome => ?_
        match outcome with
        | .ok records => exact .bind (.log _ _ _) fun _ => .pure _
        | .error failure =>
          cases failure with
          | outside fault =>
            cases fault with
            | nameService message => exact .bind (.log _ _ _) fun _ => .pure _
            | _ => exact .throw _
          | _ => exact .throw _
      · exact .ite (.throw _) (.bind (.log _ _ _) fun _ => .pure _)

theorem advise_callsOnly (component : Component) (advice : Option String) :
    CallsOnly network allowed (advise component advice) := by
  cases advice with
  | some text => exact .log _ _ _
  | none => exact .pure _

theorem usersOf_callsOnly (v : View) : CallsOnly network Call.IsAside (usersOf v) :=
  .bind (.ofOutcome _) fun _ => .bind (advise_callsOnly _ _) fun _ => .pure _

theorem groupsOf_callsOnly (v : View) : CallsOnly network Call.IsAside (groupsOf v) :=
  .bind (advise_callsOnly _ _) fun _ => .ofOutcome _

theorem assemble_callsOnly (settings : Settings) (key : String) :
    CallsOnly network Call.IsAside (assemble settings key) := by
  refine .bind (findUrls_callsOnly _) fun urls => .bind (usersOf_callsOnly _) fun users => ?_
  refine .bind (groupsOf_callsOnly _) fun groups => .bind (.ofOutcome _) fun _ => ?_
  exact .bind (.log _ _ _) fun _ => .pure _

end Server

theorem Roster.servers_callsOnly (r : Roster) : CallsOnly network Call.IsAside r.servers := by
  rw [servers]
  cases r.assembled with
  | some servers => exact .pure _
  | none => exact .bind (.ofOutcome _) fun _ => .mapM fun _ => Server.assemble_callsOnly _ _

end DirectoryAuth

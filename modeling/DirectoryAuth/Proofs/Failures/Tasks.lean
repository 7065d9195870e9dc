import DirectoryAuth.Proofs.Failures.Searches
import DirectoryAuth.Realm

/-!
# How the tasks of a realm end

Each operation between a search and a realm has its own kinds of failures: a session is refused, a
search fails, a login is not found or its details cannot be had. What one operation fails with is
met by the operation around it, and made into a failure of that one. Two exceptions are not met by
any operation: a marker in a template whose number is too long to be read, and a password that is no
text where a ticket is to be got for it.
-/

namespace DirectoryAuth

open Operation

variable {σ α : Type} {network : Network σ} {kind : Failure → Prop}

namespace Failure

def OfConnection : Failure → Prop
  | .connection _ => True
  | _ => False

/-- No ticket can be had with a password, or the password is no text. -/
def OfTicket (password : Option Password) : Failure → Prop
  | .connection _ | .credentials _ => True
  | .unencodable sent => password = some sent ∧ sent.text? = none
  | _ => False

/-- A session for a purpose is refused. Of the service account the credentials are not to blame. -/
def OfOpening (server : Server) (purpose : Purpose) (password : Option Password) : Failure → Prop
  | .connection _ => True
  | .credentials _ => purpose = .user
  | .unencodable sent =>
    server.mechanism = .gssapi ∧ password = some sent ∧ sent.text? = none
  | _ => False

def OfLookup (login : String) : Failure → Prop
  | .notFound other => other = login
  | .retrieval other _ _ => other = login
  | _ => False

end Failure

/-! ## Sessions -/

theorem Session.close_ends (s : Session) : EndsIn network never s.close := by
  have release : EndsIn network never s.release := by
    refine .perform_bind (fun _ => .pure _) fun failure => ?_
    cases failure with
    | outside fault =>
      dsimp only
      split
      · exact .log _ _ _
      · rename_i unknown
        refine .throw ?_
        rintro ⟨_, may, same⟩
        cases same
        have directory : fault.isDirectory = true := may
        simp [directory] at unknown
    | _ => exact .throw fun ⟨_, _, same⟩ => nomatch same
  refine .bind (.silent (fun _ => rfl) fun _ => rfl) fun closed => ?_
  exact .ite (.pure _) (.bind (.silent (fun _ => rfl) fun _ => rfl) fun _ => release)

namespace Connector

variable {password : Option Password}

theorem askTickets_ends (principal : String) (call : Call)
    (service : ∀ fault, call.mayReport fault = fault.isTicket) :
    EndsIn network (Failure.OfTicket password) (askTickets principal call) := by
  refine .perform_bind (fun _ => .pure _) fun failure => ?_
  cases failure with
  | outside fault =>
    refine .throw ?_
    rintro ⟨_, may, same⟩
    cases same
    rw [service] at may
    cases fault with
    | ticket message code =>
      dsimp only [ticketFailure]
      split
      · trivial
      · trivial
    | _ => cases may
  | _ => exact .throw fun ⟨_, _, same⟩ => nomatch same

theorem sentText_ends {sent : Password} (given : password = some sent) :
    EndsIn network (Failure.OfTicket password) (sentText sent) := by
  rw [sentText]
  cases read : sent.text? with
  | some text => exact .pure _
  | none => exact .throw ⟨given, read⟩

theorem acquireTicket_ends (principal : String) (password : Option Password) :
    EndsIn network (Failure.OfTicket password) (acquireTicket principal password) := by
  rw [acquireTicket]
  cases given : password.filter (· ≠ .blank) with
  | none => exact .throw trivial
  | some sent =>
    refine .bind (askTickets_ends principal (.prepareTicket _) fun _ => rfl) fun _ => ?_
    refine .bind (sentText_ends (Option.filter_eq_some_iff.mp given).1) fun text => ?_
    exact askTickets_ends principal (.acquireTicket _ _) fun _ => rfl

theorem ticketFor_ends {c : Connector} (gssapi : c.server.mechanism = .gssapi) (purpose : Purpose)
    (account : String) (password : Option Password) :
    EndsIn network (Failure.OfOpening c.server purpose password)
      (c.ticketFor purpose account password) := by
  refine .attempt_bind (acquireTicket_ends _ password) ?_ ?_
  · intro ticket
    cases purpose with
    | service => exact .ofOutcome fun _ failed => nomatch failed
    | user => exact .ofOutcome fun _ failed => nomatch failed
  · intro failure
    cases failure with
    | credentials cause =>
      cases purpose with
      | service => exact .throw (.inl trivial)
      | user => exact .throw (.inl rfl)
    | connection error => cases purpose <;> exact .pass fun _ => trivial
    | unencodable sent => cases purpose <;> exact .pass fun unsent => ⟨gssapi, unsent⟩
    | _ => cases purpose <;> exact .pass False.elim

theorem ticket?_ends (c : Connector) (purpose : Purpose) (account : Option String)
    (password : Option Password) :
    EndsIn network (Failure.OfOpening c.server purpose password)
      (c.ticket? purpose account password) := by
  unfold ticket?
  split
  · rename_i gssapi
    match account.filter (· ≠ ""), purpose with
    | some account, purpose => exact .bind (ticketFor_ends gssapi _ _ _) fun _ => .pure _
    | none, .user => exact .throw rfl
    | none, .service => exact .pure _
  · exact .pure _

theorem openSocket_ends (c : Connector) (purpose : Purpose) (s : Session) :
    EndsIn network (Failure.OfOpening c.server purpose password) (c.openSocket s) := by
  refine .bind (.perform_translating rfl fun _ => trivial) fun _ => .ite ?_ (.pure _)
  refine .bind (.perform_translating rfl fun _ => trivial) fun _ => ?_
  exact .ite (.throw trivial) (.pure _)

theorem bindAs_ends (c : Connector) (purpose : Purpose) (account : Option String) (s : Session) :
    EndsIn network (Failure.OfOpening c.server purpose password) (c.bindAs purpose account s) := by
  refine .bind (.perform_translating rfl fun _ => trivial) fun _ => .ite (.throw ?_) (.pure _)
  cases purpose with
  | service => trivial
  | user => rfl

theorem openSession_ends (c : Connector) (purpose : Purpose) (account : Option String)
    (password : Option Password) :
    EndsIn network (Failure.OfOpening c.server purpose password)
      (c.openSession purpose account password) := by
  refine .bind (c.ticket?_ends _ _ _) fun ticket => ?_
  refine .bind (.bind (.log _ _ _) fun _ => .pure _) fun terms => ?_
  refine .bind ?_ fun s => ?_
  · refine .bind (.silent (fun _ => rfl) fun _ => rfl) fun number => ?_
    exact .bind (.perform trivial) fun _ => .pure _
  · have establish : EndsIn network (Failure.OfOpening c.server purpose password)
        (do c.openSocket s; c.bindAs purpose account s) :=
      .bind (c.openSocket_ends purpose s) fun _ => c.bindAs_ends _ _ _
    refine establish.attempt_bind (fun _ => .pure _) fun failure => ?_
    exact .bind (s.close_ends.widen fun _ => False.elim) fun _ => .pass id

/-- The password of the service account is a text. -/
theorem openService_ends (c : Connector) : EndsIn network Failure.OfConnection c.openService := by
  refine (c.openSession_ends .service _ _).widen fun failure refused => ?_
  cases failure with
  | connection error => trivial
  | credentials error => cases refused
  | unencodable sent =>
    obtain ⟨-, given, unread⟩ := refused
    exact absurd unread (Password.text?_ne_none_of_map given)
  | _ => exact refused

end Connector

/-! ## Lookups -/

namespace Failure

/-- A lookup tells a failure as one of its own, or it is passed on as it is. -/
def OfAction (passed : Failure → Prop) : Failure → Prop
  | .connection _ | .search _ => True
  | failure => passed failure

/-- The failures of a lookup: its own, and those that are passed on. -/
def OfLookupOr (login : String) (passed : Failure → Prop) (failure : Failure) : Prop :=
  failure.OfLookup login ∨ passed failure

end Failure

namespace Lookup

variable {passed : Failure → Prop} {login : String}

theorem retrievalFailure_ends (c : Connector) (failure : Failure) :
    EndsIn network (PassedOr (Failure.OfAction passed) (Failure.OfLookupOr login passed) failure)
      (retrievalFailure c login failure >>= fun failure => (throw failure : Operation σ α)) := by
  unfold retrievalFailure
  cases failure with
  | connection error | search error =>
    rw [bind_assoc]
    exact .bind (.log _ _ _) fun _ => .throw (.inl (.inl rfl))
  | _ => exact .pass fun acted => .inr acted

theorem within_ends {c : Connector} {session : Session} {attributes : List String}
    {action : Session → Entry → Operation σ α}
    (markers : ∀ failure : Failure, failure.OfMarker [c.server.users.request] → passed failure)
    (acts : ∀ entry, EndsIn network (Failure.OfAction passed) (action session entry)) :
    EndsIn network (Failure.OfLookupOr login passed)
      (within c session login attributes action) := by
  refine .attempt_bind (SearchRequest.unique_ends _ _) ?_ ?_
  · intro found
    cases found with
    | none => exact .bind (.log _ _ _) fun _ => .pure _
    | some entry => exact .attempt_bind (acts entry) (fun _ => .pure _) (retrievalFailure_ends c)
  · intro failure
    cases failure with
    | search error => exact .bind (.log _ _ _) fun _ => .pure _
    | _ => exact .pass fun marker => .inr (markers _ marker)

theorem ask_ends {c : Connector} {attributes : List String}
    {action : Session → Entry → Operation σ α}
    (markers : ∀ failure : Failure, failure.OfMarker [c.server.users.request] → passed failure)
    (acts : ∀ session entry, EndsIn network (Failure.OfAction passed) (action session entry)) :
    EndsIn network (Failure.OfLookupOr login passed) (ask c login attributes action) := by
  refine .attempt_bind c.openService_ends ?_ ?_
  · intro session
    exact .andFinally (within_ends markers (acts session)) session.close_ends
  · intro failure
    cases failure with
    | connection error => exact .bind (.log _ _ _) fun _ => .pure _
    | _ => exact .pass False.elim

theorem lookUpFrom_ends {connectors : List Connector} {attributes : Connector → List String}
    {action : Connector → Session → Entry → Operation σ α}
    (markers : ∀ c ∈ connectors, ∀ failure : Failure,
      failure.OfMarker [c.server.users.request] → passed failure)
    (acts : ∀ c ∈ connectors, ∀ session entry,
      EndsIn network (Failure.OfAction passed) (action c session entry))
    (failed : Option (String × Failure)) :
    EndsIn network (Failure.OfLookupOr login passed)
      (lookUpFrom login attributes action failed connectors) := by
  induction connectors generalizing failed with
  | nil =>
    refine .throw (.inl ?_)
    cases failed with
    | none => rfl
    | some known => rfl
  | cons c rest ih =>
    have others := ih (fun c member => markers c (List.mem_cons_of_mem _ member))
      (fun c member => acts c (List.mem_cons_of_mem _ member))
    refine .bind (ask_ends (markers c List.mem_cons_self) (acts c List.mem_cons_self)) ?_
    intro answer
    cases answer with
    | found value => exact .pure _
    | absent => exact others _
    | failed failure => exact others _

end Lookup

theorem Details.fetch_ends {passed : Failure → Prop} {connectors : List Connector} {login : String}
    (markers : ∀ c ∈ connectors, ∀ failure : Failure,
      failure.OfMarker [c.server.users.request] → passed failure) :
    EndsIn network (Failure.OfLookupOr login passed) (Details.fetch connectors login) :=
  .bind (.log _ _ _) fun _ => Lookup.lookUpFrom_ends markers (fun _ _ _ _ => .pure _) none

/-! ## Groups -/

namespace Groups

/-- Resolving groups fails as its searches do, or it does not come to an end. -/
def OfResolving (templates : List String) (failure : Failure) : Prop :=
  failure = .unbounded ∨ failure.OfSearch templates

def templates (m : GroupMapping) : List String := (m.listing.map (·.request)).toList

theorem parameters_ends (names : List String) (member : Entry) :
    EndsIn network kind (parameters names member) := by
  rw [parameters]
  cases names.mapM (parameter member) with
  | ok values => exact .pure _
  | error name => exact .bind (.log _ _ _) fun _ => .pure _

theorem listing_ends (c : Connector) (m : GroupMapping) (search : MemberSearch) (session : Session)
    (member : Entry) :
    EndsIn network (Failure.OfSearch [search.request]) (listing c m search session member) := by
  refine .bind (parameters_ends _ _) fun values => ?_
  cases values with
  | none => exact .pure _
  | some values =>
    exact SearchRequest.all_ends
      ⟨search.base, search.request, values, m.groupAttributes, .subtree, c.server.limits⟩ session

theorem listedBy_ends (m : GroupMapping) (session : Session) (member : Entry) :
    EndsIn network (Failure.OfSearch []) (listedBy m session member) := by
  rw [listedBy]
  cases m.memberOf with
  | none => exact .pure _
  | some name =>
    exact .mapM fun _ => .bind (SearchRequest.readEntry_ends _ _ _) fun _ => .pure _

theorem direct_ends (c : Connector) (m : GroupMapping) (session : Session) (member : Entry) :
    EndsIn network (Failure.OfSearch (templates m)) (direct c m session member) := by
  have listedBy : EndsIn network (Failure.OfSearch (templates m)) (listedBy m session member) :=
    (listedBy_ends m session member).widen fun _ => .mono (List.nil_subset _)
  rw [direct]
  cases listing : m.listing with
  | none => exact .bind (.pure _) fun _ => .bind listedBy fun _ => .pure _
  | some search =>
    have listed : templates m = [search.request] := by rw [templates, listing]; rfl
    rw [listed] at listedBy ⊢
    exact .bind (listing_ends c m search session member) fun _ => .bind listedBy fun _ => .pure _

theorem finish_ends {m : GroupMapping} {templates : List String}
    {direct : Entry → Operation σ (List Entry)}
    (asks : ∀ member, EndsIn network (Failure.OfSearch templates) (direct member)) (limit : Nat)
    (w : Walk) : EndsIn network (OfResolving templates) (w.finish m direct limit) := by
  induction limit generalizing w with
  | zero =>
    obtain ⟨seen, ids, queue⟩ := w
    cases queue with
    | nil => exact .pure _
    | cons member queue => exact .throw (.inl rfl)
  | succ limit ih =>
    obtain ⟨seen, ids, queue⟩ := w
    cases queue with
    | nil => exact .pure _
    | cons member queue => exact .bind ((asks member).widen fun _ => .inr) fun _ => ih _

theorem resolve_ends (c : Connector) (m : GroupMapping) (session : Session) (user : Entry) :
    EndsIn network (OfResolving (templates m)) (resolve c m session user) :=
  .bind (.silent (fun _ => rfl) fun _ => rfl) fun _ => finish_ends (direct_ends c m session) _ _

end Groups

def Server.templates (s : Server) : List String :=
  s.users.request :: (s.groups.map Groups.templates).getD []

def Connector.templates (connectors : List Connector) : List String :=
  connectors.flatMap (·.server.templates)

theorem Connector.users_of_templates {connectors : List Connector} {c : Connector}
    (member : c ∈ connectors) : [c.server.users.request] ⊆ templates connectors := by
  intro template same
  rw [List.mem_singleton.mp same]
  exact List.mem_flatMap.mpr ⟨c, member, List.mem_cons_self⟩

theorem Connector.groups_of_templates {connectors : List Connector} {c : Connector}
    {m : GroupMapping} (member : c ∈ connectors) (mapped : c.server.groups = some m) :
    Groups.templates m ⊆ templates connectors := by
  intro template listed
  refine List.mem_flatMap.mpr ⟨c, member, List.mem_cons_of_mem _ ?_⟩
  rw [mapped]
  exact listed

/-- Fetching groups passes on that a walk does not come to an end. -/
theorem Groups.fetch_ends {connectors : List Connector} {login : String} :
    EndsIn network
      (Failure.OfLookupOr login fun failure =>
        failure = .unbounded ∨ failure.OfMarker (Connector.templates connectors))
      (fetch connectors login) := by
  refine .bind (.log _ _ _) fun _ => .ite (.pure _) (.bind ?_ fun _ => ?_)
  · refine Lookup.lookUpFrom_ends ?_ ?_ none
    · intro c member failure marker
      exact .inr (marker.mono (Connector.users_of_templates member))
    · intro c member session entry
      cases mapped : c.server.groups with
      | none => exact .pure _
      | some m =>
        refine (resolve_ends c m session entry).widen fun failure resolving => ?_
        have included := Connector.groups_of_templates member mapped
        rcases resolving with rfl | search
        · exact .inl rfl
        · cases failure with
          | search error => trivial
          | longMarker digits =>
            have marker : (Failure.longMarker digits).OfMarker (templates m) := search
            exact .inr (marker.mono included)
          | _ => exact search.elim
  · exact .bind (.log _ _ _) fun _ => .pure _

/-! ## Logins -/

namespace Failure

/-- The password of a login is no text, and there is a server that gets tickets for passwords. -/
def OfPassword (connectors : List Connector) (password : Password) (failure : Failure) : Prop :=
  failure = .unencodable password ∧ password.text? = none ∧
    ∃ c ∈ connectors, c.server.mechanism = .gssapi

def OfLogin (connectors : List Connector) (password : Password) (failure : Failure) : Prop :=
  failure.OfMarker (Connector.templates connectors) ∨ failure.OfPassword connectors password

theorem OfLogin.mono {connectors more : List Connector} {password : Password} {failure : Failure}
    (included : connectors ⊆ more) (failed : failure.OfLogin connectors password) :
    failure.OfLogin more password := by
  rcases failed with marker | ⟨same, unread, c, member, gssapi⟩
  · refine .inl (marker.mono fun template listed => ?_)
    obtain ⟨c, member, own⟩ := List.mem_flatMap.mp listed
    exact List.mem_flatMap.mpr ⟨c, included member, own⟩
  · exact .inr ⟨same, unread, c, included member, gssapi⟩

end Failure

namespace Login

theorem unconnected_ends (c : Connector) (login : String) (error : ConnectionError) :
    EndsIn network kind (unconnected c login error) :=
  .ite (.bind (.log _ _ _) fun _ => .pure _) (.bind (.log _ _ _) fun _ => .pure _)

theorem checkPassword_ends (c : Connector) (login : String) (password : Password) (entry : Entry) :
    EndsIn network (Failure.OfPassword [c] password) (checkPassword c login password entry) := by
  have opening : EndsIn network (Failure.OfOpening c.server .user (some password))
      (c.openUser (some (account c login entry)) (some password) >>= (·.close)) :=
    .bind (c.openSession_ends _ _ _) fun session => session.close_ends.widen fun _ => False.elim
  refine .attempt_bind opening ?_ ?_
  · exact fun _ => .bind (.log _ _ _) fun _ => .pure _
  · intro failure
    cases failure with
    | credentials error => exact .bind (.log _ _ _) fun _ => .pure _
    | connection error => exact unconnected_ends c login error
    | unencodable sent =>
      refine .pass fun unsent => ?_
      obtain ⟨gssapi, same, unread⟩ := unsent
      cases same
      exact ⟨rfl, unread, c, List.mem_singleton_self c, gssapi⟩
    | _ => exact .pass False.elim

theorem check_ends (c : Connector) (login : String) (password : Password) :
    EndsIn network (Failure.OfLogin [c] password) (check c login password) := by
  have resolves : EndsIn network
      (fun failure => failure.OfConnection ∨ failure.OfSearch [c.server.users.request])
      (resolve c login) := by
    refine .bind (c.openService_ends.widen fun _ => .inl) fun session => ?_
    exact .andFinally ((SearchRequest.unique_ends _ _).widen fun _ => .inr) session.close_ends
  refine .attempt_bind resolves ?_ ?_
  · intro found
    cases found with
    | none => exact .bind (.log _ _ _) fun _ => .pure _
    | some entry => exact (checkPassword_ends c login password entry).widen fun _ => .inr
  · intro failure
    have users := Connector.users_of_templates (List.mem_singleton_self c)
    cases failure with
    | connection error => exact unconnected_ends c login error
    | search error => exact .bind (.log _ _ _) fun _ => .pure _
    | _ => exact .pass fun met => met.elim False.elim fun marker => .inl (marker.mono users)

theorem attempts_ends (login : String) (password : Password) (connectors : List Connector) :
    EndsIn network (Failure.OfLogin connectors password)
      (attempts login password connectors) := by
  induction connectors with
  | nil => exact .pure _
  | cons c rest ih =>
    refine .bind ?_ fun attempt => .ite (.pure _) (.bind ?_ fun _ => .pure _)
    · exact (check_ends c login password).widen fun _ =>
        .mono (List.cons_subset_cons c (List.nil_subset rest))
    · exact ih.widen fun _ => .mono (List.subset_cons_self _ _)

theorem authenticate_ends (connectors : List Connector) (login : String) (password : Password) :
    EndsIn network (Failure.OfLogin connectors password)
      (authenticate connectors login password) :=
  .ite (.bind (.log _ _ _) fun _ => .pure _) (.bind (attempts_ends _ _ _) fun _ => .pure _)

end Login

end DirectoryAuth

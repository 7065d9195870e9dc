import DirectoryAuth.Proofs.Failures.Conclusion
import DirectoryAuth.Proofs.Failures.Tasks

/-!
# Kinds of failures

Whatever the network answers, and however it breaks what is known of its services, an operation has
failures of few kinds. Opening a session never fails with a search, a search never fails with a
connection, and neither of them speaks of logins.
-/

namespace DirectoryAuth

variable {σ α β : Type} {network : Network σ}

namespace Failure

/-- A session cannot be opened, or a fault is passed on. -/
def OfSession : Failure → Prop
  | .connection _ | .credentials _ | .setting _ | .outside _ => True
  | _ => False

/-- Entries cannot be read, or a fault is passed on. -/
def OfReading : Failure → Prop
  | .search _ | .longMarker _ | .unbounded | .outside _ => True
  | _ => False

def IsFault (failure : Failure) : Prop := ∃ fault, failure = .outside fault

theorem IsFault.ofSession {failure : Failure} (isFault : failure.IsFault) :
    failure.OfSession := by
  obtain ⟨fault, rfl⟩ := isFault
  trivial

theorem OfSearch.ofReading {templates : List String} {failure : Failure}
    (search : failure.OfSearch templates) : failure.OfReading := by
  cases failure with
  | search error => trivial
  | longMarker digits => trivial
  | _ => exact search.elim

end Failure

namespace Operation

def Raises (network : Network σ) (kind : Failure → Prop) (x : Operation σ α) : Prop :=
  ∀ world failure, (x.run network world).1 = .error failure → kind failure

namespace Raises

variable {kind met : Failure → Prop} {x : Operation σ α}

theorem of_ok (gives : ∀ world, ∃ value, (x.run network world).1 = .ok value) :
    Raises network kind x := by
  intro world failure failed
  obtain ⟨value, gave⟩ := gives world
  cases gave.symm.trans failed

theorem pure (value : α) : Raises network kind (Pure.pure value : Operation σ α) :=
  of_ok fun _ => ⟨value, rfl⟩

theorem log (level : Level) (component : Component) (message : String) :
    Raises network kind (Operation.log level component message) :=
  of_ok fun _ => ⟨(), rfl⟩

theorem throw {failure : Failure} (known : kind failure) :
    Raises network kind (MonadExcept.throw failure : Operation σ α) := by
  intro world other failed
  cases failed
  exact known

theorem bind {f : α → Operation σ β} (hx : Raises network kind x)
    (hf : ∀ value, Raises network kind (f value)) : Raises network kind (x >>= f) := by
  intro world failure failed
  rcases run_bind_cases (Prod.ext failed rfl) with ⟨other, ended, same⟩ | ⟨value, next, -, ended⟩
  · cases same
    exact hx world failure (congrArg Prod.fst ended)
  · exact hf value next failure (congrArg Prod.fst ended)

theorem attempt_bind {f : Except Failure α → Operation σ β} (hx : Raises network met x)
    (ok : ∀ value, Raises network kind (f (.ok value)))
    (error : ∀ failure, met failure → Raises network kind (f (.error failure))) :
    Raises network kind (x.attempt >>= f) := by
  intro world failure failed
  rw [run_attempt_bind] at failed
  rcases ran : x.run network world with ⟨outcome, next⟩
  rw [ran] at failed
  cases outcome with
  | ok value => exact ok value next failure failed
  | error other =>
    exact error other (hx world other (congrArg Prod.fst ran)) next failure failed

theorem widen {wider : Failure → Prop} (hx : Raises network kind x)
    (more : ∀ failure, kind failure → wider failure) : Raises network wider x :=
  fun world failure failed => more failure (hx world failure failed)

theorem ite {condition : Prop} [Decidable condition] {x y : Operation σ α}
    (hx : Raises network kind x) (hy : Raises network kind y) :
    Raises network kind (if condition then x else y) := by
  split
  · exact hx
  · exact hy

theorem mapM {f : α → Operation σ β} {items : List α} (hf : ∀ a, Raises network kind (f a)) :
    Raises network kind (items.mapM f) := by
  induction items with
  | nil => exact pure _
  | cons a rest ih =>
    rw [List.mapM_cons]
    exact bind (hf a) fun _ => bind ih fun _ => pure _

theorem andFinally {last : Operation σ Unit} (hx : Raises network kind x)
    (hlast : Raises network kind last) : Raises network kind (x.andFinally last) := by
  refine attempt_bind hx ?_ ?_
  · exact fun value => bind hlast fun _ => pure value
  · exact fun failure known => bind hlast fun _ => throw known

/-- A call fails with its fault. -/
theorem perform {call : Call} : Raises network Failure.IsFault (Operation.perform call) := by
  intro world failure failed
  rw [run_perform] at failed
  cases answered : (network.answer call world.network).1 with
  | ok reply =>
    rw [answered] at failed
    cases failed
  | error fault =>
    rw [answered] at failed
    cases failed
    exact ⟨fault, rfl⟩

theorem perform_translating {call : Call} {translate : Fault → Failure}
    (translated : ∀ fault, kind (translate fault)) (passed : ∀ fault, kind (.outside fault)) :
    Raises network kind ((Operation.perform call).translating translate) := by
  refine attempt_bind perform (fun _ => pure _) ?_
  rintro _ ⟨fault, rfl⟩
  refine throw ?_
  split
  · exact translated fault
  · exact passed fault

end Raises

end Operation

open Operation

/-! ## Sessions -/

theorem Session.close_raises (s : Session) : Raises network Failure.IsFault s.close :=
  fun _ _ failed => s.close_fails (Prod.ext failed rfl)

namespace Connector

theorem askTickets_raises (principal : String) (call : Call) :
    Raises network Failure.OfSession (askTickets principal call) := by
  refine .attempt_bind .perform (fun _ => .pure _) ?_
  rintro _ ⟨fault, rfl⟩
  refine .throw ?_
  cases fault with
  | ticket message code =>
    dsimp only [ticketFailure]
    split
    · trivial
    · trivial
  | _ => trivial

theorem acquireTicket_raises (principal : String) (password : Option String) :
    Raises network Failure.OfSession (acquireTicket principal (password.map .ofText)) := by
  rw [acquireTicket]
  cases given : (password.map Password.ofText).filter (· ≠ .blank) with
  | none => exact .throw trivial
  | some sent =>
    obtain ⟨text, -, rfl⟩ := Option.map_eq_some_iff.mp (Option.filter_eq_some_iff.mp given).1
    dsimp only
    rw [sentText_ofText]
    refine .bind (askTickets_raises principal _) fun _ => .bind (.pure _) fun _ => ?_
    exact askTickets_raises principal _

theorem ticketFor_raises (c : Connector) (purpose : Purpose) (account : String)
    (password : Option String) :
    Raises network Failure.OfSession (c.ticketFor purpose account (password.map .ofText)) := by
  refine .attempt_bind (acquireTicket_raises _ _) (fun ticket => ?_) fun failure known => ?_
  · cases purpose <;> exact .pure ticket
  · cases purpose with
    | user => exact .throw known
    | service =>
      cases failure with
      | credentials cause => exact .throw trivial
      | _ => exact .throw known

theorem ticket?_raises (c : Connector) (purpose : Purpose) (account : Option String)
    (password : Option String) :
    Raises network Failure.OfSession (c.ticket? purpose account (password.map .ofText)) := by
  unfold ticket?
  refine .ite ?_ (.pure _)
  match account.filter (· ≠ ""), purpose with
  | some account, purpose => exact .bind (c.ticketFor_raises _ _ _) fun _ => .pure _
  | none, .user => exact .throw trivial
  | none, .service => exact .pure _

theorem connect_raises (c : Connector) (terms : Terms) :
    Raises network Failure.OfSession (c.connect terms) := by
  have number : Raises network Failure.OfSession (nextNumber : Operation σ Nat) :=
    .of_ok fun world => ⟨world.connections, rfl⟩
  refine .bind number fun _ => .bind ?_ fun _ => .pure _
  exact .widen .perform fun _ => Failure.IsFault.ofSession

theorem openSocket_raises (c : Connector) (s : Session) :
    Raises network Failure.OfSession (c.openSocket s) := by
  refine .bind (.perform_translating (fun _ => trivial) fun _ => trivial) fun _ => .ite ?_ (.pure _)
  refine .bind (.perform_translating (fun _ => trivial) fun _ => trivial) fun _ => ?_
  exact .ite (.throw trivial) (.pure _)

theorem bindAs_raises (c : Connector) (purpose : Purpose) (account : Option String)
    (s : Session) : Raises network Failure.OfSession (c.bindAs purpose account s) := by
  refine .bind (.perform_translating (fun _ => trivial) fun _ => trivial) fun _ => .ite ?_ (.pure _)
  cases purpose with
  | service => exact .throw trivial
  | user => exact .throw trivial

theorem openSession_raises (c : Connector) (purpose : Purpose) (account : Option String)
    (password : Option String) :
    Raises network Failure.OfSession (c.openSession purpose account (password.map .ofText)) := by
  refine .bind (c.ticket?_raises _ _ _) fun ticket => ?_
  refine .bind (.bind (.log _ _ _) fun _ => .pure _) fun terms => ?_
  refine .bind (c.connect_raises terms) fun s => ?_
  refine .attempt_bind (.bind (c.openSocket_raises s) fun _ => c.bindAs_raises _ _ _)
    (fun _ => .pure s) fun failure known => ?_
  exact .bind (s.close_raises.widen fun _ => Failure.IsFault.ofSession) fun _ => .throw known

end Connector

/-! ## Searches -/

namespace Query

variable {q : Query} {failure : Failure}

theorem wholeFindings_reading {answer : Except Fault SearchReply}
    (failed : (q.wholeFindings answer).failure = some failure) : failure.OfReading := by
  cases answer with
  | error fault =>
    cases failed
    split
    · trivial
    · trivial
  | ok reply =>
    rw [wholeFindings] at failed
    cases refused : q.refusal? reply.report with
    | some error =>
      rw [refused] at failed
      cases failed
      trivial
    | none =>
      rw [refused] at failed
      cases failed

theorem pagedFindings_reading {answer : Except Fault PagedReply}
    (failed : (q.pagedFindings answer).failure = some failure) : failure.OfReading := by
  cases answer with
  | error fault =>
    cases failed
    trivial
  | ok reply =>
    obtain ⟨fault, -, rfl⟩ := Option.map_eq_some_iff.mp failed
    split
    · trivial
    · trivial

end Query

namespace SearchRequest

variable {world : World σ} {r : SearchRequest} {session : Session} {failure : Failure}

theorem findings_reading (failed : (r.findings session network world).failure = some failure) :
    failure.OfReading := by
  cases valid : r.filter with
  | error other =>
    rw [findings_of_failure valid] at failed
    cases failed
    exact (Filter.format_fails valid).ofReading
  | ok filter =>
    rw [findings_of_filter valid] at failed
    dsimp only [cursor, Cursor.left] at failed
    split at failed
    · cases failed
      trivial
    · split at failed
      · exact Query.wholeFindings_reading failed
      · exact Query.pagedFindings_reading failed

theorem all_raises (r : SearchRequest) (session : Session) :
    Raises network Failure.OfReading (r.all session) := by
  intro world failure failed
  rw [all_outcome] at failed
  exact findings_reading (Findings.all_fails failed)

theorem unique_raises (r : SearchRequest) (session : Session) :
    Raises network Failure.OfReading (r.unique session) := by
  intro world failure failed
  rw [unique_outcome] at failed
  rcases Findings.unique_fails failed with rfl | failed
  · exact r.ambiguity_ofSearch.ofReading
  · exact findings_reading failed

theorem readEntry_raises (session : Session) (name : String) (attributes : List String) :
    Raises network Failure.OfReading (readEntry session name attributes) := by
  refine .attempt_bind (unique_raises _ _) (fun _ => .pure _) fun failure known => ?_
  cases failure with
  | search error => exact .ite (.bind (.log _ _ _) fun _ => .pure _) (.throw trivial)
  | _ => exact .throw known

end SearchRequest

/-! ## Groups -/

namespace Groups

theorem listing_raises (c : Connector) (m : GroupMapping) (search : MemberSearch)
    (session : Session) (member : Entry) :
    Raises network Failure.OfReading (listing c m search session member) := by
  have parameters : Raises network Failure.OfReading (parameters search.names member) := by
    rw [Groups.parameters]
    cases search.names.mapM (parameter member) with
    | ok values => exact .pure _
    | error name => exact .bind (.log _ _ _) fun _ => .pure _
  refine .bind parameters fun values => ?_
  cases values with
  | none => exact .pure _
  | some values => exact SearchRequest.all_raises _ session

theorem listedBy_raises (m : GroupMapping) (session : Session) (member : Entry) :
    Raises network Failure.OfReading (listedBy m session member) := by
  rw [listedBy]
  cases m.memberOf with
  | none => exact .pure _
  | some name =>
    exact .mapM fun _ => .bind (SearchRequest.readEntry_raises _ _ _) fun _ => .pure _

theorem direct_raises (c : Connector) (m : GroupMapping) (session : Session) (member : Entry) :
    Raises network Failure.OfReading (direct c m session member) := by
  have listedBy : Raises network Failure.OfReading (listedBy m session member) :=
    listedBy_raises m session member
  rw [direct]
  cases m.listing with
  | none => exact .bind (.pure _) fun _ => .bind listedBy fun _ => .pure _
  | some search =>
    exact .bind (listing_raises c m search session member) fun _ => .bind listedBy fun _ => .pure _

theorem finish_raises {m : GroupMapping} {direct : Entry → Operation σ (List Entry)}
    (asks : ∀ member, Raises network Failure.OfReading (direct member)) (limit : Nat) (w : Walk) :
    Raises network Failure.OfReading (w.finish m direct limit) := by
  induction limit generalizing w with
  | zero =>
    obtain ⟨seen, ids, queue⟩ := w
    cases queue with
    | nil => exact .pure _
    | cons member queue => exact .throw trivial
  | succ limit ih =>
    obtain ⟨seen, ids, queue⟩ := w
    cases queue with
    | nil => exact .pure _
    | cons member queue => exact .bind (asks member) fun _ => ih _

theorem resolve_raises (c : Connector) (m : GroupMapping) (session : Session) (user : Entry) :
    Raises network Failure.OfReading (resolve c m session user) :=
  .bind (.of_ok fun _ => ⟨_, rfl⟩) fun _ => finish_raises (direct_raises c m session) _ _

end Groups

end DirectoryAuth

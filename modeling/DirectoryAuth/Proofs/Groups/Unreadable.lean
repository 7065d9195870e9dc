import DirectoryAuth.Groups
import DirectoryAuth.Proofs.Network.Rehearsal
import DirectoryAuth.Proofs.Search.Sending
import DirectoryAuth.Proofs.Search.Turns
import DirectoryAuth.Proofs.Search.Uniqueness

/-!
# Groups that cannot be read

A member may list groups that are not there, or that the service account may not read. Each of them
is kept as a group without attributes, one for every value, in order; any other answer that cannot
be used is a failure. What becomes of a value is told here from the exchange with the network alone.
-/

namespace DirectoryAuth

open Operation World

variable {σ : Type} {network : Network σ} {world a b c : World σ}

/-! ## Reads -/

abbrev EntryRead := Query × Except Fault SearchReply

def Event.read? : Event → Option EntryRead
  | .exchange (.search _ q) answer => if q.scope = .base then some (q, answer) else none
  | _ => none

theorem Event.read?_of_silent {event : Event} (silent : event.call? = none) :
    event.read? = none := by
  cases event with
  | exchange call answer => cases silent
  | _ => rfl

theorem Event.filterMap_read?_of_silent {events : List Event}
    (silent : ∀ event ∈ events, event.call? = none) : events.filterMap read? = [] :=
  List.filterMap_eq_nil_iff.mpr fun event member => read?_of_silent (silent event member)

/-- Searches that are for more than one name are no reads. -/
theorem Cursor.read?_call {c : Cursor} (wide : c.query.scope ≠ .base)
    (answer : Except Fault c.call.Reply) : Event.read? (.exchange c.call answer) = none := by
  revert answer
  rw [call]
  by_cases whole : c.pageSize = 0
  · rw [if_pos whole]
    exact fun _ => if_neg wide
  · rw [if_neg whole]
    exact fun _ => rfl

def World.reads (after before : World σ) : List EntryRead :=
  (after.since before).filterMap Event.read?

/-- These reads, and no others, are made between two worlds. -/
def World.ReadsOnly (reads : List EntryRead) (a b : World σ) : Prop :=
  ∃ events, b.history = a.history ++ events ∧ events.filterMap Event.read? = reads

namespace World.ReadsOnly

variable {first second : List EntryRead}

theorem refl (a : World σ) : ReadsOnly [] a a := ⟨[], (List.append_nil _).symm, rfl⟩

theorem trans (left : ReadsOnly first a b) (right : ReadsOnly second b c) :
    ReadsOnly (first ++ second) a c := by
  obtain ⟨events, history, rfl⟩ := left
  obtain ⟨more, history', rfl⟩ := right
  refine ⟨events ++ more, ?_, List.filterMap_append⟩
  rw [history', history, List.append_assoc]

theorem of_quiet (quiet : Quiet a b) : ReadsOnly [] a b := by
  obtain ⟨events, history, silent⟩ := quiet.silent
  exact ⟨events, history, Event.filterMap_read?_of_silent silent⟩

theorem of_asked {call : Call} (asked : Asked network call a b) :
    ReadsOnly (Event.read? (.exchange call (network.answer call a.network).1)).toList a b := by
  obtain ⟨front, back, history, silent⟩ := asked.history
  refine ⟨_, history, ?_⟩
  have quietFront : front.filterMap Event.read? = [] :=
    Event.filterMap_read?_of_silent fun event member =>
      silent event (List.mem_append_left _ member)
  have quietBack : back.filterMap Event.read? = [] :=
    Event.filterMap_read?_of_silent fun event member =>
      silent event (List.mem_append_right _ member)
  rw [List.filterMap_append, quietFront, List.nil_append, List.filterMap_cons, quietBack]
  cases Event.read? (.exchange call (network.answer call a.network).1) <;> rfl

theorem reads_eq (made : ReadsOnly first a b) : b.reads a = first := by
  obtain ⟨events, history, rfl⟩ := made
  rw [World.reads, since_eq history]

end World.ReadsOnly

namespace Groups

def isHidden (report : Option Report) : Bool :=
  (Query.codeOf report).any (Query.noSuchObject :: Query.unreadableCodes).contains

/-- What becomes of a group that a member lists, by the answer to the read of its entry. -/
def kept : EntryRead → Except Failure Entry
  | (q, .error fault) =>
    .error (if fault.isDirectory then .search (.failed q.base q.filter fault) else .outside fault)
  | (q, .ok reply) =>
    if isHidden reply.report then .ok ⟨q.base, .empty⟩
    else if Query.codeOf reply.report = some Query.success ∨
        Query.codeOf reply.report = some Query.sizeLimitExceeded then
      match Item.entries reply.items with
      | [] => .ok ⟨q.base, .empty⟩
      | [group] => .ok group
      | _ => .error (.search (.ambiguous q.filter q.base))
    else .error (.search (.refused q.base q.filter (Query.descriptionOf reply.report)))

def nameQuery (m : GroupMapping) (name : String) : Query where
  base := name
  filter := SearchRequest.anyEntry
  scope := .base
  attributes := some m.groupAttributes
  sizeLimit := 0
  timeLimit := 0

/-- The groups that list a member, as the member search finds them: none where the mapping has no
such search or the member lacks an attribute that it needs. -/
def listersFound (c : Connector) (m : GroupMapping) (session : Session) (member : Entry)
    (network : Network σ) (world : World σ) : Except Failure (List Entry) :=
  match m.listing with
  | none => .ok []
  | some search =>
    match search.names.mapM (parameter member) with
    | .error _ => .ok []
    | .ok values =>
      let request : SearchRequest :=
        ⟨search.base, search.request, values, m.groupAttributes, .subtree, c.server.limits⟩
      (request.findings session network world).all

variable {c : Connector} {m : GroupMapping} {session : Session} {member : Entry}

/-! ## Groups by name -/

/-- What a group is taken for, by how the search for its entry ended. -/
def taken (name : String) : Except Failure (Option Entry) → Except Failure Entry
  | .ok entry => .ok (entry.getD ⟨name, .empty⟩)
  | .error (.search error) =>
    if error.isUnreadable then .ok ⟨name, .empty⟩ else .error (.search error)
  | .error failure => .error failure

theorem run_named (m : GroupMapping) (session : Session) (name : String) :
    ((named m session name).run network world).1 =
      taken name (((SearchRequest.ofName name m.groupAttributes).unique session).run
        network world).1 := by
  rw [named, SearchRequest.readEntry, bind_assoc, run_attempt_bind]
  match (((SearchRequest.ofName name m.groupAttributes).unique session).run network world).1 with
  | .ok entry => rfl
  | .error failure =>
    cases failure with
    | search error =>
      dsimp only [taken]
      split <;> rfl
    | _ => rfl

theorem refusal?_of_hidden (q : Query) {report : Option Report} (hidden : isHidden report = true) :
    ∃ error, q.refusal? report = some error ∧ error.isUnreadable = true := by
  obtain ⟨code, reported, member⟩ := (Option.any_eq_true _ _).mp hidden
  rw [Query.refusal?, reported]
  by_cases absent : code = Query.noSuchObject
  · exact ⟨_, if_pos (congrArg some absent), rfl⟩
  · have unreadable : (some code).any Query.unreadableCodes.contains = true :=
      List.contains_iff_mem.mpr
        ((List.mem_cons.mp (List.contains_iff_mem.mp member)).resolve_left absent)
    refine ⟨.unreadable q.base (Query.descriptionOf report), ?_, rfl⟩
    rw [if_neg (absent <| Option.some.inj ·), if_pos unreadable]

theorem refusal?_of_other (q : Query) {report : Option Report} (shown : ¬ isHidden report = true)
    (unusable : ¬ (Query.codeOf report = some Query.success ∨
      Query.codeOf report = some Query.sizeLimitExceeded)) :
    q.refusal? report = some (.refused q.base q.filter (Query.descriptionOf report)) := by
  have present : Query.codeOf report ≠ some Query.noSuchObject := by
    intro absent
    rw [isHidden, absent] at shown
    exact shown rfl
  have readable : ¬ (Query.codeOf report).any Query.unreadableCodes.contains = true := by
    intro unreadable
    obtain ⟨code, reported, member⟩ := (Option.any_eq_true _ _).mp unreadable
    refine shown ((Option.any_eq_true _ _).mpr ⟨code, reported, ?_⟩)
    exact List.contains_iff_mem.mpr (List.mem_cons_of_mem _ (List.contains_iff_mem.mp member))
  rw [Query.refusal?, if_neg present, if_neg readable, if_neg (by simpa using unusable)]

/-- Entries, refusals and ambiguity taken together are what the read comes to. -/
theorem taken_wholeFindings (q : Query) (answer : Except Fault SearchReply) :
    taken q.base ((q.wholeFindings answer).unique (.search (.ambiguous q.filter q.base))) =
      kept (q, answer) := by
  cases answer with
  | error fault =>
    rw [kept, Query.wholeFindings]
    cases fault.isDirectory <;> rfl
  | ok reply =>
    rw [kept, Query.wholeFindings]
    by_cases hidden : isHidden reply.report = true
    · obtain ⟨error, refused, unreadable⟩ := refusal?_of_hidden q hidden
      rw [refused, if_pos hidden]
      exact if_pos unreadable
    rw [if_neg hidden]
    by_cases usable : Query.codeOf reply.report = some Query.success ∨
        Query.codeOf reply.report = some Query.sizeLimitExceeded
    · rw [Query.refusal?_eq_none_iff.mpr usable, if_pos usable]
      rcases Item.entries reply.items with _ | ⟨group, _ | ⟨other, more⟩⟩ <;> rfl
    · rw [refusal?_of_other q hidden usable, if_neg usable]
      rfl

theorem named_outcome (network : Network σ) (isOpen : session.IsOpen world) (m : GroupMapping)
    (name : String) :
    ((named m session name).run network world).1 =
      kept (nameQuery m name,
        (network.answer (.search session.connection (nameQuery m name)) world.network).1) := by
  have valid := SearchRequest.ofName_filter name m.groupAttributes
  have ambiguity : (SearchRequest.ofName name m.groupAttributes).ambiguity =
      .search (.ambiguous SearchRequest.anyEntry name) := by
    rw [SearchRequest.ambiguity, valid]
    rfl
  have found : (SearchRequest.ofName name m.groupAttributes).findings session network world =
      (nameQuery m name).wholeFindings
        (network.answer (.search session.connection (nameQuery m name)) world.network).1 := by
    rw [SearchRequest.findings_of_filter valid, Cursor.left_of_open rfl isOpen]
    rfl
  rw [run_named, SearchRequest.unique_outcome, ambiguity, found]
  exact taken_wholeFindings (nameQuery m name) _

theorem named_asked (network : Network σ) (isOpen : session.IsOpen world) (m : GroupMapping)
    (name : String) :
    Asked network (.search session.connection (nameQuery m name)) world
      ((named m session name).run network world).2 :=
  (SearchRequest.readEntry_asked isOpen name m.groupAttributes).bind fun _ _ _ => .pure _

/-! ## All values -/

/-- The reads for names, in order: what they come to is the outcome, and they end where one
fails. -/
structure Names (m : GroupMapping) (names : List String) (reads : List EntryRead)
    (outcome : Except Failure (List Entry)) : Prop where
  outcome_eq : outcome = reads.mapM kept
  asked : reads.map (·.1) <+: names.map (nameQuery m)
  complete : ∀ groups, outcome = .ok groups → reads.map (·.1) = names.map (nameQuery m)
  failed_iff : ∀ failure, outcome = .error failure ↔ ∃ read ∈ reads, kept read = .error failure

namespace Names

variable {name : String} {names : List String} {reads : List EntryRead}
  {answer : Except Fault SearchReply} {outcome : Except Failure (List Entry)}

theorem nil (m : GroupMapping) : Names m [] [] (.ok []) := by
  refine ⟨rfl, List.prefix_refl _, fun _ _ => rfl, fun failure => ?_⟩
  simp

theorem failed {failure : Failure} (failed : kept (nameQuery m name, answer) = .error failure) :
    Names m (name :: names) [(nameQuery m name, answer)] (.error failure) := by
  refine ⟨?_, ?_, fun _ same => (nomatch same), fun other => ?_⟩
  · rw [List.mapM_cons, failed]
    rfl
  · exact (List.prefix_cons_inj _).mpr List.nil_prefix
  · simp [failed]

theorem cons {group : Entry} (first : kept (nameQuery m name, answer) = .ok group)
    (rest : Names m names reads outcome) :
    Names m (name :: names) ((nameQuery m name, answer) :: reads)
      (outcome.map (group :: ·)) := by
  refine ⟨?_, (List.prefix_cons_inj _).mpr rest.asked, fun groups same => ?_, fun failure => ?_⟩
  · rw [List.mapM_cons, first, rest.outcome_eq]
    cases reads.mapM kept <;> rfl
  · cases outcome with
    | error failure => cases same
    | ok groups => exact congrArg (nameQuery m name :: ·) (rest.complete groups rfl)
  · have later := rest.failed_iff failure
    simp only [List.mem_cons, exists_eq_or_imp, first, reduceCtorEq, false_or, ← later]
    cases outcome <;> simp [Except.map]

end Names

/-- One read is made for each name, until one fails. -/
theorem mapM_named (isOpen : session.IsOpen world) (m : GroupMapping) (names : List String) :
    ∃ reads, World.ReadsOnly reads world ((names.mapM (named m session)).run network world).2 ∧
      Names m names reads ((names.mapM (named m session)).run network world).1 := by
  induction names generalizing world with
  | nil => exact ⟨[], .refl _, .nil m⟩
  | cons name names ih =>
    have first := named_outcome network isOpen m name
    have asked := named_asked network isOpen m name
    have made := World.ReadsOnly.of_asked asked
    rw [List.mapM_cons]
    rcases ran : (named m session name).run network world with ⟨outcome, next⟩
    rw [ran] at first asked made
    cases outcome with
    | error failure =>
      rw [run_bind_of_error ran]
      exact ⟨_, made, .failed first.symm⟩
    | ok group =>
      obtain ⟨reads, more, names⟩ := ih ((asked.isOpen_iff session).mpr isOpen)
      rw [run_bind_of_ok ran, run_bind_pure]
      exact ⟨_, made.trans more, .cons first.symm names⟩

/-! ## Direct groups -/

def listers (c : Connector) (m : GroupMapping) (session : Session) (member : Entry) :
    Operation σ (List Entry) :=
  match m.listing with
  | some search => listing c m search session member
  | none => pure []

theorem direct_eq (c : Connector) (m : GroupMapping) (session : Session) (member : Entry) :
    (direct c m session member : Operation σ (List Entry)) =
      listers c m session member >>= fun listing =>
        listedBy m session member >>= fun named => pure (listing ++ named) := by
  rw [direct, listers]
  cases m.listing <;> rfl

theorem listedBy_eq {source : String} (memberOf : m.memberOf = some source) (session : Session)
    (member : Entry) :
    (listedBy m session member : Operation σ (List Entry)) =
      (member.values source).mapM (named m session) := by
  rw [listedBy, memberOf]

theorem listers_outcome (network : Network σ) (world : World σ) (c : Connector) (m : GroupMapping)
    (session : Session) (member : Entry) :
    ((listers c m session member).run network world).1 =
      listersFound c m session member network world := by
  rw [listers, listersFound]
  cases m.listing with
  | none => rfl
  | some search =>
    dsimp only
    rw [listing, parameters]
    cases search.names.mapM (parameter member) with
    | error name => rfl
    | ok values => exact SearchRequest.all_outcome _ session

/-- The search for the groups that list a member sends nothing, or one request that reads no
entry by its name. -/
theorem listers_send (c : Connector) (m : GroupMapping) (session : Session) (member : Entry) :
    (∀ (network : Network σ) world, session.IsOpen world →
      Quiet world ((listers c m session member).run network world).2) ∨
    ∃ call, (∀ answer, Event.read? (.exchange call answer) = none) ∧
      ∀ (network : Network σ) world, session.IsOpen world →
        Asked network call world ((listers c m session member).run network world).2 := by
  rw [listers]
  cases m.listing with
  | none => exact .inl fun _ world _ => .refl world
  | some search =>
    dsimp only
    rw [listing, parameters]
    cases search.names.mapM (parameter member) with
    | error name => exact .inl fun _ world _ => .noted world rfl
    | ok values =>
      let request : SearchRequest :=
        ⟨search.base, search.request, values, m.groupAttributes, .subtree, c.server.limits⟩
      cases valid : request.filter with
      | error failure =>
        refine .inl fun network world _ => ?_
        have failed : (request.all session).run network world = (.error failure, world) :=
          run_bind_of_error (SearchRequest.run_start_of_failure valid session)
        exact (congrArg (Quiet world ·.2) failed).mpr (.refl world)
      | ok filter =>
        exact .inr ⟨_, Cursor.read?_call (by decide : Scope.subtree ≠ .base),
          fun network world isOpen => SearchRequest.all_asked valid isOpen⟩

theorem listers_keeps_open (network : Network σ) (isOpen : session.IsOpen world)
    (c : Connector) (m : GroupMapping) (member : Entry) :
    ReadsOnly [] world ((listers c m session member).run network world).2 ∧
      session.IsOpen ((listers c m session member).run network world).2 := by
  rcases listers_send (σ := σ) c m session member with quiet | ⟨call, other, asked⟩
  · have silent := quiet network world isOpen
    exact ⟨.of_quiet silent, (silent.isOpen_iff session).mpr isOpen⟩
  · have sent := asked network world isOpen
    have made := ReadsOnly.of_asked sent
    rw [other] at made
    exact ⟨made, (sent.isOpen_iff session).mpr isOpen⟩

/-- How direct groups end: the member search fails and nothing is read, or there is a read for each
name until one fails. -/
inductive Ends (m : GroupMapping) (names : List String) :
    Except Failure (List Entry) → List EntryRead → Except Failure (List Entry) → Prop
  | unlisted (failure : Failure) : Ends m names (.error failure) [] (.error failure)
  | listed (listing : List Entry) {reads : List EntryRead} {named : Except Failure (List Entry)}
      (read : Names m names reads named) :
      Ends m names (.ok listing) reads (named.map (listing ++ ·))

namespace Ends

variable {names : List String} {found outcome : Except Failure (List Entry)}
  {reads : List EntryRead}

theorem eq_ok_iff (ends : Ends m names found reads outcome) (groups : List Entry) :
    outcome = .ok groups ↔ ∃ listing named, found = .ok listing ∧
      reads.map (·.1) = names.map (nameQuery m) ∧ reads.mapM kept = .ok named ∧
        groups = listing ++ named := by
  cases ends with
  | unlisted failure => simp
  | @listed listing reads outcome read =>
    constructor
    · intro same
      cases outcome with
      | error failure => cases same
      | ok named =>
        cases same
        exact ⟨listing, named, rfl, read.complete named rfl, read.outcome_eq.symm, rfl⟩
    · rintro ⟨_, named, same, -, gave, rfl⟩
      cases same
      rw [read.outcome_eq, gave]
      rfl

theorem eq_error_iff (ends : Ends m names found reads outcome) (failure : Failure) :
    outcome = .error failure ↔
      found = .error failure ∨ ∃ read ∈ reads, kept read = .error failure := by
  cases ends with
  | unlisted failure => simp
  | @listed listing reads outcome read =>
    rw [← read.failed_iff]
    cases outcome <;> simp [Except.map]

end Ends

/-- The groups that list the member come first, then those that it lists. -/
theorem direct_ends_as {source : String} (memberOf : m.memberOf = some source)
    (isOpen : session.IsOpen world) :
    Ends m (member.values source) (listersFound c m session member network world)
      (((direct c m session member).run network world).2.reads world)
      ((direct c m session member).run network world).1 := by
  have found := listers_outcome network world c m session member
  obtain ⟨none, stillOpen⟩ := listers_keeps_open network isOpen c m member
  rw [direct_eq, listedBy_eq memberOf, ← found]
  rcases ran : (listers c m session member).run network world with ⟨outcome, next⟩
  rw [ran] at none stillOpen
  cases outcome with
  | error failure =>
    rw [run_bind_of_error ran, none.reads_eq]
    exact .unlisted failure
  | ok listing =>
    obtain ⟨reads, made, read⟩ := mapM_named stillOpen m (member.values source)
    rw [run_bind_of_ok ran, run_bind_pure, (none.trans made).reads_eq]
    exact .listed listing read

/-! ## Answers that are withheld -/

/-- The network, but that some reads of entries by name are answered in another way. -/
def withholding (network : Network σ) (withheld : Query → σ → Option SearchReply) : Network σ where
  answer
    | .search connection q, state =>
      let other := if q.scope = .base then withheld q state else none
      ((other.map .ok).getD (network.answer (.search connection q) state).1,
        (network.answer (.search connection q) state).2)
    | call, state => network.answer call state
  bound := network.bound

def OnlyHides (withheld : Query → σ → Option SearchReply) : Prop :=
  ∀ q state reply, withheld q state = some reply → isHidden reply.report = true

/-- Two worlds in which the network has the same state and the same sessions are closed. -/
structure Level (a b : World σ) : Prop where
  network : b.network = a.network
  closed : b.closed = a.closed

variable {withheld : Query → σ → Option SearchReply}

theorem withholding_state (network : Network σ) (withheld : Query → σ → Option SearchReply)
    (call : Call) (state : σ) :
    ((withholding network withheld).answer call state).2 = (network.answer call state).2 := by
  cases call <;> rfl

namespace Level

theorem isOpen_iff (level : Level a b) (s : Session) : s.IsOpen b ↔ s.IsOpen a := by
  rw [Session.IsOpen, Session.IsOpen, level.closed]

/-- Worlds that are level stay so where nothing is asked, -/
theorem quiet {a' b' : World σ} (level : Level a b) (left : Quiet a a') (right : Quiet b b') :
    Level a' b' := by
  refine ⟨?_, ?_⟩
  · rw [left.network, right.network, level.network]
  · rw [left.closed, right.closed, level.closed]

/-- and where the same is asked. -/
theorem asked {call : Call} {a' b' : World σ} (level : Level a b) (left : Asked network call a a')
    (right : Asked (withholding network withheld) call b b') : Level a' b' := by
  refine ⟨?_, ?_⟩
  · rw [left.network_eq, right.network_eq, withholding_state, level.network]
  · rw [left.closed_eq, right.closed_eq, level.closed]

end Level

/-- A group is read as before, or is withheld. -/
theorem named_withholding (only : OnlyHides withheld) (level : Level a b)
    (isOpen : session.IsOpen a) (m : GroupMapping) (name : String) {group : Entry}
    (read : ((named m session name).run network a).1 = .ok group) :
    ∃ group', ((named m session name).run (withholding network withheld) b).1 = .ok group' ∧
      (group' = group ∨ group' = ⟨name, .empty⟩) := by
  have first := named_outcome network isOpen m name
  have second := named_outcome (withholding network withheld)
    ((level.isOpen_iff session).mpr isOpen) m name
  have answer : ((withholding network withheld).answer
        (.search session.connection (nameQuery m name)) a.network).1 =
      ((withheld (nameQuery m name) a.network).map .ok).getD
        (network.answer (.search session.connection (nameQuery m name)) a.network).1 := rfl
  rw [second, level.network, answer]
  cases hidden : withheld (nameQuery m name) a.network with
  | none => exact ⟨group, first.symm.trans read, .inl rfl⟩
  | some reply => exact ⟨⟨name, .empty⟩, if_pos (only _ _ _ hidden), .inr rfl⟩

theorem mapM_named_withholding (only : OnlyHides withheld) (level : Level a b)
    (isOpen : session.IsOpen a) (m : GroupMapping) (names : List String) {groups : List Entry}
    (read : ((names.mapM (named m session)).run network a).1 = .ok groups) :
    ∃ groups',
      ((names.mapM (named m session)).run (withholding network withheld) b).1 = .ok groups' ∧
        List.Forall₂ (fun group group' => group' = group ∨ ∃ name ∈ names, group' = ⟨name, .empty⟩)
          groups groups' := by
  induction names generalizing a b groups with
  | nil =>
    cases read
    exact ⟨[], rfl, .nil⟩
  | cons name names ih =>
    rw [List.mapM_cons] at read ⊢
    have asked := named_asked network isOpen m name
    have asked' := named_asked (withholding network withheld)
      ((level.isOpen_iff session).mpr isOpen) m name
    obtain ⟨group, next, ran, read⟩ := run_bind_eq_ok (Prod.ext read rfl)
    obtain ⟨rest, last, ranRest, same⟩ := run_bind_eq_ok read
    cases same
    obtain ⟨group', first, alike⟩ :=
      named_withholding only level isOpen m name (congrArg Prod.fst ran)
    rw [ran] at asked
    have levelNext := level.asked asked asked'
    obtain ⟨rest', second, alikeRest⟩ := ih levelNext ((asked.isOpen_iff session).mpr isOpen)
      (congrArg Prod.fst ranRest)
    refine ⟨group' :: rest', ?_, .cons ?_ ?_⟩
    · rw [run_bind_of_ok (Prod.ext first rfl), run_bind_pure, second]
      rfl
    · exact alike.imp_right fun kept => ⟨name, List.mem_cons_self, kept⟩
    · refine alikeRest.imp fun _ _ => Or.imp_right ?_
      exact fun ⟨other, member, kept⟩ => ⟨other, List.mem_cons_of_mem _ member, kept⟩

/-- The search for the groups that list a member is no read, and answered as before. -/
theorem listersFound_withholding (level : Level a b) (c : Connector) (m : GroupMapping)
    (session : Session) (member : Entry) :
    listersFound c m session member (withholding network withheld) b =
      listersFound c m session member network a := by
  rw [listersFound, listersFound]
  cases m.listing with
  | none => rfl
  | some search =>
    dsimp only
    cases search.names.mapM (parameter member) with
    | error name => rfl
    | ok values =>
      dsimp only
      rw [SearchRequest.findings, SearchRequest.findings]
      split
      · rfl
      · rw [Cursor.left, Cursor.left, level.network, level.closed]
        rfl

theorem direct_withholding {source : String} (memberOf : m.memberOf = some source)
    (only : OnlyHides withheld) (isOpen : session.IsOpen world) {groups : List Entry}
    (ran : ((direct c m session member).run network world).1 = .ok groups) :
    ∃ groups', ((direct c m session member).run (withholding network withheld) world).1 =
        .ok groups' ∧
      List.Forall₂ (fun group group' =>
        group' = group ∨ ∃ name ∈ member.values source, group' = ⟨name, .empty⟩)
          groups groups' := by
  have found' := listers_outcome (withholding network withheld) world c m session member
  rw [listersFound_withholding ⟨rfl, rfl⟩ c m session member,
    ← listers_outcome network world c m session member] at found'
  have level : Level ((listers c m session member).run network world).2
      ((listers c m session member).run (withholding network withheld) world).2 := by
    rcases listers_send (σ := σ) c m session member with quiet | ⟨call, -, asked⟩
    · exact Level.quiet ⟨rfl, rfl⟩ (quiet _ world isOpen) (quiet _ world isOpen)
    · exact Level.asked ⟨rfl, rfl⟩ (asked _ world isOpen) (asked _ world isOpen)
  have stillOpen := (listers_keeps_open network isOpen c m member).2
  rw [direct_eq, listedBy_eq memberOf] at ran ⊢
  obtain ⟨listing, next, first, ran⟩ := run_bind_eq_ok (Prod.ext ran rfl)
  obtain ⟨named, last, read, same⟩ := run_bind_eq_ok ran
  cases same
  rw [first] at found' level stillOpen
  obtain ⟨named', read', alike⟩ :=
    mapM_named_withholding only level stillOpen m _ (congrArg Prod.fst read)
  dsimp only at found'
  refine ⟨listing ++ named', ?_, List.rel_append ?_ alike⟩
  · rw [run_bind_of_ok (Prod.ext found' rfl), run_bind_pure, read']
    rfl
  · exact List.forall₂_same.mpr fun _ _ => .inl rfl

/-! ## Closed sessions -/

theorem named_closed (network : Network σ) (closed : ¬ session.IsOpen world) (m : GroupMapping)
    (name : String) :
    ((named m session name).run network world).1 =
      .error (.search (.closed session.server name)) := by
  have found : (SearchRequest.ofName name m.groupAttributes).findings session network world =
      .failed (.search (.closed session.server name)) := by
    rw [SearchRequest.findings_of_filter (SearchRequest.ofName_filter name m.groupAttributes)]
    exact (Cursor.run_started_of_closed network rfl closed).2
  rw [run_named, SearchRequest.unique_outcome, found]
  rfl

/-- On a closed session, the first group that the member lists cannot be asked for. -/
theorem direct_closed {source : String} (memberOf : m.memberOf = some source)
    (closed : ¬ session.IsOpen world) :
    ((direct c m session member).run network world).1 = (do
      let listing ← listersFound c m session member network world
      match member.values source with
      | [] => return listing
      | name :: _ => throw (.search (.closed session.server name))) := by
  have found := listers_outcome network world c m session member
  have searched : Keeps network (Searched network session.connection)
      (listers c m session member) := by
    rw [listers]
    cases m.listing with
    | none => exact .pure _
    | some search => exact listing_searched c m search session member
  have steps := searched.callsOnly world
  have stillClosed : ¬ session.IsOpen ((listers c m session member).run network world).2 := by
    rwa [Session.IsOpen, World.Steps.closed_eq (fun _ => id) steps]
  rw [direct_eq, listedBy_eq memberOf]
  rcases ran : (listers c m session member).run network world with ⟨outcome, next⟩
  rw [ran] at found stillClosed
  rw [← found]
  cases outcome with
  | error failure =>
    rw [run_bind_of_error ran]
    rfl
  | ok listing =>
    rw [run_bind_of_ok ran, run_bind_pure]
    cases member.values source with
    | nil => exact congrArg Except.ok (List.append_nil listing)
    | cons name names =>
      have first := named_closed network stillClosed m name
      dsimp only at first ⊢
      rw [List.mapM_cons, run_bind_of_error (Prod.ext first rfl)]
      rfl

/-! ## Direct groups of a member that lists groups -/

/-- Unreadable groups are kept. With a member that lists its groups, the direct groups are those
that its member search finds, in order, and behind them one for each value, in order: the entry that
was read, or none but the name where there is no such entry or it may not be read. Nothing but the
member search and the other answers to reads is a failure, so that no answer that hides a group
makes direct groups fail. On a closed session, the first value is a failure. -/
theorem direct_keeps_unreadable (network : Network σ) (world : World σ) (c : Connector)
    {source : String} (memberOf : m.memberOf = some source) (session : Session) (member : Entry) :
    let names := member.values source
    let ran := (direct c m session member).run network world
    let found := listersFound c m session member network world
    let reads := ran.2.reads world
    (session.IsOpen world →
      (∀ groups, ran.1 = .ok groups ↔ ∃ listing named, found = .ok listing ∧
        reads.map (·.1) = names.map (nameQuery m) ∧ reads.mapM kept = .ok named ∧
          groups = listing ++ named) ∧
      (∀ failure, ran.1 = .error failure ↔
        found = .error failure ∨ ∃ read ∈ reads, kept read = .error failure) ∧
      ∀ withheld groups, OnlyHides withheld → ran.1 = .ok groups → ∃ groups',
        ((direct c m session member).run (withholding network withheld) world).1 = .ok groups' ∧
          List.Forall₂ (fun group group' =>
            group' = group ∨ ∃ name ∈ names, group' = ⟨name, .empty⟩) groups groups') ∧
    (¬ session.IsOpen world →
      ran.1 = do
        let listing ← found
        match names with
        | [] => return listing
        | name :: _ => throw (.search (.closed session.server name))) := by
  intro names ran found reads
  refine ⟨fun isOpen => ?_, direct_closed memberOf⟩
  have ends : Ends m names found reads ran.1 := direct_ends_as memberOf isOpen
  exact ⟨ends.eq_ok_iff, ends.eq_error_iff, fun _ _ only gave =>
    direct_withholding memberOf only isOpen gave⟩

section Rehearsal

open Rehearsal

def bothWays : GroupMapping :=
  ⟨some ⟨"dc=g", "(member=\x7b0\x7d)", ["dn"]⟩, some "memberOf", "cn", false⟩

/-- One group lists the user. Of three that the user lists, one is there, one is not, and one may
not be read. -/
def partlyHidden : Script :=
  let reading (name : String) (code : Int) (items : List Item) : Script.Rule :=
    { Script.Rule.empty with
      base := some name
      report := some ⟨some (some code), none, none⟩
      items := items }
  script { Script.Directory.empty with
    rules := [
      reading "dc=g" Query.success [item (some "l") [("cn", "w")]],
      reading "a" Query.success [item (some "a") [("cn", "x")]],
      reading "b" Query.noSuchObject [],
      reading "c" 50 []] }

/-- All four groups are there, and they still are where no group may be read. -/
theorem direct_keeps_unreadable_partly_hidden :
    let c : Connector := ⟨server .simple .none (some bothWays)⟩
    let s := Rehearsal.session c.server
    let user : Entry := ⟨"u", .ofList [("memberOf", ["a", "b", "c"])]⟩
    let ran := (direct c bothWays s user).run Script.network (.start partlyHidden)
    let groups : List Entry := [⟨"l", .ofList [("cn", ["w"])]⟩, ⟨"a", .ofList [("cn", ["x"])]⟩,
      ⟨"b", .empty⟩, ⟨"c", .empty⟩]
    let referral : SearchReply := ⟨some ⟨some (some 10), none, none⟩, []⟩
    bothWays.memberOf = some "memberOf" ∧ s.IsOpen (.start partlyHidden) ∧
      OnlyHides (σ := Script) (fun _ _ => some referral) ∧ ran.1 = .ok groups ∧
      (ran.2.reads (.start partlyHidden)).map (·.1) =
        ["a", "b", "c"].map (nameQuery bothWays) ∧
      ∃ groups', ((direct c bothWays s user).run
        (withholding Script.network fun _ _ => some referral) (.start partlyHidden)).1 =
          .ok groups' := by
  intro c s user ran groups referral
  have isOpen : s.IsOpen (.start partlyHidden) := fun closed => nomatch closed
  have only : OnlyHides (σ := Script) fun _ _ => some referral := by
    rintro _ _ _ ⟨⟩
    rfl
  have gave : ran.1 = .ok groups := eq_ok_of_toOption (by decide +kernel)
  obtain ⟨gives, -, keeps⟩ := (direct_keeps_unreadable Script.network (.start partlyHidden) c
    (show bothWays.memberOf = some "memberOf" from rfl) s user).1 isOpen
  obtain ⟨_, _, -, reads, -, -⟩ := (gives groups).mp gave
  obtain ⟨groups', gave', -⟩ := keeps _ groups only gave
  exact ⟨rfl, isOpen, only, gave, reads, groups', gave'⟩

end Rehearsal

end Groups

end DirectoryAuth

import DirectoryAuth.Lookup
import DirectoryAuth.Proofs.Network.Rehearsal
import DirectoryAuth.Proofs.Search.Findings

/-!
# Unique entries

When a lookup of one entry gives an answer, and what that answer is worth. The lookup looks at
every item of an answer, so that it never picks one of several entries that the directory sent. It
takes less care of whether the directory sent them all. A whole answer that was cut short by the
size limit counts like a complete one. Of an answer in pages the report is never read: it may say
that the answer was cut short, or that the search failed.
-/

namespace DirectoryAuth

variable {σ : Type} {network : Network σ} {world : World σ}

/-- What a directory says of an answer: that it holds all that was found, that it was cut short by a
size limit, or that the search failed. -/
inductive Extent where
  | complete | cutShort | failed
  deriving DecidableEq, Repr

def Extent.ofReport (report : Option Report) : Extent :=
  if Query.codeOf report = some Query.success then .complete
  else if Query.codeOf report = some Query.sizeLimitExceeded then .cutShort
  else .failed

/-- The items with which a directory answers a request, whatever it says of them. A paged answer has
come to its end. -/
inductive SearchRequest.Answer (r : SearchRequest) (session : Session) (network : Network σ)
    (world : World σ) : List Item → Extent → Prop
  | whole {filter : String} {reply : SearchReply} (valid : r.filter = .ok filter)
      (unpaged : r.limits.page = 0)
      (answered : (network.answer (.search session.connection (r.query filter)) world.network).1 =
        .ok reply) :
      Answer r session network world reply.items (.ofReport reply.report)
  | pages {filter : String} {report : Option Report} {items : List Item}
      (valid : r.filter = .ok filter) (paged : r.limits.page ≠ 0)
      (answered : (network.answer (.pagedSearch session.connection (r.query filter) r.limits.page)
        world.network).1 = .ok ⟨report, items, none⟩) :
      Answer r session network world items (.ofReport report)

/-- An answer is used unless it is a whole one of a search that failed. -/
def SearchRequest.Uses (r : SearchRequest) (extent : Extent) : Prop :=
  r.limits.page = 0 → extent ≠ .failed

theorem Extent.ofReport_ne_failed_iff {report : Option Report} :
    ofReport report ≠ .failed ↔
      Query.codeOf report = some Query.success ∨
        Query.codeOf report = some Query.sizeLimitExceeded := by
  rw [ofReport]
  by_cases complete : Query.codeOf report = some Query.success
  · simp [complete]
  · by_cases cut : Query.codeOf report = some Query.sizeLimitExceeded
    · rw [if_neg complete, if_pos cut]
      simp [cut]
    · simp [complete, cut]

theorem Query.refusal?_eq_none_iff {q : Query} {report : Option Report} :
    q.refusal? report = none ↔
      codeOf report = some success ∨ codeOf report = some sizeLimitExceeded := by
  unfold refusal?
  constructor
  · intro h
    dsimp only at h
    split at h
    · cases h
    · split at h
      · cases h
      · split at h
        · rename_i accepted
          simpa using accepted
        · cases h
  · rintro (code | code)
    · rw [code]
      rfl
    · rw [code]
      rfl

theorem Findings.unique_eq_ok_iff {f : Findings} {ambiguous : Failure} {found : Option Entry} :
    f.unique ambiguous = .ok found ↔ f = ⟨found.toList, none⟩ := by
  obtain ⟨entries, failure⟩ := f
  match entries, failure with
  | _ :: _ :: _, _ => cases found <;> simp [unique]
  | [], some failure => simp [unique]
  | [_], some failure => simp [unique]
  | [], none => cases found <;> simp [unique]
  | [entry], none => cases found <;> simp [unique]

theorem Query.wholeFindings_complete_iff {q : Query} {answer : Except Fault SearchReply}
    {entries : List Entry} :
    q.wholeFindings answer = ⟨entries, none⟩ ↔ ∃ reply, answer = .ok reply ∧
      Extent.ofReport reply.report ≠ .failed ∧ Item.entries reply.items = entries := by
  cases answer with
  | error fault => simp [wholeFindings, Findings.failed]
  | ok reply =>
    rw [wholeFindings]
    constructor
    · intro h
      cases refused : q.refusal? reply.report with
      | some error =>
        rw [refused] at h
        cases h
      | none =>
        rw [refused] at h
        cases h
        have accepted := refusal?_eq_none_iff.mp refused
        exact ⟨reply, rfl, Extent.ofReport_ne_failed_iff.mpr accepted, rfl⟩
    · rintro ⟨_, same, accepted, rfl⟩
      cases same
      rw [refusal?_eq_none_iff.mpr (Extent.ofReport_ne_failed_iff.mp accepted)]

theorem Query.pagedFindings_complete_iff {q : Query} {answer : Except Fault PagedReply}
    {entries : List Entry} :
    q.pagedFindings answer = ⟨entries, none⟩ ↔
      ∃ report items, answer = .ok ⟨report, items, none⟩ ∧ Item.entries items = entries := by
  cases answer with
  | error fault => simp [pagedFindings, Findings.failed]
  | ok reply =>
    obtain ⟨report, items, fault⟩ := reply
    cases fault with
    | none => simp [pagedFindings]
    | some fault => simp [pagedFindings]

/-- A request comes to its end exactly where its session is open and there is an answer that it
uses. -/
theorem SearchRequest.findings_complete_iff {r : SearchRequest} {session : Session}
    {entries : List Entry} :
    r.findings session network world = ⟨entries, none⟩ ↔
      session.IsOpen world ∧ ∃ items extent, r.Answer session network world items extent ∧
        r.Uses extent ∧ Item.entries items = entries := by
  constructor
  · intro h
    cases valid : r.filter with
    | error failure =>
      rw [findings_of_failure valid] at h
      cases h
    | ok filter =>
      rw [findings_of_filter valid] at h
      by_cases isOpen : session.IsOpen world
      · refine ⟨isOpen, ?_⟩
        rw [Cursor.left_of_open rfl isOpen] at h
        by_cases page : r.limits.page = 0
        · rw [cursor, if_pos page] at h
          obtain ⟨reply, answered, accepted, rfl⟩ := Query.wholeFindings_complete_iff.mp h
          exact ⟨_, _, .whole valid page answered, fun _ => accepted, rfl⟩
        · rw [cursor, if_neg page] at h
          obtain ⟨report, items, answered, rfl⟩ := Query.pagedFindings_complete_iff.mp h
          exact ⟨_, _, .pages valid page answered, fun unpaged => absurd unpaged page, rfl⟩
      · rw [(Cursor.run_started_of_closed network rfl isOpen).2] at h
        cases h
  · rintro ⟨isOpen, items, extent, answer, uses, rfl⟩
    cases answer with
    | whole valid page answered =>
      rw [findings_of_filter valid, Cursor.left_of_open rfl isOpen, cursor, if_pos page]
      exact Query.wholeFindings_complete_iff.mpr ⟨_, answered, uses page, rfl⟩
    | pages valid page answered =>
      rw [findings_of_filter valid, Cursor.left_of_open rfl isOpen, cursor, if_neg page]
      exact Query.pagedFindings_complete_iff.mpr ⟨_, _, answered, rfl⟩

/-- A lookup of one entry succeeds on answers to their end alone, with the only entry or none. -/
theorem SearchRequest.unique_eq_ok_iff {r : SearchRequest} {session : Session}
    {found : Option Entry} :
    ((r.unique session).run network world).1 = .ok found ↔
      session.IsOpen world ∧ ∃ items extent, r.Answer session network world items extent ∧
        r.Uses extent ∧ Item.entries items = found.toList := by
  rw [unique_outcome, Findings.unique_eq_ok_iff, findings_complete_iff]

/-- One entry is found, or none, exactly where the answer came to its end and holds no other
entries; and so is a user. A whole answer that was cut short counts like a complete one, and of a
paged one it makes no difference what the directory says of it. -/
theorem Lookup.found_iff_answer (session : Session) (found : Option Entry) :
    (∀ r : SearchRequest, ((r.unique session).run network world).1 = .ok found ↔
      session.IsOpen world ∧ ∃ items extent, r.Answer session network world items extent ∧
        r.Uses extent ∧ Item.entries items = found.toList) ∧
    (∀ c login attributes,
      ((findUser c session login attributes).run network world).1 = .ok found ↔
        session.IsOpen world ∧ ∃ items extent,
          (request c login attributes).Answer session network world items extent ∧
            (request c login attributes).Uses extent ∧ Item.entries items = found.toList) := by
  constructor
  · intro r
    exact SearchRequest.unique_eq_ok_iff
  · intro c login attributes
    exact SearchRequest.unique_eq_ok_iff

namespace Rehearsal

def coded (code : Int) : Option Report := some ⟨some (some code), none, none⟩

def saying (code : Int) (items : List Item) : Script.Rule :=
  { Script.Rule.empty with report := coded code, items := items }

/-- A directory that answers every search with a code and items, whole or in pages. -/
def answering (code : Int) (items : List Item) : Script :=
  script { Script.Directory.empty with otherwise := saying code items }

def user : Item := item (some "uid=jdoe,dc=x") []

def namesake : Item := item (some "uid=jdoe,ou=b,dc=x") []

/-- The answer of such a directory to the request for a user. -/
theorem answer_of_answering {c : Connector} {filter : String} (served : c.address = "ldap://h")
    (valid : (Lookup.request c "jdoe" []).filter.toOption = some filter) (code : Int)
    (items : List Item) :
    (Lookup.request c "jdoe" []).Answer (session c.server) Script.network
      (.start (answering code items)) items (.ofReport (coded code)) := by
  let start := World.start (answering code items)
  let r := Lookup.request c "jdoe" []
  let connection := (session c.server).connection
  have rule : (start.network.directory connection.address).rule (r.query filter) =
      saying code items := by
    change ((answering code items).directory c.address).rule _ = _
    rw [served]
    rfl
  by_cases page : r.limits.page = 0
  · have answered : (Script.network.answer (.search connection (r.query filter))
        start.network).1 = .ok ⟨coded code, items⟩ := by
      change ((start.network.directory connection.address).rule _).whole = _
      rw [rule]
      rfl
    exact .whole (Operation.eq_ok_of_toOption valid) page answered
  · have answered : (Script.network.answer (.pagedSearch connection (r.query filter) r.limits.page)
        start.network).1 = .ok ⟨coded code, items, none⟩ := by
      change Except.ok ((start.network.directory connection.address).rule _).paged = _
      rw [rule]
      rfl
    exact .pages (Operation.eq_ok_of_toOption valid) page answered

end Rehearsal

open Rehearsal

/-- The only entry of a complete answer is found, and of two entries none is. -/
theorem Lookup.found_iff_answer_namesake :
    let c : Connector := ⟨server .simple .none none⟩
    ((findUser c (session c.server) "jdoe" []).run Script.network
        (.start (answering 0 [user]))).1 = .ok (some user.entry) ∧
      ∀ found, ((findUser c (session c.server) "jdoe" []).run Script.network
        (.start (answering 0 [user, namesake]))).1 ≠ .ok found := by
  intro c
  have valid : (request c "jdoe" []).filter.toOption = some "(uid=jdoe)" := by
    decide +kernel
  constructor
  · refine ((found_iff_answer _ _).2 c "jdoe" []).mpr ⟨List.not_mem_nil, [user], .complete, ?_⟩
    exact ⟨answer_of_answering rfl valid 0 [user], nofun, rfl⟩
  · intro found given
    obtain ⟨-, items, extent, answer, -, only⟩ := ((found_iff_answer _ _).2 c "jdoe" []).mp given
    cases answer with
    | whole _ _ answered =>
      cases answered
      cases found <;> cases only
    | pages _ paged _ => exact paged rfl

/-- The one user in an answer that was cut short is taken for the only one, whether the answer is
whole or comes in pages. Where a search in pages failed, there is taken to be no user. -/
theorem Lookup.found_in_answer_cut_short :
    let whole : Connector := ⟨server .simple ⟨1, 0, 0⟩ none⟩
    let paged : Connector := ⟨server .simple ⟨1, 0, 2⟩ none⟩
    let limited := World.start (answering Query.sizeLimitExceeded [user])
    let missing := World.start (answering Query.noSuchObject [])
    ((request whole "jdoe" []).Answer (session whole.server) Script.network limited
        [user] .cutShort ∧
      ((findUser whole (session whole.server) "jdoe" []).run Script.network limited).1 =
        .ok (some user.entry)) ∧
    ((request paged "jdoe" []).Answer (session paged.server) Script.network limited
        [user] .cutShort ∧
      ((findUser paged (session paged.server) "jdoe" []).run Script.network limited).1 =
        .ok (some user.entry)) ∧
    ((request paged "jdoe" []).Answer (session paged.server) Script.network missing
        [] .failed ∧
      ((findUser paged (session paged.server) "jdoe" []).run Script.network missing).1 =
        .ok none) := by
  intro whole paged limited missing
  have valid : (request whole "jdoe" []).filter.toOption = some "(uid=jdoe)" := by
    decide +kernel
  have validPaged : (request paged "jdoe" []).filter.toOption = some "(uid=jdoe)" := by
    decide +kernel
  have cut : (request whole "jdoe" []).Answer (session whole.server) Script.network limited
      [user] .cutShort := answer_of_answering rfl valid Query.sizeLimitExceeded [user]
  have cutPages : (request paged "jdoe" []).Answer (session paged.server) Script.network limited
      [user] .cutShort := answer_of_answering rfl validPaged Query.sizeLimitExceeded [user]
  have failed : (request paged "jdoe" []).Answer (session paged.server) Script.network missing
      [] .failed := answer_of_answering rfl validPaged Query.noSuchObject []
  refine ⟨⟨cut, ?_⟩, ⟨cutPages, ?_⟩, failed, ?_⟩
  · exact SearchRequest.unique_eq_ok_iff.mpr ⟨List.not_mem_nil, _, _, cut, nofun, rfl⟩
  · exact SearchRequest.unique_eq_ok_iff.mpr ⟨List.not_mem_nil, _, _, cutPages, nofun, rfl⟩
  · exact SearchRequest.unique_eq_ok_iff.mpr ⟨List.not_mem_nil, _, _, failed, nofun, rfl⟩

end DirectoryAuth

import DirectoryAuth.Proofs.Search.Uniqueness

/-!
# Answers in pages

The answer to a search may be asked for whole or page by page, and the items are the same. A whole
answer is read only where the directory reports that the search succeeded, or that it was cut short
by the size limit. An answer in pages is read whatever is reported. So the two ways of asking agree
on the answers that may be read, and on no others: what fails when it is asked for whole is a
success in pages.
-/

namespace DirectoryAuth

variable {σ : Type} {network : Network σ} {world : World σ}

/-- A reply as it is handed out in pages: its items come to an end, and what the directory reports
is left with the connection. -/
def SearchReply.inPages (reply : SearchReply) : PagedReply := ⟨reply.report, reply.items, none⟩

/-- The request with another page size, where zero asks for the answer as a whole. -/
def SearchRequest.ofPageSize (r : SearchRequest) (size : Int) : SearchRequest :=
  { r with limits := { r.limits with page := size } }

/-- A query on a session has the same reply, however it is asked for. -/
structure Network.AnswersAlike (network : Network σ) (world : World σ) (session : Session)
    (query : Query) (reply : SearchReply) : Prop where
  whole : (network.answer (.search session.connection query) world.network).1 = .ok reply
  pages : ∀ size, size ≠ 0 →
    (network.answer (.pagedSearch session.connection query size) world.network).1 =
      .ok reply.inPages

/-- What is read from a whole answer is up to its report. -/
def Query.read (q : Query) (reply : SearchReply) : Except Failure (List Entry) :=
  match q.refusal? reply.report with
  | some error => .error (.search error)
  | none => .ok (Item.entries reply.items)

theorem Query.read_eq_ok_iff {q : Query} {reply : SearchReply} :
    q.read reply = .ok (Item.entries reply.items) ↔
      codeOf reply.report = some success ∨ codeOf reply.report = some sizeLimitExceeded := by
  rw [← refusal?_eq_none_iff (q := q), read]
  cases q.refusal? reply.report with
  | some error => simp
  | none => simp

namespace SearchRequest

variable {r : SearchRequest} {session : Session} {filter : String} {reply : SearchReply}

/-- Whatever its page size, a request with an invalid filter fails before anything is sent. -/
theorem all_of_invalid {failure : Failure} (invalid : r.filter = .error failure) (size : Int) :
    (((r.ofPageSize size).all session).run network world).1 = .error failure := by
  have sameFilter : (r.ofPageSize size).filter = .error failure := invalid
  rw [all_outcome, findings_of_failure sameFilter]
  rfl

theorem all_whole (isOpen : session.IsOpen world) (valid : r.filter = .ok filter)
    (alike : network.AnswersAlike world session (r.query filter) reply) :
    (((r.ofPageSize 0).all session).run network world).1 = (r.query filter).read reply := by
  have sameFilter : (r.ofPageSize 0).filter = .ok filter := valid
  rw [all_outcome, findings_of_filter sameFilter, Cursor.left_of_open rfl isOpen]
  change ((r.query filter).wholeFindings
    (network.answer (.search session.connection (r.query filter)) world.network).1).all = _
  rw [alike.whole, Query.wholeFindings, Query.read]
  cases (r.query filter).refusal? reply.report with
  | some error => rfl
  | none => rfl

theorem all_pages {size : Int} (paged : size ≠ 0) (isOpen : session.IsOpen world)
    (valid : r.filter = .ok filter)
    (alike : network.AnswersAlike world session (r.query filter) reply) :
    (((r.ofPageSize size).all session).run network world).1 =
      .ok (Item.entries reply.items) := by
  have sameFilter : (r.ofPageSize size).filter = .ok filter := valid
  have inPages : (r.ofPageSize size).limits.page ≠ 0 := paged
  rw [all_outcome, findings_of_filter sameFilter, Cursor.left_of_open rfl isOpen, cursor,
    if_neg inPages]
  change ((r.query filter).pagedFindings (network.answer
    (.pagedSearch session.connection (r.query filter) size) world.network).1).all = _
  rw [alike.pages size paged]
  rfl

/-- Asked for in pages, every answer is read. The two ways of asking agree exactly where the
directory reports success or that the size limit was exceeded. -/
theorem all_agrees_iff {size : Int} (paged : size ≠ 0) (isOpen : session.IsOpen world)
    (alike : ∀ filter, r.filter = .ok filter →
      network.AnswersAlike world session (r.query filter) reply) :
    let whole := (((r.ofPageSize 0).all session).run network world).1
    let pages := (((r.ofPageSize size).all session).run network world).1
    (∀ failure, r.filter = .error failure → whole = .error failure ∧ pages = .error failure) ∧
    (∀ filter, r.filter = .ok filter →
      whole = (r.query filter).read reply ∧ pages = .ok (Item.entries reply.items) ∧
      (whole = pages ↔ Query.codeOf reply.report = some Query.success ∨
        Query.codeOf reply.report = some Query.sizeLimitExceeded)) := by
  intro whole pages
  constructor
  · intro failure invalid
    exact ⟨all_of_invalid invalid 0, all_of_invalid invalid size⟩
  · intro filter valid
    have readWhole : whole = (r.query filter).read reply := all_whole isOpen valid (alike _ valid)
    have readPages : pages = .ok (Item.entries reply.items) :=
      all_pages paged isOpen valid (alike _ valid)
    refine ⟨readWhole, readPages, ?_⟩
    rw [readWhole, readPages]
    exact Query.read_eq_ok_iff

end SearchRequest

/-- A script answers alike by a rule that has no fault. -/
theorem Script.answersAlike {script : Script} {session : Session} {query : Query} {rule : Rule}
    (chosen : (script.directory session.connection.address).rule query = rule)
    (sound : rule.fault = none) :
    Script.network.AnswersAlike (.start script) session query ⟨rule.report, rule.items⟩ := by
  constructor
  · change ((script.directory session.connection.address).rule query).whole = _
    rw [chosen, Rule.whole, sound]
    rfl
  · intro size _
    change Except.ok ((script.directory session.connection.address).rule query).paged = _
    rw [chosen, Rule.paged, sound]
    rfl

namespace Rehearsal

/-- The answer to every search: two people, and what the directory reports. -/
def reported (code : Int) : Script.Rule :=
  { Script.Rule.empty with
    report := some ⟨some (some code), some (some "scripted"), none⟩
    items := [item (some "uid=jdoe,dc=x") [], item (some "uid=rroe,dc=x") []] }

def reporting (code : Int) : Script :=
  script { Script.Directory.empty with otherwise := reported code }

def everyone : SearchRequest := ⟨"dc=x", "(uid=*)", [], [], .subtree, .none⟩

def searching : Session := session (server .simple .none none)

theorem everyone_filter : everyone.filter = .ok "(uid=*)" :=
  Operation.eq_ok_of_toOption (by decide +kernel)

theorem reporting_alike (code : Int) (query : Query) :
    Script.network.AnswersAlike (.start (reporting code)) searching query
      ⟨(reported code).report, (reported code).items⟩ :=
  Script.answersAlike rfl rfl

theorem searching_open (code : Int) : searching.IsOpen (World.start (reporting code)) :=
  List.not_mem_nil

end Rehearsal

open Rehearsal

/-- Where the size limit was exceeded, both ways of asking give the entries that were sent. -/
theorem SearchRequest.partial_agrees :
    (((everyone.ofPageSize 0).all searching).run Script.network (.start (reporting 4))).1 =
      (((everyone.ofPageSize 2).all searching).run Script.network (.start (reporting 4))).1 := by
  have agrees := all_agrees_iff (by decide : (2 : Int) ≠ 0) (searching_open 4)
    fun filter _ => reporting_alike 4 (everyone.query filter)
  exact ((agrees.2 _ everyone_filter).2.2).mpr (.inr rfl)

/-- A search below a base that is not there fails when it is asked for whole, and is a success
when it is asked for in pages. -/
theorem SearchRequest.missing_base_in_pages :
    searching.IsOpen (World.start (reporting 32)) ∧
    (∀ query, Script.network.AnswersAlike (.start (reporting 32)) searching query
      ⟨(reported 32).report, (reported 32).items⟩) ∧
    (((everyone.ofPageSize 0).all searching).run Script.network (.start (reporting 32))).1 =
      .error (.search (.noSuchBase "dc=x")) ∧
    (((everyone.ofPageSize 2).all searching).run Script.network (.start (reporting 32))).1 =
      .ok (Item.entries (reported 32).items) := by
  refine ⟨searching_open 32, reporting_alike 32, ?_, ?_⟩
  · exact all_whole (searching_open 32) everyone_filter (reporting_alike 32 _)
  · exact all_pages (by decide) (searching_open 32) everyone_filter (reporting_alike 32 _)

end DirectoryAuth

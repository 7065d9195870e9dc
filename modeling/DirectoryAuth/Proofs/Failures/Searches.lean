import DirectoryAuth.Proofs.Failures.Endings
import DirectoryAuth.Proofs.Search.Sending

/-!
# How searches end

A search is answered by one call, which is in the history of the run. As long as its faults are such
as callers are told of, whatever goes wrong with it is a failure of the search. Two things are not:
a fault of the call that begins a paged search, and a marker in the template whose number is too
long to be read.
-/

namespace DirectoryAuth

open Operation World

variable {σ : Type} {network : Network σ} {world : World σ}

namespace Failure

/-- A marker of one of the templates has a number that is too long. -/
def OfMarker (templates : List String) : Failure → Prop
  | .longMarker digits => ∃ template ∈ templates,
      ∃ slot ∈ Template.markers (Filter.parts template),
        Decimal.digitLimit < slot.width ∧ digits = slot.width
  | _ => False

def OfSearch (templates : List String) : Failure → Prop
  | .search _ => True
  | failure => failure.OfMarker templates

theorem OfMarker.mono {templates more : List String} (included : templates ⊆ more)
    {failure : Failure} (marker : failure.OfMarker templates) : failure.OfMarker more := by
  cases failure with
  | longMarker digits =>
    obtain ⟨template, member, slot⟩ := marker
    exact ⟨template, included member, slot⟩
  | _ => exact marker

end Failure

/-- A template that cannot be filled has a marker that is to blame. -/
theorem Filter.format_fails {template : String} {values : List String} {failure : Failure}
    (failed : format template values = .error failure) : failure.OfSearch [template] := by
  rw [format] at failed
  split at failed
  · rename_i blamed found
    cases failed
    obtain ⟨slot, member, blame⟩ := List.exists_of_findSome?_eq_some found
    rw [failure?] at blame
    split at blame
    · rename_i long
      cases blame
      exact ⟨template, List.mem_singleton_self _, slot, member, long, rfl⟩
    · split at blame
      · cases blame
        trivial
      · cases blame
  · cases failed

/-! ## What an answer may fail with -/

namespace Query

variable {q : Query} {connection : Connection} {failure : Failure}

theorem wholeFindings_fails {answer : Except Fault SearchReply}
    (told : (Event.exchange (.search connection q) answer).isTold = true)
    (failed : (q.wholeFindings answer).failure = some failure) : failure.OfSearch [] := by
  cases answer with
  | error fault =>
    have directory : fault.isDirectory = true := told
    rw [wholeFindings, if_pos directory] at failed
    cases failed
    trivial
  | ok reply =>
    rw [wholeFindings] at failed
    cases refused : q.refusal? reply.report with
    | some error =>
      rw [refused] at failed
      cases failed
      trivial
    | none =>
      rw [refused] at failed
      cases failed

/-- The fault of a call that begins a paged search is not a failure of the search. -/
theorem pagedFindings_fails {size : Int} {answer : Except Fault PagedReply}
    (told : (Event.exchange (.pagedSearch connection q size) answer).isTold = true)
    (failed : (q.pagedFindings answer).failure = some failure) :
    failure.OfSearch [] ∨ ∃ fault, answer = .error fault ∧ failure = .outside fault := by
  cases answer with
  | error fault =>
    cases failed
    exact .inr ⟨fault, rfl, rfl⟩
  | ok reply =>
    left
    obtain ⟨report, items, fault⟩ := reply
    cases fault with
    | none => cases failed
    | some fault =>
      have directory : fault.isDirectory = true := told
      rw [pagedFindings, Option.map_some, if_pos directory] at failed
      cases failed
      trivial

end Query

namespace Cursor

/-- What is left to find fails as a search does, or the fault of its call escapes. -/
theorem left_fails {c : Cursor} (idle : c.progress = .idle) (isOpen : c.session.IsOpen world)
    {after : World σ}
    (happened : Happened (.exchange c.call (network.answer c.call world.network).1) world after)
    (told : AsTold world after) {failure : Failure}
    (failed : (c.left network world).failure = some failure) :
    failure.OfSearch [] ∨ Escaped world after failure := by
  rw [left_of_open idle isOpen] at failed
  rw [call] at happened
  split at failed
  · rename_i whole
    rw [if_pos whole] at happened
    exact .inl (Query.wholeFindings_fails (told _ happened) failed)
  · rename_i paged
    rw [if_neg paged] at happened
    rcases Query.pagedFindings_fails (told _ happened) failed with search | ⟨fault, answered, rfl⟩
    · exact .inl search
    · rw [answered] at happened
      exact .inr
        ⟨.pagedSearch c.session.connection c.query c.pageSize, fault, trivial, happened, rfl⟩

end Cursor

/-! ## Searches -/

namespace Failure

theorem OfSearch.mono {templates more : List String} (included : templates ⊆ more)
    {failure : Failure} (search : failure.OfSearch templates) : failure.OfSearch more := by
  cases failure with
  | search error => trivial
  | longMarker digits =>
    have marker : (longMarker digits).OfMarker templates := search
    exact marker.mono included
  | _ => exact search

end Failure

theorem Findings.all_fails {f : Findings} {failure : Failure} (failed : f.all = .error failure) :
    f.failure = some failure := by
  obtain ⟨entries, none | other⟩ := f
  · cases failed
  · cases failed
    rfl

theorem Findings.unique_fails {f : Findings} {ambiguous failure : Failure}
    (failed : f.unique ambiguous = .error failure) :
    failure = ambiguous ∨ f.failure = some failure := by
  obtain ⟨entries, other⟩ := f
  match entries, other with
  | _ :: _ :: _, _ =>
    cases failed
    exact .inl rfl
  | [], some other | [_], some other =>
    cases failed
    exact .inr rfl
  | [], none | [_], none => cases failed

namespace SearchRequest

theorem ambiguity_ofSearch (r : SearchRequest) : r.ambiguity.OfSearch [r.template] := by
  rw [ambiguity]
  cases valid : r.filter with
  | ok filter => trivial
  | error failure => exact Filter.format_fails valid

/-- What a request fails to find fails as a search does, or the fault of its call escapes. -/
theorem findings_fails {r : SearchRequest} {session : Session} {after : World σ}
    (asked : ∀ filter, r.filter = .ok filter → session.IsOpen world →
      Asked network (r.cursor session filter).call world after)
    (told : AsTold world after) {failure : Failure}
    (failed : (r.findings session network world).failure = some failure) :
    failure.OfSearch [r.template] ∨ Escaped world after failure := by
  cases valid : r.filter with
  | error other =>
    rw [findings_of_failure valid] at failed
    cases failed
    exact .inl (Filter.format_fails valid)
  | ok filter =>
    rw [findings_of_filter valid] at failed
    by_cases isOpen : session.IsOpen world
    · have made := (asked filter valid isOpen).happened
      have known := Cursor.left_fails (c := r.cursor session filter) rfl isOpen made told failed
      exact known.imp_left (.mono (List.nil_subset _))
    · rw [(Cursor.run_started_of_closed network rfl isOpen).2] at failed
      cases failed
      exact .inl trivial

theorem all_ends (r : SearchRequest) (session : Session) :
    EndsIn network (Failure.OfSearch [r.template]) (r.all session) := by
  refine ⟨fun world => (r.all_callsOnly session world).history_grows, ?_⟩
  intro world told failure failed
  rw [all_outcome] at failed
  exact findings_fails (fun _ => all_asked) told (Findings.all_fails failed)

theorem unique_ends (r : SearchRequest) (session : Session) :
    EndsIn network (Failure.OfSearch [r.template]) (r.unique session) := by
  refine ⟨fun world => (r.unique_callsOnly session world).history_grows, ?_⟩
  intro world told failure failed
  rw [unique_outcome] at failed
  rcases Findings.unique_fails failed with rfl | failed
  · exact .inl r.ambiguity_ofSearch
  · exact findings_fails (fun _ => unique_asked) told failed

theorem readEntry_ends (session : Session) (name : String) (attributes : List String) :
    EndsIn network (Failure.OfSearch []) (readEntry session name attributes) := by
  have marker : ∀ failure : Failure, failure.OfSearch [anyEntry] → failure.OfSearch [] := by
    intro failure search
    cases failure with
    | search error => trivial
    | longMarker digits =>
      obtain ⟨template, member, slot, marker, _⟩ := search
      rw [List.mem_singleton.mp member] at marker
      have none : Template.markers (Filter.parts anyEntry) = [] := by decide +kernel
      rw [none] at marker
      cases marker
    | _ => exact search
  refine .attempt_bind ((unique_ends _ _).widen marker) (fun _ => .pure _) fun failure => ?_
  cases failure with
  | search error =>
    dsimp only
    split
    · exact .bind (.log _ _ _) fun _ => .pure _
    · exact .pass id
  | _ => exact .pass id

end SearchRequest

end DirectoryAuth

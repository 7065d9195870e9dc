import DirectoryAuth.Proofs.Network.Rehearsal
import DirectoryAuth.Proofs.Search.Uniqueness

/-!
# Where found entries come from

Nothing is found but what some answer of the network holds, be it the answer of now or one that is
given after further searches. A script never offers an entry that was not written into it.
-/

namespace DirectoryAuth

open Operation World

variable {σ : Type} {network : Network σ} {connection : Connection} {session : Session}
  {world after : World σ}

namespace Network

/-- In a state, or after any searches on a connection, the network may answer a search on that
connection with an item that is the entry. -/
inductive Offers (network : Network σ) (connection : Connection) (state : σ) : Entry → Prop
  | whole {later : σ} {query : Query} {reply : SearchReply} {item : Item}
      (reached : network.Later (Call.IsSearchOn connection) state later)
      (answered : (network.answer (.search connection query) later).1 = .ok reply)
      (member : item ∈ reply.items) : Offers network connection state item.entry
  | paged {later : σ} {query : Query} {size : Int} {reply : PagedReply} {item : Item}
      (reached : network.Later (Call.IsSearchOn connection) state later)
      (answered : (network.answer (.pagedSearch connection query size) later).1 = .ok reply)
      (member : item ∈ reply.items) : Offers network connection state item.entry

theorem Offers.earlier {state later : σ} {entry : Entry}
    (offered : network.Offers connection later entry)
    (reached : network.Later (Call.IsSearchOn connection) state later) :
    network.Offers connection state entry := by
  cases offered with
  | whole further answered member => exact .whole (reached.trans further) answered member
  | paged further answered member => exact .paged (reached.trans further) answered member

end Network

/-! ## Searches -/

theorem Item.mem_entries {items : List Item} {entry : Entry} (found : entry ∈ entries items) :
    ∃ item ∈ items, item.entry = entry := by
  obtain ⟨item, kept, rfl⟩ := List.mem_map.mp found
  exact ⟨item, (List.mem_filter.mp kept).1, rfl⟩

namespace SearchRequest

/-- What is left of an answer that is found complete comes from it. -/
theorem Answer.offered {r : SearchRequest} {items : List Item} {extent : Extent} {entry : Entry}
    (answer : r.Answer session network world items extent) (found : entry ∈ Item.entries items) :
    network.Offers session.connection world.network entry := by
  obtain ⟨item, member, rfl⟩ := Item.mem_entries found
  cases answer with
  | whole _ _ answered => exact .whole .refl answered member
  | pages _ _ answered => exact .paged .refl answered member

theorem findings_offered {r : SearchRequest} {entries : List Entry} {entry : Entry}
    (complete : r.findings session network world = ⟨entries, none⟩) (found : entry ∈ entries) :
    network.Offers session.connection world.network entry := by
  obtain ⟨-, items, extent, answer, -, rfl⟩ := findings_complete_iff.mp complete
  exact answer.offered found

/-- All entries that a request finds are offered. -/
theorem all_offered {r : SearchRequest} {entries : List Entry} {entry : Entry}
    (ran : (r.all session).run network world = (.ok entries, after)) (found : entry ∈ entries) :
    network.Offers session.connection world.network entry := by
  have outcome : ((r.all session).run network world).1 = _ := r.all_outcome session
  rw [ran] at outcome
  rcases complete : r.findings session network world with ⟨all, failure⟩
  rw [complete] at outcome
  cases failure with
  | some failure => cases outcome
  | none =>
    cases outcome
    exact findings_offered complete found

/-- The only entry that a request finds is offered. -/
theorem unique_offered {r : SearchRequest} {entry : Entry}
    (ran : (r.unique session).run network world = (.ok (some entry), after)) :
    network.Offers session.connection world.network entry := by
  have outcome : ((r.unique session).run network world).1 = _ := r.unique_outcome session
  rw [ran] at outcome
  have complete := Findings.unique_eq_ok_iff.mp outcome.symm
  exact findings_offered complete (List.mem_singleton_self entry)

/-- An entry that can be read is offered, though perhaps under another name. -/
theorem readEntry_offered {name : String} {attributes : List String} {entry : Entry}
    (ran : (readEntry session name attributes).run network world = (.ok (some entry), after)) :
    network.Offers session.connection world.network entry := by
  rw [readEntry, run_attempt_bind] at ran
  rcases read : ((ofName name attributes).unique session).run network world with ⟨outcome, next⟩
  rw [read] at ran
  cases outcome with
  | ok found =>
    cases ran
    exact unique_offered read
  | error failure =>
    cases failure with
    | search error =>
      dsimp only at ran
      split at ran
      · obtain ⟨_, _, _, ran⟩ := run_bind_eq_ok ran
        cases ran
      · cases ran
    | _ => cases ran

end SearchRequest

/-! ## Scripts -/

namespace Script

def items (script : Script) : List Item :=
  script.directories.flatMap fun (_, directory) =>
    (directory.otherwise :: directory.rules).flatMap (·.items)

theorem Directory.rule_mem (d : Directory) (query : Query) :
    d.rule query ∈ d.otherwise :: d.rules := by
  rw [rule]
  cases chosen : d.rules.find? fun rule => rule.base.all (· == query.base) &&
      rule.filter.all (· == query.filter) && rule.scope.all (· == query.scope) with
  | none => exact List.mem_cons_self
  | some rule => exact List.mem_cons_of_mem _ (List.mem_of_find?_eq_some chosen)

theorem mem_items {script : Script} {address : String} {query : Query} {item : Item}
    (member : item ∈ ((script.directory address).rule query).items) : item ∈ script.items := by
  cases known : script.directories.lookup address with
  | none =>
    -- A directory that was not scripted is empty.
    rw [directory, directory?, known] at member
    cases member
  | some found =>
    rw [directory, directory?, known] at member
    obtain ⟨before, behind, split, -⟩ := List.lookup_eq_some_iff.mp known
    refine List.mem_flatMap.mpr ⟨(address, found), ?_, List.mem_flatMap.mpr ⟨_, ?_, member⟩⟩
    · rw [split]
      exact List.mem_append_right _ List.mem_cons_self
    · exact found.rule_mem query

theorem whole_items {rule : Rule} {reply : SearchReply} (answered : rule.whole = .ok reply) :
    reply.items = rule.items := by
  rw [Rule.whole] at answered
  cases fault : rule.fault with
  | some fault' =>
    rw [fault] at answered
    cases answered
  | none =>
    rw [fault] at answered
    cases answered
    rfl

theorem paged_items {rule : Rule} {item : Item} (member : item ∈ rule.paged.items) :
    item ∈ rule.items := by
  rw [Rule.paged] at member
  split at member
  · exact List.mem_of_mem_take member
  · exact member

/-- Whatever a script offers is written into it. -/
theorem offers_items {script : Script} {entry : Entry}
    (offered : Script.network.Offers connection script entry) :
    ∃ item ∈ script.items, item.entry = entry := by
  have unchanged : ∀ {later : Script},
      Script.network.Later (Call.IsSearchOn connection) script later → later = script :=
    later_eq fun _ _ => id
  cases offered with
  | @whole later query reply item reached answered member =>
    rw [unchanged reached] at answered
    rw [whole_items answered] at member
    exact ⟨item, mem_items member, rfl⟩
  | @paged later query size reply item reached answered member =>
    rw [unchanged reached] at answered
    cases answered
    exact ⟨item, mem_items (paged_items member), rfl⟩

end Script

end DirectoryAuth

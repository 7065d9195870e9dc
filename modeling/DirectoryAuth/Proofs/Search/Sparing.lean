import DirectoryAuth.Proofs.Network.Sparing

/-!
# Searches in sparing networks

A cursor over an answer without the attributes that were not asked for gives the same entries as
one over the whole answer, without those attributes. It reads as many items, comes to the same end
and fails in the same way. So do whole searches.
-/

namespace DirectoryAuth

open Operation

variable {σ : Type} {network : Network σ} {names : List String}

/-! ## Cursors -/

def Progress.sparing (names : List String) : Progress → Progress
  | idle => idle
  | reading items => reading (items.map (Item.sparing names))
  | paging search position items fault =>
    paging search position (items.map (Item.sparing names)) fault

namespace Cursor

/-- The second cursor is over what the first one asks for of its answer. -/
structure Spared (names : List String) (c c' : Cursor) : Prop where
  asks : c.query.asked = names
  same : c' = { c with progress := c.progress.sparing names }

/-- What the second cursor gives is what was asked for of what the first one gives. -/
def Given (names : List String) :
    Option (Entry × Cursor) → Option (Entry × Cursor) → Prop
  | none, none => True
  | some (entry, rest), some (entry', rest') =>
    entry.sparing names = entry' ∧ Spared names rest rest'
  | _, _ => False

variable {c c' : Cursor}

theorem checkOpen_spares (spared : Spared names c c') :
    Spares network Eq c.checkOpen c'.checkOpen := by
  obtain ⟨rfl, rfl⟩ := spared
  have isClosed : Spares network Eq c.session.isClosed c.session.isClosed :=
    .numbering fun _ numbers => (numbers.closed.contains c.session.connection.number, numbers)
  exact isClosed.bind_same fun closed => .ite (.throw _) (.pure rfl)

theorem askWhole_spares (c : Cursor) :
    Spares network (fun p p' => p.sparing c.query.asked = p') c.askWhole c.askWhole := by
  have asked := Spares.perform network (.search c.session.connection c.query)
  rw [askWhole_eq]
  refine asked.translating.bind fun reply reply' same => ?_
  cases same
  dsimp only [take]
  cases c.query.refusal? reply.report with
  | some error => exact .throw _
  | none => exact .ite ((Spares.log _ _ _).bind_same fun _ => .pure rfl) (.pure rfl)

theorem askPaged_spares (c : Cursor) :
    Spares network (fun p p' => p.sparing c.query.asked = p') c.askPaged c.askPaged := by
  have asked := Spares.perform network (.pagedSearch c.session.connection c.query c.pageSize)
  have number : Spares network Eq nextPagedSearch nextPagedSearch :=
    .numbering fun _ numbers =>
      (numbers.pagedSearches, { numbers with pagedSearches := numbers.pagedSearches + 1 })
  refine asked.bind fun reply reply' same => number.bind_same fun search => .pure ?_
  cases same
  rfl

theorem started_spares (spared : Spared names c c') :
    Spares network (Spared names) c.started c'.started := by
  obtain ⟨rfl, rfl⟩ := spared
  obtain ⟨session, query, pageSize, progress⟩ := c
  cases progress with
  | idle =>
    refine (checkOpen_spares ⟨rfl, rfl⟩).bind_same fun _ => .ite ?_ ?_
    · exact (askWhole_spares _).bind fun p p' same => .pure ⟨rfl, by rw [← same]⟩
    · exact (askPaged_spares _).bind fun p p' same => .pure ⟨rfl, by rw [← same]⟩
  | reading items => exact .pure ⟨rfl, rfl⟩
  | paging search position items fault => exact .pure ⟨rfl, rfl⟩

theorem nextRead_spares (spared : Spared names c c') (items : List Item) :
    Spares network (fun found found' => (found.map fun (entry, rest) =>
        (entry.sparing names, rest.map (Item.sparing names))) = found')
      (c.nextRead items) (c'.nextRead (items.map (Item.sparing names))) := by
  induction items with
  | nil => exact .pure rfl
  | cons item items ih =>
    refine (checkOpen_spares spared).bind_same fun _ => .ite (.pure ?_) ih
    rw [Item.entry_sparing]
    rfl

theorem nextPaged_spares (spared : Spared names c c') (search : Nat) (fault : Option Fault)
    (position : Nat) (items : List Item) :
    Spares network (fun found found' => (found.map fun (entry, position, rest) =>
        (entry.sparing names, position, rest.map (Item.sparing names))) = found')
      (c.nextPaged search fault position items)
      (c'.nextPaged search fault position (items.map (Item.sparing names))) := by
  induction items generalizing position with
  | nil =>
    obtain ⟨rfl, rfl⟩ := spared
    cases fault with
    | some fault => exact (Spares.record _).bind_same fun _ => .throw _
    | none => exact (Spares.record _).bind_same fun _ => .pure rfl
  | cons item items ih =>
    refine (Spares.record _).bind_same fun _ => ?_
    refine (checkOpen_spares spared).bind_same fun _ => .ite (.pure ?_) (ih _)
    rw [Item.entry_sparing]
    rfl

/-- The next entry has what was asked for. -/
theorem next_spares (spared : Spared names c c') :
    Spares network (Given names) c.next c'.next := by
  refine (started_spares spared).bind fun c c' spared => ?_
  have read (items : List Item) :
      Spares network _ (c.nextRead items) (c'.nextRead (items.map (Item.sparing names))) :=
    nextRead_spares spared items
  have paged (search position : Nat) (items : List Item) (fault : Option Fault) :
      Spares network _ (c.nextPaged search fault position items)
        (c'.nextPaged search fault position (items.map (Item.sparing names))) :=
    nextPaged_spares spared search fault position items
  obtain ⟨rfl, rfl⟩ := spared
  obtain ⟨session, query, pageSize, progress⟩ := c
  cases progress with
  | idle => exact .pure trivial
  | reading items =>
    refine (read items).bind fun found found' same => .pure ?_
    cases same
    cases found with
    | none => trivial
    | some found => exact ⟨rfl, rfl, rfl⟩
  | paging search position items fault =>
    refine (paged search position items fault).attempt_bind (fun found found' same => ?_)
      fun failure => ?_
    · cases same
      cases found with
      | none => exact (Spares.record _).bind_same fun _ => .pure trivial
      | some found => exact .pure ⟨rfl, rfl, rfl⟩
    · exact (Spares.record _).bind_same fun _ => .throw _

theorem stop_spares (spared : Spared names c c') : Spares network Eq c.stop c'.stop := by
  obtain ⟨rfl, rfl⟩ := spared
  obtain ⟨session, query, pageSize, progress⟩ := c
  cases progress with
  | idle => exact .pure rfl
  | reading items => exact .pure rfl
  | paging search position items fault => exact .record _

theorem collect_spares (limit : Nat) (spared : Spared names c c') :
    Spares network (fun entries entries' => entries.map (Entry.sparing names) = entries')
      (collect limit c) (collect limit c') := by
  induction limit generalizing c c' with
  | zero => exact .pure rfl
  | succ limit ih =>
    refine (next_spares spared).bind fun found found' given => ?_
    match found, found' with
    | none, none => exact .pure rfl
    | some (entry, rest), some (entry', rest') =>
      obtain ⟨rfl, rests⟩ := given
      refine (ih rests).bind fun entries entries' same => .pure ?_
      rw [← same, List.map_cons]
    | none, some _ => exact given.elim
    | some _, none => exact given.elim

theorem unread_spared (spared : Spared names c c') : c.unread = c'.unread := by
  obtain ⟨rfl, rfl⟩ := spared
  obtain ⟨session, query, pageSize, progress⟩ := c
  cases progress with
  | idle => rfl
  | reading items | paging search position items fault => exact (List.length_map _).symm

theorem drain_spares (spared : Spared names c c') :
    Spares network (fun entries entries' => entries.map (Entry.sparing names) = entries')
      c.drain c'.drain := by
  refine (started_spares spared).bind fun c c' spared => ?_
  rw [unread_spared spared]
  exact collect_spares _ spared

end Cursor

/-! ## Whole searches -/

namespace SearchRequest

/-- A query asks for the attributes of its request. -/
theorem asked_query (r : SearchRequest) (filter : String) :
    (r.query filter).asked = r.attributes := by
  unfold query Query.asked
  cases r.attributes <;> rfl

variable (r : SearchRequest) (session : Session)

theorem start_spares :
    Spares network (Cursor.Spared r.attributes) (r.start session) (r.start session) := by
  refine .bind_same (.ofOutcome (.of_eq rfl)) fun filter => ?_
  exact (Spares.log _ _ _).bind_same fun _ => .pure ⟨r.asked_query filter, rfl⟩

theorem all_spares :
    Spares network (fun entries entries' => entries.map (Entry.sparing r.attributes) = entries')
      (r.all session) (r.all session) :=
  (r.start_spares session).bind fun _ _ spared => Cursor.drain_spares spared

theorem unique_spares :
    Spares network (fun found found' => found.map (Entry.sparing r.attributes) = found')
      (r.unique session) (r.unique session) := by
  refine (r.start_spares session).bind fun c c' spared => ?_
  refine (Cursor.next_spares spared).bind fun found found' given => ?_
  match found, found' with
  | none, none => exact .pure rfl
  | some (entry, rest), some (entry', rest') =>
    obtain ⟨rfl, rests⟩ := given
    refine (Cursor.next_spares rests).bind fun second second' given => ?_
    match second, second' with
    | none, none => exact .pure rfl
    | some (other, last), some (other', last') =>
      refine (Cursor.stop_spares given.2).bind_same fun _ => ?_
      cases r.filter with
      | ok filter => exact .throw _
      | error failure => exact .throw _
    | none, some _ => exact given.elim
    | some _, none => exact given.elim
  | none, some _ => exact given.elim
  | some _, none => exact given.elim

theorem readEntry_spares (name : String) (attributes : List String) :
    Spares network (fun found found' => found.map (Entry.sparing attributes) = found')
      (readEntry session name attributes) (readEntry session name attributes) := by
  refine ((ofName name attributes).unique_spares session).attempt_bind
    (fun _ _ same => .pure same) fun failure => ?_
  cases failure with
  | search error => exact .ite ((Spares.log _ _ _).bind_same fun _ => .pure rfl) (.throw _)
  | _ => exact .throw _

end SearchRequest

end DirectoryAuth

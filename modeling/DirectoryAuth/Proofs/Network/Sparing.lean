import DirectoryAuth.Entry
import DirectoryAuth.Proofs.Composition
import DirectoryAuth.Proofs.Parallel

/-!
# Sparing networks

A request names the attributes that it wants of the entries it finds. One directory gives all that
it has of them, another one nothing but what was named; of the two networks, the second is the
sparing form of the first. What is run against both of them is compared in worlds that differ in the
attributes of answers only.
-/

namespace DirectoryAuth

variable {σ : Type} {names : List String}

/-! ## Attributes that were asked for -/

namespace Attributes

/-- Was the attribute asked for? Names are compared as those of all attributes are. -/
def isAsked (names : List String) (name : String) : Bool := names.any (key · == key name)

def sparing (names : List String) (a : Attributes) : Attributes :=
  ⟨a.entries.filter (isAsked names ·.1)⟩

theorem isAsked_of_mem {name : String} (mem : name ∈ names) : isAsked names name = true :=
  List.any_eq_true.mpr ⟨name, mem, beq_self_eq_true _⟩

theorem isAsked_congr {name other : String} (same : key name = key other) :
    isAsked names name = isAsked names other := by
  rw [isAsked, isAsked, same]

/-- Entries of the name of an attribute that was asked for were asked for. -/
theorem isAsked_and {name : String} (mem : isAsked names name = true)
    (entry : String × List String) :
    (isAsked names entry.1 && key entry.1 == key name) = (key entry.1 == key name) := by
  cases same : key entry.1 == key name with
  | false => rw [Bool.and_false]
  | true => rw [isAsked_congr (beq_iff_eq.mp same), mem, Bool.and_true]

/-- What was asked for is there as before. -/
theorem get?_sparing (a : Attributes) {name : String} (mem : name ∈ names) :
    (a.sparing names).get? name = a.get? name := by
  simp only [get?, sparing, List.find?_filter, Bool.decide_and, Bool.decide_eq_true,
    isAsked_and (isAsked_of_mem mem)]

/-- An attribute that was asked for is given its values whether the others are there or not; any
other one is left out. -/
theorem insert_sparing (a : Attributes) (name : String) (values : List String) :
    (a.insert name values).sparing names =
      if isAsked names name then (a.sparing names).insert name values else a.sparing names := by
  let put (entry : String × List String) : String × List String :=
    if key entry.1 == key name then (entry.1, values) else entry
  have label (entry : String × List String) : (put entry).1 = entry.1 := by
    dsimp only [put]
    split
    · rfl
    · rfl
  have kept : (a.entries.map put).filter (isAsked names ·.1) =
      (a.entries.filter (isAsked names ·.1)).map put := by
    rw [List.filter_map]
    simp only [Function.comp_def, label]
  by_cases mem : isAsked names name = true
  · rw [if_pos mem, insert, insert, sparing, sparing, List.any_filter]
    simp only [isAsked_and mem]
    split
    · exact congrArg Attributes.mk kept
    · simp only [List.filter_append, List.filter_singleton, mem, cond_true]
  · rw [if_neg mem, insert, sparing, sparing]
    split
    · refine congrArg Attributes.mk (kept.trans ?_)
      refine (List.map_congr_left fun entry here => ?_).trans (List.map_id _)
      have other : ¬ (key entry.1 == key name) = true := fun same =>
        mem (isAsked_congr (beq_iff_eq.mp same) ▸ (List.mem_filter.mp here).2)
      exact if_neg other
    · simp only [List.filter_append, List.filter_singleton, Bool.eq_false_iff.mpr mem,
        cond_false, List.append_nil]

theorem ofList_sparing (given : List (String × List String)) :
    (ofList given).sparing names = ofList (given.filter (isAsked names ·.1)) := by
  suffices from_ : ∀ a : Attributes,
      (given.foldl (fun a entry => a.insert entry.1 entry.2) a).sparing names =
        (given.filter (isAsked names ·.1)).foldl (fun a entry => a.insert entry.1 entry.2)
          (a.sparing names) from
    from_ empty
  induction given with
  | nil => exact fun _ => rfl
  | cons entry given ih =>
    intro a
    rw [List.foldl_cons, ih, insert_sparing, List.filter_cons]
    split
    · rfl
    · rfl

end Attributes

namespace Entry

def sparing (names : List String) (e : Entry) : Entry :=
  { e with attributes := e.attributes.sparing names }

/-- The entries have one name, and the same values of some attributes. -/
structure AgreesOn (names : List String) (e e' : Entry) : Prop where
  name : e.name = e'.name
  values : ∀ name ∈ names, e.values name = e'.values name

/-- An entry keeps all that was asked for. -/
theorem agreesOn_sparing (e : Entry) {few : List String} (wanted : few ⊆ names) :
    AgreesOn few e (e.sparing names) where
  name := rfl
  values name mem := by
    rw [values, values, sparing, Attributes.get?_sparing _ (wanted mem)]

theorem AgreesOn.first {e e' : Entry} (agree : AgreesOn names e e')
    {name : String} (mem : name ∈ names) : e.first? name = e'.first? name := by
  rw [first?, first?, agree.values name mem]

theorem AgreesOn.key {e e' : Entry} (agree : AgreesOn names e e') :
    e.key = e'.key := by
  rw [Entry.key, Entry.key, agree.name]

end Entry

namespace Item

def sparing (names : List String) (item : Item) : Item :=
  { item with attributes := item.attributes.filter (Attributes.isAsked names ·.1) }

/-- What is left of an item holds what is left of its entry. -/
theorem entry_sparing (item : Item) : (item.sparing names).entry = item.entry.sparing names := by
  rw [entry, entry, Entry.sparing, Attributes.ofList_sparing, List.filter_map]
  rfl

theorem sparing_sparing (item : Item) :
    (item.sparing names).sparing names = item.sparing names := by
  simp only [sparing, List.filter_filter, Bool.and_self]

end Item

/-! ## Networks -/

def Query.asked (q : Query) : List String := q.attributes.getD []

/-- The answer to a call with no other attributes than those that the call asks for. -/
def Call.spared : (call : Call) → Except Fault call.Reply → Except Fault call.Reply
  | .search _ q, answer =>
    answer.map fun reply => { reply with items := reply.items.map (Item.sparing q.asked) }
  | .pagedSearch _ q _, answer =>
    answer.map fun reply => { reply with items := reply.items.map (Item.sparing q.asked) }
  | _, answer => answer

/-- A fault stays what it is. -/
theorem Call.spared_error (call : Call) (fault : Fault) :
    call.spared (.error fault) = .error fault := by
  cases call <;> rfl

theorem Call.spared_ok (call : Call) (reply : call.Reply) :
    ∃ reply', call.spared (.ok reply) = .ok reply' := by
  cases call <;> exact ⟨_, rfl⟩

theorem Call.spared_spared (call : Call) (answer : Except Fault call.Reply) :
    call.spared (call.spared answer) = call.spared answer := by
  have items (names : List String) (items : List Item) :
      (items.map (Item.sparing names)).map (Item.sparing names) =
        items.map (Item.sparing names) := by
    rw [List.map_map]
    exact List.map_congr_left fun item _ => item.sparing_sparing
  cases call with
  | search connection q | pagedSearch connection q size =>
    cases answer with
    | error fault => rfl
    | ok reply =>
      simp only [spared, Except.map]
      rw [items]
  | _ => rfl

/-- The network whose directories give no other attributes than those that are asked for. In all
else it is the network that gives them all. -/
def Network.sparing (network : Network σ) : Network σ where
  answer call state :=
    let (answer, next) := network.answer call state
    (call.spared answer, next)
  bound := network.bound

/-! ## Worlds -/

def Event.spared : Event → Event
  | .exchange call answer => .exchange call (call.spared answer)
  | event => event

theorem Event.call?_spared (event : Event) : event.spared.call? = event.call? := by
  cases event <;> rfl

theorem Event.record?_spared (event : Event) : event.spared.record? = event.record? := by
  cases event <;> rfl

namespace World

/-- The worlds differ in nothing but attributes that were not asked for. -/
structure Spared (a b : World σ) : Prop where
  network : a.network = b.network
  numbers : a.numbers = b.numbers
  history : a.history.map Event.spared = b.history.map Event.spared

namespace Spared

variable {a b : World σ}

theorem refl (a : World σ) : Spared a a := ⟨rfl, rfl, rfl⟩

/-- The same was asked for. -/
theorem calls (spared : Spared a b) : a.calls = b.calls := by
  have told : Event.call? ∘ Event.spared = Event.call? := funext Event.call?_spared
  have same := congrArg (List.filterMap Event.call?) spared.history
  rwa [List.filterMap_map, List.filterMap_map, told] at same

/-- The same was logged. -/
theorem records (spared : Spared a b) : a.records = b.records := by
  have told : Event.record? ∘ Event.spared = Event.record? := funext Event.record?_spared
  have same := congrArg (List.filterMap Event.record?) spared.history
  rwa [List.filterMap_map, List.filterMap_map, told] at same

end Spared

end World

/-! ## Operations -/

namespace Operation

variable {α β : Type} {network : Network σ}

/-- What the first operation comes to where all attributes are given, the second comes to where
only those are that were asked for. -/
def Spares (network : Network σ) (view : α → β → Prop) (x : Operation σ α) (y : Operation σ β) :
    Prop :=
  Parallel network network.sparing World.Spared view x y

namespace Spares

theorem record (event : Event) :
    Spares network Eq (Operation.record event) (Operation.record event) := by
  intro a b spared
  refine ⟨rfl, spared.network, spared.numbers, ?_⟩
  simp only [run_record, World.noted, List.map_append, spared.history]

theorem log (level : Level) (component : Component) (message : String) :
    Spares network Eq (Operation.log level component message)
      (Operation.log level component message) :=
  record _

theorem numbering (step : Nat → World.Numbers → α × World.Numbers) :
    Spares network Eq (Operation.numbering step) (Operation.numbering step) := by
  intro a b spared
  have stepped : step (network.bound a.network) a.numbers =
      step (network.sparing.bound b.network) b.numbers := by
    rw [spared.network, spared.numbers]
    rfl
  refine ⟨?_, spared.network, congrArg (·.2) stepped, spared.history⟩
  exact congrArg (·.1) stepped

/-- A call has the reply with nothing but what it asks for. -/
theorem perform (network : Network σ) (call : Call) :
    Spares network (fun reply reply' => call.spared (.ok reply) = .ok reply')
      (Operation.perform call) (Operation.perform call) := by
  intro a b spared
  rw [run_perform, run_perform, spared.network]
  have once : call.spared (network.sparing.answer call b.network).1 =
      call.spared (network.answer call b.network).1 := call.spared_spared _
  refine ⟨?_, ?_, spared.numbers, ?_⟩
  · change Concur _ _ ((call.spared (network.answer call b.network).1).mapError Failure.outside)
    cases (network.answer call b.network).1 with
    | error fault =>
      rw [call.spared_error]
      rfl
    | ok reply =>
      obtain ⟨reply', kept⟩ := call.spared_ok reply
      rw [kept]
      exact kept
  · change (network.answer call a.network).2 = (network.answer call b.network).2
    rw [spared.network]
  · simp only [World.called, List.map_append, spared.history, List.map_cons, List.map_nil,
      Event.spared, once, spared.network]

end Spares

end Operation

end DirectoryAuth

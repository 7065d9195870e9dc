import DirectoryAuth.Proofs.Network.Steady
import DirectoryAuth.Proofs.Parallel
import DirectoryAuth.Session

/-!
# Static networks

A network is static where what it answers does not depend on what was asked before. Searches are
answered alike whichever attributes they ask for, and connections are told apart by what they were
made with alone. Where attributes may matter, the answers to calls of some kind are fixed. Two
operations agree where they come to outcomes that are alike, each in a world of its own, as long as
the two worlds keep abreast of one another.
-/

namespace DirectoryAuth

/-! ## Calls -/

def Connection.plain (connection : Connection) : Connection := { connection with number := 0 }

def Query.plain (q : Query) : Query := { q with attributes := none }

namespace Call

/-- What the answer to a call in a session may depend on. -/
def plain : Call → Call
  | .connect connection => .connect connection.plain
  | .openSocket connection => .openSocket connection.plain
  | .startTls connection => .startTls connection.plain
  | .bind connection => .bind connection.plain
  | .unbind connection => .unbind connection.plain
  | .search connection q => .search connection.plain q.plain
  | .pagedSearch connection q size => .pagedSearch connection.plain q.plain size
  | call => call

/-- The call, on a connection that is not told apart from others that were made alike. -/
def unnumbered : Call → Call
  | .connect connection => .connect connection.plain
  | .openSocket connection => .openSocket connection.plain
  | .startTls connection => .startTls connection.plain
  | .bind connection => .bind connection.plain
  | .unbind connection => .unbind connection.plain
  | .search connection q => .search connection.plain q
  | .pagedSearch connection q size => .pagedSearch connection.plain q size
  | call => call

def IsSession : Call → Prop
  | .prepareTicket _ | .acquireTicket _ _ | .connect _ | .openSocket _ | .startTls _ | .bind _
  | .unbind _ | .search _ _ | .pagedSearch _ _ _ => True
  | _ => False

theorem reply_unnumbered (call : Call) : call.unnumbered.Reply = call.Reply := by
  cases call <;> rfl

theorem plain_unnumbered (call : Call) : call.unnumbered.plain = call.plain := by
  cases call <;> rfl

theorem IsSession.unnumbered {call : Call} (session : call.IsSession) :
    call.unnumbered.IsSession := by
  cases call <;> trivial

end Call

variable {σ α β : Type} {network : Network σ} {state : σ}

/-- Whatever was asked before, a call in a session has the answer that its plain form has at
first. -/
def Network.Static (network : Network σ) (state : σ) : Prop :=
  ∀ later, network.Later (fun _ => True) state later → ∀ call : Call, call.IsSession →
    HEq (network.answer call later).1 (network.answer call.plain state).1

/-- Calls with the same plain form have the same answer, even at different times. -/
theorem Network.Static.answers (static : network.Static state) {later later' : σ}
    (left : network.Later (fun _ => True) state later)
    (right : network.Later (fun _ => True) state later') {call call' : Call}
    (session : call.IsSession) (session' : call'.IsSession) (same : call.plain = call'.plain) :
    HEq (network.answer call later).1 (network.answer call' later').1 := by
  have here := static _ left call session
  have there := static _ right call' session'
  rw [← same] at there
  exact here.trans there.symm

/-- Whatever was asked before, a call of a kind has the answer that it has at first, whichever of
the connections that were made alike it is made on. -/
def Network.Fixed (network : Network σ) (kind : Call → Prop) (state : σ) : Prop :=
  ∀ later, network.Later (fun _ => True) state later → ∀ call : Call, kind call →
    HEq (network.answer call later).1 (network.answer call.unnumbered state).1

namespace Network.Fixed

variable {kind less : Call → Prop}

theorem mono (fixed : network.Fixed kind state) (narrower : ∀ call, less call → kind call) :
    network.Fixed less state :=
  fun later reached call may => fixed later reached call (narrower call may)

/-- Calls that differ in the numbers of their connections only have the same answer, even at
different times. -/
theorem answers (fixed : network.Fixed kind state) {later later' : σ}
    (left : network.Later (fun _ => True) state later)
    (right : network.Later (fun _ => True) state later') {call call' : Call} (may : kind call)
    (may' : kind call') (same : call.unnumbered = call'.unnumbered) :
    HEq (network.answer call later).1 (network.answer call' later').1 := by
  have here := fixed _ left call may
  have there := fixed _ right call' may'
  rw [← same] at there
  exact here.trans there.symm

end Network.Fixed

/-- Whatever was asked before and on whichever of the connections that were made alike, searches
are answered alike with the first attributes and with the second. -/
structure Network.Overlooks (network : Network σ) (state : σ)
    (attributes attributes' : Option (List String)) : Prop where
  whole : ∀ later later', network.Later (fun _ => True) state later →
    network.Later (fun _ => True) state later' → ∀ connection connection' : Connection,
      connection.plain = connection'.plain → ∀ q : Query,
        (network.answer (.search connection { q with attributes := attributes }) later).1 =
          (network.answer (.search connection' { q with attributes := attributes' }) later').1
  paged : ∀ later later', network.Later (fun _ => True) state later →
    network.Later (fun _ => True) state later' → ∀ connection connection' : Connection,
      connection.plain = connection'.plain → ∀ (q : Query) (size : Int),
        (network.answer (.pagedSearch connection { q with attributes := attributes } size)
          later).1 =
          (network.answer (.pagedSearch connection' { q with attributes := attributes' } size)
            later').1

/-- What is fixed is so with the same attributes. -/
theorem Network.Fixed.overlooks (fixed : network.Fixed Call.IsSession state)
    (attributes : Option (List String)) : network.Overlooks state attributes attributes where
  whole _ _ left right _ _ plain q := eq_of_heq (fixed.answers left right trivial trivial
    (congrArg (Call.search · { q with attributes := attributes }) plain))
  paged _ _ left right _ _ plain q size := eq_of_heq (fixed.answers left right trivial trivial
    (congrArg (Call.pagedSearch · { q with attributes := attributes } size) plain))

/-- Static networks overlook attributes altogether. -/
theorem Network.Static.overlooks (static : network.Static state)
    (attributes attributes' : Option (List String)) :
    network.Overlooks state attributes attributes' where
  whole _ _ left right _ _ plain q := eq_of_heq (static.answers left right trivial trivial
    (congrArg (Call.search · q.plain) plain))
  paged _ _ left right _ _ plain q size := eq_of_heq (static.answers left right trivial trivial
    (congrArg (Call.pagedSearch · q.plain size) plain))

/-- The answers of a static network to calls in sessions are fixed. -/
theorem Network.Static.fixed (static : network.Static state) :
    network.Fixed Call.IsSession state := by
  intro later reached call session
  have here := static later reached call session
  have there := static state .refl call.unnumbered session.unnumbered
  rw [call.plain_unnumbered] at there
  exact here.trans there.symm

/-- Two worlds come from the state of a network, and since then, which may have been at
different times, as many connections were made in the one as in the other, and the same of them were
given up. -/
structure World.Abreast (network : Network σ) (state : σ) (p q : Nat) (a b : World σ) : Prop where
  left : network.Later (fun _ => True) state a.network
  right : network.Later (fun _ => True) state b.network
  connections : ∃ i, a.connections = p + i ∧ b.connections = q + i
  closed : ∀ i, p + i ∈ a.closed ↔ q + i ∈ b.closed

namespace Operation

open World

/-- Run in worlds that are abreast, the operations come to outcomes that are alike, and the worlds
are abreast again. -/
def Agree (network : Network σ) (state : σ) (p q : Nat) (view : α → β → Prop) (x : Operation σ α)
    (y : Operation σ β) : Prop :=
  Parallel network network (Abreast network state p q) view x y

namespace Agree

variable {p q : Nat}

/-- What is logged does not matter. -/
theorem log (level : Level) (component : Component) (message message' : String) :
    Agree network state p q Eq (Operation.log level component message)
      (Operation.log level component message') :=
  fun _ _ ⟨left, right, connections, closed⟩ => ⟨rfl, left, right, connections, closed⟩

/-- A call has the same reply in both worlds, as have calls on connections that were made alike. -/
theorem perform {kind : Call → Prop} {call call' : Call} (fixed : network.Fixed kind state)
    (may : kind call) (may' : kind call') (same : call.unnumbered = call'.unnumbered) :
    Agree network state p q (fun reply reply' => HEq reply reply') (Operation.perform call)
      (Operation.perform call') := by
  intro a b abreast
  have answers := fixed.answers abreast.left abreast.right may may' same
  have replies : call.Reply = call'.Reply := by
    rw [← call.reply_unnumbered, ← call'.reply_unnumbered, same]
  have alike {R R' : Type} (types : R = R') (answer : Except Fault R) (answer' : Except Fault R')
      (equal : HEq answer answer') :
      Concur (fun reply reply' => HEq reply reply') (answer.mapError Failure.outside)
        (answer'.mapError Failure.outside) := by
    subst types
    cases equal
    cases answer with
    | ok reply => exact HEq.rfl
    | error fault => rfl
  refine ⟨alike replies _ _ answers, ?_, ?_, abreast.connections, abreast.closed⟩
  · exact abreast.left.tail ⟨call, trivial, rfl⟩
  · exact abreast.right.tail ⟨call', trivial, rfl⟩

end Agree

end Operation

end DirectoryAuth

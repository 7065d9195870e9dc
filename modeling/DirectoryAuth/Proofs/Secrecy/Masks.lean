import DirectoryAuth.Proofs.Network.Steady
import DirectoryAuth.Search
import Mathlib.Control.Monad.Basic

/-!
# Masks

The secrets are the texts of passwords: the one that a server is configured with, and the one that
a user proves. That a password is missing or empty is no secret, and a password that is no text is
none: a failure shows what cannot be put into UTF-8. A mask blots out the secrets in a value and
leaves all else as it is, so that values with equal masks differ in secrets only.
-/

namespace DirectoryAuth

/-! ## Passwords -/

/-- What is left of a secret text under a mask: whether it is empty. -/
def blottedText (text : String) : String := if text = "" then "" else "*"

theorem blottedText_eq_empty {text : String} : blottedText text = "" ↔ text = "" := by
  rw [blottedText]
  split
  · exact iff_of_true rfl ‹_›
  · exact iff_of_false (by decide) ‹_›

theorem blottedText_eq_of_ne {text text' : String} (given : text ≠ "") (given' : text' ≠ "") :
    blottedText text = blottedText text' := by
  rw [blottedText, blottedText, if_neg given, if_neg given']

/-- What is left of a password under a mask. -/
def blotted (password : Password) : Password :=
  match password.text? with
  | some text => .ofText (blottedText text)
  | none => password

theorem blotted_ofText (text : String) :
    blotted (.ofText text) = .ofText (blottedText text) := by
  rw [blotted, Password.text?_ofText]

/-- Under the mask it can be told whether a password is a text. -/
theorem text?_blotted (password : Password) :
    (blotted password).text? = password.text?.map blottedText := by
  cases read : password.text? with
  | some text =>
    rw [Password.eq_ofText read, blotted_ofText, Password.text?_ofText, Option.map_some]
  | none => rw [blotted, read, read, Option.map_none]

/-- Passwords that differ in secrets only are texts that do, or the same. -/
theorem texts_or_eq_of_blotted {password password' : Password}
    (same : blotted password = blotted password') :
    (∃ text text', password = .ofText text ∧ password' = .ofText text' ∧
      blottedText text = blottedText text') ∨ password = password' ∧ password.text? = none := by
  have texts := congrArg Password.text? same
  rw [text?_blotted, text?_blotted] at texts
  cases read : password.text? with
  | some text =>
    rw [read] at texts
    obtain ⟨text', read', blot⟩ := Option.map_eq_some_iff.mp texts.symm
    exact .inl ⟨text, text', Password.eq_ofText read, Password.eq_ofText read', blot.symm⟩
  | none =>
    have read' : password'.text? = none := by
      rw [read] at texts
      exact Option.map_eq_none_iff.mp texts.symm
    rw [blotted, blotted, read, read'] at same
    exact .inr ⟨same, rfl⟩

/-- Whether a password is empty can be told under the mask. -/
theorem eq_blank_iff_of_blotted {password password' : Password}
    (same : blotted password = blotted password') : password = .blank ↔ password' = .blank := by
  rcases texts_or_eq_of_blotted same with ⟨text, text', rfl, rfl, blot⟩ | ⟨rfl, -⟩
  · rw [Password.ofText_eq_blank, Password.ofText_eq_blank, ← blottedText_eq_empty, blot,
      blottedText_eq_empty]
  · rfl

/-! ## Values -/

def Credentials.masked : Credentials → Credentials
  | .simple account password => .simple account (password.map blotted)
  | .digest realm account password => .digest realm account (password.map blotted)
  | credentials => credentials

def Terms.masked (t : Terms) : Terms := { t with credentials := t.credentials.masked }

def Connection.masked (c : Connection) : Connection := { c with terms := c.terms.masked }

def Session.masked (s : Session) : Session := { s with connection := s.connection.masked }

def Cursor.masked (c : Cursor) : Cursor := { c with session := c.session.masked }

def Server.masked (s : Server) : Server := { s with bindPassword := s.bindPassword.map blottedText }

def Connector.masked (c : Connector) : Connector := ⟨c.server.masked⟩

def Connector.withPassword (c : Connector) (password : Option String) : Connector :=
  ⟨{ c.server with bindPassword := password }⟩

/-- Connectors that differ in secrets only differ in the password of the service account only. -/
theorem Connector.eq_withPassword {c c' : Connector} (same : c.masked = c'.masked) :
    ∃ password, c.server.bindPassword.map blottedText = password.map blottedText ∧
      c' = c.withPassword password := by
  obtain ⟨server⟩ := c
  obtain ⟨server'⟩ := c'
  refine ⟨server'.bindPassword, ?_, ?_⟩
  · exact congrArg (fun c : Connector => c.server.bindPassword) same
  · cases server
    cases server'
    simp only [masked, Server.masked, mk.injEq, Server.mk.injEq] at same
    simp only [withPassword, mk.injEq, Server.mk.injEq]
    simp only [same, and_self]

/-- Cursors that differ in secrets only differ in those of their sessions only. -/
theorem Cursor.eq_session {c c' : Cursor} (same : c.masked = c'.masked) :
    ∃ session, c.session.masked = session.masked ∧ c' = { c with session := session } := by
  obtain ⟨session, query, pageSize, progress⟩ := c
  obtain ⟨session', query', pageSize', progress'⟩ := c'
  obtain ⟨sessions, rfl, rfl, rfl⟩ := Cursor.mk.inj same
  exact ⟨session', sessions, rfl⟩

theorem Session.connection_masked {s s' : Session} (same : s.masked = s'.masked) :
    s.connection.masked = s'.connection.masked :=
  congrArg Session.connection same

theorem Session.number_eq {s s' : Session} (same : s.masked = s'.masked) :
    s.connection.number = s'.connection.number :=
  congrArg (·.connection.number) same

theorem Session.server_eq {s s' : Session} (same : s.masked = s'.masked) : s.server = s'.server :=
  congrArg (·.server) same

/-! ## Calls and histories -/

def Call.masked : Call → Call
  | .connect connection => .connect connection.masked
  | .openSocket connection => .openSocket connection.masked
  | .startTls connection => .startTls connection.masked
  | .bind connection => .bind connection.masked
  | .unbind connection => .unbind connection.masked
  | .search connection query => .search connection.masked query
  | .pagedSearch connection query pageSize => .pagedSearch connection.masked query pageSize
  | .acquireTicket principal password => .acquireTicket principal (blottedText password)
  | call => call

theorem Call.reply_masked (call : Call) : call.masked.Reply = call.Reply := by
  cases call <;> rfl

instance : (call : Call) → DecidableEq call.Reply
  | .declareServer _ | .declarePool _ | .connect _ | .openSocket _ | .unbind _ | .prepareTicket _
  | .writeFile _ _ => inferInstanceAs (DecidableEq Unit)
  | .startTls _ => inferInstanceAs (DecidableEq UpgradeReply)
  | .bind _ => inferInstanceAs (DecidableEq BindReply)
  | .search _ _ => inferInstanceAs (DecidableEq SearchReply)
  | .pagedSearch _ _ _ => inferInstanceAs (DecidableEq PagedReply)
  | .lookUpService _ => inferInstanceAs (DecidableEq (List ServiceRecord))
  | .readFile _ => inferInstanceAs (DecidableEq (List UInt8))
  | .acquireTicket _ _ | .askPassword _ => inferInstanceAs (DecidableEq String)

deriving instance DecidableEq for Event

/-- Of a call that was answered, the secrets of the call are blotted out. An answer has none. -/
def Event.masked : Event → Event
  | .exchange call answer => .exchange call.masked (call.reply_masked ▸ answer)
  | event => event

/-- Calls that differ in secrets only, with the same answer, are the same under the mask. -/
theorem Event.masked_exchange {call call' : Call} {answer : Except Fault call.Reply}
    {answer' : Except Fault call'.Reply} (same : call.masked = call'.masked)
    (answered : HEq answer answer') :
    (Event.exchange call answer).masked = (Event.exchange call' answer').masked := by
  have blind : HEq (call.reply_masked ▸ answer : Except Fault call.masked.Reply)
      (call'.reply_masked ▸ answer' : Except Fault call'.masked.Reply) :=
    (eqRec_heq _ _).trans (answered.trans (eqRec_heq _ _).symm)
  simp only [masked]
  congr 1

/-- Records are told in full. -/
theorem Event.record?_masked (event : Event) : event.masked.record? = event.record? := by
  cases event <;> rfl

/-- Every two calls at the same place of two histories that differ in secrets only have the same
answer. -/
def SameAnswers (history history' : List Event) : Prop :=
  ∀ (place : Nat) (call call' : Call) (answer : Except Fault call.Reply)
    (answer' : Except Fault call'.Reply),
    history[place]? = some (.exchange call answer) →
    history'[place]? = some (.exchange call' answer') →
    call.masked = call'.masked → HEq answer answer'

/-- Histories that are the same under the mask have the same answers. -/
theorem SameAnswers.of_masked {history history' : List Event}
    (same : history.map Event.masked = history'.map Event.masked) :
    SameAnswers history history' := by
  intro place call call' answer answer' here here' _
  have there := congrArg (·[place]?) same
  simp only [List.getElem?_map, here, here', Option.map_some] at there
  obtain ⟨-, answered⟩ := Event.exchange.inj (Option.some.inj there)
  exact (eqRec_heq _ _).symm.trans (answered.trans (eqRec_heq _ _))

/-- What holds of the answers of whole histories holds of those of their beginnings. -/
theorem SameAnswers.of_prefix {history history' whole whole' : List Event}
    (first : history <+: whole) (first' : history' <+: whole')
    (answers : SameAnswers whole whole') : SameAnswers history history' := by
  obtain ⟨rest, rfl⟩ := first
  obtain ⟨rest', rfl⟩ := first'
  intro place call call' answer answer' here here' same
  have within := (List.getElem?_eq_some_iff.mp here).1
  have within' := (List.getElem?_eq_some_iff.mp here').1
  refine answers place call call' answer answer' ?_ ?_ same
  · rwa [List.getElem?_append_left within]
  · rwa [List.getElem?_append_left within']

end DirectoryAuth

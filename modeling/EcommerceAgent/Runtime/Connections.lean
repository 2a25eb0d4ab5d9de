/-
# The registry of WebSocket connections

`ConnectionManager` of `api/monitor.py` keeps one socket for each thread id, and
`websocket_endpoint` of `api/server.py` runs once for each socket: it registers the socket after the
handshake, answers what the client sends, and calls `disconnect` when the client leaves or an
exception is raised.
`disconnect` gets the socket and does not look at it: it removes whatever is registered under the
thread id.  So the socket of a reloaded page is lost when the page before it leaves later, and the
newest socket of each thread id stays registered in exactly the runs in which no older one leaves
before it (`live_iff`).
-/
import EcommerceAgent.Lib.Runs
import Mathlib.Logic.Function.Basic

open EcommerceAgent.Lib

namespace EcommerceAgent.Runtime.Connections

/-! ### The manager -/

/-- A dictionary from thread ids to sockets. -/
abbrev ActiveConnections (WebSocket : Type) := String → Option WebSocket

namespace ActiveConnections

variable {WebSocket : Type} (active : ActiveConnections WebSocket)

/-- `connect`, after the socket has been accepted. -/
def connect (websocket : WebSocket) (threadId : String) : ActiveConnections WebSocket :=
  Function.update active threadId (some websocket)

/-- `disconnect`. -/
def disconnect (_websocket : WebSocket) (threadId : String) : ActiveConnections WebSocket :=
  if (active threadId).isSome then Function.update active threadId none else active

/-- `send_to_thread`: the socket that the message is sent to. -/
def sendToThread {Message : Type} (message : Message) (threadId : String) :
    Option (WebSocket × Message) :=
  (active threadId).map fun websocket => (websocket, message)

@[simp] lemma connect_self (websocket : WebSocket) (threadId : String) :
    active.connect websocket threadId threadId = some websocket := Function.update_self ..

lemma connect_of_ne {threadId threadId' : String} (websocket : WebSocket)
    (h : threadId' ≠ threadId) : active.connect websocket threadId threadId' = active threadId' :=
  Function.update_of_ne h ..

@[simp] lemma disconnect_self (websocket : WebSocket) (threadId : String) :
    active.disconnect websocket threadId threadId = none := by
  rw [disconnect]
  split
  · exact Function.update_self ..
  · next h => simpa using h

lemma disconnect_of_ne {threadId threadId' : String} (websocket : WebSocket)
    (h : threadId' ≠ threadId) :
    active.disconnect websocket threadId threadId' = active threadId' := by
  rw [disconnect]
  split
  · exact Function.update_of_ne h ..
  · rfl

end ActiveConnections

/-! ### The endpoints -/

/-- Where `websocket_endpoint` stands for a socket. -/
inductive Endpoint
  /-- It awaits `accept`. -/
  | accepting (threadId : String)
  /-- It awaits `receive_text`. -/
  | receiving (threadId : String)
  /-- It awaits `send_json`. -/
  | answering (threadId : String)
  /-- It has ended. -/
  | ended
deriving DecidableEq, Repr

/-- The thread id of a registered socket that has not left. -/
def Endpoint.connectedUnder : Endpoint → Option String
  | accepting _ => none
  | receiving threadId => some threadId
  | answering threadId => some threadId
  | ended => none

/-- The socket has been registered, whether or not it has left. -/
def Endpoint.Registered : Endpoint → Prop
  | accepting _ => False
  | _ => True

/-- The two clauses of the `try`. -/
inductive SocketError
  /-- `WebSocketDisconnect`. -/
  | disconnected
  /-- Any other `Exception`, as a failed `send_json` raises it. -/
  | failed (message : String)
deriving DecidableEq, Repr

/-- What the event loop does next. -/
inductive Event (WebSocket : Type)
  /-- A client asks for `/ws/{thread_id}`. -/
  | request (websocket : WebSocket) (threadId : String)
  /-- `accept` returns. -/
  | accepted (websocket : WebSocket)
  /-- `accept` raises. -/
  | refused (websocket : WebSocket)
  /-- `receive_text` returns. -/
  | received (websocket : WebSocket) (data : String)
  /-- `send_json` of the answer returns. -/
  | answered (websocket : WebSocket)
  /-- `receive_text` or `send_json` raises. -/
  | raised (websocket : WebSocket) (error : SocketError)
  /-- The monitor calls `send_to_thread`, which may raise in the monitor's own task. -/
  | report (message threadId : String) (fails : Bool)
deriving DecidableEq, Repr

/-- The registry, the endpoints, and the sockets registered so far with their thread ids, the last
one first. -/
structure State (WebSocket : Type) where
  active : ActiveConnections WebSocket
  endpoint : WebSocket → Option Endpoint
  history : List (String × WebSocket)

namespace State

variable {WebSocket : Type} [DecidableEq WebSocket] (s : State WebSocket)

/-- No client has come yet. -/
def initial : State WebSocket where
  active := fun _ => none
  endpoint := fun _ => none
  history := []

/-- The socket's endpoint goes on. -/
def setEndpoint (websocket : WebSocket) (e : Endpoint) : State WebSocket :=
  { s with endpoint := Function.update s.endpoint websocket (some e) }

/-- The thread id of a registered socket that has not left. -/
def connectedUnder (websocket : WebSocket) : Option String :=
  (s.endpoint websocket).bind Endpoint.connectedUnder

/-- The rest of `connect`. -/
def register (websocket : WebSocket) (threadId : String) : State WebSocket :=
  { s.setEndpoint websocket (.receiving threadId) with
    active := s.active.connect websocket threadId
    history := (threadId, websocket) :: s.history }

/-- Either of the two `except` clauses. -/
def unregister (websocket : WebSocket) (threadId : String) : State WebSocket :=
  { s.setEndpoint websocket .ended with active := s.active.disconnect websocket threadId }

/-- One step.  A socket connects once, and an event that does not fit its endpoint changes
nothing. -/
def step (s : State WebSocket) : Event WebSocket → State WebSocket
  | .request websocket threadId =>
    if s.endpoint websocket = none then s.setEndpoint websocket (.accepting threadId) else s
  | .accepted websocket =>
    match s.endpoint websocket with
    | some (.accepting threadId) => s.register websocket threadId
    | _ => s
  | .refused websocket =>
    match s.endpoint websocket with
    | some (.accepting _) => s.setEndpoint websocket .ended
    | _ => s
  | .received websocket _ =>
    match s.endpoint websocket with
    | some (.receiving threadId) => s.setEndpoint websocket (.answering threadId)
    | _ => s
  | .answered websocket =>
    match s.endpoint websocket with
    | some (.answering threadId) => s.setEndpoint websocket (.receiving threadId)
    | _ => s
  | .raised websocket _ =>
    match s.connectedUnder websocket with
    | some threadId => s.unregister websocket threadId
    | none => s
  | .report _ _ _ => s

/-- The socket that connected last under the thread id. -/
def newest (threadId : String) : Option WebSocket := s.history.lookup threadId

/-- The socket has been registered and has not left. -/
def Connected (websocket : WebSocket) : Prop := (s.connectedUnder websocket).isSome

instance (websocket : WebSocket) : Decidable (s.Connected websocket) :=
  inferInstanceAs (Decidable (_ = true))

/-- If the newest socket of a thread id has not left, it gets the messages for the thread id. -/
def Live : Prop := ∀ threadId websocket, s.newest threadId = some websocket →
  s.Connected websocket → ∀ message : String,
    s.active.sendToThread message threadId = some (websocket, message)

/-- No socket leaves while a newer one of its thread id is connected. -/
def InTurn : Event WebSocket → Prop
  | .raised websocket _ => ∀ threadId newer, s.connectedUnder websocket = some threadId →
      s.newest threadId = some newer → newer ≠ websocket → ¬ s.Connected newer
  | _ => True

/-- Sockets of the history have been registered. -/
def Recorded : Prop := ∀ threadId websocket, (threadId, websocket) ∈ s.history →
  ∃ e, s.endpoint websocket = some e ∧ e.Registered

/-! ### What a step does -/

variable {s}

omit [DecidableEq WebSocket] in
lemma live_iff_active : s.Live ↔ ∀ threadId websocket, s.newest threadId = some websocket →
    s.Connected websocket → s.active threadId = some websocket := by
  have hsend : ∀ (threadId : String) (websocket : WebSocket),
      (∀ message : String, s.active.sendToThread message threadId = some (websocket, message)) ↔
        s.active threadId = some websocket := by
    intro threadId websocket
    constructor
    · intro h
      obtain ⟨w, hw, heq⟩ := Option.map_eq_some_iff.mp (h "")
      cases heq
      exact hw
    · intro h message
      rw [ActiveConnections.sendToThread, h, Option.map_some]
  simp only [Live, hsend]

@[simp] lemma connectedUnder_setEndpoint_self (websocket : WebSocket) (e : Endpoint) :
    (s.setEndpoint websocket e).connectedUnder websocket = e.connectedUnder := by
  show (Function.update s.endpoint websocket (some e) websocket).bind _ = _
  rw [Function.update_self]
  rfl

lemma connectedUnder_setEndpoint_of_ne {websocket other : WebSocket} (e : Endpoint)
    (h : other ≠ websocket) :
    (s.setEndpoint websocket e).connectedUnder other = s.connectedUnder other := by
  show (Function.update s.endpoint websocket (some e) other).bind _ = _
  rw [Function.update_of_ne h]
  rfl

/-- An endpoint that goes on without `connect` or `disconnect` leaves the sockets as they are. -/
lemma live_setEndpoint {websocket : WebSocket} {e : Endpoint}
    (h : e.connectedUnder = s.connectedUnder websocket) :
    (s.setEndpoint websocket e).Live ↔ s.Live := by
  have hall : ∀ other,
      (s.setEndpoint websocket e).connectedUnder other = s.connectedUnder other := by
    intro other
    by_cases hother : other = websocket
    · rw [hother, connectedUnder_setEndpoint_self, h]
    · exact connectedUnder_setEndpoint_of_ne e hother
  simp only [live_iff_active, Connected, hall]
  rfl

lemma newest_register_self (websocket : WebSocket) (threadId : String) :
    (s.register websocket threadId).newest threadId = some websocket := by
  simp [newest, register]

lemma newest_register_of_ne {threadId threadId' : String} (websocket : WebSocket)
    (h : threadId' ≠ threadId) :
    (s.register websocket threadId).newest threadId' = s.newest threadId' := by
  have hne : (threadId' == threadId) = false := by simpa using h
  simp [newest, register, List.lookup_cons, hne]

omit [DecidableEq WebSocket] in
lemma mem_history_of_newest {threadId : String} {websocket : WebSocket}
    (h : s.newest threadId = some websocket) : (threadId, websocket) ∈ s.history := by
  obtain ⟨l, r, hl, -⟩ := List.lookup_eq_some_iff.mp h
  simp [hl]

/-- A socket that connects is the newest one of its thread id and gets its messages; the other
thread ids are not touched. -/
lemma live_register {websocket : WebSocket} {threadId : String} (hs : s.Recorded) (hlive : s.Live)
    (h : s.endpoint websocket = some (.accepting threadId)) :
    (s.register websocket threadId).Live := by
  rw [live_iff_active] at hlive ⊢
  intro threadId' websocket' hnewest hconnected
  by_cases ht : threadId' = threadId
  · subst ht
    rw [newest_register_self] at hnewest
    cases hnewest
    exact ActiveConnections.connect_self ..
  · rw [newest_register_of_ne _ ht] at hnewest
    -- A socket of the history has been accepted before.
    have hne : websocket' ≠ websocket := by
      rintro rfl
      obtain ⟨e, he, hreg⟩ := hs _ _ (mem_history_of_newest hnewest)
      rw [h] at he
      cases he
      exact hreg
    have hbefore : s.Connected websocket' := by
      have hkeep := connectedUnder_setEndpoint_of_ne (s := s) (.receiving threadId) hne
      rw [Connected, ← hkeep]
      exact hconnected
    have hactive := hlive _ _ hnewest hbefore
    rw [← hactive]
    exact ActiveConnections.connect_of_ne _ _ ht

/-- `disconnect` clears the slot of the thread id: that does no harm exactly if the newest socket of
the id is the one that leaves, or has left. -/
lemma live_unregister {websocket : WebSocket} {threadId : String} (hlive : s.Live) :
    (s.unregister websocket threadId).Live ↔
      ∀ newer, s.newest threadId = some newer → newer ≠ websocket → ¬ s.Connected newer := by
  rw [live_iff_active] at hlive ⊢
  have hleft : ¬ (s.unregister websocket threadId).Connected websocket := by
    have h := connectedUnder_setEndpoint_self (s := s) websocket .ended
    rw [Connected, show (s.unregister websocket threadId).connectedUnder websocket = none from h]
    simp
  have hothers : ∀ other, other ≠ websocket →
      ((s.unregister websocket threadId).Connected other ↔ s.Connected other) := by
    intro other hother
    have h := connectedUnder_setEndpoint_of_ne (s := s) .ended hother
    rw [Connected, Connected, ← h]
    rfl
  constructor
  · intro h newer hnewest hne hconnected
    have hself := h threadId newer hnewest ((hothers newer hne).mpr hconnected)
    have hnone : (s.unregister websocket threadId).active threadId = none :=
      ActiveConnections.disconnect_self s.active websocket threadId
    rw [hnone] at hself
    cases hself
  · intro h threadId' websocket' hnewest hconnected
    have hne : websocket' ≠ websocket := by
      rintro rfl
      exact hleft hconnected
    have hbefore := (hothers websocket' hne).mp hconnected
    have ht : threadId' ≠ threadId := by
      rintro rfl
      exact h websocket' hnewest hne hbefore
    rw [← hlive threadId' websocket' hnewest hbefore]
    exact s.active.disconnect_of_ne websocket ht

lemma Recorded.setEndpoint {websocket : WebSocket} {e : Endpoint} (hs : s.Recorded)
    (he : (∃ e', s.endpoint websocket = some e' ∧ e'.Registered) → e.Registered) :
    (s.setEndpoint websocket e).Recorded := by
  intro threadId other hmem
  have hbefore := hs threadId other hmem
  by_cases hother : other = websocket
  · subst hother
    exact ⟨e, Function.update_self .., he hbefore⟩
  · obtain ⟨e', he', hreg⟩ := hbefore
    exact ⟨e', (Function.update_of_ne hother ..).trans he', hreg⟩

/-! ### Steps and runs -/

variable (s)

/-- Every socket of the history stays one that has been registered. -/
lemma Recorded.step (hs : s.Recorded) (event : Event WebSocket) : (s.step event).Recorded := by
  cases event with
  | request websocket threadId =>
    rw [State.step]
    split
    · next hnone =>
      refine hs.setEndpoint ?_
      rintro ⟨e, he, -⟩
      rw [hnone] at he
      cases he
    · exact hs
  | accepted websocket =>
    rw [State.step]
    split
    · next threadId _ =>
      have hset : (s.setEndpoint websocket (.receiving threadId)).Recorded :=
        hs.setEndpoint fun _ => trivial
      intro threadId' other hmem
      rcases List.mem_cons.mp hmem with heq | hmem
      · cases heq
        exact ⟨_, Function.update_self .., trivial⟩
      · exact hset threadId' other hmem
    · exact hs
  | refused websocket =>
    rw [State.step]
    split
    · exact hs.setEndpoint fun _ => trivial
    · exact hs
  | received websocket data =>
    rw [State.step]
    split
    · exact hs.setEndpoint fun _ => trivial
    · exact hs
  | answered websocket =>
    rw [State.step]
    split
    · exact hs.setEndpoint fun _ => trivial
    · exact hs
  | raised websocket error =>
    rw [State.step]
    split
    · exact hs.setEndpoint fun _ => trivial
    · exact hs
  | report => exact hs

/-- A step keeps the newest sockets registered if and only if it is in turn. -/
lemma live_step (hs : s.Recorded) (hlive : s.Live) (event : Event WebSocket) :
    (s.step event).Live ↔ s.InTurn event := by
  cases event with
  | request websocket threadId =>
    refine iff_of_true ?_ trivial
    rw [State.step]
    split
    · next hnone =>
      refine (live_setEndpoint ?_).mpr hlive
      rw [connectedUnder, hnone]
      rfl
    · exact hlive
  | accepted websocket =>
    refine iff_of_true ?_ trivial
    rw [State.step]
    split
    · next h => exact live_register hs hlive h
    · exact hlive
  | refused websocket =>
    refine iff_of_true ?_ trivial
    rw [State.step]
    split
    · next h =>
      refine (live_setEndpoint ?_).mpr hlive
      rw [connectedUnder, h]
      rfl
    · exact hlive
  | received websocket data =>
    refine iff_of_true ?_ trivial
    rw [State.step]
    split
    · next h =>
      refine (live_setEndpoint ?_).mpr hlive
      rw [connectedUnder, h]
      rfl
    · exact hlive
  | answered websocket =>
    refine iff_of_true ?_ trivial
    rw [State.step]
    split
    · next h =>
      refine (live_setEndpoint ?_).mpr hlive
      rw [connectedUnder, h]
      rfl
    · exact hlive
  | raised websocket error =>
    rw [State.step]
    split
    · next threadId h =>
      rw [live_unregister hlive]
      constructor
      · intro hturn threadId' newer h' hnewest hne
        rw [h] at h'
        cases h'
        exact hturn newer hnewest hne
      · exact fun hturn newer => hturn threadId newer h
    · next h =>
      refine iff_of_true hlive fun threadId newer h' => ?_
      rw [h] at h'
      cases h'
  | report => exact iff_of_true hlive trivial

/-- In every run from the start, the newest socket of each thread id gets the messages of the id
after each step, unless it has left, if and only if no socket leaves while a newer one of its thread
id is connected. -/
theorem live_iff (events : List (Event WebSocket)) :
    (∀ seen, seen <+: events → (run step (initial : State WebSocket) seen).Live) ↔
      Along step InTurn (initial : State WebSocket) events := by
  refine always_iff_along (J := Recorded) (fun s event hs => hs.step s event)
    (fun s event hs hlive => live_step s hs hlive event) ?_ ?_ events
  · intro threadId websocket hmem
    cases hmem
  · intro threadId websocket hnewest
    cases hnewest

/-- A page is reloaded, and the socket of the page before it leaves afterwards. -/
theorem not_live_reloaded :
    ¬ ∀ (events seen : List (Event ℕ)), seen <+: events → (run step initial seen).Live := by
  intro h
  have hlive := h
    [.request 1 "t", .accepted 1, .request 2 "t", .accepted 2, .raised 1 .disconnected] _
    List.prefix_rfl "t" 2 rfl (by decide) ""
  cases hlive

end State

end EcommerceAgent.Runtime.Connections

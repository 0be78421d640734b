import RipV2.Channels
import RipV2.LoopEvaluation

/-!
HTTP handlers and the event loop: requests go to the loop through a bounded
channel, and each comes with a channel of its own for the reply.
-/

namespace RipV2.AdminProtocol

open RipV2.AdminInterface
open RipV2.Channels
open RipV2.Database
open RipV2.Deamon
open RipV2.Deamon.RipDeamon
open RipV2.DeamonLoop
open RipV2.DeamonLoop.EventLoop
open RipV2.DeamonRuns
open RipV2.DeamonSimulation
open RipV2.EffectLogic
open RipV2.HostEnvironment
open RipV2.LocalRoutes
open RipV2.LoopEvaluation
open RipV2.LoopPasses
open RipV2.KernelRoutes
open RipV2.Results
open RipV2.RoutingTables
open RipV2.TransitionRuns

/-- The body of a request to add a network. -/
structure HttpAddLocalRouteRequest where
  address : String
  prefixLen : UInt32
  dev : String
deriving DecidableEq, Repr

/-- The statuses with which a handler fails. -/
inductive StatusCode where
  | badRequest
  | internalServerError
  | serviceUnavailable
deriving DecidableEq, Repr

/-- What a client gets: a JSON body with status 200, or a text with another status. -/
inductive Response where
  | routes (routes : List HttpRoute)
  | status (status : String)
  | text (code : StatusCode) (message : String)
deriving DecidableEq, Repr

/-- The fields go into the configuration type as they are; the daemon checks them. -/
def HttpAddLocalRouteRequest.network (payload : HttpAddLocalRouteRequest) :
    AdvertisedNetwork where
  address := payload.address
  prefixLen := payload.prefixLen
  dev := payload.dev

/-- A client's request, for the list of routes or for a new local route. -/
inductive ApiCall where
  | getRoutes
  | addLocalRoute (payload : HttpAddLocalRouteRequest)
deriving DecidableEq, Repr

/-- What `get_routes` and `add_local_route` send to the daemon. -/
def ApiCall.kind : ApiCall → HttpRequestKind
  | .getRoutes => .getRoutes
  | .addLocalRoute payload => .addLocalRoute payload.network

/-- The daemon has answered something that was not asked for. -/
def unexpectedResponse : Response :=
  .text .internalServerError "unexpected response from RIP daemon"

/-- `get_routes` and `add_local_route`, after `send_http_request` has returned. -/
def ApiCall.response : ApiCall → Except Response HttpResponse → Response
  | .getRoutes, .ok (.routes routes) => .routes routes
  | .addLocalRoute _, .ok .ok => .status "ok"
  | _, .ok (.error message) => .text .badRequest message
  | _, .ok _ => unexpectedResponse
  | _, .error response => response

/-- The channel to the daemon is closed. -/
def notAccepting : Response :=
  .text .serviceUnavailable "RIP daemon is not accepting admin requests"

/-- The daemon has dropped the sender of its response. -/
def didNotAnswer : Response :=
  .text .serviceUnavailable "RIP daemon did not answer admin request"

/-- How far `send_http_request` and the handler around it have come. A reply of
`none` is a reply channel whose sender was dropped. -/
inductive Handler where
  | sending (call : ApiCall)
  | waiting (call : ApiCall)
  | replied (call : ApiCall) (reply : Option HttpResponse)
  | finished (call : ApiCall) (response : Response)
  | hungUp
deriving DecidableEq, Repr

/-- The handler has returned, or its client is gone. -/
def Handler.done : Handler → Bool
  | .finished _ _ => true
  | .hungUp => true
  | _ => false

/-- A request names the client whose handler waits for the reply. -/
structure HttpRequest (Client : Type) where
  kind : HttpRequestKind
  replyTo : Client

/-- A request that the loop has handled, with the database around it. -/
structure Served (Client : Type) where
  request : HttpRequest Client
  response : HttpResponse
  answers : Answers
  before : RipDatabase
  after : RipDatabase

/-- The receiver is there while the loop runs and has not given it up. `served` is a
record of what was handled. -/
structure AdminSystem (Client Driver : Type) where
  serving : Bool
  handlers : Client → Option Handler
  requests : Channel (HttpRequest Client) 32
  receiver : Bool
  loop : Option (EventLoop Driver)
  served : List (Served Client)

/-- A client calls or hangs up, its handler sends, is refused or finishes, the loop serves a
request or makes any other pass, and the server may stop. -/
inductive AdminLabel (Client : Type) where
  | call (client : Client) (call : ApiCall)
  | send (client : Client)
  | refuse (client : Client)
  | serve (entry : Served Client)
  | pass (label : Answers × LoopEvent)
  | finish (client : Client)
  | hangUp (client : Client)
  | stopServing

variable {Client Driver : Type} [DecidableEq Client]

namespace AdminSystem

def withHandler (s : AdminSystem Client Driver) (client : Client) (handler : Handler) :
    AdminSystem Client Driver :=
  { s with handlers := Function.update s.handlers client (some handler) }

/-- The reply reaches its handler, if that still waits. -/
def reply (s : AdminSystem Client Driver) (client : Client) (response : HttpResponse) :
    AdminSystem Client Driver :=
  match s.handlers client with
  | some (.waiting call) => s.withHandler client (.replied call (some response))
  | _ => s

/-- The loop has taken a request out of the channel and handled it. -/
def serve (s : AdminSystem Client Driver) (requests : Channel (HttpRequest Client) 32)
    (entry : Served Client) : AdminSystem Client Driver :=
  reply { s with requests, served := s.served ++ [entry] } entry.request.replyTo entry.response

omit [DecidableEq Client] in
/-- The end of the loop drops the receiver and the requests that are still pending. -/
def stop (s : AdminSystem Client Driver) : AdminSystem Client Driver :=
  { s with
    receiver := false
    loop := none
    handlers := fun client =>
      match s.handlers client with
      | some (.waiting call) => some (.replied call none)
      | handler => handler }

omit [DecidableEq Client] in
/-- A pass that goes on leaves a loop; any other end of a pass drops the loop with its
receiver. -/
def afterPass (s : AdminSystem Client Driver)
    (res : EStateM.Result RipError (EventLoop Driver) Control) : AdminSystem Client Driver :=
  match res with
  | .ok .goOn loop => { s with loop := some loop }
  | _ => s.stop

omit [DecidableEq Client] in
/-- All senders of requests are gone. -/
def Deserted (s : AdminSystem Client Driver) : Prop :=
  s.serving = false ∧ s.requests.pending = [] ∧
    ∀ client handler, s.handlers client = some handler → handler.done = true

end AdminSystem

section Steps

variable [RoutingTableDriver Driver]

omit [DecidableEq Client] in
/-- A pass of the loop in which the request is handled. -/
def Serves (loop : EventLoop Driver) (entry : Served Client)
    (res : EStateM.Result RipError (EventLoop Driver) Control) : Prop :=
  ∃ deamon₀ deamon₁ database, loop.httpRequestRx = true ∧
    Resumes entry.answers loop.deamon deamon₀ ∧ deamon₀.database = entry.before ∧
    (handleHttpRequest entry.request.kind).run deamon₀ = .ok entry.response deamon₁ ∧
    deamon₁.database = entry.after ∧ entry.after.Reordered database ∧
    trigger.run { loop with deamon := { deamon₁ with database } } = res

/-- One step of the clients, their handlers and the loop, in any order. -/
inductive AdminStep :
    AdminSystem Client Driver → AdminLabel Client → AdminSystem Client Driver → Prop
  | call {s : AdminSystem Client Driver} {client : Client} (call : ApiCall)
      (hserving : s.serving = true) (hnew : s.handlers client = none) :
      AdminStep s (.call client call) (s.withHandler client (.sending call))
  | send {s : AdminSystem Client Driver} {client : Client} {call : ApiCall}
      {requests : Channel (HttpRequest Client) 32}
      (hsending : s.handlers client = some (.sending call)) (hreceiver : s.receiver = true)
      (hsend : s.requests.send { kind := call.kind, replyTo := client } = some requests) :
      AdminStep s (.send client) { s.withHandler client (.waiting call) with requests }
  | refuse {s : AdminSystem Client Driver} {client : Client} {call : ApiCall}
      (hsending : s.handlers client = some (.sending call)) (hreceiver : s.receiver = false) :
      AdminStep s (.refuse client)
        (s.withHandler client (.finished call (call.response (.error notAccepting))))
  | serve {s : AdminSystem Client Driver} {loop : EventLoop Driver}
      {requests : Channel (HttpRequest Client) 32} {entry : Served Client}
      {res : EStateM.Result RipError (EventLoop Driver) Control} (hloop : s.loop = some loop)
      (hreceive : s.requests.receive = some (entry.request, requests))
      (hserves : Serves loop entry res) :
      AdminStep s (.serve entry) ((s.serve requests entry).afterPass res)
  | pass {s : AdminSystem Client Driver} {loop : EventLoop Driver} {label : Answers × LoopEvent}
      {res : EStateM.Result RipError (EventLoop Driver) Control} (hloop : s.loop = some loop)
      (hpass : Pass loop label res) (hother : ∀ request, label.2 ≠ .httpRequest request) :
      AdminStep s (.pass label) (s.afterPass res)
  | closed {s : AdminSystem Client Driver} {loop : EventLoop Driver} {answers : Answers}
      {res : EStateM.Result RipError (EventLoop Driver) Control} (hloop : s.loop = some loop)
      (hdeserted : s.Deserted) (hpass : Pass loop (answers, .httpRequest none) res) :
      AdminStep s (.pass (answers, .httpRequest none)) ({ s with receiver := false }.afterPass res)
  | finish {s : AdminSystem Client Driver} {client : Client} {call : ApiCall}
      {reply : Option HttpResponse} (hreplied : s.handlers client = some (.replied call reply)) :
      AdminStep s (.finish client) (s.withHandler client (.finished call
        (call.response (reply.elim (.error didNotAnswer) .ok))))
  | hangUp {s : AdminSystem Client Driver} {client : Client} {handler : Handler}
      (hhandler : s.handlers client = some handler) (hactive : handler.done = false) :
      AdminStep s (.hangUp client) (s.withHandler client .hungUp)
  | stopServing (s : AdminSystem Client Driver) :
      AdminStep s .stopServing { s with serving := false }

omit [DecidableEq Client] [RoutingTableDriver Driver] in
/-- The server starts when the daemon is set up, before its loop. -/
def AdminInitial (s : AdminSystem Client Driver) : Prop :=
  (∀ client, s.handlers client = none) ∧ s.requests = .empty ∧ s.receiver = true ∧
    s.served = [] ∧ ∃ loop, s.loop = some loop ∧ LoopInitial loop

omit [RoutingTableDriver Driver] in
theorem setupAdvertisedNetwork_response (network : AdvertisedNetwork) (deamon : RipDeamon Driver) :
    (∃ e, (handleHttpRequest (.addLocalRoute network)).run deamon =
        .ok (.error (RipError.toString e)) deamon) ∨
      ∃ localRoute, advertisedNetworkToLocalRoute deamon.host.answers network = .ok localRoute ∧
        deamon.database.okRoutes.lookup (buildRouteKey localRoute.entry) = none ∧
        (handleHttpRequest (.addLocalRoute network)).run deamon =
          .ok .ok { deamon with database := adopt localRoute deamon.database } := by
  simp only [handleHttpRequest, EStateM.run_bind, run_attempt]
  rcases setupAdvertisedNetwork_cases network deamon with
    ⟨⟨e, hrun⟩, -⟩ | ⟨localRoute, hroute, hfree, hrun⟩
  · rw [hrun]
    exact .inl ⟨e, rfl⟩
  · rw [hrun]
    exact .inr ⟨localRoute, hroute, hfree, rfl⟩

omit [DecidableEq Client] [RoutingTableDriver Driver] in
theorem handleHttpRequest_ok (kind : HttpRequestKind) (deamon : RipDeamon Driver) :
    ∃ response deamon', (handleHttpRequest kind).run deamon = .ok response deamon' := by
  cases kind with
  | getRoutes => exact ⟨_, _, rfl⟩
  | addLocalRoute network =>
      rcases setupAdvertisedNetwork_response network deamon with
        ⟨e, hrun⟩ | ⟨localRoute, -, -, hrun⟩
      · exact ⟨_, _, hrun⟩
      · exact ⟨_, _, hrun⟩

omit [DecidableEq Client] in
/-- Serving a request is the pass of the loop that handles it. -/
theorem pass_httpRequest_iff {loop : EventLoop Driver} {answers : Answers}
    {request : HttpRequest Client} {res : EStateM.Result RipError (EventLoop Driver) Control} :
    Pass loop (answers, .httpRequest (some request.kind)) res ↔
      ∃ entry : Served Client, entry.request = request ∧ entry.answers = answers ∧
        Serves loop entry res := by
  have hselect : ∀ deamon₀ : RipDeamon Driver, ∃ response deamon₁,
      (handleHttpRequest request.kind).run deamon₀ = .ok response deamon₁ ∧
      (select (.httpRequest (some request.kind))).run { loop with deamon := deamon₀ } =
        .ok .goOn { loop with deamon := deamon₁ } := by
    intro deamon₀
    obtain ⟨response, deamon₁, hrun⟩ := handleHttpRequest_ok request.kind deamon₀
    refine ⟨response, deamon₁, hrun, ?_⟩
    rw [select_httpRequest_run, hrun]
  constructor
  · intro hpass
    cases hpass with
    | ended hready hresumes hselected hends =>
        obtain ⟨response, deamon₁, -, hgoes⟩ := hselect _
        exact absurd (hselected.symm.trans hgoes) (hends _)
    | triggered hready hresumes hselected hreordered =>
        rename_i deamon₀ selected database
        obtain ⟨response, deamon₁, hrun, hgoes⟩ := hselect deamon₀
        obtain rfl := (EStateM.Result.ok.inj (hselected.symm.trans hgoes)).2
        exact ⟨⟨request, response, answers, deamon₀.database, deamon₁.database⟩, rfl, rfl,
          deamon₀, deamon₁, database, hready, hresumes, rfl, hrun, rfl, hreordered, rfl⟩
  · rintro ⟨entry, rfl, rfl, deamon₀, deamon₁, database, hready, hresumes, -, hrun, hafter,
      hreordered, rfl⟩
    obtain ⟨response, deamon₁', hrun', hgoes⟩ := hselect deamon₀
    obtain ⟨rfl, rfl⟩ := EStateM.Result.ok.inj (hrun.symm.trans hrun')
    rw [← hafter] at hreordered
    exact @Pass.triggered Driver _ loop (_, .httpRequest (some _)) deamon₀
      { loop with deamon := deamon₁ } database hready hresumes hgoes hreordered

/-- The response and the change of the database that go with the request. -/
def Handled (entry : Served Client) : Prop :=
  match entry.request.kind with
  | .getRoutes =>
      entry.response = .routes (HttpRoute.fromDatabase entry.before) ∧ entry.after = entry.before
  | .addLocalRoute network =>
      (∃ message, entry.response = .error message ∧ entry.after = entry.before) ∨
        ∃ localRoute, advertisedNetworkToLocalRoute entry.answers network = .ok localRoute ∧
          entry.before.okRoutes.lookup (buildRouteKey localRoute.entry) = none ∧
          entry.response = .ok ∧ entry.after = adopt localRoute entry.before

omit [DecidableEq Client] [RoutingTableDriver Driver] in
theorem Serves.handled {loop : EventLoop Driver} {entry : Served Client}
    {res : EStateM.Result RipError (EventLoop Driver) Control} (h : Serves loop entry res) :
    Handled entry := by
  obtain ⟨deamon₀, deamon₁, -, -, ⟨_, -, rfl⟩, hbefore, hrun, hafter, -⟩ := h
  rw [Handled]
  split
  · rename_i hkind
    rw [hkind] at hrun
    obtain ⟨hresponse, rfl⟩ := EStateM.Result.ok.inj hrun
    rw [← hresponse, ← hafter, ← hbefore]
    exact ⟨rfl, rfl⟩
  · rename_i network hkind
    rw [hkind] at hrun
    rcases setupAdvertisedNetwork_response network _ with
      ⟨e, hfailed⟩ | ⟨localRoute, hroute, hfree, hadded⟩
    · obtain ⟨hresponse, rfl⟩ := EStateM.Result.ok.inj (hrun.symm.trans hfailed)
      exact .inl ⟨_, hresponse, hafter.symm.trans hbefore⟩
    · obtain ⟨hresponse, rfl⟩ := EStateM.Result.ok.inj (hrun.symm.trans hadded)
      rw [hbefore] at hfree
      rw [← hafter, ← hbefore]
      exact .inr ⟨localRoute, hroute, by rw [hbefore]; exact hfree, hresponse, rfl⟩

end Steps

/-- The response is that of the request's own pass, or the loop has ended without one. -/
def Answered (s : AdminSystem Client Driver) (client : Client) (call : ApiCall)
    (response : Response) : Prop :=
  (∃ entry ∈ s.served, entry.request = ⟨call.kind, client⟩ ∧
      response = call.response (.ok entry.response)) ∨
    s.loop = none ∧ (response = notAccepting ∨ response = didNotAnswer) ∧
      client ∉ s.requests.taken.map HttpRequest.replyTo

/-- Where the request of a client is, for each state of its handler. -/
def HandlerSound (s : AdminSystem Client Driver) (client : Client) : Option Handler → Prop
  | none => client ∉ s.requests.sent.map HttpRequest.replyTo
  | some (.sending _) => client ∉ s.requests.sent.map HttpRequest.replyTo
  | some (.waiting call) => s.loop ≠ none ∧ ⟨call.kind, client⟩ ∈ s.requests.pending
  | some (.replied call (some response)) =>
      ∃ entry ∈ s.served, entry.request = ⟨call.kind, client⟩ ∧ entry.response = response
  | some (.replied _ none) =>
      s.loop = none ∧ client ∉ s.requests.taken.map HttpRequest.replyTo
  | some (.finished call response) => Answered s client call response
  | some .hungUp => True

omit [DecidableEq Client] in
theorem HandlerSound.mono {s s' : AdminSystem Client Driver} {client : Client}
    {handler : Option Handler} (h : HandlerSound s client handler)
    (hnew : client ∉ s.requests.sent.map HttpRequest.replyTo →
      client ∉ s'.requests.sent.map HttpRequest.replyTo)
    (hwaiting : ∀ call, handler = some (.waiting call) →
      s.loop ≠ none ∧ ⟨call.kind, client⟩ ∈ s.requests.pending →
        s'.loop ≠ none ∧ ⟨call.kind, client⟩ ∈ s'.requests.pending)
    (hserved : s.served ⊆ s'.served)
    (hended : s.loop = none ∧ client ∉ s.requests.taken.map HttpRequest.replyTo →
      s'.loop = none ∧ client ∉ s'.requests.taken.map HttpRequest.replyTo) :
    HandlerSound s' client handler := by
  cases handler with
  | none => exact hnew h
  | some handler =>
      cases handler with
      | sending call => exact hnew h
      | waiting call => exact hwaiting call rfl h
      | replied call reply =>
          cases reply with
          | none => exact hended h
          | some response =>
              obtain ⟨entry, hentry, hresponse⟩ := h
              exact ⟨entry, hserved hentry, hresponse⟩
      | finished call response =>
          rcases h with ⟨entry, hentry, hresponse⟩ | ⟨hloop, hfails, htaken⟩
          · exact .inl ⟨entry, hserved hentry, hresponse⟩
          · obtain ⟨hloop', htaken'⟩ := hended ⟨hloop, htaken⟩
            exact .inr ⟨hloop', hfails, htaken'⟩
      | hungUp => trivial

/-- The invariant: what was served is what was taken from the channel, by the loop's own handler,
and no client has two requests. -/
structure Sound (s : AdminSystem Client Driver) : Prop where
  served : s.served.map Served.request = s.requests.taken
  handled : ∀ entry ∈ s.served, Handled entry
  nodup : (s.requests.sent.map HttpRequest.replyTo).Nodup
  ended : s.loop = none → s.receiver = false
  closed : s.receiver = false → s.loop = none ∨
    s.serving = false ∧ ∀ client handler, s.handlers client = some handler → handler.done = true
  handlers : ∀ client, HandlerSound s client (s.handlers client)

namespace Sound

variable {s : AdminSystem Client Driver}

theorem withHandler (h : Sound s) {client : Client} {handler : Handler}
    (hsound : HandlerSound s client (some handler))
    (hclosed : s.receiver = false → s.loop = none ∨ s.serving = false ∧ handler.done = true) :
    Sound (s.withHandler client handler) := by
  refine ⟨h.served, h.handled, h.nodup, h.ended, fun hreceiver => ?_, fun other => ?_⟩
  · rcases hclosed hreceiver with hended | ⟨-, hdone⟩
    · exact .inl hended
    · refine (h.closed hreceiver).imp_right fun ⟨hserving, hothers⟩ => ⟨hserving, ?_⟩
      intro other handler' hhandler
      simp only [AdminSystem.withHandler, Function.update_apply] at hhandler
      split_ifs at hhandler
      · obtain rfl := Option.some.inj hhandler
        exact hdone
      · exact hothers other handler' hhandler
  · simp only [AdminSystem.withHandler, Function.update_apply]
    split_ifs with hother
    · rw [hother]
      exact hsound
    · exact h.handlers other

theorem send (h : Sound s) {client : Client} {call : ApiCall}
    {requests : Channel (HttpRequest Client) 32}
    (hsending : s.handlers client = some (.sending call)) (hreceiver : s.receiver = true)
    (hsend : s.requests.send { kind := call.kind, replyTo := client } = some requests) :
    Sound { s.withHandler client (.waiting call) with requests } := by
  have hnew := h.handlers client
  rw [hsending, HandlerSound] at hnew
  have htaken := Channel.taken_of_send hsend
  have hpending := Channel.pending_of_send hsend
  have hsent := Channel.sent_of_send hsend
  refine ⟨h.served.trans htaken.symm, h.handled, ?_, h.ended, ?_, fun other => ?_⟩
  · simp only [hsent, List.map_append, List.map_singleton]
    exact List.Nodup.append h.nodup (List.nodup_singleton _) (by simpa using hnew)
  · intro hclosed
    exact absurd (hreceiver.symm.trans hclosed) (by simp)
  · simp only [AdminSystem.withHandler, Function.update_apply]
    split_ifs with hother
    · rw [hother]
      refine ⟨fun hended => ?_, by simp [hpending]⟩
      exact absurd (hreceiver.symm.trans (h.ended hended)) (by simp)
    · refine (h.handlers other).mono (fun hold => ?_) (fun call' _ ⟨hloop, hmem⟩ => ⟨hloop, ?_⟩)
        (List.Subset.refl _) (fun ⟨hended, hold⟩ => ⟨hended, ?_⟩)
      · rw [hsent, List.map_append, List.mem_append, not_or]
        exact ⟨hold, by simpa using hother⟩
      · simp [hpending, hmem]
      · rwa [htaken]

omit [DecidableEq Client] in
theorem stop (h : Sound s) : Sound s.stop := by
  refine ⟨h.served, h.handled, h.nodup, fun _ => rfl, fun _ => .inl rfl, fun client => ?_⟩
  have hold := h.handlers client
  have hmono : (∀ call, s.handlers client ≠ some (.waiting call)) →
      HandlerSound s.stop client (s.handlers client) := fun hidle =>
    hold.mono id (fun call hwaiting => absurd hwaiting (hidle call)) (List.Subset.refl _)
      fun ⟨_, htaken⟩ => ⟨rfl, htaken⟩
  simp only [AdminSystem.stop]
  split
  · rename_i call hwaiting
    rw [hwaiting] at hold
    refine ⟨rfl, fun htaken => Channel.disjoint_of_nodup h.nodup htaken ?_⟩
    exact List.mem_map.mpr ⟨_, hold.2, rfl⟩
  · rename_i hidle
    exact hmono hidle

omit [DecidableEq Client] in
theorem afterPass (h : Sound s) (hloop : s.loop ≠ none)
    (res : EStateM.Result RipError (EventLoop Driver) Control) : Sound (s.afterPass res) := by
  rcases res with ⟨control, loop⟩ | ⟨e, loop⟩
  · cases control with
    | stop => exact h.stop
    | goOn =>
        refine ⟨h.served, h.handled, h.nodup, by simp [AdminSystem.afterPass],
          fun hreceiver => ?_, fun client => ?_⟩
        · exact .inr ((h.closed hreceiver).resolve_left hloop)
        · exact (h.handlers client).mono id
            (fun _ _ ⟨_, hmem⟩ => ⟨by simp [AdminSystem.afterPass], hmem⟩)
            (List.Subset.refl _) fun ⟨hended, _⟩ => absurd hended hloop
  · exact h.stop

theorem serve (h : Sound s) {requests : Channel (HttpRequest Client) 32} {entry : Served Client}
    (hloop : s.loop ≠ none) (hreceive : s.requests.receive = some (entry.request, requests))
    (hhandled : Handled entry) : Sound (s.serve requests entry) := by
  have htaken := Channel.taken_of_receive hreceive
  have hpending := Channel.pending_of_receive hreceive
  have hsent := Channel.sent_of_receive hreceive
  let s₁ : AdminSystem Client Driver := { s with requests, served := s.served ++ [entry] }
  have hserved : s₁.served.map Served.request = requests.taken := by
    simp [s₁, h.served, htaken]
  have hentries : ∀ entry' ∈ s₁.served, Handled entry' := by
    intro entry' hmem
    rcases List.mem_append.mp hmem with hmem | hmem
    · exact h.handled entry' hmem
    · rwa [List.mem_singleton.mp hmem]
  have hnodup : (requests.sent.map HttpRequest.replyTo).Nodup := hsent ▸ h.nodup
  have hkept : ∀ client,
      (∀ call, s.handlers client = some (.waiting call) → client ≠ entry.request.replyTo) →
      HandlerSound s₁ client (s.handlers client) := by
    intro client hother
    refine (h.handlers client).mono (fun hnew => ?_) (fun call hwaiting ⟨_, hmem⟩ => ⟨hloop, ?_⟩)
      (List.subset_append_left _ _) fun ⟨hended, _⟩ => absurd hended hloop
    · rwa [show s₁.requests.sent = s.requests.sent from hsent]
    · rw [hpending] at hmem
      refine (List.mem_cons.mp hmem).resolve_left fun hrequest => hother call hwaiting ?_
      rw [← hrequest]
  by_cases hwaits : ∃ call, s.handlers entry.request.replyTo = some (.waiting call)
  · obtain ⟨call, hwaiting⟩ := hwaits
    have hserve : s.serve requests entry = s₁.withHandler entry.request.replyTo
        (.replied call (some entry.response)) := by
      simp only [AdminSystem.serve, AdminSystem.reply, hwaiting, s₁]
    have hown : entry.request = ⟨call.kind, entry.request.replyTo⟩ := by
      have hmem := h.handlers entry.request.replyTo
      rw [hwaiting] at hmem
      refine List.inj_on_of_nodup_map h.nodup ?_ ?_ rfl
      · exact s.requests.pending_subset (hpending ▸ List.mem_cons_self)
      · exact s.requests.pending_subset hmem.2
    rw [hserve]
    refine ⟨hserved, hentries, hnodup, h.ended, fun hreceiver => ?_, fun client => ?_⟩
    · obtain ⟨-, hdone⟩ := (h.closed hreceiver).resolve_left hloop
      exact absurd (hdone _ _ hwaiting) (by simp [Handler.done])
    · simp only [AdminSystem.withHandler, Function.update_apply]
      split_ifs with hclient
      · rw [hclient]
        exact ⟨entry, by simp [s₁], hown, rfl⟩
      · exact hkept client fun _ _ => hclient
  · have hserve : s.serve requests entry = s₁ := by
      simp only [AdminSystem.serve, AdminSystem.reply, s₁]
      split
      · rename_i call hwaiting
        exact absurd ⟨call, hwaiting⟩ hwaits
      · rfl
    rw [hserve]
    refine ⟨hserved, hentries, hnodup, h.ended, h.closed, fun client => hkept client ?_⟩
    rintro call hwaiting rfl
    exact hwaits ⟨call, hwaiting⟩

end Sound

omit [DecidableEq Client] in
@[simp] theorem afterPass_served (s : AdminSystem Client Driver)
    (res : EStateM.Result RipError (EventLoop Driver) Control) :
    (s.afterPass res).served = s.served := by
  rcases res with ⟨control, loop⟩ | ⟨e, loop⟩
  · cases control <;> rfl
  · rfl

@[simp] theorem serve_loop (s : AdminSystem Client Driver)
    (requests : Channel (HttpRequest Client) 32) (entry : Served Client) :
    (s.serve requests entry).loop = s.loop := by
  simp only [AdminSystem.serve, AdminSystem.reply]
  split <;> rfl

variable [RoutingTableDriver Driver] {s s' : AdminSystem Client Driver}

theorem Sound.step {label : AdminLabel Client} (h : Sound s) (hstep : AdminStep s label s') :
    Sound s' := by
  cases hstep with
  | @call client call hserving hnew =>
      have hhandler := h.handlers client
      rw [hnew] at hhandler
      refine h.withHandler hhandler fun hreceiver => (h.closed hreceiver).imp_right ?_
      rintro ⟨hstopped, -⟩
      exact absurd (hserving.symm.trans hstopped) (by simp)
  | send hsending hreceiver hsend => exact h.send hsending hreceiver hsend
  | @refuse client call hsending hreceiver =>
      have hhandler := h.handlers client
      rw [hsending] at hhandler
      have hended : s.loop = none := (h.closed hreceiver).resolve_right fun ⟨_, hdone⟩ =>
        absurd (hdone _ _ hsending) (by simp [Handler.done])
      refine h.withHandler (.inr ⟨hended, .inl ?_, fun htaken => hhandler ?_⟩)
        fun _ => .inl hended
      · cases call <;> rfl
      · exact List.map_subset _ s.requests.taken_subset htaken
  | serve hloop hreceive hserves =>
      refine (h.serve (by simp [hloop]) hreceive hserves.handled).afterPass ?_ _
      simp [hloop]
  | pass hloop hpass hother => exact h.afterPass (by simp [hloop]) _
  | closed hloop hdeserted hpass =>
      have hclosed : Sound { s with receiver := false } :=
        ⟨h.served, h.handled, h.nodup, fun _ => rfl,
          fun _ => .inr ⟨hdeserted.1, hdeserted.2.2⟩, h.handlers⟩
      exact hclosed.afterPass (by simp [hloop]) _
  | @finish client call reply hreplied =>
      have hhandler := h.handlers client
      rw [hreplied] at hhandler
      refine h.withHandler ?_ fun hreceiver => (h.closed hreceiver).imp_right
        fun ⟨hserving, _⟩ => ⟨hserving, rfl⟩
      cases reply with
      | none =>
          obtain ⟨hended, htaken⟩ := hhandler
          refine .inr ⟨hended, .inr ?_, htaken⟩
          cases call <;> rfl
      | some response =>
          obtain ⟨entry, hentry, hrequest, rfl⟩ := hhandler
          exact .inl ⟨entry, hentry, hrequest, rfl⟩
  | hangUp hhandler hactive =>
      exact h.withHandler trivial fun hreceiver => (h.closed hreceiver).imp_right
        fun ⟨hserving, _⟩ => ⟨hserving, rfl⟩
  | stopServing =>
      exact ⟨h.served, h.handled, h.nodup, h.ended,
        fun hreceiver => (h.closed hreceiver).imp_right fun ⟨_, hdone⟩ => ⟨rfl, hdone⟩, h.handlers⟩

omit [DecidableEq Client] [RoutingTableDriver Driver] in
theorem AdminInitial.sound (h : AdminInitial s) : Sound s := by
  obtain ⟨hhandlers, hrequests, hreceiver, hserved, loop, hloop, -⟩ := h
  refine ⟨?_, ?_, ?_, ?_, ?_, fun client => ?_⟩
  · rw [hserved, hrequests]
    rfl
  · simp [hserved]
  · simp [hrequests, Channel.empty]
  · simp [hloop]
  · simp [hreceiver]
  · rw [hhandlers]
    simp [HandlerSound, hrequests, Channel.empty]

theorem run_sound {s₀ : AdminSystem Client Driver} {labels : List (AdminLabel Client)}
    (hinitial : AdminInitial s₀) (hrun : Run AdminStep s₀ labels s) : Sound s :=
  hrun.keeps (P := fun _ => True) (fun _ _ _ _ h hstep => h.step hstep) (by simp) hinitial.sound

/-- The response tells what the pass that served the call has done. -/
def Fulfilled (entry : Served Client) (response : Response) : ApiCall → Prop
  | .getRoutes =>
      response = .routes (HttpRoute.fromDatabase entry.before) ∧ entry.after = entry.before
  | .addLocalRoute payload =>
      (∃ message, response = .text .badRequest message ∧ entry.after = entry.before) ∨
        ∃ localRoute, advertisedNetworkToLocalRoute entry.answers payload.network =
            .ok localRoute ∧
          entry.before.okRoutes.lookup (buildRouteKey localRoute.entry) = none ∧
          response = .status "ok" ∧ entry.after = adopt localRoute entry.before

omit [DecidableEq Client] [RoutingTableDriver Driver] in
theorem Handled.fulfilled {entry : Served Client} (h : Handled entry) {client : Client}
    {call : ApiCall} (hrequest : entry.request = ⟨call.kind, client⟩) :
    Fulfilled entry (call.response (.ok entry.response)) call := by
  rw [Handled, hrequest] at h
  cases call with
  | getRoutes =>
      obtain ⟨hresponse, hafter⟩ := h
      exact ⟨by rw [hresponse]; rfl, hafter⟩
  | addLocalRoute payload =>
      rcases h with ⟨message, hresponse, hafter⟩ | ⟨localRoute, hroute, hfree, hresponse, hafter⟩
      · exact .inl ⟨message, by rw [hresponse]; rfl, hafter⟩
      · exact .inr ⟨localRoute, hroute, hfree, by rw [hresponse]; rfl, hafter⟩

omit [DecidableEq Client] [RoutingTableDriver Driver] in
/-- While the loop runs it has the receiver, unless nobody has anything left to send. -/
def Receiving (s : AdminSystem Client Driver) : Prop :=
  ∀ loop, s.loop = some loop →
    loop.httpRequestRx = s.receiver ∧ (s.receiver = false → s.requests.pending = [])

omit [DecidableEq Client] [RoutingTableDriver Driver] in
theorem loop_of_afterPass {res : EStateM.Result RipError (EventLoop Driver) Control}
    {loop : EventLoop Driver} (h : (s.afterPass res).loop = some loop) : res = .ok .goOn loop := by
  rcases res with ⟨control, loop'⟩ | ⟨e, loop'⟩
  · cases control with
    | stop => simp [AdminSystem.afterPass, AdminSystem.stop] at h
    | goOn =>
        obtain rfl : loop' = loop := by simpa [AdminSystem.afterPass] using h
        rfl
  · simp [AdminSystem.afterPass, AdminSystem.stop] at h

omit [DecidableEq Client] [RoutingTableDriver Driver] in
theorem Receiving.afterPass {res : EStateM.Result RipError (EventLoop Driver) Control}
    (h : ∀ loop, res = .ok .goOn loop → loop.httpRequestRx = s.receiver)
    (hpending : s.receiver = false → s.requests.pending = []) : Receiving (s.afterPass res) := by
  intro loop hloop
  have hgoes := loop_of_afterPass hloop
  rw [hgoes]
  exact ⟨h loop hgoes, hpending⟩

omit [RoutingTableDriver Driver] in
theorem serve_shared (s : AdminSystem Client Driver)
    (requests : Channel (HttpRequest Client) 32) (entry : Served Client) :
    (s.serve requests entry).requests = requests ∧ (s.serve requests entry).receiver = s.receiver ∧
      (s.serve requests entry).served = s.served ++ [entry] := by
  simp only [AdminSystem.serve, AdminSystem.reply]
  split <;> exact ⟨rfl, rfl, rfl⟩

theorem Receiving.step {label : AdminLabel Client} (h : Receiving s)
    (hstep : AdminStep s label s') : Receiving s' := by
  cases hstep with
  | call | refuse | finish | hangUp | stopServing => exact h
  | send hsending hreceiver hsend =>
      intro loop hloop
      refine ⟨(h loop hloop).1, fun hclosed => ?_⟩
      exact absurd (hreceiver.symm.trans hclosed) (by simp)
  | @serve loop requests entry res hloop hreceive hserves =>
      obtain ⟨hrequests, hreceiver, -⟩ := serve_shared s requests entry
      obtain ⟨hrx, hpending⟩ := h loop hloop
      refine .afterPass (fun loop' hgoes => ?_) fun hclosed => ?_
      · have hstep : LoopStep loop (entry.answers, .httpRequest (some entry.request.kind))
            loop' := by
          rw [LoopStep, ← hgoes]
          exact pass_httpRequest_iff.mpr ⟨entry, rfl, rfl, hserves⟩
        rw [hreceiver, ← hrx]
        exact (loopStep_httpRequestRx hstep).2 (by simp)
      · rw [hreceiver] at hclosed
        rw [Channel.pending_of_receive hreceive] at hpending
        exact absurd (hpending hclosed) (by simp)
  | @pass loop label res hloop hpass hother =>
      obtain ⟨hrx, hpending⟩ := h loop hloop
      refine .afterPass (fun loop' hgoes => ?_) hpending
      rw [hgoes] at hpass
      exact ((loopStep_httpRequestRx hpass).2 (hother _)).trans hrx
  | closed hloop hdeserted hpass =>
      refine .afterPass (fun loop' hgoes => ?_) fun _ => hdeserted.2.1
      rw [hgoes] at hpass
      exact (loopStep_httpRequestRx hpass).1 rfl

omit [DecidableEq Client] [RoutingTableDriver Driver] in
theorem loopInitial_httpRequestRx {loop : EventLoop Driver} (h : LoopInitial loop) :
    loop.httpRequestRx = true := by
  obtain ⟨-, -, -, sigterm, deamon, deamon', -, -, henter⟩ := h
  cases sigterm with
  | error e =>
      change EStateM.Result.error _ _ = _ at henter
      simp at henter
  | ok a =>
      change EStateM.Result.ok _ _ = _ at henter
      obtain rfl := (EStateM.Result.ok.inj henter).1
      rfl

theorem run_receiving {s₀ : AdminSystem Client Driver} {labels : List (AdminLabel Client)}
    (hinitial : AdminInitial s₀) (hrun : Run AdminStep s₀ labels s) : Receiving s := by
  refine hrun.keeps (P := fun _ => True) (fun _ _ _ _ h hstep => h.step hstep) (by simp) ?_
  obtain ⟨-, -, hreceiver, -, loop, hloop, hstart⟩ := hinitial
  intro loop' hloop'
  obtain rfl := Option.some.inj (hloop.symm.trans hloop')
  rw [hreceiver]
  exact ⟨loopInitial_httpRequestRx hstart, by simp⟩

/-- The oldest request can be served at any time. -/
theorem Receiving.can_serve (h : Receiving s) {loop : EventLoop Driver}
    (hloop : s.loop = some loop) (hpending : s.requests.pending ≠ []) (answers : Answers) :
    ∃ entry s', AdminStep s (.serve entry) s' ∧ entry.answers = answers ∧
      s.requests.pending.head? = some entry.request := by
  obtain ⟨hrx, hclosed⟩ := h loop hloop
  have hreceiver : s.receiver = true := by
    by_contra hnot
    exact hpending (hclosed (by simpa using hnot))
  obtain ⟨⟨request, requests⟩, hreceive⟩ :=
    Option.isSome_iff_exists.mp (Channel.receive_isSome_iff.mpr hpending)
  obtain ⟨response, deamon₁, hrun⟩ := handleHttpRequest_ok request.kind
    { loop.deamon with host := loop.deamon.host.renew answers }
  have hserves : Serves loop ⟨request, response, answers, loop.deamon.database, deamon₁.database⟩
      (trigger.run { loop with deamon := deamon₁ }) :=
    ⟨_, deamon₁, deamon₁.database, hrx.trans hreceiver, ⟨_, .refl _, rfl⟩, rfl, hrun, rfl,
      .refl _, rfl⟩
  refine ⟨_, _, .serve hloop hreceive hserves, rfl, ?_⟩
  rw [Channel.pending_of_receive hreceive]
  rfl

theorem run_finished {s₀ : AdminSystem Client Driver} {labels : List (AdminLabel Client)}
    (hinitial : AdminInitial s₀) (hrun : Run AdminStep s₀ labels s) {client : Client}
    {call : ApiCall} {response : Response}
    (hfinished : s.handlers client = some (.finished call response)) :
    (∃ entry ∈ s.served, entry.request = ⟨call.kind, client⟩ ∧ Fulfilled entry response call) ∨
      s.loop = none ∧ (response = notAccepting ∨ response = didNotAnswer) ∧
        ∀ entry ∈ s.served, entry.request.replyTo ≠ client := by
  have hsound := run_sound hinitial hrun
  have hhandler := hsound.handlers client
  rw [hfinished] at hhandler
  rcases hhandler with ⟨entry, hentry, hrequest, rfl⟩ | ⟨hended, hfails, htaken⟩
  · exact .inl ⟨entry, hentry, hrequest, (hsound.handled entry hentry).fulfilled hrequest⟩
  · refine .inr ⟨hended, hfails, fun entry hentry hclient => htaken ?_⟩
    rw [← hsound.served, List.map_map]
    exact List.mem_map.mpr ⟨entry, hentry, hclient⟩

/-- Over any interleaving of clients and loop: requests are served once each, in the
order in which they were sent. While the loop runs, whoever waits has a request in the
channel, and the oldest can be served. A client that is answered has the response to its
own request, or the loop has ended without serving it. -/
theorem run_answers {s₀ : AdminSystem Client Driver} {labels : List (AdminLabel Client)}
    (hinitial : AdminInitial s₀) (hrun : Run AdminStep s₀ labels s) :
    (s.served.map Served.request = s.requests.taken ∧
      (s.requests.sent.map HttpRequest.replyTo).Nodup ∧ s.requests.pending.length ≤ 32) ∧
    (∀ client call, s.handlers client = some (.waiting call) →
      s.loop ≠ none ∧ ⟨call.kind, client⟩ ∈ s.requests.pending) ∧
    (s.loop ≠ none → s.requests.pending ≠ [] → ∀ answers, ∃ entry s',
      AdminStep s (.serve entry) s' ∧ entry.answers = answers ∧
        s.requests.pending.head? = some entry.request) ∧
    ∀ client call response, s.handlers client = some (.finished call response) →
      (∃ entry ∈ s.served, entry.request = ⟨call.kind, client⟩ ∧
        Fulfilled entry response call) ∨
      s.loop = none ∧ (response = notAccepting ∨ response = didNotAnswer) ∧
        ∀ entry ∈ s.served, entry.request.replyTo ≠ client := by
  have hsound := run_sound hinitial hrun
  refine ⟨⟨hsound.served, hsound.nodup, s.requests.pending_length_le⟩,
    fun client call hwaiting => ?_, fun hloop hpending answers => ?_,
    fun _ _ _ hfinished => run_finished hinitial hrun hfinished⟩
  · have hhandler := hsound.handlers client
    rw [hwaiting] at hhandler
    exact hhandler
  · obtain ⟨loop, hloop⟩ := Option.ne_none_iff_exists'.mp hloop
    exact (run_receiving hinitial hrun).can_serve hloop hpending answers

/-- Nothing is under way, and the loop can take a request. -/
structure Idle (s : AdminSystem Client Driver) (loop : EventLoop Driver) : Prop where
  serving : s.serving = true
  receiver : s.receiver = true
  pending : s.requests.pending = []
  loop : s.loop = some loop

theorem undisturbed_call {loop loop' : EventLoop Driver} (client : Client) (call : ApiCall)
    {answers : Answers} {response : HttpResponse} {deamon : RipDeamon Driver} (h : Idle s loop)
    (hnew : s.handlers client = none) (hrx : loop.httpRequestRx = true)
    (hrun : (handleHttpRequest call.kind).run
      { loop.deamon with host := loop.deamon.host.renew answers } = .ok response deamon)
    (htrigger : trigger.run { loop with deamon } = .ok .goOn loop') :
    ∃ entry s', Run AdminStep s [.call client call, .send client, .serve entry, .finish client] s' ∧
      Idle s' loop' ∧ s'.handlers = Function.update s.handlers client
        (some (.finished call (call.response (.ok response)))) := by
  have hroom : s.requests.pending.length < 32 := by simp [h.pending]
  obtain ⟨requests, hsend⟩ := Option.isSome_iff_exists.mp
    (Channel.send_isSome_iff (a := (⟨call.kind, client⟩ : HttpRequest Client)) |>.mpr hroom)
  have hpending : requests.pending = [⟨call.kind, client⟩] := by
    rw [Channel.pending_of_send hsend, h.pending, List.nil_append]
  have hnonempty : requests.pending ≠ [] := by simp [hpending]
  obtain ⟨⟨request, requests'⟩, hreceive⟩ :=
    Option.isSome_iff_exists.mp (Channel.receive_isSome_iff.mpr hnonempty)
  have hrest := Channel.pending_of_receive hreceive
  rw [hpending, List.cons.injEq] at hrest
  obtain ⟨rfl, hempty⟩ := hrest
  let entry : Served Client :=
    ⟨⟨call.kind, client⟩, response, answers, loop.deamon.database, deamon.database⟩
  have hserves : Serves loop entry (.ok .goOn loop') :=
    ⟨_, deamon, deamon.database, hrx, ⟨_, .refl _, rfl⟩, rfl, hrun, rfl, .refl _, htrigger⟩
  let s₁ := s.withHandler client (.sending call)
  let s₂ := { s₁.withHandler client (.waiting call) with requests }
  let s₃ := (s₂.serve requests' entry).afterPass (.ok .goOn loop')
  have hwaiting : s₂.handlers client = some (.waiting call) := Function.update_self _ _ _
  have hserve : s₂.serve requests' entry =
      AdminSystem.withHandler { s₂ with requests := requests', served := s₂.served ++ [entry] }
        client (.replied call (some response)) := by
    simp only [AdminSystem.serve, AdminSystem.reply, entry, hwaiting]
  have hhandlers : s₃.handlers =
      Function.update s.handlers client (some (.replied call (some response))) := by
    change (s₂.serve requests' entry).handlers = _
    rw [hserve]
    simp only [AdminSystem.withHandler, s₂, s₁, Function.update_idem]
  have hreplied : s₃.handlers client = some (.replied call (some response)) := by
    rw [hhandlers, Function.update_self]
  have hcall : AdminStep s (.call client call) s₁ := .call call h.serving hnew
  have hsends : AdminStep s₁ (.send client) s₂ :=
    .send (Function.update_self _ _ _) h.receiver hsend
  have hserved : AdminStep s₂ (.serve entry) s₃ := .serve h.loop hreceive hserves
  refine ⟨entry, _, (((Run.single hcall).snoc hsends).snoc hserved).snoc (.finish hreplied), ?_, ?_⟩
  · simp only [s₃, hserve]
    exact ⟨h.serving, h.receiver, hempty.symm, rfl⟩
  · simp only [AdminSystem.withHandler]
    rw [hhandlers, Function.update_idem]
    rfl

theorem routes_answered :
    ∃ (s₀ s : AdminSystem Unit Kernel) (labels : List (AdminLabel Unit)) (response : Response),
      AdminInitial s₀ ∧ Run AdminStep s₀ labels s ∧ s.loop ≠ none ∧
      s.handlers () = some (.finished .getRoutes response) ∧
      ∃ entry ∈ s.served, entry.request = ⟨.getRoutes, ()⟩ ∧
        Fulfilled entry response .getRoutes := by
  have hany : (startLoop Kernel.empty { answers := steady, sent := [] } twoInterfaces).any
      (fun loop => loop.httpRequestRx && !loop.deamon.database.anyRouteChanged) = true := by
    decide +kernel
  obtain ⟨loop, hstart, hquiet⟩ := (Option.any_eq_true _ _).mp hany
  rw [Bool.and_eq_true, Bool.not_eq_true'] at hquiet
  let s₀ : AdminSystem Unit Kernel := ⟨true, fun _ => none, .empty, true, some loop, []⟩
  have hinitial : AdminInitial s₀ :=
    ⟨fun _ => rfl, rfl, rfl, rfl, loop, rfl, startLoop_initial rfl hstart⟩
  let deamon : RipDeamon Kernel := { loop.deamon with host := loop.deamon.host.renew steady }
  have htrigger : trigger.run { loop with deamon } = .ok .goOn { loop with deamon } := by
    rw [trigger_run, if_pos]
    simp [deamon, hquiet.2]
  obtain ⟨entry, s, hrun, hidle, hhandlers⟩ := undisturbed_call () .getRoutes
    (s := s₀) ⟨rfl, rfl, rfl, rfl⟩ rfl hquiet.1 rfl htrigger
  have hgoes : s.loop ≠ none := by simp [hidle.loop]
  have hfinished := congrFun hhandlers ()
  rw [Function.update_self] at hfinished
  refine ⟨s₀, s, _, _, hinitial, hrun, hgoes, hfinished, ?_⟩
  exact ((run_answers hinitial hrun).2.2.2 () _ _ hfinished).resolve_right
    fun ⟨hended, _⟩ => hgoes hended

end RipV2.AdminProtocol

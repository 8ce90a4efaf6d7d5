import Mathlib.Data.List.Basic

/-! # The response writer and the health probes

A handler talks to net/http through the calls it makes on its `http.ResponseWriter`:
* `Header().Set` changes the header map;
* `WriteHeader` is ignored once a status was sent (net/http logs it as superfluous). Otherwise
  `checkWriteHeaderCode` panics on a code outside 100–999; an informational code other than 101
  is sent as an interim response and leaves the status unsent; any other code is sent with the
  headers set so far;
* `Write` sends a 200 first if no status was sent.

So headers set after the status are never sent. Every route is served behind `Logging`, which
wraps the writer in its own `responseWriter`: it records the status of its first `WriteHeader`
(or the 200 of a first `Write`), forwards that call, and swallows every later `WriteHeader`.
`Recovery`, outside `Logging`, turns a panic into `http.Error`'s 500, and `Logging` then writes
no log line.

`HealthHandler.Health` writes 503 when a checker fails, and then calls `JSON(w, 200, status)`.
That call's `WriteHeader(200)` is swallowed, but `JSON` computes the envelope's `success` from
the 200 it was given. `Readiness` writes 503 before `JSON(w, 503, …)`. The checkers are kept in a
map, which Go iterates in a random order; here they are a list, one order per list, each with
its answer (`none` for healthy, or the error text).

* **`logged_status_eq`** — for every sequence of calls a handler makes, the status `Logging`
  logs is the one the client receives, unless the first status written is informational (the
  client then receives 200) or invalid (net/http panics, the client receives 500 and nothing is
  logged).
* **`health_answer`**, **`readiness_answer`** — both probes answer 503 exactly when some checker
  fails. Then neither sends the `application/json` content type, which is set after the 503.
  `Health`'s envelope says `success: true` and `Readiness`'s says `success: false`. -/

namespace NotificationService

/-! ## net/http's response -/

/-- A call a handler makes on its `http.ResponseWriter`; `β` is what it writes. -/
inductive WriterCall (β : Type)
  | setHeader (key value : String)
  | writeHeader (code : Nat)
  | write (body : β)
  deriving DecidableEq, Repr

/-- net/http's response to one request so far: the header map, the codes of the interim
responses sent, the status and headers once sent, and what was written. -/
structure HttpResponse (β : Type) where
  header : List (String × String)
  informational : List Nat
  sent : Option (Nat × List (String × String))
  body : List β
  deriving DecidableEq, Repr

/-- The codes `checkWriteHeaderCode` lets through. -/
def validCode (code : Nat) : Bool := 100 ≤ code && code ≤ 999

/-- The codes `WriteHeader` sends as an interim response: 1xx but 101 Switching Protocols. -/
def isInterim (code : Nat) : Bool := 100 ≤ code && code ≤ 199 && code != 101

namespace HttpResponse

variable {β : Type}

/-- `Header().Set(key, value)`. -/
def setHeader (r : HttpResponse β) (key value : String) : HttpResponse β :=
  { r with header := (key, value) :: r.header.filter (·.1 ≠ key) }

/-- `response.WriteHeader(code)`; `none` when it panics. -/
def writeHeader (r : HttpResponse β) (code : Nat) : Option (HttpResponse β) :=
  match r.sent with
  | some _ => some r
  | none =>
    if !validCode code then none
    else if isInterim code then some { r with informational := r.informational ++ [code] }
    else some { r with sent := some (code, r.header) }

/-- One call; `none` when net/http panics. -/
def apply (r : HttpResponse β) : WriterCall β → Option (HttpResponse β)
  | .setHeader key value => some (r.setHeader key value)
  | .writeHeader code => r.writeHeader code
  | .write b => (r.writeHeader 200).map fun r => { r with body := r.body ++ [b] }

/-- The status the client receives: the one sent, or the 200 net/http sends when the handler
returns without one. -/
def status (r : HttpResponse β) : Nat := (r.sent.map (·.1)).getD 200

/-- A header the client receives. -/
def sentHeader (r : HttpResponse β) (key : String) : Option String :=
  r.sent.bind fun s => s.2.lookup key

end HttpResponse

/-! ## The logging middleware's writer -/

/-- The logging middleware's `responseWriter`: the status it will log, and `wroteHeader`. -/
structure LoggedWriter where
  status : Nat
  wroteHeader : Bool
  deriving DecidableEq, Repr

/-- `responseWriter` on one call of the handler: its state after it, and the calls it makes on
net/http's writer (`Header()` is net/http's own). -/
def LoggedWriter.forward {β : Type} (w : LoggedWriter) : WriterCall β → LoggedWriter × List (WriterCall β)
  | .setHeader key value => (w, [.setHeader key value])
  | .writeHeader code => if w.wroteHeader then (w, []) else (⟨code, true⟩, [.writeHeader code])
  | .write b =>
    if !w.wroteHeader then (⟨200, true⟩, [.writeHeader 200, .write b]) else (w, [.write b])

/-- One call of the handler, through `responseWriter` to net/http; `none` when net/http
panics. -/
def loggedStep {β : Type} (p : LoggedWriter × HttpResponse β) (c : WriterCall β) :
    Option (LoggedWriter × HttpResponse β) :=
  ((p.1.forward c).2.foldlM HttpResponse.apply p.2).map ((p.1.forward c).1, ·)

/-- The handler's calls behind `Logging`: `wrapResponseWriter` starts at 200. -/
def serveLogged {β : Type} (calls : List (WriterCall β)) : Option (LoggedWriter × HttpResponse β) :=
  calls.foldlM loggedStep (⟨200, false⟩, ⟨[], [], none, []⟩)

/-- The status `Logging` logs, `none` when the handler panicked and no line is written. -/
def loggedStatus {β : Type} (calls : List (WriterCall β)) : Option Nat :=
  (serveLogged calls).map (·.1.status)

/-- The status the client receives: net/http's, or the 500 of `Recovery`'s `http.Error` after
a panic, which comes before any status was sent. -/
def clientStatus {β : Type} (calls : List (WriterCall β)) : Nat :=
  ((serveLogged calls).map (·.2.status)).getD 500

section Logged

variable {β : Type}

/-- What `responseWriter` knows of net/http's response: nothing written, or its status sent, or
an interim status with the client left to receive 200. -/
def LoggedWriter.Tracks (w : LoggedWriter) (r : HttpResponse β) : Prop :=
  (w.wroteHeader = false → r.sent = none ∧ w.status = 200) ∧
    (w.wroteHeader = true → r.sent.map (·.1) = some w.status ∨ isInterim w.status ∧ r.status = 200)

/-- net/http panics only at a `WriteHeader` of a code outside 100–999. -/
theorem loggedStep_eq_none {p : LoggedWriter × HttpResponse β} {c : WriterCall β}
    (h : loggedStep p c = none) : ∃ code, c = .writeHeader code ∧ validCode code = false := by
  obtain ⟨w, r⟩ := p
  cases c with
  | setHeader key value => simp [loggedStep, LoggedWriter.forward, HttpResponse.apply] at h
  | writeHeader code =>
    refine ⟨code, rfl, ?_⟩
    cases hw : w.wroteHeader <;> cases hr : r.sent <;> cases hv : validCode code <;>
      cases hi : isInterim code <;>
      simp_all [loggedStep, LoggedWriter.forward, HttpResponse.apply, HttpResponse.writeHeader]
  | write b =>
    cases hw : w.wroteHeader <;> cases hr : r.sent <;>
      simp_all [loggedStep, LoggedWriter.forward, HttpResponse.apply, HttpResponse.writeHeader,
        validCode, isInterim]

/-- **One call keeps `Tracks`.** -/
theorem LoggedWriter.Tracks.step {w w' : LoggedWriter} {r r' : HttpResponse β} {c : WriterCall β}
    (ht : w.Tracks r) (h : loggedStep (w, r) c = some (w', r')) : w'.Tracks r' := by
  obtain ⟨h₀, h₁⟩ := ht
  cases c with
  | setHeader key value =>
    simp only [loggedStep, LoggedWriter.forward, List.foldlM_cons, List.foldlM_nil,
      HttpResponse.apply, Option.some_bind, Option.pure_def, Option.map_some', Option.some.injEq,
      Prod.mk.injEq] at h
    obtain ⟨rfl, rfl⟩ := h
    exact ⟨h₀, h₁⟩
  | writeHeader code =>
    cases hw : w.wroteHeader <;> cases hr : r.sent <;> cases hv : validCode code <;>
      cases hi : isInterim code <;>
      simp [loggedStep, LoggedWriter.forward, HttpResponse.apply, HttpResponse.writeHeader, hw,
        hr, hv, hi] at h <;>
      obtain ⟨rfl, rfl⟩ := h <;>
      simp_all [LoggedWriter.Tracks, HttpResponse.status]
  | write b =>
    cases hw : w.wroteHeader <;> cases hr : r.sent <;>
      simp [loggedStep, LoggedWriter.forward, HttpResponse.apply, HttpResponse.writeHeader, hw,
        hr, validCode, isInterim] at h <;>
      obtain ⟨rfl, rfl⟩ := h <;>
      simp_all [LoggedWriter.Tracks, HttpResponse.status]

/-- The status `responseWriter` holds is the first one, 200, or a code the handler wrote. -/
theorem loggedStep_status {p p' : LoggedWriter × HttpResponse β} {c : WriterCall β}
    (h : loggedStep p c = some p') :
    p'.1.status = p.1.status ∨ p'.1.status = 200 ∨ c = .writeHeader p'.1.status := by
  obtain ⟨w, r⟩ := p
  simp only [loggedStep, Option.map_eq_some'] at h
  obtain ⟨_, -, rfl⟩ := h
  cases c with
  | setHeader key value => exact .inl rfl
  | writeHeader code =>
    simp only [LoggedWriter.forward]
    split_ifs
    exacts [.inl rfl, .inr (.inr rfl)]
  | write b =>
    simp only [LoggedWriter.forward]
    split_ifs
    exacts [.inr (.inl rfl), .inl rfl]

/-- **A run keeps `Tracks`, panics only at an invalid code, and logs 200 or a code the handler
wrote.** -/
theorem serveLogged_run : ∀ (calls : List (WriterCall β)) (p : LoggedWriter × HttpResponse β),
    p.1.Tracks p.2 →
      (∀ q, calls.foldlM loggedStep p = some q →
        q.1.Tracks q.2 ∧ (q.1.status = p.1.status ∨ q.1.status = 200 ∨
          .writeHeader q.1.status ∈ calls)) ∧
      (calls.foldlM loggedStep p = none →
        ∃ code, .writeHeader code ∈ calls ∧ validCode code = false)
  | [], p, ht => ⟨fun q h => by cases h; exact ⟨ht, .inl rfl⟩, nofun⟩
  | c :: calls, ⟨w, r⟩, ht => by
    rw [List.foldlM_cons]
    cases hs : loggedStep (w, r) c with
    | none =>
      obtain ⟨code, rfl, hv⟩ := loggedStep_eq_none hs
      exact ⟨fun q h => by simp at h, fun _ => ⟨code, List.mem_cons_self _ _, hv⟩⟩
    | some p' =>
      obtain ⟨hrun, hnone⟩ := serveLogged_run calls p' (ht.step hs)
      simp only [Option.some_bind]
      refine ⟨fun q h => ?_, fun h => ?_⟩
      · obtain ⟨hq, hst⟩ := hrun q h
        refine ⟨hq, ?_⟩
        rcases hst with hst | hst | hst
        · rcases loggedStep_status hs with h' | h' | h'
          · exact .inl (hst.trans h')
          · exact .inr (.inl (hst.trans h'))
          · exact .inr (.inr (hst ▸ h' ▸ List.mem_cons_self _ _))
        · exact .inr (.inl hst)
        · exact .inr (.inr (List.mem_cons_of_mem _ hst))
      · obtain ⟨code, hc, hv⟩ := hnone h
        exact ⟨code, List.mem_cons_of_mem _ hc, hv⟩

/-- A code that is 101 or from 200 to 999 passes `checkWriteHeaderCode` and is not interim. -/
theorem validCode_of_final {code : Nat} (h : code = 101 ∨ 200 ≤ code ∧ code ≤ 999) :
    validCode code = true ∧ isInterim code = false := by
  rcases h with rfl | ⟨h₁, h₂⟩
  · decide
  · simp only [validCode, isInterim]
    constructor <;> simp <;> omega

/-- **The log records the status the client receives**, for every sequence of calls a handler
makes, when every code it writes is 101 or from 200 to 999: `responseWriter` and net/http
both keep the first status. In general the log records it, or an interim 1xx status while the
client receives the 200 net/http sends at the first `Write` or at the end; and when no line is
logged, a `WriteHeader` of a code outside 100–999 made net/http panic and the client receives
`Recovery`'s 500. -/
theorem logged_status_eq (calls : List (WriterCall β)) :
    ((∀ code, .writeHeader code ∈ calls → code = 101 ∨ 200 ≤ code ∧ code ≤ 999) →
      loggedStatus calls = some (clientStatus calls)) ∧
    (∀ s, loggedStatus calls = some s →
      s = clientStatus calls ∨ isInterim s = true ∧ clientStatus calls = 200) ∧
    (loggedStatus calls = none →
      clientStatus calls = 500 ∧ ∃ code, .writeHeader code ∈ calls ∧ validCode code = false) := by
  obtain ⟨hrun, hnone⟩ :=
    serveLogged_run calls (⟨200, false⟩, ⟨[], [], none, []⟩) ⟨fun _ => ⟨rfl, rfl⟩, nofun⟩
  -- at the end, the status logged is the one the client receives or an interim one
  have hend : ∀ w r, serveLogged calls = some (w, r) →
      w.status = r.status ∨ isInterim w.status = true ∧ r.status = 200 := fun w r h => by
    obtain ⟨h₀, h₁⟩ : w.Tracks r := (hrun _ h).1
    cases hw : w.wroteHeader
    · exact .inl (by simp [HttpResponse.status, (h₀ hw).1, (h₀ hw).2])
    · exact (h₁ hw).imp_left fun ht => by simp [HttpResponse.status, ht]
  refine ⟨fun hcodes => ?_, fun s hs => ?_, fun hs => ?_⟩
  · cases h : serveLogged calls with
    | none =>
      obtain ⟨code, hc, hv⟩ := hnone h
      rw [(validCode_of_final (hcodes code hc)).1] at hv
      cases hv
    | some q =>
      obtain ⟨w, r⟩ := q
      rcases hend w r h with he | ⟨hi, -⟩
      · simp [loggedStatus, clientStatus, h, he]
      -- an interim status logged is none of 200 and the handler's codes
      · have hi' : isInterim w.status = false := by
          rcases (hrun _ h).2 with hw | hw | hw
          · rw [hw]; rfl
          · rw [hw]; rfl
          · exact (validCode_of_final (hcodes _ hw)).2
        rw [hi'] at hi
        cases hi
  · simp only [loggedStatus, Option.map_eq_some'] at hs
    obtain ⟨⟨w, r⟩, h, rfl⟩ := hs
    simpa [clientStatus, h] using hend w r h
  · simp only [loggedStatus, Option.map_eq_none'] at hs
    exact ⟨by simp [clientStatus, hs], hnone hs⟩

/-- An interim 103 first: the log says 103, the client receives 200. -/
example : loggedStatus [(.writeHeader 103 : WriterCall Unit), .write ()] = some 103 ∧
    clientStatus [(.writeHeader 103 : WriterCall Unit), .write ()] = 200 := by
  decide

/-- An invalid code: net/http panics, nothing is logged, and `Recovery` answers 500. -/
example : loggedStatus [(.writeHeader 42 : WriterCall Unit)] = none ∧
    clientStatus [(.writeHeader 42 : WriterCall Unit)] = 500 := by
  decide

end Logged

/-! ## The probes -/

/-- The `Response` envelope of `JSON`: whether the status is a 2xx, and the data. -/
structure Envelope (α : Type) where
  success : Bool
  data : α
  deriving DecidableEq, Repr

/-- `JSON(w, status, data)`. -/
def jsonCalls {α : Type} (status : Nat) (data : α) : List (WriterCall (Envelope α)) :=
  [.setHeader "Content-Type" "application/json", .writeHeader status,
    .write ⟨200 ≤ status && status < 300, data⟩]

/-- A component's entry (`ComponentStatus`). -/
structure ComponentStatus where
  status : String
  message : String
  deriving DecidableEq, Repr

/-- `HealthStatus`, without its timestamp. -/
structure HealthStatus where
  status : String
  components : List (String × ComponentStatus)
  deriving DecidableEq, Repr

/-- All checkers answered healthy. -/
def allHealthy (checks : List (String × Option String)) : Bool := checks.all fun c => c.2.isNone

/-- `HealthHandler.Health` on the checkers' answers. -/
def healthCalls (checks : List (String × Option String)) :
    List (WriterCall (Envelope HealthStatus)) :=
  let components := checks.map fun c => (c.1, match c.2 with
    | none => ⟨"healthy", ""⟩
    | some err => ⟨"unhealthy", err⟩)
  (if allHealthy checks then [] else [.writeHeader 503]) ++
    jsonCalls 200 ⟨if allHealthy checks then "healthy" else "unhealthy", components⟩

/-- `HealthHandler.Readiness` on the checkers' answers: the first that fails is reported. -/
def readinessCalls (checks : List (String × Option String)) :
    List (WriterCall (Envelope (List (String × String)))) :=
  match checks.find? fun c => c.2.isSome with
  | some (name, some err) =>
    .writeHeader 503 :: jsonCalls 503 [("status", "not ready"), ("component", name), ("error", err)]
  | _ => jsonCalls 200 [("status", "ready")]

theorem find?_isSome_eq_none {checks : List (String × Option String)} :
    checks.find? (fun c => c.2.isSome) = none ↔ allHealthy checks = true := by
  simp [allHealthy, List.find?_eq_none]

/-- **What `Health` answers**, behind `Logging`: 503 exactly when some checker failed, without
the `application/json` content type then, and an envelope saying `success: true` whatever the
status, since `JSON` was called with 200. -/
theorem health_answer (checks : List (String × Option String)) :
    ∃ w r, serveLogged (healthCalls checks) = some (w, r) ∧
      r.status = (if allHealthy checks then 200 else 503) ∧ r.body.map (·.success) = [true] ∧
      (r.sentHeader "Content-Type" = some "application/json" ↔ allHealthy checks = true) := by
  cases h : allHealthy checks <;>
    simp [healthCalls, h, jsonCalls, serveLogged, loggedStep, LoggedWriter.forward,
      HttpResponse.apply, HttpResponse.setHeader, HttpResponse.writeHeader, HttpResponse.status,
      HttpResponse.sentHeader, validCode, isInterim, and_assoc]

/-- **What `Readiness` answers**, behind `Logging`: 503 exactly when some checker failed,
without the `application/json` content type then, and an envelope saying `success: false`
exactly on a 503. -/
theorem readiness_answer (checks : List (String × Option String)) :
    ∃ w r, serveLogged (readinessCalls checks) = some (w, r) ∧
      r.status = (if allHealthy checks then 200 else 503) ∧
      r.body.map (·.success) = [allHealthy checks] ∧
      (r.sentHeader "Content-Type" = some "application/json" ↔ allHealthy checks = true) := by
  cases hf : checks.find? (fun c => c.2.isSome) with
  | none =>
    simp [readinessCalls, hf, find?_isSome_eq_none.1 hf, jsonCalls, serveLogged, loggedStep,
      LoggedWriter.forward, HttpResponse.apply, HttpResponse.setHeader, HttpResponse.writeHeader,
      HttpResponse.status, HttpResponse.sentHeader, validCode, isInterim, and_assoc]
  | some c =>
    obtain ⟨name, _ | err⟩ := c
    · simpa using List.find?_some hf
    · have h : allHealthy checks = false := by
        rw [Bool.eq_false_iff, ne_eq, ← find?_isSome_eq_none, hf]
        exact Option.some_ne_none _
      simp [readinessCalls, hf, h, jsonCalls, serveLogged, loggedStep, LoggedWriter.forward,
        HttpResponse.apply, HttpResponse.setHeader, HttpResponse.writeHeader, HttpResponse.status,
        HttpResponse.sentHeader, validCode, isInterim, and_assoc]

end NotificationService

import AccountWire.Echo.Session

/-!
# What an echo server has seen

Requests come over many connections at once, and they share two cells of the server: the log, and
the failure that is kept until it is asked for.  A cell is only touched under its lock, so a history
of the server is a list of `Moment`s.  A handler that has read its request to the end has one moment,
in which it stores the request.  A handler that finds its request unreadable has two: it notices how
long the log is, and it records a failure if none is there.  All other handlers, and the reports of
failures, may come between the two.

`Scene.run` plays a history, and `Remembers` says what is left of it, whatever the order of its
moments.  In a session requests are handled one after the other, so their moments stand side by side
(`serverAfter_eq_run`); `server_remembers_what_it_read` tells what the answers of a session are.
-/

namespace AccountWire.Echo

/-! ### Histories -/

/-- What happens to one of the shared cells under its lock.  Handlers are told apart by numbers. -/
inductive Moment where
  /-- A request that was read to the end is put into the log. -/
  | stored (r : Received) (body : Bytes)
  /-- A handler that could not read its request looks up how long the log is. -/
  | noticed (handler : Nat)
  /-- A handler records the failure that it noticed, unless one is there already. -/
  | recorded (handler : Nat)
  /-- The failure is reported, and forgotten. -/
  | reported

/-- Whether a failure is recorded. -/
def Moment.isRecorded : Moment → Bool
  | .recorded _ => true
  | _ => false

/-- Whether the failure is reported. -/
def Moment.isReported : Moment → Bool
  | .reported => true
  | _ => false

/-- The request that is put into the log, with its body. -/
def Moment.read? : Moment → Option (Received × Bytes)
  | .stored r body => some (r, body)
  | _ => none

/-- A server, and the lengths of the log that the handlers noticed last. -/
structure Scene where
  server : Server
  noticed : Nat → Nat

namespace Scene

/-- A server that has not seen a request. -/
def start (c : Configuration) : Scene := ⟨.start c, fun _ => 0⟩

/-- One moment. -/
def step (scene : Scene) : Moment → Scene
  | .stored r body =>
    { scene with server := { scene.server with
        log := scene.server.log ++ [r.capture scene.server.log.length body] } }
  | .noticed handler =>
    { scene with noticed := fun h =>
        if h = handler then scene.server.log.length else scene.noticed h }
  | .recorded handler =>
    { scene with server := { scene.server with
        failure := some (scene.server.failure.getD (.invalidBody (scene.noticed handler))) } }
  | .reported => { scene with server := { scene.server with failure := none } }

/-- A history. -/
def run (scene : Scene) (ms : List Moment) : Scene := ms.foldl step scene

theorem run_cons (scene : Scene) (m : Moment) (ms : List Moment) :
    scene.run (m :: ms) = (scene.step m).run ms := rfl

theorem run_append (scene : Scene) (ms ns : List Moment) :
    scene.run (ms ++ ns) = (scene.run ms).run ns := List.foldl_append

end Scene

/-- The requests of a history that were read to the end, with their bodies, in that order. -/
def completed (ms : List Moment) : List (Received × Bytes) := ms.filterMap Moment.read?

/-- The log that requests leave which are stored after `n` others. -/
def logFrom (n : Nat) (rs : List (Received × Bytes)) : List Captured :=
  rs.mapIdx fun i (r, body) => r.capture (n + i) body

/-- The log that requests leave. -/
abbrev logOf (rs : List (Received × Bytes)) : List Captured := logFrom 0 rs

/-- The log of more requests goes on where the first ones end. -/
theorem logFrom_append (n : Nat) (rs qs : List (Received × Bytes)) :
    logFrom n (rs ++ qs) = logFrom n rs ++ logFrom (n + rs.length) qs := by
  simp only [logFrom, List.mapIdx_append, Nat.add_assoc, Nat.add_comm rs.length]

@[simp] theorem length_logFrom (n : Nat) (rs : List (Received × Bytes)) :
    (logFrom n rs).length = rs.length := List.length_mapIdx

/-- A captured request knows its place. -/
theorem index_of_logOf {rs : List (Received × Bytes)} {i : Nat} {r : Captured}
    (h : (logOf rs)[i]? = some r) : r.index = i := by
  unfold logOf logFrom at h
  rw [List.getElem?_mapIdx, Option.map_eq_some_iff] at h
  obtain ⟨⟨received, body⟩, -, rfl⟩ := h
  exact Nat.zero_add i

/-! ### What a history leaves -/

namespace Scene

variable (scene : Scene)

/-- **The log grows by the requests that were read**, in the order in which they were. -/
theorem log_run (ms : List Moment) :
    (scene.run ms).server.log =
      scene.server.log ++ logFrom scene.server.log.length (completed ms) := by
  induction ms generalizing scene with
  | nil => exact (List.append_nil _).symm
  | cons m ms ih =>
      rw [run_cons, ih]
      cases m with
      | stored r body =>
          have hread : completed (.stored r body :: ms) = [(r, body)] ++ completed ms := rfl
          have hone : logFrom scene.server.log.length [(r, body)] =
              [r.capture scene.server.log.length body] := rfl
          rw [hread, logFrom_append, hone, ← List.append_assoc, step, List.length_append]
          rfl
      | noticed handler => rfl
      | recorded handler => rfl
      | reported => rfl

/-- No moment changes the configuration. -/
theorem configuration_run (ms : List Moment) :
    (scene.run ms).server.configuration = scene.server.configuration := by
  induction ms generalizing scene with
  | nil => rfl
  | cons m ms ih =>
      rw [run_cons, ih]
      cases m <;> rfl

variable {scene}

/-- What a handler has noticed stays until it notices again. -/
theorem noticed_run {handler : Nat} {ms : List Moment} (h : .noticed handler ∉ ms) :
    (scene.run ms).noticed handler = scene.noticed handler := by
  induction ms generalizing scene with
  | nil => rfl
  | cons m ms ih =>
      rw [List.mem_cons, not_or] at h
      rw [run_cons, ih h.2]
      cases m with
      | noticed other =>
          have hne : handler ≠ other := by
            rintro rfl
            exact h.1 rfl
          exact if_neg hne
      | stored r body => rfl
      | recorded other => rfl
      | reported => rfl

/-- Only records and reports touch the failure. -/
theorem failure_run_of_quiet {ms : List Moment}
    (h : ∀ m ∈ ms, m.isRecorded = false ∧ m.isReported = false) :
    (scene.run ms).server.failure = scene.server.failure := by
  induction ms generalizing scene with
  | nil => rfl
  | cons m ms ih =>
      obtain ⟨hm, hms⟩ := List.forall_mem_cons.mp h
      rw [run_cons, ih hms]
      cases m with
      | stored r body => rfl
      | noticed handler => rfl
      | recorded handler => cases hm.1
      | reported => cases hm.2

/-- A failure stays until it is reported. -/
theorem failure_run_of_some {e : Error} (he : scene.server.failure = some e) {ms : List Moment}
    (h : ∀ m ∈ ms, m.isReported = false) : (scene.run ms).server.failure = some e := by
  induction ms generalizing scene with
  | nil => exact he
  | cons m ms ih =>
      obtain ⟨hm, hms⟩ := List.forall_mem_cons.mp h
      rw [run_cons]
      refine ih ?_ hms
      cases m with
      | stored r body => exact he
      | noticed handler => exact he
      | recorded handler => simp [step, he]
      | reported => cases hm

end Scene

/-- A history after which no failure is left to be reported: nothing happened yet, or the failure
was reported last. -/
def EndsReported (ms : List Moment) : Prop := ms = [] ∨ ∃ before, ms = before ++ [.reported]

/-- After a report no failure is left. -/
theorem EndsReported.failure_eq {ms : List Moment} (h : EndsReported ms) (c : Configuration) :
    ((Scene.start c).run ms).server.failure = none := by
  rcases h with rfl | ⟨before, rfl⟩
  · rfl
  · rw [Scene.run_append]
    rfl

/-- The last body in the log is the one of the last request. -/
theorem lastBody_of_logOf (rs : List (Received × Bytes)) :
    (logOf rs).getLast?.map (·.body) = rs.getLast?.map (·.2) := by
  rcases rs.eq_nil_or_concat with rfl | ⟨init, last, rfl⟩
  · rfl
  · have hlast : logFrom (0 + init.length) [last] =
        [last.1.capture (0 + init.length) last.2] := rfl
    rw [List.concat_eq_append, logOf, logFrom_append, hlast, List.getLast?_concat,
      List.getLast?_concat]
    rfl

/-- What a server remembers of a history. -/
structure Remembers (c : Configuration) (ms : List Moment) (s : Server) : Prop where
  /-- A request that is read to the end is answered as configured, whatever it holds. -/
  read : ∀ r, r.body.isSome = true → (s.handle r).1 = ⟨c.status, c.headers, c.body⟩
  /-- An unreadable request is answered with an error and no body. -/
  unread : ∀ r, r.body = none → (s.handle r).1 = ⟨500, [], []⟩
  /-- The log holds the requests that were read to the end. -/
  log : s.log = logOf (completed ms)
  request : ∀ i, s.request? i = (logOf (completed ms))[i]?
  lastRequest : s.lastRequest? = (logOf (completed ms)).getLast?
  lastBody : s.lastBody? = (completed ms).getLast?.map (·.2)
  requestCount : s.requestCount = (completed ms).length
  /-- Without a record since the last report all is well. -/
  healthy : ∀ early late, ms = early ++ late → EndsReported early →
    (∀ m ∈ late, m.isRecorded = false ∧ m.isReported = false) → s.ensureHealthy.1 = .ok ()
  /-- The failure to report is the first one recorded since the last report, and names the length
  that the log had when its handler noticed it. -/
  failure : ∀ early mid late before after handler,
    ms = early ++ mid ++ .recorded handler :: late → EndsReported early →
    (∀ m ∈ mid, m.isRecorded = false ∧ m.isReported = false) →
    (∀ m ∈ late, m.isReported = false) →
    early ++ mid = before ++ .noticed handler :: after → .noticed handler ∉ after →
    s.ensureHealthy.1 = .error (.invalidBody (completed before).length)

/-- **Every history is remembered**, in whatever order its moments come. -/
theorem run_remembers (c : Configuration) (ms : List Moment) :
    Remembers c ms ((Scene.start c).run ms).server := by
  have hlog : ((Scene.start c).run ms).server.log = logOf (completed ms) :=
    (Scene.start c).log_run ms
  refine ⟨?_, ?_, hlog, ?_, ?_, ?_, ?_, ?_, ?_⟩
  · intro r hr
    obtain ⟨body, hbody⟩ := Option.isSome_iff_exists.mp hr
    simp only [Server.handle, hbody, Server.reply, Scene.configuration_run]
    rfl
  · intro r hr
    simp only [Server.handle, hr, Server.failureReply]
  · intro i
    rw [Server.request?, hlog]
  · rw [Server.lastRequest?, hlog]
  · rw [Server.lastBody?, Server.lastRequest?, hlog, lastBody_of_logOf]
  · rw [Server.requestCount, hlog, length_logFrom]
  · intro early late hms hearly hlate
    have hnone : ((Scene.start c).run ms).server.failure = none := by
      rw [hms, Scene.run_append, Scene.failure_run_of_quiet hlate, hearly.failure_eq]
    rw [Server.ensureHealthy, hnone]
  · intro early mid late before after handler hms hearly hmid hlate hnoticed hafter
    have hquiet : ((Scene.start c).run (early ++ mid)).server.failure = none := by
      rw [Scene.run_append, Scene.failure_run_of_quiet hmid, hearly.failure_eq]
    have hlength : ((Scene.start c).run (early ++ mid)).noticed handler =
        (completed before).length := by
      rw [hnoticed, Scene.run_append, Scene.run_cons, Scene.noticed_run hafter]
      simp [Scene.step, Scene.log_run, Scene.start, Server.start]
    have hsome : ((Scene.start c).run ms).server.failure =
        some (.invalidBody (completed before).length) := by
      rw [hms, Scene.run_append, Scene.run_cons]
      refine Scene.failure_run_of_some ?_ hlate
      simp [Scene.step, hquiet, hlength]
    rw [Server.ensureHealthy, hsome]

/-! ### Sessions -/

/-- The moments of a request that is handled in one go. -/
def Received.moments (r : Received) : List Moment :=
  match r.body with
  | some body => [.stored r body]
  | none => [.noticed 0, .recorded 0]

namespace Action

/-- Whether there is a server after an action. -/
def keepsServer : Action → Bool
  | .close | .drop => false
  | _ => true

/-- Whether an action asks for the failure. -/
def isReport : Action → Bool
  | .ensureHealthy | .close => true
  | _ => false

/-- The request of an action. -/
def sent? : Action → Option Received
  | .send r | .sendOff r => some r
  | _ => none

/-- The request of an action and its body, if it is read to the end. -/
def read? (a : Action) : Option (Received × Bytes) :=
  a.sent?.bind fun r => r.body.map (r, ·)

/-- Whether an action is a request that cannot be read to the end. -/
def isUnreadable (a : Action) : Bool := a.sent?.any (·.body.isNone)

/-- The moments of an action. -/
def moments : Action → List Moment
  | .send r | .sendOff r => r.moments
  | .ensureHealthy => [.reported]
  | _ => []

/-- The moments of an action store its request exactly if it was read to the end. -/
theorem filterMap_moments (a : Action) : a.moments.filterMap Moment.read? = a.read?.toList := by
  have hreceived : ∀ r : Received,
      r.moments.filterMap Moment.read? = (r.body.map (r, ·)).toList := by
    intro r
    unfold Received.moments
    cases r.body <;> rfl
  cases a with
  | send r => exact hreceived r
  | sendOff r => exact hreceived r
  | _ => rfl

/-- An action that is no unreadable request and no report leaves the failure alone. -/
theorem moments_quiet {a : Action} (h : a.isUnreadable = false ∧ a.isReport = false) :
    ∀ m ∈ a.moments, m.isRecorded = false ∧ m.isReported = false := by
  have hreceived : ∀ r : Received, r.body.isNone = false →
      ∀ m ∈ r.moments, m.isRecorded = false ∧ m.isReported = false := by
    intro r hr m hm
    unfold Received.moments at hm
    cases hbody : r.body with
    | none => rw [hbody] at hr; cases hr
    | some body =>
        rw [hbody] at hm
        rw [List.mem_singleton.mp hm]
        exact ⟨rfl, rfl⟩
  cases a with
  | send r => exact hreceived r h.1
  | sendOff r => exact hreceived r h.1
  | ensureHealthy => cases h.2
  | _ => simp [moments]

/-- An action that is no report has no moment that reports. -/
theorem moments_unreported {a : Action} (h : a.isReport = false) :
    ∀ m ∈ a.moments, m.isReported = false := by
  have hreceived : ∀ r : Received, ∀ m ∈ r.moments, m.isReported = false := by
    intro r m hm
    unfold Received.moments at hm
    split at hm <;> simp only [List.mem_cons, List.not_mem_nil, or_false] at hm
    · rw [hm]
      rfl
    · rcases hm with rfl | rfl <;> rfl
  cases a with
  | send r => exact hreceived r
  | sendOff r => exact hreceived r
  | ensureHealthy => cases h
  | _ => simp [moments]

/-- An unreadable request is noticed and recorded at once. -/
theorem moments_of_isUnreadable {a : Action} (h : a.isUnreadable = true) :
    a.moments = [.noticed 0, .recorded 0] := by
  have hreceived : ∀ r : Received, r.body.isNone = true →
      r.moments = [.noticed 0, .recorded 0] := by
    intro r hr
    rw [Received.moments, Option.isNone_iff_eq_none.mp hr]
  cases a with
  | send r => exact hreceived r h
  | sendOff r => exact hreceived r h
  | _ => cases h

end Action

/-- The requests of actions that were read to the end, with their bodies. -/
def readBy (as : List Action) : List (Received × Bytes) := as.filterMap Action.read?

/-- The moments of a session store the requests that its actions read to the end. -/
theorem completed_flatMap_moments (as : List Action) :
    completed (as.flatMap Action.moments) = readBy as := by
  induction as with
  | nil => rfl
  | cons a as ih =>
      have hsplit : completed ((a :: as).flatMap Action.moments) =
          a.moments.filterMap Moment.read? ++ completed (as.flatMap Action.moments) := by
        rw [List.flatMap_cons, completed, List.filterMap_append]
        rfl
      rw [hsplit, ih, a.filterMap_moments, readBy, readBy, List.filterMap_cons]
      cases a.read? <;> rfl

/-- **A request that is handled** has the moments of its handler. -/
theorem handle_eq_run (scene : Scene) (r : Received) :
    (scene.server.handle r).2 = (scene.run r.moments).server := by
  unfold Server.handle Received.moments
  cases r.body with
  | some body => rfl
  | none => simp [Scene.run, Scene.step]

/-- An action that keeps the server has the moments that it stands for. -/
theorem act_eq_run (scene : Scene) {a : Action} (h : a.keepsServer = true) :
    (act .up (some scene.server) a).2 = some (scene.run a.moments).server := by
  cases a with
  | send r => exact congrArg some (handle_eq_run scene r)
  | sendOff r => exact congrArg some (handle_eq_run scene r)
  | ensureHealthy =>
      have hreport : scene.server.ensureHealthy.2 = (scene.step .reported).server := by
        unfold Server.ensureHealthy
        split
        · rfl
        · next hnone => simp [Scene.step, ← hnone]
      exact congrArg some hreport
  | close => cases h
  | drop => cases h
  | _ => rfl

/-- The server after some actions, if there is one. -/
def serverAfter (link : Link) (s : Option Server) (as : List Action) : Option Server :=
  as.foldl (fun s a => (act link s a).2) s

/-- **After a session the server is what the moments of its actions leave.** -/
theorem serverAfter_eq_run (scene : Scene) {as : List Action}
    (h : ∀ a ∈ as, a.keepsServer = true) :
    serverAfter .up (some scene.server) as =
      some (scene.run (as.flatMap Action.moments)).server := by
  induction as generalizing scene with
  | nil => rfl
  | cons a as ih =>
      obtain ⟨ha, has⟩ := List.forall_mem_cons.mp h
      rw [List.flatMap_cons, Scene.run_append, ← ih _ has, ← act_eq_run scene ha]
      rfl

/-- A session goes on with the server that its first part leaves. -/
theorem session_append (link : Link) (s : Option Server) (as bs : List Action) :
    session link s (as ++ bs) = session link s as ++ session link (serverAfter link s as) bs := by
  induction as generalizing s with
  | nil => rfl
  | cons a as ih => exact congrArg (_ :: ·) (ih _)

/-- What an action answers that follows others in a session with a fresh server. -/
def answerAfter (c : Configuration) (as : List Action) (a : Action) : Option Answer :=
  (session .up (some (.start c)) (as ++ [a])).getLast?

/-- The server that has handled some actions. -/
def serverOf (c : Configuration) (as : List Action) : Server :=
  ((Scene.start c).run (as.flatMap Action.moments)).server

/-- What an action answers after others is what it answers on the server that they leave. -/
theorem answerAfter_eq {c : Configuration} {as : List Action}
    (h : ∀ a ∈ as, a.keepsServer = true) (a : Action) :
    answerAfter c as a = some ((serverOf c as).act .up a).1 := by
  have hafter : serverAfter .up (some (.start c)) as = some (serverOf c as) :=
    serverAfter_eq_run (Scene.start c) h
  rw [answerAfter, session_append, hafter]
  exact List.getLast?_concat

/-- Nothing was done yet, or the failure was asked for last. -/
def EndsWithReport (as : List Action) : Prop := as = [] ∨ ∃ before, as = before ++ [.ensureHealthy]

/-- How a session with a fresh server goes on after some actions. -/
structure AnswersFromHistory (c : Configuration) (as : List Action) : Prop where
  requests : answerAfter c as .requests = some (.log (logOf (readBy as)))
  request : ∀ i, answerAfter c as (.request i) = some (.captured (logOf (readBy as))[i]?)
  lastRequest : answerAfter c as .lastRequest = some (.captured (logOf (readBy as)).getLast?)
  lastBody : answerAfter c as .lastBody =
    some (.body ((readBy as).getLast?.map (·.2)))
  requestCount : answerAfter c as .requestCount = some (.count (readBy as).length)
  read : ∀ r, r.body.isSome = true → answerAfter c as (.send r) =
    some (.reply (some (Reply.seenBy ⟨c.status, c.headers, c.body⟩ r.method)))
  unread : ∀ r, r.body = none → answerAfter c as (.send r) =
    some (.reply (some (Reply.seenBy ⟨500, [], []⟩ r.method)))
  /-- Without an unreadable request since the last report, all is well. -/
  healthy : ∀ report, report.isReport = true → ∀ early late, as = early ++ late →
    EndsWithReport early → (∀ a ∈ late, a.isUnreadable = false ∧ a.isReport = false) →
    answerAfter c as report = some (.outcome (.ok ()))
  /-- Otherwise the first one is reported, with the length that the log had then. -/
  failed : ∀ report, report.isReport = true → ∀ early mid late a,
    as = early ++ mid ++ a :: late → EndsWithReport early →
    (∀ x ∈ mid, x.isUnreadable = false ∧ x.isReport = false) → a.isUnreadable = true →
    (∀ x ∈ late, x.isReport = false) →
    answerAfter c as report = some (.outcome (.error (.invalidBody (readBy (early ++ mid)).length)))

/-- A session that ends with a report has a history that does. -/
theorem EndsWithReport.moments {as : List Action} (h : EndsWithReport as) :
    EndsReported (as.flatMap Action.moments) := by
  rcases h with rfl | ⟨before, rfl⟩
  · exact .inl rfl
  · refine .inr ⟨before.flatMap Action.moments, ?_⟩
    rw [List.flatMap_append]
    rfl

/-- A property of the moments of each action is one of all their moments. -/
theorem forall_moments {as : List Action} {P : Moment → Prop}
    (h : ∀ a ∈ as, ∀ m ∈ a.moments, P m) : ∀ m ∈ as.flatMap Action.moments, P m := by
  intro m hm
  obtain ⟨a, ha, hma⟩ := List.mem_flatMap.mp hm
  exact h a ha m hma

/-- A report gives away the failure, whether the server lives on or not. -/
theorem act_of_isReport (s : Server) {report : Action} (h : report.isReport = true) :
    (s.act .up report).1 = .outcome s.ensureHealthy.1 := by
  cases report with
  | ensureHealthy => rfl
  | close => rfl
  | _ => cases h

/-- **What the actions so far left is what the next one answers.** -/
theorem answersFromHistory (c : Configuration) {as : List Action}
    (h : ∀ a ∈ as, a.keepsServer = true) : AnswersFromHistory c as := by
  have hremembers : Remembers c (as.flatMap Action.moments) (serverOf c as) :=
    run_remembers c _
  have hread : completed (as.flatMap Action.moments) = readBy as := completed_flatMap_moments as
  have hreport : ∀ report, report.isReport = true → answerAfter c as report =
      some (.outcome (serverOf c as).ensureHealthy.1) := by
    intro report hreport
    rw [answerAfter_eq h, act_of_isReport _ hreport]
  refine ⟨?_, ?_, ?_, ?_, ?_, ?_, ?_, ?_, ?_⟩
  · rw [answerAfter_eq h, Server.act, hremembers.log, hread]
  · intro i
    rw [answerAfter_eq h, Server.act, hremembers.request, hread]
  · rw [answerAfter_eq h, Server.act, hremembers.lastRequest, hread]
  · rw [answerAfter_eq h, Server.act, hremembers.lastBody, hread]
  · rw [answerAfter_eq h, Server.act, hremembers.requestCount, hread]
  · intro r hr
    rw [answerAfter_eq h]
    simp only [Server.act, Server.exchange, hremembers.read r hr]
  · intro r hr
    rw [answerAfter_eq h]
    simp only [Server.act, Server.exchange, hremembers.unread r hr]
  · intro report hisReport early late has hearly hlate
    rw [hreport _ hisReport, hremembers.healthy _ (late.flatMap Action.moments) _ hearly.moments
      (forall_moments fun a ha => Action.moments_quiet (hlate a ha))]
    rw [has, List.flatMap_append]
  · intro report hisReport early mid late a has hearly hmid ha hlate
    have hquiet : ∀ m ∈ mid.flatMap Action.moments ++ [.noticed 0],
        m.isRecorded = false ∧ m.isReported = false := by
      intro m hm
      rcases List.mem_append.mp hm with hm | hm
      · exact forall_moments (fun x hx => Action.moments_quiet (hmid x hx)) m hm
      · rw [List.mem_singleton.mp hm]
        exact ⟨rfl, rfl⟩
    have hmoments : as.flatMap Action.moments =
        early.flatMap Action.moments ++ (mid.flatMap Action.moments ++ [.noticed 0]) ++
          .recorded 0 :: late.flatMap Action.moments := by
      rw [has, List.flatMap_append, List.flatMap_append, List.flatMap_cons,
        Action.moments_of_isUnreadable ha]
      simp
    have hnoticed : early.flatMap Action.moments ++ (mid.flatMap Action.moments ++ [.noticed 0]) =
        (early ++ mid).flatMap Action.moments ++ .noticed 0 :: [] := by
      rw [List.flatMap_append, List.append_assoc]
    have hlate' : ∀ m ∈ late.flatMap Action.moments, m.isReported = false :=
      forall_moments fun x hx => Action.moments_unreported (hlate x hx)
    rw [hreport _ hisReport, hremembers.failure _ _ _ _ [] 0 hmoments hearly.moments hquiet hlate'
      hnoticed List.not_mem_nil, completed_flatMap_moments]

/-- **A server remembers what it read.**  Whatever the order in which the handlers of requests come
to its cells, its log holds the requests that were read to the end, each at its own index, and only
grows; the answers of a session come from what happened before.  A handler that cannot read its
request looks up the length of the log and records the failure at two moments, between which others
may come: the failure that is kept is the first one that was recorded, not the first one noticed, and
its index is the length that the log had when it was noticed. -/
theorem server_remembers_what_it_read (c : Configuration) :
    (∀ ms, Remembers c ms ((Scene.start c).run ms).server) ∧
    (∀ ms ns, ((Scene.start c).run ms).server.log <+: ((Scene.start c).run (ms ++ ns)).server.log) ∧
    (∀ ms i (r : Captured),
      ((Scene.start c).run ms).server.log[i]? = some r → r.index = i) ∧
    (∀ as, (∀ a ∈ as, a.keepsServer = true) → AnswersFromHistory c as) := by
  refine ⟨run_remembers c, ?_, ?_, fun as => answersFromHistory c⟩
  · intro ms ns
    rw [Scene.run_append, Scene.log_run _ ns]
    exact List.prefix_append _ _
  · intro ms i r hr
    rw [(run_remembers c ms).log] at hr
    exact index_of_logOf hr

/-- A handler notices its failure before a request is stored, another one after; the other one is
the first to record it. -/
theorem failure_recorded_first_reported (c : Configuration) :
    ((Scene.start c).run [.noticed 1, .stored ⟨"GET", "/", [], some []⟩ [], .noticed 2,
      .recorded 2, .recorded 1]).server.ensureHealthy.1 = .error (.invalidBody 1) :=
  ((server_remembers_what_it_read c).1 _).failure []
    [.noticed 1, .stored ⟨"GET", "/", [], some []⟩ [], .noticed 2] [.recorded 1]
    [.noticed 1, .stored ⟨"GET", "/", [], some []⟩ []] [] 2 rfl (.inl rfl)
    (by simp [Moment.isRecorded, Moment.isReported]) (by simp [Moment.isReported]) rfl
    List.not_mem_nil

end AccountWire.Echo

import AccountWire.Proofs.Admin.Acceptance

/-!
# What an operation answers

The checks of an operation come before its request, and what its answer is depends on the one
response.  `Guarded` tells this of a plan: the arguments are refused exactly when they are not as
they have to be, and otherwise an exchange is planned whose reading of a body fails in certain ways
only.  Every operation is guarded (`Operation.plan_guarded`), one way of building plans after the
other.  To say what is sent, an operation is performed over a transport that keeps every request
together with its response (`Http.Transport.recorded`); `Operation.answer_reports_exchange` puts
together what is sent, what comes back and what is answered.
-/

namespace AccountWire.Http

/-- A transport that also keeps a list of the requests and how they were answered. -/
def Transport.recorded {σ : Type} (send : Transport σ) :
    Transport (σ × List (Request × Option Response)) :=
  fun request (s, exchanged) =>
    let (response, s) := send request s
    (response, (s, exchanged ++ [(request, response)]))

end AccountWire.Http

namespace AccountWire.Admin

open Http (Request Response Transport)

/-! ### Readings that fail -/

/-- A body is read exactly if it is the text of a document that the record can be read from. -/
theorem readBody_eq_ok_iff {α : Type} {read : Json.Tree → Option α} {body : Bytes} {a : α} :
    Exchange.readBody read body = .ok a ↔ (Json.Tree.ofBytes? body).bind read = some a := by
  unfold Exchange.readBody
  cases (Json.Tree.ofBytes? body).bind read <;> simp

/-- A body that cannot be read is reported as unreadable, and as nothing else. -/
theorem readBody_eq_error_iff {α : Type} {read : Json.Tree → Option α} {body : Bytes} {e : Error} :
    Exchange.readBody read body = .error e ↔
      (¬ ∃ a, (Json.Tree.ofBytes? body).bind read = some a) ∧ e = .unreadable := by
  unfold Exchange.readBody
  cases (Json.Tree.ofBytes? body).bind read <;> simp [eq_comm]

/-- What a response is to blame for: it cannot be read, or what is read makes no sense. -/
def Error.IsMisread (e : Error) : Prop := e = .unreadable ∨ ∃ a, e = .unexpectedResponse a

/-- A reading that fails only because of the response. -/
def Blames {α : Type} (x : Except Error α) : Prop := ∀ e, x = .error e → e.IsMisread

namespace Blames

variable {α β : Type}

theorem ok (a : α) : Blames (.ok a) := by
  intro e h
  cases h

theorem unreadable : Blames (.error .unreadable : Except Error α) := by
  intro e h
  cases h
  exact Or.inl rfl

theorem unexpected (a : Anomaly) : Blames (.error (.unexpectedResponse a) : Except Error α) := by
  intro e h
  cases h
  exact Or.inr ⟨a, rfl⟩

/-- What is done with a result in the end blames the backend if each step does. -/
theorem bind {x : Except Error α} {f : α → Except Error β} (hx : Blames x)
    (hf : ∀ a, Blames (f a)) : Blames (x >>= f) := by
  intro e h
  rcases of_bind_eq_error h with h | ⟨a, -, h⟩
  · exact hx e h
  · exact hf a e h

theorem mapM {f : α → Except Error β} (hf : ∀ a, Blames (f a)) (l : List α) :
    Blames (l.mapM f) := by
  intro e h
  obtain ⟨a, -, h⟩ := of_mapM_eq_error h
  exact hf a e h

theorem readBody (read : Json.Tree → Option α) (body : Bytes) :
    Blames (Exchange.readBody read body) := by
  unfold Exchange.readBody
  split
  · exact ok _
  · exact unreadable

end Blames

end AccountWire.Admin

namespace AccountWire.User

open Admin (Blames Error Exchange)

/-- Stored claims that cannot be read are the fault of the backend. -/
theorem blames_claimsOfText (text : String) : Blames (claimsOfText text) := by
  unfold claimsOfText
  split
  · exact .ok _
  · split
    · exact .unreadable
    · exact .ok _
    · exact .ok _

theorem blames_timestamp (field value : String) : Blames (timestamp field value) := by
  unfold timestamp
  split
  · exact .ok _
  · split
    · exact .ok _
    · exact .unexpected _

theorem blames_toMillis (text : String) (seconds : Int) : Blames (toMillis text seconds) := by
  unfold toMillis
  split
  · exact .ok _
  · exact .unexpected _

/-- A stored user that cannot be shown is the fault of the backend. -/
theorem blames_export (u : StoredUser) : Blames u.export :=
  (blames_claimsOfText _).bind fun _ => (blames_timestamp _ _).bind fun _ =>
    (blames_toMillis _ _).bind fun _ => (blames_timestamp _ _).bind fun _ =>
      (blames_timestamp _ _).bind fun _ => .ok _

theorem blames_nonEmptyOr (a : Admin.Anomaly) (text : String) : Blames (nonEmptyOr a text) := by
  unfold nonEmptyOr
  split
  · exact .unexpected _
  · exact .ok _

theorem blames_interpretPage (body : Bytes) : Blames (interpretPage body) :=
  (Blames.readBody _ _).bind fun _ => (Blames.mapM blames_export _).bind fun _ => .ok _

/-- A response that can be read and has no user. -/
def HasNoUser (body : Bytes) : Prop := (Json.Tree.ofBytes? body).bind usersOfTree? = some []

/-- No users are read from a body exactly if it is one without users. -/
theorem readBody_users_eq_nil {body : Bytes} :
    Exchange.readBody usersOfTree? body = .ok [] ↔ HasNoUser body := by
  unfold Exchange.readBody HasNoUser
  cases (Json.Tree.ofBytes? body).bind usersOfTree? <;> simp

/-- **A look-up finds no user** when the response can be read and has none; it fails otherwise only
because of the response. -/
theorem interpretLookup_eq_error {body : Bytes} {e : Error} (h : interpretLookup body = .error e) :
    e.IsMisread ∨ e = .userNotFound ∧ HasNoUser body := by
  rcases Admin.of_bind_eq_error h with h | ⟨users, husers, h⟩
  · exact Or.inl (Blames.readBody _ _ e h)
  · cases users with
    | nil =>
        cases h
        exact Or.inr ⟨rfl, readBody_users_eq_nil.mp husers⟩
    | cons user rest => exact Or.inl (((blames_export user).bind fun _ => .ok _) e h)

/-- A look-up whose response has no users has found none. -/
theorem interpretLookup_of_hasNoUser {body : Bytes} (h : HasNoUser body) :
    interpretLookup body = .error .userNotFound := by
  rw [interpretLookup, readBody_users_eq_nil.mpr h]
  rfl

end AccountWire.User

namespace AccountWire.Admin

open Http (Request Response Transport)

/-! ### Guarded plans -/

/-- A plan that refuses its arguments unless `accepts` holds, and whose exchange reads responses as
`reads` says. -/
def Guarded {α : Type} (accepts : Prop) (reads : (Bytes → Except Error α) → Prop)
    (plan : Except Error (Exchange α)) : Prop :=
  (¬ accepts ∧ ∃ reason, plan = .error (.invalidArgument reason)) ∨
    (accepts ∧ ∃ method address query body interpret,
      plan = Exchange.plan method address query body interpret ∧ reads interpret)

/-- An accepted argument is handed on. -/
theorem accept_ok_bind {α β : Type} (b : β) (next : β → Except Error α) :
    accept (.ok b) >>= next = next b := rfl

namespace Guarded

variable {α β : Type} {accepts rest : Prop} {reads : (Bytes → Except Error α) → Prop}

/-- A plan on its own refuses nothing, and reads as it was told to. -/
theorem plan {interpret : Bytes → Except Error α} (h : reads interpret) (method : Http.Method)
    (address : String) (query : List Query.Pair) (body : Option Json) :
    Guarded True reads (Exchange.plan method address query body interpret) :=
  Or.inr ⟨trivial, method, address, query, body, interpret, rfl, h⟩

/-- A check that comes before a plan guards it. -/
theorem accept_bind {check : Except Rejection β} {next : β → Except Error (Exchange α)}
    (hcheck : Passes check ↔ accepts) (hnext : ∀ b, Guarded rest reads (next b)) :
    Guarded (accepts ∧ rest) reads (accept check >>= next) := by
  cases check with
  | error reason =>
      have hnot : ¬ accepts := fun h => not_passes_error reason (hcheck.mpr h)
      exact Or.inl ⟨fun h => hnot h.1, reason, rfl⟩
  | ok b =>
      rcases hnext b with ⟨hnot, reason, h⟩ | ⟨hrest, h⟩
      · exact Or.inl ⟨fun h => hnot h.2, reason, h⟩
      · exact Or.inr ⟨⟨hcheck.mp (passes_ok b), hrest⟩, h⟩

/-- The last check before a request. -/
theorem accept_plan {check : Except Rejection β} {next : β → Except Error (Exchange α)}
    (hcheck : Passes check ↔ accepts) (hnext : ∀ b, Guarded True reads (next b)) :
    Guarded accepts reads (accept check >>= next) := by
  have h := accept_bind hcheck hnext
  rwa [and_true] at h

end Guarded

namespace Operation

/-- What an operation answers with. -/
def Answer : Operation → Type
  | .byUid _ | .byEmail _ | .byPhoneNumber _ => User.Record
  | .createUser _ | .sessionCookie _ _ => String
  | .updateUser _ _ | .revokeRefreshTokens _ _ | .setCustomClaims _ _ | .deleteUser _ => Unit
  | .importUsers _ _ => User.ImportResult
  | .emailVerificationLink _ _ | .passwordResetLink _ _ | .emailSignInLink _ _ => String
  | .userPage _ => Listing.Page User.ExportedUser
  | .getOidc _ | .createOidc _ | .updateOidc _ _ => Provider.Oidc
  | .oidcPage _ => Listing.Page Provider.Oidc
  | .getSaml _ | .createSaml _ | .updateSaml _ _ => Provider.Saml
  | .samlPage _ => Listing.Page Provider.Saml
  | .deleteOidc _ | .deleteSaml _ => Unit

/-- The plan of an operation. -/
def plan (c : Client) : (op : Operation) → Except Error (Exchange op.Answer)
  | .byUid uid => User.byUid c uid
  | .byEmail email => User.byEmail c email
  | .byPhoneNumber number => User.byPhoneNumber c number
  | .createUser user => User.create c user
  | .updateUser uid change => User.update c uid change
  | .revokeRefreshTokens now uid => User.revokeRefreshTokens c now uid
  | .setCustomClaims uid claims => User.setCustomClaims c uid claims
  | .deleteUser uid => User.delete c uid
  | .importUsers users hash => User.importUsers c users hash
  | .sessionCookie idToken span => User.sessionCookie c idToken span
  | .emailVerificationLink email settings => User.emailVerificationLink c email settings
  | .passwordResetLink email settings => User.passwordResetLink c email settings
  | .emailSignInLink email settings => User.emailSignInLink c email settings
  | .userPage token => User.page c token
  | .getOidc id => Provider.Oidc.get c id
  | .createOidc provider => Provider.Oidc.create c provider
  | .updateOidc id change => Provider.Oidc.update c id change
  | .deleteOidc id => Provider.Oidc.delete c id
  | .oidcPage token => Provider.Oidc.page c token
  | .getSaml id => Provider.Saml.get c id
  | .createSaml provider => Provider.Saml.create c provider
  | .updateSaml id change => Provider.Saml.update c id change
  | .deleteSaml id => Provider.Saml.delete c id
  | .samlPage token => Provider.Saml.page c token

/-- An operation that looks up one user. -/
def IsLookup : Operation → Prop
  | .byUid _ | .byEmail _ | .byPhoneNumber _ => True
  | _ => False

instance (op : Operation) : Decidable op.IsLookup := by
  cases op <;> unfold IsLookup <;> infer_instance

/-- How an operation reads a body: it fails because of the response, or because a look-up finds no
user. -/
structure Reads (op : Operation) (interpret : Bytes → Except Error op.Answer) : Prop where
  fails : ∀ body e, interpret body = .error e →
    e.IsMisread ∨ e = .userNotFound ∧ op.IsLookup ∧ User.HasNoUser body
  notFound : op.IsLookup → ∀ body, User.HasNoUser body → interpret body = .error .userNotFound

/-- Operations other than look-ups fail only because of the response. -/
theorem Reads.of_blames {op : Operation} {interpret : Bytes → Except Error op.Answer}
    (hop : ¬ op.IsLookup) (h : ∀ body, Blames (interpret body)) : op.Reads interpret where
  fails body e he := Or.inl (h body e he)
  notFound hlookup := absurd hlookup hop

/-- **Every operation checks its arguments first**, and reads responses in its own way. -/
theorem plan_guarded (c : Client) (op : Operation) : Guarded op.Accepts op.Reads (op.plan c) := by
  have hlookup : (∀ body e, User.interpretLookup body = .error e →
      e.IsMisread ∨ e = .userNotFound ∧ True ∧ User.HasNoUser body) ∧
      (True → ∀ body, User.HasNoUser body → User.interpretLookup body = .error .userNotFound) := by
    refine ⟨fun body e h => ?_, fun _ body => User.interpretLookup_of_hasNoUser⟩
    rw [true_and]
    exact User.interpretLookup_eq_error h
  have hignore : ∀ body, Blames (Exchange.ignoreBody body) := Blames.readBody _
  have hnamed : ∀ (field : String) (a : Anomaly) (body : Bytes),
      Blames (Exchange.readBody (User.soleText? field) body >>= User.nonEmptyOr a) :=
    fun field a body => (Blames.readBody _ body).bind (User.blames_nonEmptyOr a)
  cases op with
  | byUid uid =>
      exact .accept_plan User.passes_checkUid fun _ => .plan ⟨hlookup.1, hlookup.2⟩ _ _ _ _
  | byEmail email =>
      exact .accept_plan User.passes_checkEmail fun _ => .plan ⟨hlookup.1, hlookup.2⟩ _ _ _ _
  | byPhoneNumber number =>
      exact .accept_plan User.passes_checkPhoneNumber fun _ =>
        .plan ⟨hlookup.1, hlookup.2⟩ _ _ _ _
  | createUser user =>
      exact .accept_plan User.NewUser.passes_request fun _ =>
        .plan (.of_blames id (hnamed _ _)) _ _ _ _
  | updateUser uid change =>
      exact .accept_bind User.passes_checkUid fun _ =>
        .accept_plan User.UserChange.passes_request fun _ => .plan (.of_blames id hignore) _ _ _ _
  | revokeRefreshTokens now uid =>
      exact .accept_plan User.passes_checkUid fun _ => .plan (.of_blames id hignore) _ _ _ _
  | setCustomClaims uid claims =>
      exact .accept_bind User.passes_checkUid fun _ =>
        .accept_plan User.passes_replacement fun _ => .plan (.of_blames id hignore) _ _ _ _
  | deleteUser uid =>
      exact .accept_plan User.passes_checkUid fun _ => .plan (.of_blames id hignore) _ _ _ _
  | importUsers users hash =>
      exact .accept_plan User.passes_importRequest fun _ =>
        .plan (.of_blames id fun body => (Blames.readBody _ body).bind fun _ => .ok _) _ _ _ _
  | sessionCookie idToken span =>
      exact .accept_bind passes_checkNonEmpty fun _ =>
        .accept_plan User.passes_checkCookieSpan fun _ =>
          .plan (.of_blames id (hnamed _ _)) _ _ _ _
  | emailVerificationLink email settings =>
      exact .accept_plan User.passes_linkRequest fun _ =>
        .plan (.of_blames id (Blames.readBody _)) _ _ _ _
  | passwordResetLink email settings =>
      exact .accept_plan User.passes_linkRequest fun _ =>
        .plan (.of_blames id (Blames.readBody _)) _ _ _ _
  | emailSignInLink email settings =>
      have hsettings : User.IsEmail email ∧ (∀ s ∈ some settings, s.Valid) ↔
          User.IsEmail email ∧ settings.Valid := by simp
      exact .accept_plan (User.passes_linkRequest.trans hsettings) fun _ =>
        .plan (.of_blames id (Blames.readBody _)) _ _ _ _
  | userPage token => exact .plan (.of_blames id User.blames_interpretPage) _ _ _ _
  | getOidc id =>
      exact .accept_plan (Provider.passes_checkId .oidc) fun _ =>
        .plan (.of_blames (fun h => h) (Blames.readBody _)) _ _ _ _
  | createOidc provider =>
      exact .accept_plan Provider.Oidc.New.passes_request fun _ =>
        .plan (.of_blames id (Blames.readBody _)) _ _ _ _
  | updateOidc id change =>
      exact .accept_bind (Provider.passes_checkId .oidc) fun _ =>
        .accept_plan Provider.Oidc.Change.passes_request fun _ =>
          .plan (.of_blames (fun h => h) (Blames.readBody _)) _ _ _ _
  | deleteOidc id =>
      exact .accept_plan (Provider.passes_checkId .oidc) fun _ =>
        .plan (.of_blames (fun h => h) hignore) _ _ _ _
  | getSaml id =>
      exact .accept_plan (Provider.passes_checkId .saml) fun _ =>
        .plan (.of_blames (fun h => h) (Blames.readBody _)) _ _ _ _
  | createSaml provider =>
      exact .accept_plan Provider.Saml.New.passes_request fun _ =>
        .plan (.of_blames id (Blames.readBody _)) _ _ _ _
  | updateSaml id change =>
      exact .accept_bind (Provider.passes_checkId .saml) fun _ =>
        .accept_plan Provider.Saml.Change.passes_request fun _ =>
          .plan (.of_blames (fun h => h) (Blames.readBody _)) _ _ _ _
  | deleteSaml id =>
      exact .accept_plan (Provider.passes_checkId .saml) fun _ =>
        .plan (.of_blames (fun h => h) hignore) _ _ _ _
  | oidcPage token | samlPage token => exact .plan (.of_blames id (Blames.readBody _)) _ _ _ _

/-- The request of an operation is the one of its plan. -/
theorem request_eq_plan (c : Client) (op : Operation) :
    op.request c = (op.plan c).map (·.request) := by
  cases op <;> rfl

/-- Accepted arguments are those that are not refused. -/
theorem not_refused_iff {c : Client} {op : Operation} :
    ¬ Refused (op.request c) ↔ op.Accepts := by
  rw [request_eq_plan]
  rcases plan_guarded c op with ⟨hnot, reason, hplan⟩ |
    ⟨haccepts, method, address, query, body, interpret, hplan, -⟩
  · rw [hplan]
    exact iff_of_false (fun h => h ⟨reason, rfl⟩) hnot
  · rw [hplan]
    exact iff_of_true (plan_not_refused _ _ _ _ _) haccepts

end Operation

/-! ### What is sent and answered -/

/-- A plan that cannot be made, once its arguments are accepted, is for want of an address. -/
theorem of_plan_eq_error {α : Type} {method : Http.Method} {address : String}
    {query : List Query.Pair} {body : Option Json} {interpret : Bytes → Except Error α} {e : Error}
    (h : Exchange.plan method address query body interpret = .error e) :
    ∃ url, e = .transport url := by
  unfold Exchange.plan at h
  split at h
  · exact ⟨none, (Except.error.inj h).symm⟩
  · next u _ =>
    split at h
    · exact ⟨some u.text, (Except.error.inj h).symm⟩
    · cases h

/-- A plan can be made for an address exactly when it is a URL with a host. -/
theorem exists_plan_iff {α : Type} {method : Http.Method} {address : String}
    {query : List Query.Pair} {body : Option Json} {interpret : Bytes → Except Error α} :
    (∃ x, Exchange.plan method address query body interpret = .ok x) ↔ Url.Locates address := by
  constructor
  · rintro ⟨x, h⟩
    unfold Exchange.plan at h
    split at h
    · cases h
    · next u hu =>
      split at h
      · cases h
      · next hhost => exact ⟨u, hu, by simpa using hhost⟩
  · rintro ⟨u, hu, hhost⟩
    exact ⟨_, plan_of_parse method query body interpret hu hhost⟩

/-- The resources of a client are found where its endpoint is still a URL when something follows. -/
theorem ClientOf.locates {config : Configuration} {c : Client} (hc : ClientOf config c)
    (hhttp : config.IsHttp) (hcontinues : Continues (Service.users.endpoint config))
    (resource : String) : Url.Locates (c.userUrl resource) := by
  obtain ⟨scheme, authority, rest, hopens, -⟩ := hc.opens hhttp .users
  obtain ⟨u, hu⟩ := hcontinues
  rw [← hc.eq_config.2 .users, continued_eq] at hu
  have haddress : c.userUrl resource =
      String.ofList ((c.endpoint .users).toList ++ '/' :: (c.scope ++ resource.toList)) := by
    rw [← String.toList_inj, String.toList_ofList, Client.userUrl, String.toList_append,
      Client.toList_base, List.append_assoc, List.cons_append]
    rfl
  rw [haddress]
  exact hopens.parse_of_parse hu _

/-- The endpoint that a configuration need not name is good for every resource. -/
theorem ClientOf.locates_default {projectId : String} {c : Client}
    (hc : ClientOf ⟨projectId, none⟩ c) (resource : String) : Url.Locates (c.userUrl resource) :=
  hc.locates (fun _ h => nomatch h) (show Continues defaultUserEndpoint by decide +kernel) resource

section

variable {α β : Type} {check : Except Rejection β} {method : Http.Method} {address : String}
  {query : List Query.Pair} {body : β → Option Json} {interpret : Bytes → Except Error α}

/-- A plan that is made after one check is refused for the reason of the check. -/
theorem accept_plan_refused_iff {reason : Rejection} :
    (accept check >>= fun b => Exchange.plan method address query (body b) interpret) =
      .error (.invalidArgument reason) ↔ check = .error reason := by
  cases check with
  | error reason' => simp [accept, Except.mapError, bind, Except.bind]
  | ok b =>
      rw [accept_ok_bind]
      refine iff_of_false ?_ (by simp)
      intro h
      obtain ⟨url, hurl⟩ := of_plan_eq_error h
      cases hurl

/-- After one check there is a request exactly if the check passes and the address is a URL with a
host. -/
theorem exists_accept_plan_iff :
    (∃ x, (accept check >>= fun b => Exchange.plan method address query (body b) interpret) =
      .ok x) ↔ Passes check ∧ Url.Locates address := by
  cases check with
  | error reason => simp [accept, Except.mapError, bind, Except.bind]
  | ok b => rw [accept_ok_bind, exists_plan_iff, and_iff_right (passes_ok b)]

/-- The body of a request comes from what the check has let through. -/
theorem of_accept_plan_eq_ok {x : Exchange α}
    (h : (accept check >>= fun b => Exchange.plan method address query (body b) interpret) = .ok x) :
    ∃ b, check = .ok b ∧ x.request.body = (body b).elim [] Json.bytes := by
  obtain ⟨b, hb, h⟩ := of_bind_eq_ok h
  exact ⟨b, of_accept_eq_ok hb, (of_plan_eq_ok h).1⟩

end

section

variable {α σ : Type}

/-- **The three ways of a plan**: there is nothing to send, or its request is not answered, or it
is answered.  The request is sent once. -/
theorem run_recorded (plan : Except Error (Exchange α)) (send : Transport σ) (s : σ) :
    (∃ e, plan = .error e ∧ run plan send.recorded (s, []) = (.error e, s, [])) ∨
      (∃ x s', plan = .ok x ∧ run plan send.recorded (s, []) =
        (.error (.transport (some x.request.url.text)), s', [(x.request, none)])) ∨
      ∃ x r s', plan = .ok x ∧
        run plan send.recorded (s, []) = (x.conclude r, s', [(x.request, some r)]) := by
  cases plan with
  | error e => exact Or.inl ⟨e, rfl, rfl⟩
  | ok x =>
      obtain ⟨response, s', hsend⟩ : ∃ response s', send x.request s = (response, s') :=
        ⟨_, _, rfl⟩
      have hrecorded : send.recorded x.request (s, []) =
          (response, (s', [(x.request, response)])) := by
        simp only [Transport.recorded, hsend, List.nil_append]
      cases response with
      | none => exact Or.inr (Or.inl ⟨x, s', rfl, by rw [run, hrecorded]⟩)
      | some r => exact Or.inr (Or.inr ⟨x, r, s', rfl, by rw [run, hrecorded]⟩)

/-- What is recorded does not change what is answered. -/
theorem fst_run_recorded (plan : Except Error (Exchange α)) (send : Transport σ) (s : σ)
    (exchanged : List (Request × Option Response)) :
    (run plan send.recorded (s, exchanged)).1 = (run plan send s).1 := by
  cases plan with
  | error e => rfl
  | ok x =>
      obtain ⟨response, s', hsend⟩ : ∃ response s', send x.request s = (response, s') :=
        ⟨_, _, rfl⟩
      simp only [run, Transport.recorded, hsend]
      cases response <;> rfl

/-- A request is sent exactly when one is planned. -/
theorem sent_iff {plan : Except Error (Exchange α)} {send : Transport σ} {s : σ} :
    (run plan send.recorded (s, [])).2.2 ≠ [] ↔ ∃ x, plan = .ok x := by
  rcases run_recorded plan send s with ⟨e, he, hrun⟩ | ⟨x, s', hx, hrun⟩ | ⟨x, r, s', hx, hrun⟩
  · rw [hrun]
    simp [he]
  · rw [hrun]
    simp [hx]
  · rw [hrun]
    simp [hx]

/-- Only what is planned is sent. -/
theorem of_mem_sent {plan : Except Error (Exchange α)} {send : Transport σ} {s : σ}
    {request : Request} {response : Option Response}
    (h : (request, response) ∈ (run plan send.recorded (s, [])).2.2) :
    ∃ x, plan = .ok x ∧ request = x.request := by
  rcases run_recorded plan send s with ⟨e, he, hrun⟩ | ⟨x, s', hx, hrun⟩ | ⟨x, r, s', hx, hrun⟩
  · simp [hrun] at h
  · rw [hrun, List.mem_singleton] at h
    exact ⟨x, hx, (Prod.mk.inj h).1⟩
  · rw [hrun, List.mem_singleton] at h
    exact ⟨x, hx, (Prod.mk.inj h).1⟩

/-- A refusal is what is planned, and nothing is sent then. -/
theorem refused_unsent_iff {plan : Except Error (Exchange α)} {send : Transport σ} {s : σ}
    {reason : Rejection} : run plan send.recorded (s, []) = (.error (.invalidArgument reason), s, []) ↔
      plan = .error (.invalidArgument reason) := by
  constructor
  · intro h
    have hunsent : ¬ ∃ x, plan = .ok x := fun hx => sent_iff.mpr hx (by rw [h])
    cases plan with
    | error e =>
        obtain rfl := Except.error.inj (Prod.mk.inj h).1
        rfl
    | ok x => exact absurd ⟨x, rfl⟩ hunsent
  · rintro rfl
    rfl

end

namespace Operation

/-- What is answered agrees with what was sent and came back: at most one request, none when the
arguments are refused, and its response told as it is. -/
structure Reports (op : Operation) (result : Except Error op.Answer)
    (exchanged : List (Request × Option Response)) : Prop where
  /-- At most one request is sent. -/
  once : exchanged.length ≤ 1
  /-- The arguments are refused exactly when they are not as they have to be. -/
  refused_iff : (∃ reason, result = .error (.invalidArgument reason)) ↔ ¬ op.Accepts
  /-- Nothing is sent for refused arguments. -/
  unsent : ¬ op.Accepts → exchanged = []
  /-- Everything but a refusal and a failure to send comes from one response. -/
  answered : (¬ ∃ reason, result = .error (.invalidArgument reason)) →
    (¬ ∃ url, result = .error (.transport url)) →
    ∃ request r, exchanged = [(request, some r)]
  /-- A status that tells of failure is reported, whatever the body. -/
  failed : ∀ request r, exchanged = [(request, some r)] → r.status < 200 ∨ 299 < r.status →
    result = .error (.backend r.status (errorCode r.body))
  /-- A status that tells of success is never reported as a failure of the backend. -/
  succeeded : ∀ request r, exchanged = [(request, some r)] → 200 ≤ r.status → r.status ≤ 299 →
    ∀ status code, result ≠ .error (.backend status code)
  /-- Only a look-up whose response has no user finds none. -/
  notFound : ∀ request r, exchanged = [(request, some r)] → 200 ≤ r.status → r.status ≤ 299 →
    (result = .error .userNotFound ↔ op.IsLookup ∧ User.HasNoUser r.body)

namespace Reports

variable {op : Operation}

/-- Refused arguments are not sent. -/
theorem of_refused (haccepts : ¬ op.Accepts) (reason : Rejection) :
    op.Reports (.error (.invalidArgument reason)) [] where
  once := Nat.zero_le 1
  refused_iff := iff_of_true ⟨reason, rfl⟩ haccepts
  unsent _ := rfl
  answered h := absurd ⟨reason, rfl⟩ h
  failed _ _ h := by cases h
  succeeded _ _ h := by cases h
  notFound _ _ h := by cases h

/-- A request that is not answered, or not even sent, is no refusal. -/
theorem of_transport (haccepts : op.Accepts) (url : Option String)
    {exchanged : List (Request × Option Response)}
    (h : exchanged = [] ∨ ∃ request, exchanged = [(request, none)]) :
    op.Reports (.error (.transport url)) exchanged := by
  have hnone : ∀ request r, exchanged ≠ [(request, some r)] := by
    intro request r
    rcases h with rfl | ⟨request', rfl⟩ <;> simp
  refine ⟨?_, ?_, ?_, ?_, ?_, ?_, ?_⟩
  · rcases h with rfl | ⟨request', rfl⟩ <;> simp
  · simp [haccepts]
  · exact fun hnot => absurd haccepts hnot
  · exact fun _ hnot => absurd ⟨url, rfl⟩ hnot
  · exact fun request r hr => absurd hr (hnone request r)
  · exact fun request r hr => absurd hr (hnone request r)
  · exact fun request r hr => absurd hr (hnone request r)

/-- A response is told as the exchange concludes from it. -/
theorem of_response (haccepts : op.Accepts) {x : Exchange op.Answer} (hreads : op.Reads x.interpret)
    (r : Response) : op.Reports (x.conclude r) [(x.request, some r)] := by
  have hfailed : r.status < 200 ∨ 299 < r.status →
      x.conclude r = .error (.backend r.status (errorCode r.body)) := x.conclude_of_failed
  have hsucceeded : 200 ≤ r.status → r.status ≤ 299 → x.conclude r = x.interpret r.body := by
    intro hlow hhigh
    simp [Exchange.conclude, Response.isSuccess, hlow, hhigh]
  have hcases : (∃ status code, x.conclude r = .error (.backend status code)) ∨
      x.conclude r = x.interpret r.body := by
    by_cases h : r.status < 200 ∨ 299 < r.status
    · exact Or.inl ⟨_, _, hfailed h⟩
    · exact Or.inr (hsucceeded (by omega) (by omega))
  have hread : ∀ e, x.interpret r.body = .error e →
      (∀ reason, e ≠ .invalidArgument reason) ∧ ∀ status code, e ≠ .backend status code := by
    intro e he
    rcases hreads.fails _ _ he with (rfl | ⟨a, rfl⟩) | ⟨rfl, -⟩ <;> simp
  refine ⟨Nat.le_refl 1, ?_, ?_, ?_, ?_, ?_, ?_⟩
  · refine iff_of_false ?_ (fun h => h haccepts)
    rintro ⟨reason, h⟩
    rcases hcases with ⟨status, code, hbackend⟩ | hinterpret
    · cases hbackend.symm.trans h
    · exact (hread _ (hinterpret.symm.trans h)).1 reason rfl
  · exact fun hnot => absurd haccepts hnot
  · exact fun _ _ => ⟨x.request, r, rfl⟩
  · rintro request r' hr
    cases hr
    exact hfailed
  · rintro request r' hr hlow hhigh status code h
    cases hr
    exact (hread _ ((hsucceeded hlow hhigh).symm.trans h)).2 status code rfl
  · rintro request r' hr hlow hhigh
    cases hr
    rw [hsucceeded hlow hhigh]
    constructor
    · intro h
      rcases hreads.fails _ _ h with (hmisread | ⟨a, hmisread⟩) | ⟨-, hlookup, hnone⟩
      · cases hmisread
      · cases hmisread
      · exact ⟨hlookup, hnone⟩
    · rintro ⟨hlookup, hnone⟩
      exact hreads.notFound hlookup _ hnone

end Reports

/-- **Every operation reports what became of it**, over every transport: what is recorded while it
is carried out accounts for its answer. -/
theorem answer_reports_exchange {σ : Type} (c : Client) (op : Operation) (send : Transport σ)
    (s : σ) : ∃ s' exchanged, run (op.plan c) send.recorded (s, []) =
      ((run (op.plan c) send s).1, s', exchanged) ∧
      op.Reports (run (op.plan c) send s).1 exchanged := by
  suffices h : ∃ result s' exchanged,
      run (op.plan c) send.recorded (s, []) = (result, s', exchanged) ∧
        op.Reports result exchanged by
    obtain ⟨result, s', exchanged, hrun, hreports⟩ := h
    have hresult : (run (op.plan c) send s).1 = result := by
      rw [← fst_run_recorded _ send s [], hrun]
    rw [hresult]
    exact ⟨s', exchanged, hrun, hreports⟩
  rcases op.plan_guarded c with ⟨hnot, reason, hplan⟩ |
    ⟨haccepts, method, address, query, body, interpret, hplan, hreads⟩
  · exact ⟨_, _, _, by rw [hplan]; rfl, .of_refused hnot reason⟩
  · rcases run_recorded (op.plan c) send s with
      ⟨e, he, hrun⟩ | ⟨x, s', -, hrun⟩ | ⟨x, r, s', hx, hrun⟩
    · obtain ⟨url, rfl⟩ := of_plan_eq_error (hplan.symm.trans he)
      exact ⟨_, _, _, hrun, .of_transport haccepts url (Or.inl rfl)⟩
    · exact ⟨_, _, _, hrun, .of_transport haccepts _ (Or.inr ⟨x.request, rfl⟩)⟩
    · obtain ⟨-, rfl⟩ := of_plan_eq_ok (hplan.symm.trans hx)
      exact ⟨_, _, _, hrun, .of_response haccepts hreads r⟩

/-- A body that is not even a JSON text is the code of a failed response. -/
example : (run (User.delete ⟨"p", none, "http://h", "http://h"⟩ "u") Http.Script.transport
    ⟨[⟨404, Utf8.ofString "gone"⟩], []⟩).1 = .error (.backend 404 "gone") := by
  decide +kernel

end Operation

end AccountWire.Admin

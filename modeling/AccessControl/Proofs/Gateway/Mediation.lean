import AccessControl.Proofs.Gateway.Admission
import AccessControl.Proofs.Gateway.Guards

/-!
# Complete mediation

Nothing gets to a guarded endpoint but requests whose credentials name a user and whose user's roles
pass every guard.

* `judge_of_exempt`, `judge_of_accepted`, `judge_of_refused`, `judge_of_broken`,
  `authenticate_finishes`: the gateway's verdict, for each thing that a request may be;
* `exchange_of_forward`, `exchange_of_finish`: what becomes of the request under a verdict;
* `Passage`, `Denial`: the way to a guarded endpoint, and each way to miss it with the answer that is
  given there. A request takes one of them (`passage_or_denial`), and what it takes decides how it
  ends (`ran_of_passage`, `ended_of_denial`).
-/
namespace AccessControl

namespace ProvidedRoles

/-- What is given lists sources of roles; null lists none. -/
inductive Lists : ProvidedRoles → List RoleSource → Prop
  | list (sources : List RoleSource) : Lists (.list sources) sources
  | values (values : List Json) : Lists (.value (.arr values)) (values.map .data)
  | null : Lists (.value .null) []

theorem Lists.sources?_eq {given : ProvidedRoles} {sources : List RoleSource}
    (listed : given.Lists sources) : given.sources? = some sources := by
  cases listed with
  | list => rfl
  | values values => cases values <;> rfl
  | null => rfl

end ProvidedRoles

namespace Route

variable {route : Route} {path : String} {a : Authorization}

/-- A guarded route turns away a request without an authorization. -/
theorem run_none_of_guarded (guarded : route.guards ≠ []) :
    route.run path none = .failed path missingAuthorization := by
  change route.runOpen path = _
  unfold runOpen
  split
  · contradiction
  · rfl

theorem endpointRan_ofRun (path : String) (result : Except Raised Json) :
    (Exchange.ofRun path result).endpointRan = true := by
  rcases result with (f | ⟨name, text⟩) | value <;> rfl

/-- The endpoint runs for an authorization that passes every guard. -/
theorem run_some_of_passes (passes : ∀ guard ∈ route.guards, guard.Passes a) :
    (route.run path (some a)).endpointRan = true := by
  rw [run, runFor, Guard.runAll_eq_ok_iff.mpr passes]
  cases route.endpoint with
  | plain result => exact endpointRan_ofRun path result
  | personal result => exact endpointRan_ofRun path (result a)
  | introspection => rfl

/-- An authorization that does not pass every guard is turned away by one of them. -/
theorem run_some_of_not_passes (made : ∀ guard ∈ route.guards, guard.IsMade)
    (lacking : ¬ ∀ guard ∈ route.guards, guard.Passes a) :
    ∃ guard ∈ route.guards, route.run path (some a) =
      (Exchange.failed path guard.refusal).after [.lacking a.userId guard] := by
  obtain ⟨guard, member, -, ended⟩ := Guard.runAll_of_not_passes made lacking
  refine ⟨guard, member, ?_⟩
  rw [run, runFor, ended]

end Route

namespace Gateway

variable {g : Gateway} {clock : Clock} {r : Request} {route : Route}
  {roles : Json → List RoleSource} {userId : Json} {outcome : Outcome}

def Provides (g : Gateway) (roles : Json → List RoleSource) : Prop :=
  ∀ userId, ∃ given, g.rolesOf userId = .ok given ∧ given.Lists (roles userId)

/-- The credentials of a request name a user by the clock. -/
def Accepts (g : Gateway) (clock : Clock) (r : Request) (userId : Json) : Prop :=
  Token.validate admissionDepth g.settings clock r.credentials? = .ok userId

/-- The request goes on to the routes. -/
def Forwards (g : Gateway) (clock : Clock) (r : Request) : Prop :=
  ∃ a?, (g.judge clock r).verdict = .forward a?

/-! ## Verdicts -/

theorem judge_of_exempt (exempt : r.IsExempt g.settings) :
    (g.judge clock r).verdict = .forward none := by
  rw [judge, Request.admission_of_exempt exempt]

theorem judge_of_authentication (method : IsMethod r.method) (held : ¬ r.IsExempt g.settings)
    (authentication : r.IsAuthentication g.settings) :
    g.judge clock r = g.authenticate clock r := by
  rw [judge, Request.admission_of_authentication method held authentication]

theorem judge_of_accepted (method : IsMethod r.method) (held : ¬ r.IsExempt g.settings)
    (ordinary : ¬ r.IsAuthentication g.settings) (provides : g.Provides roles)
    (accepted : g.Accepts clock r userId) :
    (g.judge clock r).verdict = .forward (some (.build userId (roles userId))) := by
  obtain ⟨given, provided, listed⟩ := provides userId
  rw [judge, Request.admission_of_credentials method held ordinary, accepted]
  simp only [authorize, provided, listed.sources?_eq]

theorem judge_of_refused (method : IsMethod r.method) (held : ¬ r.IsExempt g.settings)
    (ordinary : ¬ r.IsAuthentication g.settings) {refusal : Refusal}
    (refused : Token.validate admissionDepth g.settings clock r.credentials? =
      .error (.refused refusal)) :
    (g.judge clock r).verdict = .finish (.ofBody 401 (refusalBody refusal)) := by
  rw [judge, Request.admission_of_credentials method held ordinary, refused]

theorem judge_of_broken (method : IsMethod r.method) (held : ¬ r.IsExempt g.settings)
    (ordinary : ¬ r.IsAuthentication g.settings) {fault : ValidationFault}
    (broken : Token.validate admissionDepth g.settings clock r.credentials? =
      .error (.broken fault)) :
    (g.judge clock r).verdict = .finish (.crashed (.notValidated fault)) := by
  rw [judge, Request.admission_of_credentials method held ordinary, broken]

/-- The authentication request never goes on to the routes. -/
theorem authenticate_finishes (g : Gateway) (clock : Clock) (r : Request) :
    ∃ outcome, (g.authenticate clock r).verdict = .finish outcome := by
  unfold authenticate
  split
  · exact ⟨_, rfl⟩
  · split <;> exact ⟨_, rfl⟩

/-- Whoever is not made out is told so as one who is not authenticated. -/
theorem status_of_identify {f : Failure} (failed : g.identify r = .error f) : f.status = 401 := by
  unfold identify at failed
  split at failed <;> cases failed <;> rfl

/-! ## What a verdict leads to -/

theorem exchange_of_finish (finished : (g.judge clock r).verdict = .finish outcome) :
    (g.exchange clock r).endpointRan = false ∧ (g.exchange clock r).outcome = outcome := by
  simp only [exchange, finished, and_self]

theorem exchange_of_forward {a? : Option Authorization}
    (found : g.allRoutes.find? (·.serves r) = some route)
    (forwarded : (g.judge clock r).verdict = .forward a?) :
    g.exchange clock r = (route.run r.addressPath a?).after (g.judge clock r).events := by
  simp only [exchange, Route.dispatch, forwarded, found]

/-! ## The way to a guarded endpoint -/

/-- The way to the endpoint behind some guards. -/
structure Passage (g : Gateway) (clock : Clock) (r : Request) (guards : List Guard)
    (roles : Json → List RoleSource) : Prop where
  held : ¬ r.IsExempt g.settings
  ordinary : ¬ r.IsAuthentication g.settings
  authorized : ∃ userId, g.Accepts clock r userId ∧
    ∀ guard ∈ guards, guard.Passes (.build userId (roles userId))

/-- The ways to miss the endpoint behind some guards, with how the exchange ends. -/
inductive Denial (g : Gateway) (clock : Clock) (r : Request) (guards : List Guard)
    (roles : Json → List RoleSource) : Outcome → Prop
  /-- Under an exempt path there is no authorization that could pass the guards. -/
  | unauthorized (exempt : r.IsExempt g.settings) :
      Denial g clock r guards roles (.answered ⟨500, missingAuthorization.body⟩)
  | unidentified (held : ¬ r.IsExempt g.settings) (authentication : r.IsAuthentication g.settings)
      {f : Failure} (failed : g.identify r = .error f) :
      Denial g clock r guards roles (.ofBody 401 f.body)
  | notIssued (held : ¬ r.IsExempt g.settings) (authentication : r.IsAuthentication g.settings)
      {userId : Json} (identified : g.identify r = .ok userId) {e : IssueError}
      (failed : Token.issue g.settings userId clock = .error e) :
      Denial g clock r guards roles (.crashed (.notIssued e))
  | issued (held : ¬ r.IsExempt g.settings) (authentication : r.IsAuthentication g.settings)
      {userId : Json} (identified : g.identify r = .ok userId) {token : IssuedToken}
      (issued : Token.issue g.settings userId clock = .ok token) :
      Denial g clock r guards roles
        (.answered ⟨200, TokenReport.toJson ⟨token.token, token.lifetime⟩⟩)
  | refused (held : ¬ r.IsExempt g.settings) (ordinary : ¬ r.IsAuthentication g.settings)
      {refusal : Refusal}
      (refused : Token.validate admissionDepth g.settings clock r.credentials? =
        .error (.refused refusal)) :
      Denial g clock r guards roles (.ofBody 401 (refusalBody refusal))
  | notValidated (held : ¬ r.IsExempt g.settings) (ordinary : ¬ r.IsAuthentication g.settings)
      {fault : ValidationFault}
      (broken : Token.validate admissionDepth g.settings clock r.credentials? =
        .error (.broken fault)) :
      Denial g clock r guards roles (.crashed (.notValidated fault))
  /-- The answer does not tell which guard it was. -/
  | lacking (held : ¬ r.IsExempt g.settings) (ordinary : ¬ r.IsAuthentication g.settings)
      {userId : Json} (accepted : g.Accepts clock r userId)
      (lacking : ¬ ∀ guard ∈ guards, guard.Passes (.build userId (roles userId))) :
      Denial g clock r guards roles (.answered ⟨403, .obj
        [("error", .str Guard.refusalMessage),
          ("code", .str FailureKind.permissionDenied.name)]⟩)

/-- A request finds its way to the endpoint or misses it in one of the ways. -/
theorem passage_or_denial (g : Gateway) (clock : Clock) (r : Request) (guards : List Guard)
    (roles : Json → List RoleSource) :
    g.Passage clock r guards roles ∨ ∃ outcome, g.Denial clock r guards roles outcome := by
  -- in the order in which the gateway looks, and the guards last
  by_cases exempt : r.IsExempt g.settings
  · exact .inr ⟨_, .unauthorized exempt⟩
  by_cases authentication : r.IsAuthentication g.settings
  · cases identified : g.identify r with
    | error f => exact .inr ⟨_, .unidentified exempt authentication identified⟩
    | ok userId =>
      cases issued : Token.issue g.settings userId clock with
      | error e => exact .inr ⟨_, .notIssued exempt authentication identified issued⟩
      | ok token => exact .inr ⟨_, .issued exempt authentication identified issued⟩
  cases validated : Token.validate admissionDepth g.settings clock r.credentials? with
  | error e =>
    cases e with
    | refused refusal => exact .inr ⟨_, .refused exempt authentication validated⟩
    | broken fault => exact .inr ⟨_, .notValidated exempt authentication validated⟩
  | ok userId =>
    by_cases passes : ∀ guard ∈ guards, guard.Passes (.build userId (roles userId))
    · exact .inl ⟨exempt, authentication, userId, validated, passes⟩
    · exact .inr ⟨_, .lacking exempt authentication validated passes⟩

theorem ran_of_passage (method : IsMethod r.method) (provides : g.Provides roles)
    (found : g.allRoutes.find? (·.serves r) = some route)
    (passage : g.Passage clock r route.guards roles) :
    (g.exchange clock r).endpointRan = true := by
  obtain ⟨held, ordinary, userId, accepted, passes⟩ := passage
  rw [exchange_of_forward found (judge_of_accepted method held ordinary provides accepted)]
  exact Route.run_some_of_passes passes

theorem ended_of_denial (method : IsMethod r.method) (provides : g.Provides roles)
    (found : g.allRoutes.find? (·.serves r) = some route) (guarded : route.guards ≠ [])
    (made : ∀ guard ∈ route.guards, guard.IsMade)
    (denial : g.Denial clock r route.guards roles outcome) :
    (g.exchange clock r).endpointRan = false ∧ (g.exchange clock r).outcome = outcome := by
  -- only the first and the last reach the route; the others end with the gateway's verdict
  cases denial with
  | unauthorized exempt =>
    rw [exchange_of_forward found (judge_of_exempt exempt), Route.run_none_of_guarded guarded]
    exact ⟨rfl, rfl⟩
  | @unidentified held authentication f failed =>
    rw [← status_of_identify failed]
    refine exchange_of_finish ?_
    rw [judge_of_authentication method held authentication, authenticate, failed]
    rfl
  | notIssued held authentication identified failed =>
    refine exchange_of_finish ?_
    rw [judge_of_authentication method held authentication, authenticate, identified]
    simp only [failed]
  | issued held authentication identified issued =>
    refine exchange_of_finish ?_
    rw [judge_of_authentication method held authentication, authenticate, identified]
    simp only [issued]
  | refused held ordinary refused =>
    exact exchange_of_finish (judge_of_refused method held ordinary refused)
  | notValidated held ordinary broken =>
    exact exchange_of_finish (judge_of_broken method held ordinary broken)
  | lacking held ordinary accepted lacking =>
    obtain ⟨guard, -, ended⟩ := Route.run_some_of_not_passes made lacking
    rw [exchange_of_forward found (judge_of_accepted method held ordinary provides accepted), ended]
    exact ⟨rfl, rfl⟩

theorem not_forwards_of_finish (finished : (g.judge clock r).verdict = .finish outcome) :
    ¬ g.Forwards clock r := by
  rintro ⟨a?, forwarded⟩
  cases forwarded.symm.trans finished

/-- A request goes on to the routes exactly when it is exempt, or is not the authentication request
and carries credentials that name a user. -/
theorem forwards_iff (method : IsMethod r.method) (provides : g.Provides roles) :
    g.Forwards clock r ↔ r.IsExempt g.settings ∨
      ¬ r.IsAuthentication g.settings ∧ ∃ userId, g.Accepts clock r userId := by
  by_cases exempt : r.IsExempt g.settings
  · exact iff_of_true ⟨none, judge_of_exempt exempt⟩ (.inl exempt)
  by_cases authentication : r.IsAuthentication g.settings
  · obtain ⟨outcome, finished⟩ := authenticate_finishes g clock r
    rw [← judge_of_authentication method exempt authentication] at finished
    refine iff_of_false (not_forwards_of_finish finished) ?_
    rintro (under | ⟨ordinary, -⟩)
    · exact exempt under
    · exact ordinary authentication
  cases validated : Token.validate admissionDepth g.settings clock r.credentials? with
  | ok userId =>
    exact iff_of_true ⟨_, judge_of_accepted method exempt authentication provides validated⟩
      (.inr ⟨authentication, userId, validated⟩)
  | error e =>
    have unnamed : ¬ (r.IsExempt g.settings ∨
        ¬ r.IsAuthentication g.settings ∧ ∃ userId, g.Accepts clock r userId) := by
      rintro (under | ⟨-, userId, accepted⟩)
      · exact exempt under
      · cases accepted.symm.trans validated
    cases e with
    | refused refusal =>
      exact iff_of_false
        (not_forwards_of_finish (judge_of_refused method exempt authentication validated)) unnamed
    | broken fault =>
      exact iff_of_false
        (not_forwards_of_finish (judge_of_broken method exempt authentication validated)) unnamed

/-- A request gets to a guarded endpoint exactly by the way there. -/
theorem ran_iff_passage (method : IsMethod r.method) (provides : g.Provides roles)
    (found : g.allRoutes.find? (·.serves r) = some route) (guarded : route.guards ≠ [])
    (made : ∀ guard ∈ route.guards, guard.IsMade) :
    (g.exchange clock r).endpointRan = true ↔ g.Passage clock r route.guards roles := by
  constructor
  · intro ran
    obtain passage | ⟨outcome, denial⟩ := g.passage_or_denial clock r route.guards roles
    · exact passage
    · have missed := (ended_of_denial method provides found guarded made denial).1
      exact absurd ran (missed ▸ Bool.false_ne_true)
  · exact ran_of_passage method provides found

/-- An exchange that does not get to a guarded endpoint ends as one of the ways to miss it says. -/
theorem denial_iff (method : IsMethod r.method) (provides : g.Provides roles)
    (found : g.allRoutes.find? (·.serves r) = some route) (guarded : route.guards ≠ [])
    (made : ∀ guard ∈ route.guards, guard.IsMade) :
    g.Denial clock r route.guards roles outcome ↔
      (g.exchange clock r).endpointRan = false ∧ (g.exchange clock r).outcome = outcome := by
  constructor
  · exact ended_of_denial method provides found guarded made
  · rintro ⟨missed, rfl⟩
    obtain passage | ⟨outcome, denial⟩ := g.passage_or_denial clock r route.guards roles
    · have ran := ran_of_passage method provides found passage
      exact absurd missed (ran ▸ Bool.false_ne_true.symm)
    · rwa [(ended_of_denial method provides found guarded made denial).2]

/-- A gateway mediates every request. It goes on to the routes exactly when it is exempt, or is not
the authentication request and carries credentials that name a user; only a request that is not
exempt is recognised as the authentication request. The endpoint of a guarded route runs exactly for
requests that are neither and whose user holds, by the roles that are provided, what every guard
demands. For all others it does not run, and how the exchange ends is told by what is in the way. -/
theorem mediates_requests (g : Gateway) (clock : Clock) (r : Request) (route : Route)
    (roles : Json → List RoleSource) (method : IsMethod r.method) (provides : g.Provides roles)
    (found : g.allRoutes.find? (·.serves r) = some route)
    (made : ∀ guard ∈ route.guards, guard.IsMade) :
    (g.Forwards clock r ↔ r.IsExempt g.settings ∨
      ¬ r.IsAuthentication g.settings ∧ ∃ userId, g.Accepts clock r userId) ∧
    (r.admission g.settings clock = .authentication ↔
      ¬ r.IsExempt g.settings ∧ r.IsAuthentication g.settings) ∧
    (route.guards ≠ [] →
      ((g.exchange clock r).endpointRan = true ↔ g.Passage clock r route.guards roles) ∧
      ∀ outcome, g.Denial clock r route.guards roles outcome ↔
        (g.exchange clock r).endpointRan = false ∧ (g.exchange clock r).outcome = outcome) :=
  ⟨forwards_iff method provides, Request.admission_eq_authentication_iff method, fun guarded =>
    ⟨ran_iff_passage method provides found guarded made,
      fun _ => denial_iff method provides found guarded made⟩⟩

end Gateway

def reportsRoute : Route where
  method := "GET"
  path := "/reports/\x7bmonth\x7d"
  guards := [⟨⟨.resource, .anywhere⟩, [.str "Report.Read"]⟩]
  endpoint := .plain (.ok (.str "a report"))

def reportsGateway : Gateway where
  settings :=
    { secret := "a secret", algorithm := "HS256", lifetime := 900,
      authenticationPath := "/login", authenticationMethod := .post,
      iamEnabled := true, iamPath := "/rights", iamMethod := .get, exemptPaths := ["/docs"],
      secret_ne := by decide, lifetime_pos := by decide,
      authenticationPath_absolute := by decide, iamPath_absolute := by decide }
  identification _ := .ok .null
  rolesOf _ := .ok (.value .null)
  routes := [reportsRoute]

/-- Without credentials a request is told so and gets to no report. -/
theorem exchange_reports_mediated :
    (IsMethod "GET" ∧ reportsGateway.Provides (fun _ => []) ∧
      reportsGateway.allRoutes.find? (·.serves ⟨"GET", "/reports/may", []⟩) = some reportsRoute ∧
      ∀ guard ∈ reportsRoute.guards, guard.IsMade) ∧
    (reportsGateway.exchange (.ok ⟨0⟩) ⟨"GET", "/reports/may", []⟩).endpointRan = false ∧
    (reportsGateway.exchange (.ok ⟨0⟩) ⟨"GET", "/reports/may", []⟩).outcome =
      .answered ⟨401, .obj [("error", .str "Authentication error: Missing authorization header")]⟩ := by
  have method : IsMethod "GET" := by decide
  have provides : reportsGateway.Provides fun _ => [] := fun _ => ⟨.value .null, rfl, .null⟩
  have found : reportsGateway.allRoutes.find? (·.serves ⟨"GET", "/reports/may", []⟩) =
      some reportsRoute := rfl
  have made : ∀ guard ∈ reportsRoute.guards, guard.IsMade :=
    List.forall_mem_singleton.mpr ⟨⟨.resource, .anywhere⟩, [.str "Report.Read"], rfl⟩
  have mediated := Gateway.mediates_requests reportsGateway (.ok ⟨0⟩)
    ⟨"GET", "/reports/may", []⟩ reportsRoute _ method provides found made
  have denial : reportsGateway.Denial (.ok ⟨0⟩) ⟨"GET", "/reports/may", []⟩ reportsRoute.guards
      (fun _ => []) (.ofBody 401 (refusalBody .noHeader)) :=
    .refused (by decide) (by decide) rfl
  exact ⟨⟨method, provides, found, made⟩, ((mediated.2.2 (by simp [reportsRoute])).2 _).mp denial⟩

end AccessControl

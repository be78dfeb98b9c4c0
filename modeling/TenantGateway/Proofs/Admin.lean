import TenantGateway.Admin
import TenantGateway.Proofs.Http.Form

/-!
# Asking for a route

The endpoint answers for the first host that a query names (`host?_eq_some_iff`), as the router routes it (`answer_of_host`), and
refuses a query that names none (`answer_of_none`). Main statement: so it is for every query, in whichever way it is written
(`RoutingState.answer_route_by_first_host`).
-/

namespace TenantGateway

namespace Admin

/-- The host asked for is the value of the first pair named `host`. -/
theorem host?_eq_some_iff {query host : String} :
    host? (some query) = some host ↔ ∃ before later, Http.Form.decode query = before ++ ("host", host) :: later ∧
      ∀ pair ∈ before, pair.1 ≠ "host" := by
  unfold host?
  simp only [Option.map_eq_some_iff, List.find?_eq_some_iff_append, beq_iff_eq, Bool.not_eq_true', beq_eq_false_iff_ne]
  constructor
  · rintro ⟨⟨name, value⟩, ⟨rfl, before, later, hdecode, hbefore⟩, rfl⟩
    exact ⟨before, later, hdecode, hbefore⟩
  · rintro ⟨before, later, hdecode, hbefore⟩
    exact ⟨("host", host), ⟨rfl, before, later, hdecode, hbefore⟩, rfl⟩

/-- No host is asked for when no pair is named `host`. -/
theorem host?_eq_none_iff {query : Option String} :
    host? query = none ↔ ∀ text ∈ query, ∀ pair ∈ Http.Form.decode text, pair.1 ≠ "host" := by
  cases query with
  | none => simp [host?]
  | some text => simp [host?]

/-- The answer to a request for a route does not tell that the request is bad. -/
theorem status_decision_ne (answer : Except RouteError ServiceInstance) : (decision answer).status ≠ .badRequest := by
  have hok : Http.Status.ok ≠ .badRequest := by decide
  have hnotFound : Http.Status.notFound ≠ .badRequest := by decide
  cases answer with
  | ok i => exact hok
  | error e => exact hnotFound

end Admin

namespace RoutingState

/-- A request with a host is answered by the decision of the router about it. -/
theorem answer_of_host (s : RoutingState) {query : Option String} {host : String} (h : Admin.host? query = some host) :
    s.answer ⟨"/route", query⟩ = (Admin.decision (s.router.route host).1, { s with router := (s.router.route host).2 }) := by
  simp only [answer, h, answerRoute]

/-- A request without a host is a bad one, and nothing is routed. -/
theorem answer_of_none (s : RoutingState) {query : Option String} (h : Admin.host? query = none) :
    s.answer ⟨"/route", query⟩ = (.ofStatus .badRequest, s) := by
  simp only [answer, h]

/-- Only a query that names no host is refused. -/
theorem status_eq_badRequest_iff (s : RoutingState) {query : Option String} :
    (s.answer ⟨"/route", query⟩).1.status = .badRequest ↔ Admin.host? query = none := by
  cases hhost : Admin.host? query with
  | none =>
    rw [answer_of_none s hhost]
    exact iff_of_true rfl rfl
  | some host =>
    rw [answer_of_host s hhost]
    exact iff_of_false (Admin.status_decision_ne _) nofun

/-- A request for a route is answered for the host that was asked for. Reading a query gives the pairs that it lists, whatever texts
they are and in whichever way they are written, and every list of pairs has a query that a target can carry. The host asked for
is the value of the first pair named `host`: the request is answered by the fields and the address of the instance that the router
chooses for exactly this host, or by the reason why there is none. A request is refused as bad just when no pair has this name, and
then it leaves the state as it was. -/
theorem answer_route_by_first_host (s : RoutingState) :
    (∀ query pairs, Http.Form.Encodes query pairs → Http.Form.decode query = pairs) ∧
    (∀ pairs, Http.Form.Encodes (Http.Form.encodeText pairs) pairs ∧
      let target := "/route" ++ "?" ++ Http.Form.encodeText pairs
      (target.utf8ByteSize ≤ Http.Target.maxLength →
        Http.Target.parse? target = some ⟨"/route", some (Http.Form.encodeText pairs)⟩)) ∧
    (∀ query before host later, Http.Form.decode query = before ++ ("host", host) :: later → (∀ pair ∈ before, pair.1 ≠ "host") →
      (∀ i router, s.router.route host = (.ok i, router) →
        s.answer ⟨"/route", some query⟩ =
          (⟨.ok, some "application/json", (Json.object [
            ("deployment_id", .text i.deployment.text),
            ("host", .text i.host),
            ("instance_id", .text i.id),
            ("labels", .object (i.labels.entries.map fun e => (e.1, .text e.2))),
            ("port", .number i.port.toNat),
            ("secure", .bool i.secure),
            ("tenant_id", .text i.tenant.text),
            ("url", .text i.url)]).print⟩, { s with router })) ∧
      ∀ e router, s.router.route host = (.error e, router) →
        s.answer ⟨"/route", some query⟩ =
          (⟨.notFound, some "application/json", (Json.object [("error_message", .text e.message)]).print⟩, { s with router })) ∧
    ∀ query : Option String,
      ((s.answer ⟨"/route", query⟩).1.status = .badRequest ↔ ∀ text ∈ query, ∀ pair ∈ Http.Form.decode text, pair.1 ≠ "host") ∧
      ((∀ text ∈ query, ∀ pair ∈ Http.Form.decode text, pair.1 ≠ "host") →
        s.answer ⟨"/route", query⟩ = (.ofStatus .badRequest, s)) := by
  refine ⟨fun _ _ => Http.Form.decode_of_encodes, ?_, ?_, fun query => ⟨?_, ?_⟩⟩
  · intro pairs
    refine ⟨Http.Form.encodes_encodeText pairs, fun hlength => ?_⟩
    have hpath : "/route".toList.all Http.Target.isPathChar = true := by decide
    exact Http.Target.parse?_append rfl (List.all_eq_true.1 hpath) (fun c hc => Http.Form.isQueryChar_of_mem_encodeText hc) hlength
  · intro query before host later hdecode hbefore
    have hanswer := answer_of_host s (Admin.host?_eq_some_iff.2 ⟨before, later, hdecode, hbefore⟩)
    refine ⟨fun i router hroute => ?_, fun e router hroute => ?_⟩
    · rw [hanswer, hroute]
      rfl
    · rw [hanswer, hroute]
      rfl
  · rw [status_eq_badRequest_iff, Admin.host?_eq_none_iff]
  · exact fun h => answer_of_none s (Admin.host?_eq_none_iff.2 h)

/-- The name `host` is escaped where it need not be and comes twice, a pair has no value and another is left out, and the host
itself holds letters and marks that have to be escaped, and a `%` that escapes nothing. -/
theorem answer_route_by_first_host_escaped :
    let a : TenantId := ⟨"a", by decide⟩
    let i : ServiceInstance := ⟨"i", a, ⟨"d", by decide⟩, "10.0.0.1", 80, false, .empty⟩
    let resolver := Resolver.new.apply .feed (.put (.ofHosts a ["höst & co=1+1%"]))
    let s : RoutingState := ⟨⟨resolver, Catalog.new.applyAll [.add i], .empty⟩, true⟩
    let query := "a=1&&hosts&%68ost=h%C3%B6st+%26+co=1%2b1%&host=other"
    let plain := Http.Form.encodeText [("host", "other"), ("host", "höst & co=1+1%")]
    let missing := RouteError.unresolved .noMatch
    Http.Form.decode query = [("a", "1"), ("hosts", ""), ("host", "höst & co=1+1%"), ("host", "other")] ∧
      s.answer ⟨"/route", some query⟩ = (.ofJson .ok i.toJson, { s with router := (s.router.route "höst & co=1+1%").2 }) ∧
      Http.Target.parse? ("/route" ++ "?" ++ plain) = some ⟨"/route", some plain⟩ ∧
      s.answer ⟨"/route", some plain⟩ = (.ofJson .notFound (.object [("error_message", .text missing.message)]),
        { s with router := (s.router.route "other").2 }) ∧
      s.answer ⟨"/route", some "hosts=höst"⟩ = (.ofStatus .badRequest, s) := by
  intro a i resolver s query plain missing
  obtain ⟨hreads, hwrites, hanswers, hrefuses⟩ := answer_route_by_first_host s
  have hquery : Http.Form.Encodes query [("a", "1"), ("hosts", ""), ("host", "höst & co=1+1%"), ("host", "other")] := by
    refine ⟨[Text.utf8 "a" ++ 61 :: Text.utf8 "1", [], Text.utf8 "hosts",
      Text.utf8 "%68ost" ++ 61 :: Text.utf8 "h%C3%B6st+%26+co=1%2b1%", Text.utf8 "host" ++ 61 :: Text.utf8 "other"], ?_, by decide⟩
    refine .pair (Http.Form.writes_iff.2 (by decide)) (by decide) (Http.Form.writes_iff.2 (by decide)) (.empty ?_)
    refine .valueless (Http.Form.writes_iff.2 (by decide)) (by decide) (by decide) ?_
    refine .pair (Http.Form.writes_iff.2 (by decide)) (by decide) (Http.Form.writes_iff.2 (by decide)) ?_
    exact .pair (Http.Form.writes_iff.2 (by decide)) (by decide) (Http.Form.writes_iff.2 (by decide)) .nil
  obtain ⟨hplain, htarget⟩ := hwrites [("host", "other"), ("host", "höst & co=1+1%")]
  have hfound : s.router.route "höst & co=1+1%" = (.ok i, (s.router.route "höst & co=1+1%").2) :=
    Prod.ext (by decide) rfl
  have hmissing : s.router.route "other" = (.error missing, (s.router.route "other").2) :=
    Prod.ext (by decide) rfl
  refine ⟨hreads _ _ hquery, ?_, htarget (by decide), ?_, (hrefuses _).2 (by decide)⟩
  · exact (hanswers query [("a", "1"), ("hosts", "")] _ [("host", "other")] (hreads _ _ hquery) (by decide)).1 i _ hfound
  · exact (hanswers plain [] "other" [("host", "höst & co=1+1%")] (hreads _ _ hplain) (by decide)).2 missing _ hmissing

end RoutingState

end TenantGateway

import FacetSearch.Http.Service
import FacetSearch.Proofs.AllowList.Mentions
import FacetSearch.Proofs.Json.Compact
import FacetSearch.Proofs.Json.Lossless

/-! The answers about one context: which requests fail and how, and that the two endpoints speak of
the same query. -/
namespace FacetSearch

/-- The attributes that parameters mention, which are known by the names that are configured. -/
def Config.mentions (c : Config) (pairs : List (String × String)) : List String :=
  (Request.ofPairs c.parameters pairs).mentions

namespace Http
open Text

/-- Whether a target leads to an endpoint, with the name of a context and parameters. -/
def Target.Asks (t : Target) (endpoint : Endpoint) (context : String)
    (pairs : List (String × String)) : Prop :=
  ∃ name, Route.ofPath? t.path = some (.context name endpoint) ∧
    Utf8.strict? (percentDecode (utf8Bytes name)) = some context ∧ formPairs t.query = pairs

/-- An answer that tells what went wrong. -/
def Response.failure (status : Nat) (message : String) : Response :=
  .json status (.object [("error", .string message)])

namespace Response

@[simp] lemma status_json (status : Nat) (v : Json) : (json status v).status = status := rfl

@[simp] lemma status_text (status : Nat) (body : String) : (text status body).status = status := rfl

@[simp] lemma status_failure (status : Nat) (message : String) :
    (failure status message).status = status := rfl

/-- The message can be told from the answer. -/
lemma failure_inj {status : Nat} {m n : String} (h : failure status m = failure status n) :
    m = n := by
  have hbody : Json.object [("error", .string m)] = .object [("error", .string n)] :=
    Json.compact_injective (congrArg body h)
  simpa using hbody

end Response

lemma respond_get {c : Config} {t : Target} {endpoint : Endpoint} {context : String}
    {pairs : List (String × String)} (h : t.Asks endpoint context pairs) :
    respond c "GET" t = answer c endpoint context pairs := by
  obtain ⟨name, hroute, hcontext, hpairs⟩ := h
  simp [respond, hroute, get, hcontext, hpairs]

section Cases

variable {c : Config} {context : String} {pairs : List (String × String)} {s : Schema}

lemma answer_unknown (h : c.schema? context = none) (endpoint : Endpoint) :
    answer c endpoint context pairs = .failure 404 ("unknown context \"" ++ context ++ "\"") := by
  have hquote : "unknown context \"" = "unknown context " ++ "\"" := by decide
  have hmessage : "unknown context \"" ++ context ++ "\"" =
      "unknown context " ++ ("\"" ++ context ++ "\"") := by
    rw [hquote, String.append_assoc, String.append_assoc, String.append_assoc]
  rw [answer, Config.compile, Config.compileIn, h, hmessage]
  rfl

lemma compile_eq_grant (h : c.schema? context = some s) :
    c.compile context pairs = (Guard.grant ⟨s.policy, c.mode⟩ (c.mentions pairs)
      (Query.admitted s.policy (.ofPairs c.parameters pairs))).mapError .compile := by
  rw [Config.compile, Config.compileIn, h]
  simp only [Query.compile_eq_grant]
  rfl

lemma answer_refused (h : c.schema? context = some s) {a : String}
    (ha : Guard.refused? ⟨s.policy, c.mode⟩ (c.mentions pairs) = some a) (endpoint : Endpoint) :
    answer c endpoint context pairs =
      .failure 422 ("\"" ++ a ++ "\" attribute is not filterable") := by
  have hcompile : c.compile context pairs = .error (.compile (.unfilterable a)) := by
    rw [compile_eq_grant h, Guard.grant, ha]
    rfl
  rw [answer, hcompile]
  rfl

/-- Without a refusal the two endpoints show one query, in its JSON form and as SQL. -/
lemma answer_found (h : c.schema? context = some s)
    (ha : Guard.refused? ⟨s.policy, c.mode⟩ (c.mentions pairs) = none) :
    ∃ q, c.compile context pairs = .ok q ∧
      answer c .compile context pairs = .json 200 q.toJson ∧
      answer c .sql context pairs = .text 200 (Sql.render (s.table.getD context) q) := by
  have hcompile : c.compile context pairs =
      .ok (Query.admitted s.policy (.ofPairs c.parameters pairs)) := by
    rw [compile_eq_grant h, Guard.grant, ha]
    rfl
  have htable : c.tableFor context = s.table.getD context := by
    rw [Config.tableFor, h]
    rfl
  refine ⟨_, hcompile, ?_, ?_⟩
  · rw [answer, hcompile]
  · rw [answer, hcompile, htable]

lemma refused?_eq_some_iff {a : String} :
    Guard.refused? ⟨s.policy, c.mode⟩ (c.mentions pairs) = some a ↔
      c.mode = .strict ∧ (c.mentions pairs).find? (fun b => !s.policy.isFilterable b) = some a := by
  cases hm : c.mode <;> simp [Guard.refused?]

lemma isSome_refused?_iff :
    (Guard.refused? ⟨s.policy, c.mode⟩ (c.mentions pairs)).isSome ↔
      c.mode = .strict ∧ ∃ a ∈ c.mentions pairs, ¬s.policy.isFilterable a := by
  cases hm : c.mode <;> simp [Guard.refused?]

end Cases

/-- How the answers of the two endpoints to a request about a context go together. -/
structure Consistent (c : Config) (context : String) (pairs : List (String × String))
    (compiled rendered : Response) : Prop where
  status_mem : compiled.status ∈ [200, 404, 422]
  status_eq : compiled.status = rendered.status
  eq_of_failed : compiled.status ≠ 200 → compiled = rendered
  unknown_iff : compiled.status = 404 ↔ c.schema? context = none
  /-- The message names the context that is unknown. -/
  unknown : compiled.status = 404 →
    compiled = .failure 404 ("unknown context \"" ++ context ++ "\"")
  refused_iff : ∀ s, c.schema? context = some s →
    (compiled.status = 422 ↔
      c.mode = .strict ∧ ∃ a ∈ c.mentions pairs, ¬s.policy.isFilterable a)
  /-- The message names the first attribute that is not allowed. -/
  refused : ∀ s, c.schema? context = some s → ∀ a,
    (compiled = .failure 422 ("\"" ++ a ++ "\" attribute is not filterable") ↔
      c.mode = .strict ∧ (c.mentions pairs).find? (fun b => !s.policy.isFilterable b) = some a)
  /-- The JSON text can only be read as the query that the other endpoint renders. -/
  found : compiled.status = 200 → ∃ s q, c.schema? context = some s ∧
    c.compile context pairs = .ok q ∧ compiled = .json 200 q.toJson ∧
    (∀ v : Json, v.compact = compiled.body → Query.ofJson? v = some q) ∧
    rendered = .text 200 (Sql.render (s.table.getD context) q)

section Cases

variable {c : Config} {context : String} {pairs : List (String × String)} {s : Schema}

lemma consistent_of_unknown (h : c.schema? context = none) :
    Consistent c context pairs (answer c .compile context pairs) (answer c .sql context pairs) := by
  rw [answer_unknown h, answer_unknown h]
  exact {
    status_mem := by simp
    status_eq := rfl
    eq_of_failed := fun _ => rfl
    unknown_iff := by simp [h]
    unknown := fun _ => rfl
    refused_iff := by simp [h]
    refused := by simp [h]
    found := by simp }

lemma consistent_of_refused (h : c.schema? context = some s) {a : String}
    (ha : Guard.refused? ⟨s.policy, c.mode⟩ (c.mentions pairs) = some a) :
    Consistent c context pairs (answer c .compile context pairs) (answer c .sql context pairs) := by
  rw [answer_refused h ha, answer_refused h ha]
  exact {
    status_mem := by simp
    status_eq := rfl
    eq_of_failed := fun _ => rfl
    unknown_iff := by simp [h]
    unknown := by simp
    refused_iff := by
      intro s' hs'
      obtain rfl := Option.some.inj (h.symm.trans hs')
      rw [← isSome_refused?_iff, ha]
      simp
    refused := by
      intro s' hs' b
      obtain rfl := Option.some.inj (h.symm.trans hs')
      rw [← refused?_eq_some_iff, ha, Option.some_inj]
      constructor
      · exact fun hab => by simpa using Response.failure_inj hab
      · exact fun hab => by rw [hab]
    found := by simp }

lemma consistent_of_found (h : c.schema? context = some s)
    (ha : Guard.refused? ⟨s.policy, c.mode⟩ (c.mentions pairs) = none) :
    Consistent c context pairs (answer c .compile context pairs) (answer c .sql context pairs) := by
  obtain ⟨q, hq, hcompiled, hrendered⟩ := answer_found h ha
  rw [hcompiled, hrendered]
  exact {
    status_mem := by simp
    status_eq := rfl
    eq_of_failed := by simp
    unknown_iff := by simp [h]
    unknown := by simp
    refused_iff := by
      intro s' hs'
      obtain rfl := Option.some.inj (h.symm.trans hs')
      rw [← isSome_refused?_iff, ha]
      simp
    refused := by
      intro s' hs' b
      obtain rfl := Option.some.inj (h.symm.trans hs')
      rw [← refused?_eq_some_iff, ha]
      constructor
      · exact fun hab => absurd (congrArg Response.status hab) (by simp)
      · exact fun hab => nomatch hab
    found := by
      intro _
      refine ⟨s, q, h, hq, rfl, fun v hv => ?_, rfl⟩
      rw [Json.compact_injective hv]
      exact Query.ofJson?_toJson q }

end Cases

/-- The two endpoints answer every request about a context consistently, and these are the answers
that requests get whose targets lead there. -/
theorem answers_consistent (c : Config) (context : String) (pairs : List (String × String)) :
    Consistent c context pairs (answer c .compile context pairs) (answer c .sql context pairs) ∧
    ∀ (endpoint : Endpoint) (t : Target), t.Asks endpoint context pairs →
      respond c "GET" t = answer c endpoint context pairs := by
  refine ⟨?_, fun endpoint t ht => respond_get ht⟩
  cases hs : c.schema? context with
  | none => exact consistent_of_unknown hs
  | some s =>
    cases ha : Guard.refused? ⟨s.policy, c.mode⟩ (c.mentions pairs) with
    | none => exact consistent_of_found hs ha
    | some a => exact consistent_of_refused hs ha

/-- The name of the context is encoded here, and strict mode meets a mention inside a group. -/
theorem answers_consistent_encoded :
    let s : Schema := { table := some "inventory", filterable := .ofList ["make"] }
    let c : Config := { mode := .strict, contexts := .ofList [("my cars", s)] }
    let query := "filters=make:1+or+(make:2+and+vin:3)".toList
    let pairs := [("filters", "make:1 or (make:2 and vin:3)")]
    let compiled := respond c "GET" ⟨"/api/my%20cars/compile".toList, query⟩
    Target.Asks ⟨"/api/my%20cars/compile".toList, query⟩ .compile "my cars" pairs ∧
      Target.Asks ⟨"/api/my%20cars/sql".toList, query⟩ .sql "my cars" pairs ∧
      compiled = .failure 422 "\"vin\" attribute is not filterable" ∧
      respond c "GET" ⟨"/api/my%20cars/sql".toList, query⟩ = compiled := by
  intro s c query pairs compiled
  have hcompile : Target.Asks ⟨"/api/my%20cars/compile".toList, query⟩ .compile "my cars" pairs :=
    ⟨"my%20cars".toList, by decide +kernel, by decide +kernel, by decide +kernel⟩
  have hsql : Target.Asks ⟨"/api/my%20cars/sql".toList, query⟩ .sql "my cars" pairs :=
    ⟨"my%20cars".toList, by decide +kernel, by decide +kernel, by decide +kernel⟩
  obtain ⟨hconsistent, hrespond⟩ := answers_consistent c "my cars" pairs
  have hrefused := (hconsistent.refused s (by decide +kernel) "vin").2
    ⟨rfl, by decide +kernel⟩
  have hanswer : compiled = _ := (hrespond _ _ hcompile).trans hrefused
  refine ⟨hcompile, hsql, hanswer, ?_⟩
  rw [hrespond _ _ hsql, hanswer, ← hrefused]
  exact (hconsistent.eq_of_failed (by rw [hrefused]; decide)).symm

end Http
end FacetSearch

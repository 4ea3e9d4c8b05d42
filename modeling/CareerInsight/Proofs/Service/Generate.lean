import Mathlib
import CareerInsight.Proofs.Insight.Check
import CareerInsight.Service.Router

/-!
# The answers to a request for an insight

`handleGenerate` refuses a request in two ways only: an unknown domain is
not found, and a context with no text is invalid.  Every other request is
answered with an insight, from the model's payload when the gateway gave
one in time and from the domain's fallback record otherwise.  The last
check of the invariants before the insight leaves the service never fails,
because every builtin policy is well formed (`Domain.policy_wellFormed`)
and both records pass the check under a well-formed policy
(`Policy.scorePayload_check`, `Policy.fallback_check`).

* `Domain.ofName?_eq_some_iff`: a segment names a domain exactly when it is
  that domain's name, letter for letter.
* `Policy.recordOf_check`: whatever the gateway did, the pipeline's record
  passes the check.
* `handleGenerate_eq`: the answer, with the invariant branch gone.
* `route_status_ne_500`: so no request is answered with status 500.
* `handleGenerate_answers`: which answer each request gets.
-/

namespace CareerInsight

namespace Domain

theorem ofName?_name (d : Domain) : ofName? d.name = some d := by
  cases d <;> decide

/-- Domain names are read exactly: a text names a domain only when it is
that domain's name. -/
theorem ofName?_eq_some_iff (s : String) (d : Domain) : ofName? s = some d ↔ d.name = s := by
  constructor
  · intro h
    unfold ofName? at h
    have hname := List.find?_some h
    exact beq_iff_eq.1 hname
  · rintro rfl
    exact ofName?_name d

theorem ofName?_eq_none_iff (s : String) : ofName? s = none ↔ ∀ d : Domain, d.name ≠ s := by
  constructor
  · rintro h d rfl
    rw [ofName?_name] at h
    cases h
  · intro h
    cases hs : ofName? s with
    | none => rfl
    | some d => exact absurd ((ofName?_eq_some_iff s d).1 hs) (h d)

end Domain

namespace Policy

variable {p : Policy}

/-- Whatever the gateway did, the record the pipeline makes passes the
check of a well-formed policy. -/
theorem recordOf_check (hwf : p.WellFormed) (result : Except GatewayError Json.Fields) :
    (p.recordOf result).check p = .ok () := by
  cases result with
  | ok raw => exact scorePayload_check hwf raw
  | error e => exact fallback_check hwf

/-- The record is generated exactly when the gateway gave a payload. -/
theorem source_recordOf (result : Except GatewayError Json.Fields) :
    (p.recordOf result).source = .generated ↔ ∃ raw, result = .ok raw := by
  cases result with
  | ok raw => simp [recordOf, scorePayload]
  | error e => simp [recordOf, fallback]

/-- The record is the fallback exactly when the gateway gave no payload. -/
theorem source_recordOf_eq_fallback (result : Except GatewayError Json.Fields) :
    (p.recordOf result).source = .fallback ↔ ¬ ∃ raw, result = .ok raw := by
  cases result with
  | ok raw => simp [recordOf, scorePayload]
  | error e => simp [recordOf, fallback]

end Policy

theorem ofScored_of_check {s : ScoredRecord} {p : Policy} (h : s.check p = .ok ()) (id : Uuid) :
    PersistableInsight.ofScored id s p = .ok ⟨id, p.domain, s.source, s.flatFields⟩ := by
  simp [PersistableInsight.ofScored, h]

theorem contextIsEmpty_iff (context : List (String × String)) :
    contextIsEmpty context = true ↔ ∀ kv ∈ context, kv.2.isBlank = true := by
  simp [contextIsEmpty]

/-- The answer to a request for an insight: not found for an unknown
domain, invalid for a context with no text, and otherwise the insight of
the pipeline's record, which always passes its check. -/
theorem handleGenerate_eq (segment : String) (req : InsightRequest) (settings : PipelineSettings)
    (gateway : CompletionRequest → GatewayOutcome) :
    handleGenerate segment req settings gateway =
      match Domain.ofName? segment with
      | none => .error (.notFound (UnknownDomain.message ⟨segment⟩))
      | some d =>
        if contextIsEmpty req.context then .error (.validation "context cannot be empty")
        else
          let scored := d.policy.runInsight req.context settings gateway
          .ok ⟨req.profileId, d.policy.domain, scored.source, scored.flatFields⟩ := by
  unfold handleGenerate admitRequest requestedPolicy Domain.parse
  cases Domain.ofName? segment with
  | none => rfl
  | some d =>
    by_cases hempty : contextIsEmpty req.context = true
    · simp [hempty]
      rfl
    · have hcheck := Policy.recordOf_check (Domain.policy_wellFormed d)
        ((gateway (d.policy.completionRequest req.context settings)).result settings)
      simp only [hempty, Bool.false_eq_true, ↓reduceIte]
      rw [← Policy.runInsight] at hcheck
      change (PersistableInsight.ofScored req.profileId
        (d.policy.runInsight req.context settings gateway) d.policy).mapError AppError.invariant = _
      rw [ofScored_of_check hcheck]
      rfl

theorem handleGenerate_ne_invariant (segment : String) (req : InsightRequest)
    (settings : PipelineSettings) (gateway : CompletionRequest → GatewayOutcome) (v : Violation) :
    handleGenerate segment req settings gateway ≠ .error (.invariant v) := by
  rw [handleGenerate_eq]
  cases Domain.ofName? segment with
  | none => exact fun h => nomatch h
  | some d =>
    dsimp only
    split <;> exact fun h => nomatch h

section Cases

variable {segment : String} {req : InsightRequest} {settings : PipelineSettings}
  {gateway : CompletionRequest → GatewayOutcome}

theorem handleGenerate_of_unknown (h : ∀ d : Domain, d.name ≠ segment) :
    handleGenerate segment req settings gateway =
      .error (.notFound (UnknownDomain.message ⟨segment⟩)) := by
  rw [handleGenerate_eq, (Domain.ofName?_eq_none_iff segment).2 h]

theorem handleGenerate_of_blank {d : Domain} (hd : d.name = segment)
    (hblank : ∀ kv ∈ req.context, kv.2.isBlank = true) :
    handleGenerate segment req settings gateway = .error (.validation "context cannot be empty") := by
  rw [handleGenerate_eq, (Domain.ofName?_eq_some_iff segment d).2 hd]
  simp only [(contextIsEmpty_iff _).2 hblank, ↓reduceIte]

theorem handleGenerate_of_admitted {d : Domain} (hd : d.name = segment)
    (htext : ¬ ∀ kv ∈ req.context, kv.2.isBlank = true) :
    handleGenerate segment req settings gateway =
      .ok ⟨req.profileId, d.policy.domain, (d.policy.runInsight req.context settings gateway).source,
        (d.policy.runInsight req.context settings gateway).flatFields⟩ := by
  have hempty : contextIsEmpty req.context = false :=
    Bool.eq_false_iff.2 fun h => htext ((contextIsEmpty_iff _).1 h)
  rw [handleGenerate_eq, (Domain.ofName?_eq_some_iff segment d).2 hd]
  simp only [hempty, Bool.false_eq_true, ↓reduceIte]

end Cases

/-! ## No answer with status 500 -/

namespace HttpResponse

@[simp] theorem status_ofJson (status : Nat) (value : Json) : (ofJson status value).status = status :=
  rfl

@[simp] theorem status_plain (status : Nat) (s : String) : (plain status s).status = status := rfl

@[simp] theorem status_bare (status : Nat) : (bare status).status = status := rfl

@[simp] theorem status_headOnly (r : HttpResponse) : r.headOnly.status = r.status := rfl

theorem status_ofError_ne_500 {e : AppError} (h : ∀ v, e ≠ .invariant v) :
    (ofError e).status ≠ 500 := by
  cases e with
  | notFound m => simp [ofError, AppError.status]
  | validation m => simp [ofError, AppError.status]
  | invariant v => exact absurd rfl (h v)

end HttpResponse

/-- The insight route answers every request with a status other than 500.  The
handler's refusals are never for a broken invariant. -/
theorem insightRoute_status_ne_500 (r : HttpRequest) (segment : String)
    (settings : PipelineSettings) (gateway : CompletionRequest → GatewayOutcome) :
    (insightRoute r segment settings gateway).status ≠ 500 := by
  unfold insightRoute
  split
  · simp
  · split
    · simp
    · split
      · unfold bodyRefusal
        split <;> simp
      · split
        · simp
        · next e he =>
          refine HttpResponse.status_ofError_ne_500 fun v hv => ?_
          rw [hv] at he
          exact handleGenerate_ne_invariant _ _ _ _ v he

theorem getRoute_status_ne_500 (method : String) {answer : HttpResponse} (h : answer.status ≠ 500) :
    (getRoute method answer).status ≠ 500 := by
  unfold getRoute
  split_ifs <;> simp [h]

/-- No request to the service is answered with status 500. -/
theorem route_status_ne_500 (r : HttpRequest) (settings : PipelineSettings)
    (gateway : CompletionRequest → GatewayOutcome) : (route r settings gateway).status ≠ 500 := by
  unfold route
  split
  · next target _ =>
    unfold routePath
    split_ifs with hhealth hlist hpost
    · exact getRoute_status_ne_500 _ (by simp)
    · exact getRoute_status_ne_500 _ (by simp)
    · split
      · exact insightRoute_status_ne_500 _ _ _ _
      · simp
    · split <;> simp
  · simp

/-- A request for an insight is not found exactly when its segment is no
domain's name, invalid exactly when it names a domain and no context value
holds text, and otherwise answered with an insight that is generated
exactly when the gateway gave a payload in time and the fallback in every
other case.  It is never refused for a broken invariant, so no request to
the service is answered with status 500. -/
theorem handleGenerate_answers (segment : String) (req : InsightRequest)
    (settings : PipelineSettings) (gateway : CompletionRequest → GatewayOutcome) :
    ((∃ msg, handleGenerate segment req settings gateway = .error (.notFound msg)) ↔
      ∀ d : Domain, d.name ≠ segment) ∧
    ((∃ msg, handleGenerate segment req settings gateway = .error (.validation msg)) ↔
      (∃ d : Domain, d.name = segment) ∧ ∀ kv ∈ req.context, kv.2.isBlank = true) ∧
    (∀ d : Domain, d.name = segment → ¬ (∀ kv ∈ req.context, kv.2.isBlank = true) →
      ∃ i, handleGenerate segment req settings gateway = .ok i ∧
        (i.source = .generated ↔ ∃ raw,
          (gateway (d.policy.completionRequest req.context settings)).result settings = .ok raw) ∧
        (i.source = .fallback ↔ ¬ ∃ raw,
          (gateway (d.policy.completionRequest req.context settings)).result settings = .ok raw)) ∧
    (∀ v, handleGenerate segment req settings gateway ≠ .error (.invariant v)) ∧
    ∀ r : HttpRequest, (route r settings gateway).status ≠ 500 := by
  refine ⟨⟨?_, fun h => ⟨_, handleGenerate_of_unknown h⟩⟩, ⟨?_, ?_⟩, ?_,
    handleGenerate_ne_invariant segment req settings gateway,
    fun r => route_status_ne_500 r settings gateway⟩
  · rintro ⟨msg, h⟩ d hd
    by_cases hblank : ∀ kv ∈ req.context, kv.2.isBlank = true
    · rw [handleGenerate_of_blank hd hblank] at h
      cases h
    · rw [handleGenerate_of_admitted hd hblank] at h
      cases h
  · rintro ⟨msg, h⟩
    by_cases hname : ∃ d : Domain, d.name = segment
    · obtain ⟨d, hd⟩ := hname
      refine ⟨⟨d, hd⟩, ?_⟩
      by_contra htext
      rw [handleGenerate_of_admitted hd htext] at h
      cases h
    · rw [handleGenerate_of_unknown fun d hd => hname ⟨d, hd⟩] at h
      cases h
  · rintro ⟨⟨d, hd⟩, hblank⟩
    exact ⟨_, handleGenerate_of_blank hd hblank⟩
  · intro d hd htext
    exact ⟨_, handleGenerate_of_admitted hd htext, Policy.source_recordOf _,
      Policy.source_recordOf_eq_fallback _⟩

end CareerInsight

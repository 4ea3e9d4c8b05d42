import CareerInsight.Service.Config
import CareerInsight.Service.Error
import CareerInsight.Service.Request
import CareerInsight.Insight.Persistable
import CareerInsight.Context.Render
import CareerInsight.Gateway.Client
import CareerInsight.Policy.Builtin

/-!
# Generating an insight

`Policy.runInsight` is the pipeline of one domain: render the context into
the prompt, ask the gateway, and turn its payload into a scored record.  It
never fails: a gateway error, or a gateway that does not answer within the
configured time, gives the domain's fallback record instead.  Waits follow
the runtime's timers: a wait too long for its clock is cut to a far-future
horizon of thirty years, so a gateway that waits "for ever" still answers
a call whose timeout is as long.

`handleGenerate` is the service's answer to a request for an insight: the
domain must be known, the context must hold some text that is not blank,
and the record must pass its invariants before it leaves the service.

The gateway is an argument, a function from the request it is sent to what
came of it, so the pipeline is a function of what the model does.
-/

namespace CareerInsight

/-- The settings of the pipeline taken from the configuration. -/
structure PipelineSettings where
  /-- How long one gateway call may take, retries included, in seconds. -/
  gatewayTimeoutSecs : Nat
  /-- The longest a context value may be; a policy may set a lower bound. -/
  contextMaxChars : Nat
  deriving Repr, BEq

/-- The pipeline settings of a configuration. -/
def Config.pipelineSettings (c : Config) : PipelineSettings :=
  ⟨c.gatewayTimeoutSecs, c.contextMaxChars⟩

/-- The runtime's far-future horizon, in seconds: thirty years. -/
def farFutureSecs : Nat := 86400 * 365 * 30

/-- When a timer set for `secs` seconds fires, in seconds from its start:
at `secs`, or, for a wait past the end of the clock's range of `2 ^ 63`
seconds, at the far-future horizon. -/
def timerFiresAt (secs : Nat) : Nat := if secs < Nat.pow 2 63 then secs else farFutureSecs

/-- What came of one gateway call. -/
inductive GatewayOutcome where
  /-- The gateway answered at once with a payload or an error. -/
  | answered (result : Except GatewayError Json.Fields)
  /-- The gateway answers only when a timer of `secs` seconds has fired. -/
  | delayed (secs : Nat) (result : Except GatewayError Json.Fields)
  deriving Repr

/-- The payload of a gateway call, or a timeout error when the call's
timer fires before the answer comes.  An answer that comes at the moment
the timer fires is taken, since the call is looked at before its timer. -/
def GatewayOutcome.result (o : GatewayOutcome) (settings : PipelineSettings) :
    Except GatewayError Json.Fields :=
  match o with
  | .answered r => r
  | .delayed secs r =>
    if timerFiresAt secs ≤ timerFiresAt settings.gatewayTimeoutSecs then r
    else .error (.timeout settings.gatewayTimeoutSecs)

namespace Policy

/-- The request the pipeline sends for a context. -/
def completionRequest (p : Policy) (context : List (String × String)) (settings : PipelineSettings) :
    CompletionRequest where
  prompt := p.template.fill (p.renderContext context settings.contextMaxChars)
  system := p.systemPrompt
  tier := p.generation.tier
  temperature := p.generation.temperature
  maxOutputTokens := p.generation.maxOutputTokens

/-- The record the pipeline makes of a gateway result: the payload
validated and scored, or the fallback record. -/
def recordOf (p : Policy) : Except GatewayError Json.Fields → ScoredRecord
  | .ok raw => (p.scorePayload raw).1
  | .error _ => p.fallback

/-- The pipeline: one gateway call for the context, then its record. -/
def runInsight (p : Policy) (context : List (String × String)) (settings : PipelineSettings)
    (gateway : CompletionRequest → GatewayOutcome) : ScoredRecord :=
  p.recordOf ((gateway (p.completionRequest context settings)).result settings)

/-- The summary of a policy that the service lists: its domain, model tier
and composites, each with its ceiling, labels and input fields. -/
def summary (p : Policy) : Json :=
  Json.objectOf
    [ ("domain", .string p.domain.name)
    , ("tier", .string p.generation.tier.name)
    , ("composites", .array (p.composites.map fun f =>
        Json.objectOf
          [ ("field", .string f.field)
          , ("ceiling", Json.ofFloat f.ceiling)
          , ("category_field", .string f.categoryField)
          , ("categories", Json.ofStrings f.tiers.labels)
          , ("inputs", Json.ofStrings (f.components.map (·.signal.source))) ])) ]

end Policy

/-- The summaries of every built-in policy, in registry order. -/
def listDomains : Json := .array (Policy.registry.map Policy.summary)

/-- The policy of a requested domain. -/
def requestedPolicy (segment : String) : Except AppError Policy :=
  match Domain.parse segment with
  | .ok d => .ok d.policy
  | .error e => .error (.notFound e.message)

/-- Whether a context has no text: every value is blank, or it has none. -/
def contextIsEmpty (context : List (String × String)) : Bool := context.all (·.2.isBlank)

/-- The checks a request passes before the gateway is asked: its policy. -/
def admitRequest (segment : String) (req : InsightRequest) : Except AppError Policy := do
  let p ← requestedPolicy segment
  if contextIsEmpty req.context then throw (.validation "context cannot be empty")
  pure p

/-- The answer to a request for an insight about a profile in a domain. -/
def handleGenerate (segment : String) (req : InsightRequest) (settings : PipelineSettings)
    (gateway : CompletionRequest → GatewayOutcome) : Except AppError PersistableInsight := do
  let p ← admitRequest segment req
  let scored := p.runInsight req.context settings gateway
  (PersistableInsight.ofScored req.profileId scored p).mapError .invariant

/-- The request the gateway is sent for an insight, if it is asked at all. -/
def generateRequest? (segment : String) (req : InsightRequest) (settings : PipelineSettings) :
    Option CompletionRequest :=
  match admitRequest segment req with
  | .ok p => some (p.completionRequest req.context settings)
  | .error _ => none

end CareerInsight

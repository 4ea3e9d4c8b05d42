/-!
# Insight domains

The nine kinds of insight the service produces.  Each has one name, used
in paths, in records and in answers; `Domain.ofName?` accepts exactly these
names, compared character by character.
-/

namespace CareerInsight

/-- A kind of career insight. -/
inductive Domain where
  | careerTrajectory
  | salaryBenchmark
  | automationRisk
  | skillDecay
  | marketPulse
  | peerCohort
  | visaMobility
  | interviewReadiness
  | transitionFeasibility
  deriving Repr, DecidableEq, BEq, Inhabited

namespace Domain

/-- Every domain, in registry order. -/
def all : List Domain :=
  [careerTrajectory, salaryBenchmark, automationRisk, skillDecay, marketPulse, peerCohort,
    visaMobility, interviewReadiness, transitionFeasibility]

/-- The name of a domain. -/
def name : Domain → String
  | careerTrajectory => "career_trajectory"
  | salaryBenchmark => "salary_benchmark"
  | automationRisk => "automation_risk"
  | skillDecay => "skill_decay"
  | marketPulse => "market_pulse"
  | peerCohort => "peer_cohort"
  | visaMobility => "visa_mobility"
  | interviewReadiness => "interview_readiness"
  | transitionFeasibility => "transition_feasibility"

/-- The domain with this exact name. -/
def ofName? (s : String) : Option Domain := all.find? (·.name == s)

end Domain

/-- A name that is no domain's. -/
structure UnknownDomain where
  name : String
  deriving Repr, BEq

/-- The words for an unknown domain. -/
def UnknownDomain.message (e : UnknownDomain) : String :=
  "unknown insight domain '" ++ e.name ++ "'"

/-- Reads a domain name, refusing every other text. -/
def Domain.parse (s : String) : Except UnknownDomain Domain :=
  match Domain.ofName? s with
  | some d => .ok d
  | none => .error ⟨s⟩

end CareerInsight

import CareerInsight.Policy.Basic

/-!
# The nine built-in policies

The policy tables of the nine domains.  Every domain caps its
self-reported confidence at `0.85`, and every composite's ceiling lies
strictly below its scale, so no score ever claims certainty.  Scores on the
`0..100` scale have ceiling `85`, scores on the `0..1` scale `0.85`.

`Domain.policy` gives the policy of a domain; `Policy.registry` lists them
in registry order.
-/

namespace CareerInsight

namespace Policy

/-- The confidence field every domain declares. -/
def confidenceSpec : FieldSpec := .float "confidence" 0.0 0.85 0.0

/-- The demand field: one of the four demand labels, moderate by default. -/
def demandSpec (field : String) : FieldSpec := .choice field demandLabels "moderate"

/-- A composite on the `0..100` scale with ceiling `85`. -/
def percentComposite (field : String) (components : List Component) (tiers : Tiers)
    (categoryField : String) : CompositeFormula :=
  ⟨field, 100.0, 85.0, components, tiers, categoryField⟩

/-- A composite on the `0..1` scale with ceiling `0.85`. -/
def unitComposite (field : String) (components : List Component) (tiers : Tiers)
    (categoryField : String) : CompositeFormula :=
  ⟨field, 1.0, 0.85, components, tiers, categoryField⟩

/-- Where a professional stands in their track and how fast they move. -/
def careerTrajectory : Policy where
  domain := .careerTrajectory
  role := Domain.careerTrajectory.analystRole
  template := Domain.careerTrajectory.requestTemplate
  generation := ⟨.primary, ⟨4⟩, 2048⟩
  contextMaxChars := 4000
  fields := [
    .choice "current_level" ["entry", "mid", "senior", "staff", "principal", "executive"] "mid",
    .choice "trajectory_direction" ["ascending", "plateau", "pivoting", "declining"] "plateau",
    .float "momentum_score" 0.0 100.0 50.0,
    .float "growth_velocity" 0.0 100.0 50.0,
    .float "skill_alignment" 0.0 100.0 50.0,
    demandSpec "market_demand",
    .float "years_to_next_level_optimistic" 0.0 30.0 2.0,
    .float "years_to_next_level_realistic" 0.0 30.0 3.0,
    .float "years_to_next_level_conservative" 0.0 30.0 5.0,
    .ordering ["years_to_next_level_optimistic", "years_to_next_level_realistic",
      "years_to_next_level_conservative"],
    .text "next_role_title" "Next level in your current track",
    .nested "next_milestone"
      [("title", .text "Take ownership of a larger scope"), ("months_out", .number 12.0)],
    .textList "growth_levers" 5,
    .text "summary"
      "Your trajectory scores are below; the narrative summary could not be generated.",
    confidenceSpec]
  composites := [percentComposite "trajectory_score"
    [⟨"momentum", 0.35, .field "momentum_score"⟩,
     ⟨"growth_velocity", 0.25, .field "growth_velocity"⟩,
     ⟨"skill_alignment", 0.20, .field "skill_alignment"⟩,
     ⟨"market_demand", 0.20, .level "market_demand" demandLevels⟩]
    ⟨[(25.0, "stalled"), (50.0, "steady"), (75.0, "rising")], "accelerating"⟩
    "trajectory_category"]
  explanationField := "summary"
  unavailableMessage :=
    "Career trajectory analysis is temporarily unavailable. Please try again in a few minutes."
  fallbackSeed := []

/-- Pay benchmarks for a role, level and location. -/
def salaryBenchmark : Policy where
  domain := .salaryBenchmark
  role := Domain.salaryBenchmark.analystRole
  template := Domain.salaryBenchmark.requestTemplate
  generation := ⟨.primary, ⟨2⟩, 1536⟩
  contextMaxChars := 3000
  fields := [
    .float "benchmark_min" 0.0 5000000.0 0.0,
    .float "benchmark_median" 0.0 5000000.0 0.0,
    .float "benchmark_max" 0.0 5000000.0 0.0,
    .ordering ["benchmark_min", "benchmark_median", "benchmark_max"],
    .choice "currency" ["USD", "EUR", "GBP", "CAD", "AUD", "INR", "SGD", "CHF", "JPY"] "USD",
    .float "percentile_position" 0.0 100.0 50.0,
    demandSpec "market_demand",
    .choice "negotiation_leverage" ["low", "moderate", "high"] "moderate",
    .cohortFloor "comparable_profiles" 10,
    .textList "key_factors" 5,
    .text "explanation" "Salary benchmark computed from comparable roles in your market.",
    confidenceSpec]
  composites := [percentComposite "market_position_score"
    [⟨"percentile_position", 0.50, .field "percentile_position"⟩,
     ⟨"market_demand", 0.30, .level "market_demand" demandLevels⟩,
     ⟨"negotiation_leverage", 0.20,
       .level "negotiation_leverage" [("low", 0.25), ("moderate", 0.5), ("high", 0.85)]⟩]
    ⟨[(35.0, "below_market"), (65.0, "at_market")], "above_market"⟩
    "market_position"]
  explanationField := "explanation"
  unavailableMessage := "Salary benchmarking is temporarily unavailable. Please try again shortly."
  fallbackSeed := []

/-- Exposure of a role's tasks to automation. -/
def automationRisk : Policy where
  domain := .automationRisk
  role := Domain.automationRisk.analystRole
  template := Domain.automationRisk.requestTemplate
  generation := ⟨.primary, ⟨3⟩, 2048⟩
  contextMaxChars := 4000
  fields := [
    .float "task_automation_exposure" 0.0 100.0 50.0,
    .float "augmentation_potential" 0.0 100.0 50.0,
    .float "human_skill_premium" 0.0 100.0 50.0,
    .choice "adoption_speed" ["slow", "moderate", "fast", "very_fast"] "moderate",
    .float "timeline_earliest_years" 0.0 30.0 3.0,
    .float "timeline_likely_years" 0.0 30.0 5.0,
    .float "timeline_latest_years" 0.0 30.0 10.0,
    .ordering ["timeline_earliest_years", "timeline_likely_years", "timeline_latest_years"],
    .textList "at_risk_tasks" 8,
    .textList "resilient_skills" 8,
    .text "explanation" "Automation exposure was estimated from the tasks typical of this role.",
    confidenceSpec]
  composites := [percentComposite "automation_risk_score"
    [⟨"task_exposure", 0.40, .field "task_automation_exposure"⟩,
     ⟨"adoption_speed", 0.25,
       .level "adoption_speed" [("slow", 0.2), ("moderate", 0.5), ("fast", 0.75), ("very_fast", 1.0)]⟩,
     ⟨"skill_premium", 0.20, .inverted "human_skill_premium"⟩,
     ⟨"augmentation", 0.15, .inverted "augmentation_potential"⟩]
    ⟨[(20.0, "minimal"), (40.0, "low"), (60.0, "moderate"), (80.0, "high")], "critical"⟩
    "risk_level"]
  explanationField := "explanation"
  unavailableMessage :=
    "Automation risk analysis is temporarily unavailable. Please try again later."
  fallbackSeed := []

/-- How fast a skill loses market relevance. -/
def skillDecay : Policy where
  domain := .skillDecay
  role := Domain.skillDecay.analystRole
  template := Domain.skillDecay.requestTemplate
  generation := ⟨.fast, ⟨3⟩, 1024⟩
  contextMaxChars := 2000
  fields := [
    .text "skill_name" "Tracked skill",
    .float "current_relevance" 0.0 100.0 50.0,
    .float "annual_decay_rate" 0.0 100.0 10.0,
    .float "half_life_years" 0.5 30.0 5.0,
    demandSpec "market_demand",
    .choice "refresh_urgency" ["low", "moderate", "high", "critical"] "moderate",
    .textList "replacement_skills" 5,
    .text "recommendation" "Keep this skill current with periodic hands-on practice.",
    confidenceSpec]
  composites := [percentComposite "skill_health_score"
    [⟨"relevance", 0.45, .field "current_relevance"⟩,
     ⟨"market_demand", 0.30, .level "market_demand" demandLevels⟩,
     ⟨"durability", 0.25, .inverted "annual_decay_rate"⟩]
    ⟨[(25.0, "obsolete"), (50.0, "decaying"), (75.0, "stable")], "thriving"⟩
    "decay_status"]
  explanationField := "recommendation"
  unavailableMessage := "Skill decay tracking is temporarily unavailable. Please try again shortly."
  fallbackSeed := []

/-- Demand, pay and trend signals of the hiring market. -/
def marketPulse : Policy where
  domain := .marketPulse
  role := Domain.marketPulse.analystRole
  template := Domain.marketPulse.requestTemplate
  generation := ⟨.fast, ⟨3⟩, 1024⟩
  contextMaxChars := 2000
  fields := [
    .float "demand_score" 0.0 100.0 50.0,
    .float "compensation_score" 0.0 100.0 50.0,
    .float "skill_relevance_score" 0.0 100.0 50.0,
    .float "trend_score" 0.0 100.0 50.0,
    demandSpec "demand_intensity",
    .choice "posting_trend" ["declining", "stable", "growing", "surging"] "stable",
    .textList "top_hiring_sectors" 5,
    .text "summary" "Market signals for your role are summarized in the scores.",
    confidenceSpec]
  composites := [
    percentComposite "market_pulse_score"
      [⟨"demand", 0.30, .field "demand_score"⟩,
       ⟨"compensation", 0.25, .field "compensation_score"⟩,
       ⟨"skill_relevance", 0.25, .field "skill_relevance_score"⟩,
       ⟨"trend", 0.20, .field "trend_score"⟩]
      ⟨[(20.0, "critical"), (40.0, "low"), (60.0, "moderate"), (80.0, "healthy")], "thriving"⟩
      "market_health",
    percentComposite "hiring_momentum_score"
      [⟨"demand_intensity", 0.60, .level "demand_intensity" demandLevels⟩,
       ⟨"trend", 0.40, .field "trend_score"⟩]
      ⟨[(33.0, "cooling"), (66.0, "steady")], "heating"⟩
      "hiring_momentum"]
  explanationField := "summary"
  unavailableMessage := "Market pulse data is temporarily unavailable. Please check back soon."
  fallbackSeed := []

/-- Standing against peers of similar role, seniority and region. -/
def peerCohort : Policy where
  domain := .peerCohort
  role := Domain.peerCohort.analystRole
  template := Domain.peerCohort.requestTemplate
  generation := ⟨.primary, ⟨3⟩, 1536⟩
  contextMaxChars := 3000
  fields := [
    .cohortFloor "cohort_size" 10,
    .float "salary_percentile" 0.0 100.0 50.0,
    .float "skill_percentile" 0.0 100.0 50.0,
    .float "progression_percentile" 0.0 100.0 50.0,
    .float "peer_salary_p25" 0.0 5000000.0 0.0,
    .float "peer_salary_p50" 0.0 5000000.0 0.0,
    .float "peer_salary_p75" 0.0 5000000.0 0.0,
    .ordering ["peer_salary_p25", "peer_salary_p50", "peer_salary_p75"],
    .textList "standout_strengths" 5,
    .text "insight" "Your standing relative to comparable peers is shown above.",
    confidenceSpec]
  composites := [percentComposite "peer_standing_score"
    [⟨"salary", 0.35, .field "salary_percentile"⟩,
     ⟨"skills", 0.35, .field "skill_percentile"⟩,
     ⟨"progression", 0.30, .field "progression_percentile"⟩]
    ⟨[(25.0, "lagging"), (50.0, "developing"), (75.0, "competitive")], "leading"⟩
    "standing_tier"]
  explanationField := "insight"
  unavailableMessage := "Peer comparison is temporarily unavailable. Please try again shortly."
  fallbackSeed := []

/-- Readiness to relocate to a target country. -/
def visaMobility : Policy where
  domain := .visaMobility
  role := Domain.visaMobility.analystRole
  template := Domain.visaMobility.requestTemplate
  generation := ⟨.primary, ⟨2⟩, 2048⟩
  contextMaxChars := 4000
  fields := [
    .text "target_country" "Target country",
    .float "credential_recognition" 0.0 1.0 0.5,
    .float "visa_eligibility" 0.0 1.0 0.5,
    .float "financial_impact" 0.0 1.0 0.5,
    demandSpec "market_demand",
    .choice "visa_pathway"
      ["skilled_worker", "intra_company_transfer", "global_talent", "work_permit", "none"] "none",
    .float "processing_months_min" 0.0 60.0 3.0,
    .float "processing_months_typical" 0.0 60.0 6.0,
    .float "processing_months_max" 0.0 60.0 12.0,
    .ordering ["processing_months_min", "processing_months_typical", "processing_months_max"],
    .float "col_adjusted_salary_delta_pct" (-100.0) 300.0 0.0,
    .textList "required_documents" 10,
    .text "summary"
      "Relocation readiness was assessed from your credentials and the target market.",
    confidenceSpec]
  composites := [unitComposite "mobility_readiness_score"
    [⟨"credential_recognition", 0.30, .field "credential_recognition"⟩,
     ⟨"visa_eligibility", 0.25, .field "visa_eligibility"⟩,
     ⟨"market_demand", 0.25, .level "market_demand" demandLevels⟩,
     ⟨"financial_impact", 0.20, .field "financial_impact"⟩]
    ⟨[(0.25, "not_ready"), (0.50, "emerging"), (0.70, "ready")], "highly_ready"⟩
    "readiness_tier"]
  explanationField := "summary"
  unavailableMessage :=
    "Visa and mobility analysis is temporarily unavailable. Please try again later."
  -- with no model answer nothing is known about eligibility, so the
  -- fallback must not suggest readiness to relocate
  fallbackSeed := [("credential_recognition", .number 0.0), ("visa_eligibility", .number 0.0),
    ("financial_impact", .number 0.0), ("market_demand", .text "low")]

/-- Readiness for interviews in a target role. -/
def interviewReadiness : Policy where
  domain := .interviewReadiness
  role := Domain.interviewReadiness.analystRole
  template := Domain.interviewReadiness.requestTemplate
  generation := ⟨.fast, ⟨5⟩, 1536⟩
  contextMaxChars := 4000
  fields := [
    .text "target_role" "Target role",
    .float "technical_score" 0.0 100.0 50.0,
    .float "behavioral_score" 0.0 100.0 50.0,
    .float "communication_score" 0.0 100.0 50.0,
    .float "domain_knowledge_score" 0.0 100.0 50.0,
    .textList "weak_areas" 5,
    .textList "strengths" 5,
    .nested "practice_plan"
      [("focus_area", .text "Core fundamentals"), ("daily_minutes", .number 30.0),
       ("weeks", .number 4.0)],
    .integer "mock_interviews_recommended" 0.0 20.0 3.0,
    .text "feedback" "Practice the areas with the lowest scores first.",
    confidenceSpec]
  composites := [percentComposite "readiness_score"
    [⟨"technical", 0.35, .field "technical_score"⟩,
     ⟨"behavioral", 0.25, .field "behavioral_score"⟩,
     ⟨"communication", 0.20, .field "communication_score"⟩,
     ⟨"domain_knowledge", 0.20, .field "domain_knowledge_score"⟩]
    ⟨[(40.0, "not_ready"), (60.0, "needs_practice"), (80.0, "ready")], "interview_ready"⟩
    "readiness_level"]
  explanationField := "feedback"
  unavailableMessage :=
    "Interview readiness scoring is temporarily unavailable. Please try again shortly."
  fallbackSeed := []

/-- How feasible a move from the current role to a target role is. -/
def transitionFeasibility : Policy where
  domain := .transitionFeasibility
  role := Domain.transitionFeasibility.analystRole
  template := Domain.transitionFeasibility.requestTemplate
  generation := ⟨.primary, ⟨4⟩, 2048⟩
  contextMaxChars := 4000
  fields := [
    .text "target_role" "Target role",
    .float "skill_overlap" 0.0 1.0 0.5,
    demandSpec "market_demand",
    .choice "salary_impact"
      ["significant_decrease", "decrease", "neutral", "increase", "significant_increase"] "neutral",
    .choice "learning_curve" ["minimal", "moderate", "steep", "very_steep"] "moderate",
    .float "months_to_transition_optimistic" 0.0 60.0 6.0,
    .float "months_to_transition_realistic" 0.0 60.0 12.0,
    .float "months_to_transition_conservative" 0.0 60.0 18.0,
    .ordering ["months_to_transition_optimistic", "months_to_transition_realistic",
      "months_to_transition_conservative"],
    .textList "bridge_skills" 8,
    .text "summary"
      "Transition feasibility reflects skill overlap, demand and the learning required.",
    confidenceSpec]
  composites := [unitComposite "feasibility_score"
    [⟨"skill_overlap", 0.35, .field "skill_overlap"⟩,
     ⟨"market_demand", 0.25, .level "market_demand" demandLevels⟩,
     ⟨"salary_impact", 0.20, .level "salary_impact"
       [("significant_decrease", 0.1), ("decrease", 0.3), ("neutral", 0.5), ("increase", 0.75),
        ("significant_increase", 1.0)]⟩,
     -- a steeper curve makes a transition less feasible
     ⟨"learning_curve", 0.20, .level "learning_curve"
       [("minimal", 1.0), ("moderate", 0.7), ("steep", 0.4), ("very_steep", 0.15)]⟩]
    ⟨[(0.30, "low"), (0.55, "moderate"), (0.75, "high")], "very_high"⟩
    "feasibility_level"]
  explanationField := "summary"
  unavailableMessage :=
    "Career transition analysis is temporarily unavailable. Please try again later."
  fallbackSeed := []

end Policy

/-- The built-in policy of a domain. -/
def Domain.policy : Domain → Policy
  | .careerTrajectory => Policy.careerTrajectory
  | .salaryBenchmark => Policy.salaryBenchmark
  | .automationRisk => Policy.automationRisk
  | .skillDecay => Policy.skillDecay
  | .marketPulse => Policy.marketPulse
  | .peerCohort => Policy.peerCohort
  | .visaMobility => Policy.visaMobility
  | .interviewReadiness => Policy.interviewReadiness
  | .transitionFeasibility => Policy.transitionFeasibility

/-- The built-in policies in registry order. -/
def Policy.registry : List Policy := Domain.all.map Domain.policy

end CareerInsight

import Mathlib
import CareerInsight.Gateway.Client

/-!
# The retry schedule of a call

A call to the model service is a loop of at most three attempts.  An attempt
that cannot be sent, or that meets status 429 or a server error, is tried
again after a pause; any other outcome ends the call.  This file follows the
loop for every sequence of outcomes.

* `Attempt.retried` names the outcomes the loop tries again after, and
  `Attempt.settle` what the call returns when an attempt is its last: the
  error of a retried attempt, the refusal of another status, the reply of a
  success.
* `sendsFrom` counts the requests the loop sends: one after another until
  the first outcome that is not retried, and no more than the attempts left.
* `callFrom_succ_of_retried` and `callFrom_succ_of_final` are the two ways a
  turn of the loop can go.  From them, by induction on the attempts left:
  the pauses are those before each attempt after the first
  (`callFrom_pauses`), the result is what the last attempt sent settles on
  (`callFrom_result`), and the loop reads no outcome past its last send
  (`callFrom_congr`).
* `callService_retry_schedule` puts these together for a whole call: it
  sends one to three requests, pauses `1000 * 2 ^ (i - 1)` milliseconds
  before attempt `i ≥ 1`, stops at the first outcome that is not retried,
  and otherwise returns the third attempt's error, so its fallback
  `rateLimited` is never returned.
-/

namespace CareerInsight

namespace Attempt

/-- Whether the call tries again after this outcome: the request could not
be sent, or the status was 429 or a server error. -/
def retried : Attempt → Bool
  | sendFailed _ => true
  | retryable .. => true
  | refused .. => false
  | answered _ => false

/-- What the call returns when this attempt is its last. -/
def settle : Attempt → Except GatewayError ModelResponse
  | sendFailed detail => .error (.http detail)
  | retryable status body => .error (.api status body)
  | refused status message => .error (.api status message)
  | answered (.ok r) => .ok r
  | answered (.error detail) => .error (.http detail)

/-- A call never settles on the rate-limit error: no outcome stands for it. -/
theorem settle_ne_rateLimited (a : Attempt) (retries : Nat) :
    a.settle ≠ .error (.rateLimited retries) := by
  cases a with
  | answered reply => cases reply <;> simp [settle]
  | _ => simp [settle]

end Attempt

/-- The pause the loop makes before attempt `i`: none before the first. -/
def pauseBefore (i : Nat) : List Nat := if i = 0 then [] else [backoffMillis i]

/-- How many requests the loop sends from attempt `i` on, with `left`
attempts to go: one after another until an outcome is not retried. -/
def sendsFrom (attempt : Nat → Attempt) (i : Nat) : Nat → Nat
  | 0 => 0
  | left + 1 => if (attempt i).retried then sendsFrom attempt (i + 1) left + 1 else 1

section Loop

variable (attempt : Nat → Attempt)

/-! ## One turn of the loop -/

/-- After a retried outcome the loop pauses, remembers the outcome's error
and goes on with the next attempt. -/
theorem callFrom_succ_of_retried {i : Nat} (h : (attempt i).retried = true)
    (last : Option GatewayError) (left : Nat) :
    ∃ e, (attempt i).settle = .error e ∧
      callFrom attempt i last (left + 1) =
        ⟨pauseBefore i ++ (callFrom attempt (i + 1) (some e) left).pauses,
          (callFrom attempt (i + 1) (some e) left).result⟩ := by
  rw [callFrom]
  cases hi : attempt i with
  | sendFailed detail => exact ⟨_, rfl, rfl⟩
  | retryable status body => exact ⟨_, rfl, rfl⟩
  | refused => simp [hi, Attempt.retried] at h
  | answered => simp [hi, Attempt.retried] at h

/-- Any other outcome ends the call after the pause before it. -/
theorem callFrom_succ_of_final {i : Nat} (h : (attempt i).retried = false)
    (last : Option GatewayError) (left : Nat) :
    callFrom attempt i last (left + 1) = ⟨pauseBefore i, (attempt i).settle⟩ := by
  rw [callFrom]
  cases hi : attempt i with
  | sendFailed => simp [hi, Attempt.retried] at h
  | retryable => simp [hi, Attempt.retried] at h
  | refused status message => rfl
  | answered reply => cases reply <;> rfl

/-! ## The requests sent -/

theorem sendsFrom_pos (i : Nat) {left : Nat} (h : 0 < left) : 0 < sendsFrom attempt i left := by
  obtain ⟨left, rfl⟩ := Nat.exists_eq_add_one_of_ne_zero h.ne'
  rw [sendsFrom]
  split <;> omega

theorem sendsFrom_le (i left : Nat) : sendsFrom attempt i left ≤ left := by
  induction left generalizing i with
  | zero => rfl
  | succ left ih =>
    rw [sendsFrom]
    split
    · exact Nat.succ_le_succ (ih (i + 1))
    · omega

/-- Every outcome before the last one sent was retried. -/
theorem retried_of_lt_sendsFrom {i left j : Nat} (h : j + 1 < sendsFrom attempt i left) :
    (attempt (i + j)).retried = true := by
  induction left generalizing i j with
  | zero => simp [sendsFrom] at h
  | succ left ih =>
    rw [sendsFrom] at h
    split at h
    · next hr =>
      cases j with
      | zero => exact hr
      | succ j =>
        rw [show i + (j + 1) = i + 1 + j by omega]
        exact ih (by omega)
    · omega

/-- A loop that stops before its attempts run out stops at an outcome that
is not retried. -/
theorem retried_eq_false_of_sendsFrom_lt {i left : Nat} (hleft : 0 < left)
    (h : sendsFrom attempt i left < left) :
    (attempt (i + sendsFrom attempt i left - 1)).retried = false := by
  induction left generalizing i with
  | zero => omega
  | succ left ih =>
    rw [sendsFrom] at h ⊢
    split at h
    · next hr =>
      rw [if_pos hr]
      have hpos := sendsFrom_pos attempt (i + 1) (show 0 < left by omega)
      rw [show i + (sendsFrom attempt (i + 1) left + 1) - 1 =
        i + 1 + sendsFrom attempt (i + 1) left - 1 by omega]
      exact ih (by omega) (by omega)
    · next hr =>
      rw [if_neg hr, Nat.add_sub_cancel]
      simpa using hr

/-- When every outcome is retried, the loop sends all its attempts. -/
theorem sendsFrom_of_retried {i left : Nat} (h : ∀ j < left, (attempt (i + j)).retried = true) :
    sendsFrom attempt i left = left := by
  induction left generalizing i with
  | zero => rfl
  | succ left ih =>
    have hi : (attempt i).retried = true := by simpa using h 0 (Nat.succ_pos left)
    rw [sendsFrom, if_pos hi, ih fun j hj => ?_]
    rw [show i + 1 + j = i + (j + 1) by omega]
    exact h (j + 1) (by omega)

/-! ## A run of the loop -/

/-- The loop pauses before each attempt it sends but the first of the call. -/
theorem callFrom_pauses (i : Nat) (last : Option GatewayError) (left : Nat) :
    (callFrom attempt i last left).pauses =
      (List.range' i (sendsFrom attempt i left)).flatMap pauseBefore := by
  induction left generalizing i last with
  | zero => rfl
  | succ left ih =>
    cases hr : (attempt i).retried with
    | false => simp [callFrom_succ_of_final attempt hr, sendsFrom, hr]
    | true =>
      obtain ⟨e, -, hstep⟩ := callFrom_succ_of_retried attempt hr last left
      rw [hstep, sendsFrom, if_pos hr, List.range'_succ, List.flatMap_cons, ih]

/-- The call returns what the last attempt it sends settles on. -/
theorem callFrom_result (i : Nat) (last : Option GatewayError) {left : Nat} (hleft : 0 < left) :
    (callFrom attempt i last left).result =
      (attempt (i + sendsFrom attempt i left - 1)).settle := by
  induction left generalizing i last with
  | zero => omega
  | succ left ih =>
    cases hr : (attempt i).retried with
    | false => simp [callFrom_succ_of_final attempt hr, sendsFrom, hr]
    | true =>
      obtain ⟨e, he, hstep⟩ := callFrom_succ_of_retried attempt hr last left
      rw [hstep, sendsFrom, if_pos hr]
      cases left with
      | zero =>
        simpa [callFrom, sendsFrom] using he.symm
      | succ left =>
        have hpos := sendsFrom_pos attempt (i + 1) (Nat.succ_pos left)
        rw [ih (i + 1) (some e) (by omega)]
        congr 2
        omega

/-- The loop reads the outcomes of the attempts it sends and no other. -/
theorem callFrom_congr {attempt' : Nat → Attempt} (i : Nat) (last : Option GatewayError)
    (left : Nat) (h : ∀ j < sendsFrom attempt i left, attempt' (i + j) = attempt (i + j)) :
    callFrom attempt' i last left = callFrom attempt i last left := by
  induction left generalizing i last with
  | zero => rfl
  | succ left ih =>
    have h0 : attempt' i = attempt i := h 0 (sendsFrom_pos attempt i (Nat.succ_pos left))
    cases hr : (attempt i).retried with
    | false =>
      rw [callFrom_succ_of_final attempt hr, callFrom_succ_of_final attempt' (h0 ▸ hr), h0]
    | true =>
      obtain ⟨e, he, hstep⟩ := callFrom_succ_of_retried attempt hr last left
      obtain ⟨e', he', hstep'⟩ := callFrom_succ_of_retried attempt' (h0 ▸ hr) last left
      rw [h0, he, Except.error.injEq] at he'
      subst he'
      have hrest : ∀ j < sendsFrom attempt (i + 1) left,
          attempt' (i + 1 + j) = attempt (i + 1 + j) := by
        intro j hj
        have := h (j + 1) (by rw [sendsFrom, if_pos hr]; omega)
        rwa [show i + (j + 1) = i + 1 + j by omega] at this
      rw [hstep, hstep', ih (i + 1) (some e) hrest]

end Loop

/-- After the first attempt, the pauses are the back-off of each attempt. -/
theorem flatMap_pauseBefore_range' (n : Nat) :
    (List.range' 0 n).flatMap pauseBefore =
      (List.range' 1 (n - 1)).map fun i => 1000 * 2 ^ (i - 1) := by
  cases n with
  | zero => rfl
  | succ n =>
    rw [List.range'_succ, List.flatMap_cons, Nat.add_sub_cancel, pauseBefore, if_pos rfl,
      List.nil_append, ← List.flatMap_pure_eq_map]
    apply List.flatMap_congr
    intro i hi
    have hpos : i ≠ 0 := Nat.ne_zero_of_lt (List.mem_range'_1.1 hi).1
    rw [pauseBefore, if_neg hpos, backoffMillis, if_neg hpos]
    rfl

/-- A call sends one to three requests.  Before attempt `i ≥ 1` it pauses
`1000 * 2 ^ (i - 1)` milliseconds, and before the first not at all.  It
stops at the first outcome that is neither a failed send nor status 429 or
a server error, and returns what that outcome settles on; when all three
attempts fail so, it returns the third one's error.  So the rate-limit error
it falls back on is never returned, and no outcome past the last request
sent changes the call. -/
theorem callService_retry_schedule (attempt : Nat → Attempt) :
    ∃ n, 1 ≤ n ∧ n ≤ maxAttempts ∧
      (∀ j, j + 1 < n → (attempt j).retried = true) ∧
      (n < maxAttempts → (attempt (n - 1)).retried = false) ∧
      (callService attempt).pauses = (List.range' 1 (n - 1)).map (fun i => 1000 * 2 ^ (i - 1)) ∧
      (callService attempt).result = (attempt (n - 1)).settle ∧
      ((∀ j < maxAttempts, (attempt j).retried = true) →
        (callService attempt).result = (attempt (maxAttempts - 1)).settle) ∧
      (∀ retries, (callService attempt).result ≠ .error (.rateLimited retries)) ∧
      ∀ attempt' : Nat → Attempt, (∀ j < n, attempt' j = attempt j) →
        callService attempt' = callService attempt := by
  have hleft : 0 < maxAttempts := by decide
  have hpos := sendsFrom_pos attempt 0 hleft
  have hresult := callFrom_result attempt 0 none hleft
  rw [Nat.zero_add] at hresult
  refine ⟨sendsFrom attempt 0 maxAttempts, hpos, sendsFrom_le attempt 0 maxAttempts,
    fun j hj => by simpa using retried_of_lt_sendsFrom attempt hj,
    fun hlt => by simpa using retried_eq_false_of_sendsFrom_lt attempt hleft hlt,
    by rw [callService, callFrom_pauses, flatMap_pauseBefore_range'], hresult,
    fun hall => ?_, fun retries => hresult ▸ Attempt.settle_ne_rateLimited _ retries,
    fun attempt' h => callFrom_congr attempt 0 none maxAttempts (by simpa using h)⟩
  rw [callService, hresult, sendsFrom_of_retried attempt (by simpa using hall)]

example : (callService fun _ => .sendFailed "refused").pauses = [1000, 2000] := rfl

end CareerInsight

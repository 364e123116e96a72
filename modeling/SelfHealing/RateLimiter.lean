/-
The limit on requests.

For each key the limiter keeps the times of the requests that it let pass, and forgets those that
have left the window whenever the key is asked for again.  A request that is refused leaves no
time behind.  Times are those of the monotonic clock, and are compared and subtracted exactly.
-/
import Mathlib.Algebra.Order.Ring.Rat
import Mathlib.Logic.Function.Basic

namespace SelfHealing

open Function (update)

structure InMemoryRateLimiter where
  hits : String → List Rat := fun _ => []

namespace InMemoryRateLimiter

variable (limiter : InMemoryRateLimiter)

/-- `is_allowed`, at the time `now`. -/
def isAllowed (key : String) (maxRequests : Int) (windowSeconds now : Rat) :
    Bool × InMemoryRateLimiter :=
  let cutoff := now - windowSeconds
  let valid := (limiter.hits key).filter fun ts => decide (cutoff < ts)
  if maxRequests ≤ valid.length then (false, { hits := update limiter.hits key valid })
  else (true, { hits := update limiter.hits key (valid ++ [now]) })

end InMemoryRateLimiter

/-! ### Calls one after the other -/

structure RateCall where
  key : String
  now : Rat

/-- What a key is asked for with. -/
structure RateLimit where
  maxRequests : Int
  windowSeconds : Rat

/-- The answers to the calls, and the limiter after them. -/
def InMemoryRateLimiter.answers (limits : String → RateLimit) (limiter : InMemoryRateLimiter) :
    List RateCall → List Bool × InMemoryRateLimiter
  | [] => ([], limiter)
  | call :: rest =>
      let limit := limits call.key
      let answer := limiter.isAllowed call.key limit.maxRequests limit.windowSeconds call.now
      let later := answer.2.answers limits rest
      (answer.1 :: later.1, later.2)

/-- The answers of a new limiter. -/
def rateAnswers (limits : String → RateLimit) (calls : List RateCall) : List Bool :=
  (InMemoryRateLimiter.answers limits {} calls).1

/-- The calls that a new limiter lets pass. -/
def allowedCalls (limits : String → RateLimit) (calls : List RateCall) : List RateCall :=
  ((calls.zip (rateAnswers limits calls)).filter Prod.snd).map Prod.fst

/-- The calls of a key in the window of the key that ends at `t`. -/
def callsInWindow (limits : String → RateLimit) (key : String) (t : Rat) (calls : List RateCall) :
    List RateCall :=
  calls.filter fun call => decide
    (call.key = key ∧ t - (limits key).windowSeconds < call.now ∧ call.now ≤ t)

end SelfHealing

/-
The limiter counts each key by itself, over a window that slides.

What it keeps of a key, and how it answers there, is what a limiter of that key alone keeps and
answers on the calls of the key (`answers_eq_run`).  So what is said of windows in general is said
of each key.

The times at which calls come in never go back, and otherwise nothing is asked of them; equal times
are in a window together.  The bound is on the calls that were let in, and a call that is refused
is not remembered: so refusals do not prolong themselves.
-/
import SelfHealing.Lib.SlidingWindow
import SelfHealing.RateLimiter

namespace SelfHealing

open Function (update_self update_of_ne)
open SlidingWindow

/-! ### One key by itself

The table is one dictionary of lists of times, and a call reads and writes the list of its own key.
So the calls of other keys can be left out, and what remains is a limiter with one list, to which
the library applies.
-/

/-- The limit of a key. -/
def RateLimit.limit (limit : RateLimit) : Limit Rat := ⟨limit.maxRequests, limit.windowSeconds⟩

/-- The times of the calls of a key. -/
def timesOf (key : String) (calls : List RateCall) : List Rat :=
  (calls.filter fun call => decide (call.key = key)).map RateCall.now

section Keys

variable {limits : String → RateLimit} {limiter : InMemoryRateLimiter} {call : RateCall}
  {calls : List RateCall} {key : String}

theorem isAllowed_answer (maxRequests : Int) (windowSeconds now : Rat) :
    (limiter.isAllowed key maxRequests windowSeconds now).1 =
      (Limit.answer ⟨maxRequests, windowSeconds⟩ (limiter.hits key) now).1 := by
  unfold InMemoryRateLimiter.isAllowed Limit.answer Limit.recent
  simp only
  split
  · rfl
  · rfl

theorem isAllowed_hits (maxRequests : Int) (windowSeconds now : Rat) :
    (limiter.isAllowed key maxRequests windowSeconds now).2.hits key =
      (Limit.answer ⟨maxRequests, windowSeconds⟩ (limiter.hits key) now).2 := by
  unfold InMemoryRateLimiter.isAllowed Limit.answer Limit.recent
  simp only
  split
  · exact update_self ..
  · exact update_self ..

/-- A call touches nothing of the other keys. -/
theorem isAllowed_hits_ne {other : String} (h : key ≠ other) (maxRequests : Int)
    (windowSeconds now : Rat) :
    (limiter.isAllowed other maxRequests windowSeconds now).2.hits key = limiter.hits key := by
  unfold InMemoryRateLimiter.isAllowed
  simp only
  split
  · exact update_of_ne h ..
  · exact update_of_ne h ..

theorem timesOf_cons_self (h : call.key = key) :
    timesOf key (call :: calls) = call.now :: timesOf key calls := by
  unfold timesOf
  rw [List.filter_cons_of_pos (by simpa using h), List.map_cons]

theorem timesOf_cons_ne (h : call.key ≠ key) :
    timesOf key (call :: calls) = timesOf key calls := by
  unfold timesOf
  rw [List.filter_cons_of_neg (by simpa using h)]

/-- The answers to the calls of a key. -/
def answersOf (key : String) (calls : List RateCall) (answers : List Bool) : List Bool :=
  ((calls.zip answers).filter fun entry => decide (entry.1.key = key)).map Prod.snd

/-- **Each key is answered as if there were no other.** -/
theorem answers_eq_run (limits : String → RateLimit) (limiter : InMemoryRateLimiter)
    (key : String) (calls : List RateCall) :
    answersOf key calls (limiter.answers limits calls).1 =
        ((limits key).limit.run (limiter.hits key) (timesOf key calls)).1 ∧
      (limiter.answers limits calls).2.hits key =
        ((limits key).limit.run (limiter.hits key) (timesOf key calls)).2 := by
  induction calls generalizing limiter with
  | nil => exact ⟨rfl, rfl⟩
  | cons call rest ih =>
      let limit := limits call.key
      let answer := limiter.isAllowed call.key limit.maxRequests limit.windowSeconds call.now
      obtain ⟨hanswers, hhits⟩ := ih answer.2
      by_cases h : call.key = key
      · subst h
        have hkept : answer.2.hits call.key = (limit.limit.answer (limiter.hits call.key) call.now).2 :=
          isAllowed_hits ..
        rw [hkept] at hanswers hhits
        rw [timesOf_cons_self rfl, Limit.run]
        refine ⟨?_, hhits⟩
        rw [← hanswers]
        unfold answersOf
        rw [InMemoryRateLimiter.answers, List.zip_cons_cons,
          List.filter_cons_of_pos (by simp), List.map_cons]
        exact congrArg (· :: _) (isAllowed_answer ..)
      · have hkept : answer.2.hits key = limiter.hits key := isAllowed_hits_ne (Ne.symm h) ..
        rw [hkept] at hanswers hhits
        rw [timesOf_cons_ne h]
        refine ⟨?_, hhits⟩
        rw [← hanswers]
        unfold answersOf
        rw [InMemoryRateLimiter.answers, List.zip_cons_cons,
          List.filter_cons_of_neg (by simpa using h)]

/-! ### What is counted -/

theorem timesOf_allowed (key : String) (calls : List RateCall) :
    ∀ answers : List Bool, timesOf key (((calls.zip answers).filter Prod.snd).map Prod.fst) =
      admitted (timesOf key calls) (answersOf key calls answers) := by
  induction calls with
  | nil => exact fun _ => rfl
  | cons call rest ih =>
      intro answers
      cases answers with
      | nil =>
          unfold answersOf admitted
          simp [timesOf]
      | cons answer later =>
          have hrest := ih later
          unfold answersOf admitted at hrest ⊢
          by_cases h : call.key = key
          · have hkept : List.filter (fun entry : RateCall × Bool => decide (entry.1.key = key))
                ((call, answer) :: rest.zip later) = (call, answer) ::
                  List.filter (fun entry => decide (entry.1.key = key)) (rest.zip later) :=
              List.filter_cons_of_pos (by simpa using h)
            rw [timesOf_cons_self h, List.zip_cons_cons, hkept, List.map_cons, List.zip_cons_cons]
            cases answer with
            | true =>
                rw [List.filter_cons_of_pos rfl, List.filter_cons_of_pos rfl, List.map_cons,
                  List.map_cons, timesOf_cons_self h, hrest]
            | false =>
                rw [List.filter_cons_of_neg (by simp), List.filter_cons_of_neg (by simp), hrest]
          · have hleft : List.filter (fun entry : RateCall × Bool => decide (entry.1.key = key))
                ((call, answer) :: rest.zip later) =
                  List.filter (fun entry => decide (entry.1.key = key)) (rest.zip later) :=
              List.filter_cons_of_neg (by simpa using h)
            rw [timesOf_cons_ne h, List.zip_cons_cons, hleft]
            cases answer with
            | true => rw [List.filter_cons_of_pos rfl, List.map_cons, timesOf_cons_ne h, hrest]
            | false => rw [List.filter_cons_of_neg (by simp), hrest]

theorem length_callsInWindow (limits : String → RateLimit) (key : String) (t : Rat)
    (calls : List RateCall) : (callsInWindow limits key t calls).length =
      ((limits key).limit.inWindow t (timesOf key calls)).length := by
  unfold callsInWindow timesOf Limit.inWindow RateLimit.limit
  rw [List.filter_map, List.filter_filter, List.length_map]
  congr 1
  refine List.filter_congr fun call _ => ?_
  by_cases h : call.key = key <;> simp [h]

/-- The calls that were let pass, as the limiter of the key alone counts them. -/
theorem timesOf_allowedCalls (limits : String → RateLimit) (key : String)
    (calls : List RateCall) : timesOf key (allowedCalls limits calls) =
      admitted (timesOf key calls) ((limits key).limit.run [] (timesOf key calls)).1 := by
  unfold allowedCalls
  rw [timesOf_allowed]
  exact congrArg _ (answers_eq_run limits {} key calls).1

theorem timesOf_sorted (h : calls.Pairwise fun c c' => c.now ≤ c'.now) (key : String) :
    (timesOf key calls).Pairwise (· ≤ ·) := by
  unfold timesOf
  rw [List.pairwise_map]
  exact h.filter _

theorem timesOf_append (key : String) (calls calls' : List RateCall) :
    timesOf key (calls ++ calls') = timesOf key calls ++ timesOf key calls' := by
  unfold timesOf
  rw [List.filter_append, List.map_append]

theorem answers_append (limits : String → RateLimit) (calls calls' : List RateCall) :
    ∀ limiter : InMemoryRateLimiter, (limiter.answers limits (calls ++ calls')).1 =
      (limiter.answers limits calls).1 ++
        ((limiter.answers limits calls).2.answers limits calls').1 := by
  induction calls with
  | nil => exact fun _ => rfl
  | cons call rest ih =>
      intro limiter
      simp only [List.cons_append, InMemoryRateLimiter.answers, ih]

theorem length_answers (limits : String → RateLimit) (calls : List RateCall) :
    ∀ limiter : InMemoryRateLimiter, (limiter.answers limits calls).1.length = calls.length := by
  induction calls with
  | nil => exact fun _ => rfl
  | cons call rest ih =>
      intro limiter
      simp only [InMemoryRateLimiter.answers, List.length_cons, ih]

/-- The answers to calls of one key are all answers. -/
theorem answersOf_all (calls : List RateCall) (h : ∀ call ∈ calls, call.key = key) :
    ∀ answers : List Bool, answers.length = calls.length → answersOf key calls answers = answers := by
  intro answers hlength
  unfold answersOf
  have hall : ∀ entry ∈ calls.zip answers, decide (entry.1.key = key) = true := fun entry hentry =>
    decide_eq_true (h _ (List.of_mem_zip hentry).1)
  rw [List.filter_eq_self.mpr hall]
  exact List.map_snd_zip (Nat.le_of_eq hlength)

/-- The answer to a call, after those to the calls before it. -/
theorem rateAnswers_at (limits : String → RateLimit) (before after : List RateCall)
    (call : RateCall) : (rateAnswers limits (before ++ call :: after))[before.length]? =
      some ((limits call.key).limit.answer
        ((limits call.key).limit.run [] (timesOf call.key before)).2 call.now).1 := by
  unfold rateAnswers
  rw [answers_append, List.getElem?_append_right (Nat.le_of_eq (length_answers ..)),
    length_answers, Nat.sub_self, InMemoryRateLimiter.answers, List.getElem?_cons_zero,
    isAllowed_answer, (answers_eq_run limits {} call.key before).2]
  rfl

end Keys

/-- **At most the limit of calls in any window, and none refused before it is reached.**  A call is
refused exactly if so many of the calls that were let pass before it lie in the window that ends
with it, and the calls of other keys do not change its answer. -/
theorem sliding_window (limits : String → RateLimit) (calls : List RateCall)
    (hsorted : calls.Pairwise fun call call' => call.now ≤ call'.now) :
    (∀ key t, (callsInWindow limits key t (allowedCalls limits calls)).length ≤
      (limits key).maxRequests.toNat) ∧
    (∀ before call after, calls = before ++ call :: after →
      ((rateAnswers limits calls)[before.length]? = some false ↔ (limits call.key).maxRequests ≤
        (callsInWindow limits call.key call.now (allowedCalls limits before)).length)) ∧
    (∀ key, answersOf key calls (rateAnswers limits calls) =
      rateAnswers limits (calls.filter fun call => decide (call.key = key))) := by
  refine ⟨?_, ?_, ?_⟩
  · intro key t
    rw [length_callsInWindow, timesOf_allowedCalls]
    exact inWindow_le (timesOf_sorted hsorted key) t
  · rintro before call after rfl
    have hearlier : (timesOf call.key before ++ [call.now]).Pairwise (· ≤ ·) := by
      have hfirst : (before ++ [call]).Pairwise fun c c' => c.now ≤ c'.now := by
        refine hsorted.sublist ?_
        simp
      have := timesOf_sorted hfirst call.key
      rwa [timesOf_append, timesOf_cons_self rfl] at this
    rw [rateAnswers_at, Option.some.injEq, refused_iff hearlier, length_callsInWindow,
      timesOf_allowedCalls]
    rfl
  · intro key
    let own := calls.filter fun call => decide (call.key = key)
    have hown : ∀ call ∈ own, call.key = key := fun call hcall => by
      simpa using (List.mem_filter.mp hcall).2
    have htimes : timesOf key own = timesOf key calls := by
      unfold timesOf
      rw [List.filter_filter]
      simp
    have hanswers := (answers_eq_run limits {} key own).1
    rw [answersOf_all own hown _ (length_answers ..), htimes] at hanswers
    exact (answers_eq_run limits {} key calls).1.trans hanswers.symm

/-- Calls of two keys, the fourth when there is no room left for its key, and the last when the
window has moved on. -/
def slidingCalls : List RateCall := [⟨"a", 1⟩, ⟨"a", 2⟩, ⟨"b", 3⟩, ⟨"a", 4⟩, ⟨"a", 62⟩]

/-- With two calls a minute, the fourth is refused: the window that ends with it is full. -/
theorem sliding_window_full :
    rateAnswers (fun _ => ⟨2, 60⟩) slidingCalls = [true, true, true, false, true] ∧
      (callsInWindow (fun _ => ⟨2, 60⟩) "a" 4
        (allowedCalls (fun _ => ⟨2, 60⟩) slidingCalls)).length = 2 ∧
      2 ≤ (callsInWindow (fun _ => ⟨2, 60⟩) "a" 4
        (allowedCalls (fun _ => ⟨2, 60⟩) (slidingCalls.take 3))).length ∧
      rateAnswers (fun _ => ⟨2, 60⟩) (slidingCalls.filter fun call => decide (call.key = "a")) =
        [true, true, false, true] := by
  have hsorted : slidingCalls.Pairwise (fun call call' => call.now ≤ call'.now) := by
    decide +kernel
  have hanswers : rateAnswers (fun _ => ⟨2, 60⟩) slidingCalls = [true, true, true, false, true] := by
    decide +kernel
  obtain ⟨-, hrefused, halone⟩ := sliding_window (fun _ => ⟨2, 60⟩) slidingCalls hsorted
  refine ⟨hanswers, by decide +kernel, ?_, ?_⟩
  · have hfull := (hrefused (slidingCalls.take 3) ⟨"a", 4⟩ [⟨"a", 62⟩] rfl).mp
      (by rw [hanswers]; rfl)
    exact Int.ofNat_le.mp hfull
  · rw [← halone "a", hanswers]
    rfl

end SelfHealing
